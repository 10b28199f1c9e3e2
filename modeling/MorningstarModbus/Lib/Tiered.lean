import Mathlib.Data.Set.Basic
import Mathlib.Logic.Function.Basic

/-!
# Tiered

A store of two tiers: records are inserted live, copied to the files of
partitions, listed in a catalogue that says which records a partition's file
holds, and discarded once they are listed.

* `Available` — a record is live, or listed in a partition whose file has it;
* `Step` — the operations, each with the condition under which it is safe;
* `Safe` — what they keep, and `Safe.available` — then nothing is ever lost.
-/

namespace Tiered

variable {R P : Type*} [DecidableEq P]

/-- The state of the two tiers; `inserted` remembers every record ever
inserted. -/
@[ext]
structure Store (R P : Type*) where
  inserted : Set R
  live : Set R
  /-- the content of a partition's file -/
  file : P → Set R
  /-- the records the catalogue lists for a partition -/
  listed : P → Set R

namespace Store

/-- A record can be read back. -/
def Available (s : Store R P) (r : R) : Prop := r ∈ s.live ∨ ∃ p, r ∈ s.listed p ∧ r ∈ s.file p

/-- New records. -/
def insert (s : Store R P) (new : Set R) : Store R P :=
  { s with inserted := s.inserted ∪ new, live := s.live ∪ new }

/-- The file of a partition is replaced as a whole. -/
def replace (s : Store R P) (p : P) (rows : Set R) : Store R P :=
  { s with file := Function.update s.file p rows }

/-- The catalogue entry of a partition is written. -/
def list (s : Store R P) (p : P) (rows : Set R) : Store R P :=
  { s with listed := Function.update s.listed p rows }

/-- Live records are deleted. -/
def discard (s : Store R P) (rows : Set R) : Store R P := { s with live := s.live \ rows }

/-- Nothing is lost: what is no longer live is listed, and what is listed is in
its file. -/
structure Safe (s : Store R P) : Prop where
  accounted : ∀ r ∈ s.inserted, r ∈ s.live ∨ ∃ p, r ∈ s.listed p
  kept : ∀ p, ∀ r ∈ s.inserted, r ∈ s.listed p → r ∈ s.file p

/-- The operations that lose nothing. -/
inductive Step : Store R P → Store R P → Prop where
  /-- new records are not listed yet -/
  | insert {s} (new : Set R) : (∀ p, ∀ r ∈ new, r ∉ s.listed p) → Step s (s.insert new)
  /-- a new file has every listed record of the old one -/
  | replace {s} (p : P) (rows : Set R) : (∀ r ∈ s.file p, r ∈ s.listed p → r ∈ rows) →
      Step s (s.replace p rows)
  /-- the catalogue forgets nothing, and lists only what the file has -/
  | list {s} (p : P) (rows : Set R) : s.listed p ⊆ rows →
      (∀ r ∈ s.inserted, r ∈ rows → r ∈ s.file p) → Step s (s.list p rows)
  /-- only listed records are deleted -/
  | discard {s} (rows : Set R) : (∀ r ∈ rows, ∃ p, r ∈ s.listed p) → Step s (s.discard rows)

variable {s s' : Store R P}

omit [DecidableEq P] in
/-- Under `Safe` every record ever inserted can be read back. -/
theorem Safe.available (h : s.Safe) {r : R} (hr : r ∈ s.inserted) : s.Available r := by
  rcases h.accounted r hr with hlive | ⟨p, hp⟩
  · exact .inl hlive
  · exact .inr ⟨p, hp, h.kept p r hr hp⟩

/-- **No operation loses a record.** -/
theorem Safe.step (h : s.Safe) (hstep : Step s s') : s'.Safe := by
  cases hstep with
  | insert new hnew =>
      constructor
      · rintro r (hr | hr)
        · rcases h.accounted r hr with hlive | hlisted
          · exact .inl (.inl hlive)
          · exact .inr hlisted
        · exact .inl (.inr hr)
      · rintro p r (hr | hr) hp
        · exact h.kept p r hr hp
        · exact absurd hp (hnew p r hr)
  | replace p rows hrows =>
      refine ⟨h.accounted, fun q r hr hq => ?_⟩
      have hold := h.kept q r hr hq
      by_cases hqp : q = p
      · subst hqp
        simpa [replace] using hrows r hold hq
      · simpa [replace, hqp] using hold
  | list p rows hgrow hfile =>
      constructor
      · intro r hr
        rcases h.accounted r hr with hlive | ⟨q, hq⟩
        · exact .inl hlive
        · right
          by_cases hqp : q = p
          · subst hqp
            exact ⟨q, by simpa [list] using hgrow hq⟩
          · exact ⟨q, by simpa [list, hqp] using hq⟩
      · intro q r hr hq
        by_cases hqp : q = p
        · subst hqp
          have hmem : r ∈ rows := by simpa [list] using hq
          exact hfile r hr hmem
        · have hmem : r ∈ s.listed q := by simpa [list, hqp] using hq
          exact h.kept q r hr hmem
  | discard rows hrows =>
      refine ⟨fun r hr => ?_, h.kept⟩
      rcases h.accounted r hr with hlive | hlisted
      · by_cases hmem : r ∈ rows
        · exact .inr (hrows r hmem)
        · exact .inl ⟨hlive, hmem⟩
      · exact .inr hlisted

end Store

end Tiered
