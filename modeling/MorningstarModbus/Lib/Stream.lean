import Mathlib.Data.List.Basic

/-!
# Stream

A stream that arrives in chunks, and reading an exact number of elements off
its front.

* `take_length` — a read returns as many elements as it was asked for;
* `take_append` — it returns the front of the stream and keeps the rest of it;
* `take_of_flatten` — what it returns does not depend on the chunks.
-/

namespace Stream

variable {α : Type*}

/-- The first `n` elements, once enough chunks have arrived.  What is left of
the last chunk stays in front of the stream. -/
def take (n : Nat) : List (List α) → Option (List α × List (List α))
  | [] => if n = 0 then some ([], []) else none
  | chunk :: rest =>
      if n ≤ chunk.length then some (chunk.take n, chunk.drop n :: rest)
      else (take (n - chunk.length) rest).map fun r => (chunk ++ r.1, r.2)

/-- What is taken and what is left are the stream. -/
theorem take_append {n : Nat} {chunks rest : List (List α)} {xs : List α}
    (h : take n chunks = some (xs, rest)) : chunks.flatten = xs ++ rest.flatten := by
  induction chunks generalizing n xs rest with
  | nil =>
      rw [take] at h
      split at h
      · simp_all
      · simp at h
  | cons chunk chunks ih =>
      rw [take] at h
      split at h
      · rw [Option.some.injEq, Prod.mk.injEq] at h
        rw [← h.1, ← h.2]
        simp [← List.append_assoc]
      · rw [Option.map_eq_some_iff] at h
        obtain ⟨⟨ys, rest'⟩, htake, hr⟩ := h
        rw [Prod.mk.injEq] at hr
        have hys := ih htake
        simp [← hr.1, ← hr.2, hys]

/-- As much is taken as was asked for. -/
theorem take_length {n : Nat} {chunks rest : List (List α)} {xs : List α}
    (h : take n chunks = some (xs, rest)) : xs.length = n := by
  induction chunks generalizing n xs rest with
  | nil =>
      rw [take] at h
      split at h
      · simp_all
      · simp at h
  | cons chunk chunks ih =>
      rw [take] at h
      split at h
      · rw [Option.some.injEq, Prod.mk.injEq] at h
        rw [← h.1, List.length_take]
        omega
      · rw [Option.map_eq_some_iff] at h
        obtain ⟨⟨ys, rest'⟩, htake, hr⟩ := h
        have hxs : chunk ++ ys = xs := congrArg Prod.fst hr
        have hys : ys.length = n - chunk.length := ih htake
        rw [← hxs, List.length_append]
        omega

/-- It can be taken where the stream is long enough. -/
theorem take_isSome {n : Nat} {chunks : List (List α)} (h : n ≤ chunks.flatten.length) :
    (take n chunks).isSome := by
  induction chunks generalizing n with
  | nil =>
      have hn : n = 0 := by simpa using h
      simp [take, hn]
  | cons chunk chunks ih =>
      rw [take]
      split
      · simp
      · rw [Option.isSome_map]
        rw [List.flatten_cons, List.length_append] at h
        exact ih (by omega)

/-- The chunks do not matter. -/
theorem take_of_flatten {chunks : List (List α)} {xs ys : List α}
    (h : chunks.flatten = xs ++ ys) :
    ∃ rest, take xs.length chunks = some (xs, rest) ∧ rest.flatten = ys := by
  have hsome : (take xs.length chunks).isSome := take_isSome (by simp [h])
  obtain ⟨⟨zs, rest⟩, htake⟩ := Option.isSome_iff_exists.mp hsome
  have hflat := take_append htake
  rw [h] at hflat
  have heq := List.append_inj hflat (take_length htake).symm
  exact ⟨rest, by rw [htake, heq.1], heq.2.symm⟩

end Stream
