import MorningstarModbus.Runtime.Watcher

/-!
# MorningstarModbus.Runtime.Backoff

The reconnect backoff over a long outage: what successive `mark_failure` calls
on one lifecycle schedule, under settings the configuration accepts.

* `failed_spec` — what one call does: with an initial backoff that is a float the
  power has to be one too, and the delay has to be one to be added to the clock;
* `backoff_sound_iff` — the schedule is total, bounded and nondecreasing as
  long as the last call of it gets by with floats.
-/

namespace MorningstarModbus

/-- The checks of the settings on the retry policy. -/
def WatchSettings.validate (s : WatchSettings) : Except String Unit :=
  if s.failureThreshold < 1 then .error "failure_threshold must be positive"
  else if s.retryBackoffInitialSeconds.value.le (.finite 0) then
    .error "retry_backoff_initial_seconds must be positive"
  else if s.retryBackoffMaxSeconds.value.lt s.retryBackoffInitialSeconds.value then
    .error "retry_backoff_max_seconds must be >= retry_backoff_initial_seconds"
  else .ok ()

/-- What the validation leaves of the two settings, as Python compares them. -/
theorem WatchSettings.validate_bounds {s : WatchSettings} (h : s.validate = .ok ()) :
    s.retryBackoffInitialSeconds.value.le (.finite 0) = false ∧
      s.retryBackoffMaxSeconds.value.lt s.retryBackoffInitialSeconds.value = false := by
  unfold validate at h
  split_ifs at h with hthreshold hpos hle
  exact ⟨Bool.eq_false_iff.mpr hpos, Bool.eq_false_iff.mpr hle⟩

/-- What a call of `mark_failure` reads of the clocks. -/
structure FailureReading where
  utcnow : Nat
  monotonic : ℚ

namespace DeviceLifecycle

/-- `mark_failure` as the watcher calls it. -/
def failed (settings : WatchSettings) (l : DeviceLifecycle) (reading : FailureReading) :
    DeviceLifecycle × Except LifecycleError Unit :=
  l.markFailure settings.failureThreshold settings.retryBackoffInitialSeconds
    settings.retryBackoffMaxSeconds reading.utcnow reading.monotonic

/-- The outcomes of calls in a row.  What a call assigned before it raised stays. -/
def failures (settings : WatchSettings) :
    DeviceLifecycle → List FailureReading → List (DeviceLifecycle × Except LifecycleError Unit)
  | _, [] => []
  | l, reading :: readings =>
      let outcome := l.failed settings reading
      outcome :: failures settings outcome.1 readings

end DeviceLifecycle

/-- What the schedule of an outage is meant to be. -/
structure BackoffSound (settings : WatchSettings)
    (outcomes : List (DeviceLifecycle × Except LifecycleError Unit)) : Prop where
  total : ∀ o ∈ outcomes, o.2 = .ok ()
  bounded : ∀ o ∈ outcomes, settings.retryBackoffInitialSeconds.value.le o.1.retryInSeconds ∧
    o.1.retryInSeconds.le settings.retryBackoffMaxSeconds.value
  nondecreasing : outcomes.Pairwise fun o p => o.1.retryInSeconds.le p.1.retryInSeconds

/-! ## the delay -/

namespace WatchSettings

variable (s : WatchSettings)

/-- The settings are numbers.  A `nan` passes the checks. -/
def Numbers : Prop :=
  s.retryBackoffInitialSeconds.value ≠ .nan ∧ s.retryBackoffMaxSeconds.value ≠ .nan

/-- The initial backoff, doubled after each of so many earlier failures in a row. -/
def doubled (earlier : Nat) : PyFloat :=
  match s.retryBackoffInitialSeconds with
  | .int n => .finite (n * 2 ^ earlier)
  | .float x _ => (x.mul (.finite (2 ^ earlier))).ranged

/-- The delay after so many earlier failures in a row. -/
def delay (earlier : Nat) : PyFloat :=
  if (s.doubled earlier).lt s.retryBackoffMaxSeconds.value then s.doubled earlier
  else s.retryBackoffMaxSeconds.value

/-- The delay may become an integer that is no float. -/
def Uncapped : Prop :=
  match s.retryBackoffMaxSeconds with
  | .int n => PyFloat.bound ≤ n
  | .float x _ => x = .inf false ∧ s.retryBackoffInitialSeconds.isInt = true

/-- A call after so many earlier failures in a row gets by with floats: a float is only multiplied
by a power that is one, and where the delay may become too large an integer, it is not yet. -/
def WithinFloats (earlier : Nat) : Prop :=
  (s.retryBackoffInitialSeconds.isInt = true ∨ earlier < 1024) ∧
    (s.Uncapped → s.retryBackoffInitialSeconds.value.rat * 2 ^ earlier < PyFloat.bound)

variable {s}

/-- The checks say that the initial backoff is positive and at most the maximum. -/
theorem initial_cases (hvalid : s.validate = .ok ()) (hnumbers : s.Numbers) :
    (∃ n, 0 < n ∧ s.retryBackoffInitialSeconds = .int n) ∨
      (∃ x h, 0 < x ∧ s.retryBackoffInitialSeconds = .float (.finite x) h) ∨
      ∃ h, s.retryBackoffInitialSeconds = .float (.inf false) h := by
  have hpos := (validate_bounds hvalid).1
  have hnan := hnumbers.1
  cases hinitial : s.retryBackoffInitialSeconds with
  | int n =>
      rw [hinitial, PyNumber.value, PyFloat.ofInt, PyFloat.le, decide_eq_false_iff_not, not_le,
        Int.cast_pos] at hpos
      exact .inl ⟨n, hpos, rfl⟩
  | float x h =>
      rw [hinitial] at hpos hnan
      cases x with
      | finite x =>
          rw [PyNumber.value, PyFloat.le, decide_eq_false_iff_not, not_le] at hpos
          exact .inr (.inl ⟨x, h, hpos, rfl⟩)
      | inf negative =>
          cases negative with
          | false => exact .inr (.inr ⟨h, rfl⟩)
          | true => cases hpos
      | nan => exact absurd rfl hnan

/-- With numbers, the first backoff is at most the greatest. -/
theorem initial_le_max (hvalid : s.validate = .ok ()) (hnumbers : s.Numbers) :
    s.retryBackoffInitialSeconds.value.le s.retryBackoffMaxSeconds.value = true :=
  (PyFloat.lt_eq_false_iff hnumbers.2 hnumbers.1).mp (validate_bounds hvalid).2

/-! ### the doubled backoff -/

/-- Integers are doubled exactly. -/
theorem doubled_int {n : Int} (h : s.retryBackoffInitialSeconds = .int n) (earlier : Nat) :
    s.doubled earlier = .finite (n * 2 ^ earlier) := by
  rw [doubled, h]

/-- A float doubles up to the end of its range. -/
theorem doubled_finite {x : ℚ} {hx : (PyFloat.finite x).InRange}
    (h : s.retryBackoffInitialSeconds = .float (.finite x) hx) (hpos : 0 < x) (earlier : Nat) :
    s.doubled earlier =
      if x * 2 ^ earlier < PyFloat.bound then .finite (x * 2 ^ earlier) else .inf false := by
  have hpositive : 0 < x * 2 ^ earlier := mul_pos hpos (pow_pos two_pos earlier)
  have hlow : -PyFloat.bound < x * 2 ^ earlier :=
    (neg_lt_zero.mpr PyFloat.bound_pos).trans hpositive
  rw [doubled, h]
  simp [PyFloat.mul, PyFloat.ranged, PyFloat.InRange, hlow, not_lt.mpr hpositive.le]

/-- Infinity stays. -/
theorem doubled_inf {hx : (PyFloat.inf false).InRange}
    (h : s.retryBackoffInitialSeconds = .float (.inf false) hx) (earlier : Nat) :
    s.doubled earlier = .inf false := by
  simp [doubled, h, PyFloat.mul, PyFloat.ranged]

/-- No doubling makes a NaN. -/
theorem doubled_ne_nan (hvalid : s.validate = .ok ()) (hnumbers : s.Numbers) (earlier : Nat) :
    s.doubled earlier ≠ .nan := by
  obtain ⟨n, -, h⟩ | ⟨x, hx, hpos, h⟩ | ⟨hx, h⟩ := initial_cases hvalid hnumbers
  · simp [doubled_int h]
  · rw [doubled_finite h hpos]
    split <;> simp
  · simp [doubled_inf h]

/-- The first failure doubles nothing. -/
theorem doubled_zero (hvalid : s.validate = .ok ()) (hnumbers : s.Numbers) :
    s.doubled 0 = s.retryBackoffInitialSeconds.value := by
  obtain ⟨n, -, h⟩ | ⟨x, hx, hpos, h⟩ | ⟨hx, h⟩ := initial_cases hvalid hnumbers
  · simp [doubled_int h, h, PyNumber.value, PyFloat.ofInt]
  · simp [doubled_finite h hpos, h, PyNumber.value, hx.2]
  · simp [doubled_inf h, h, PyNumber.value]

/-- More failures double at least as much. -/
theorem doubled_mono (hvalid : s.validate = .ok ()) (hnumbers : s.Numbers) {m n : Nat}
    (hmn : m ≤ n) : (s.doubled m).le (s.doubled n) = true := by
  have hpow : (2 : ℚ) ^ m ≤ 2 ^ n := pow_le_pow_right₀ one_le_two hmn
  obtain ⟨a, ha, h⟩ | ⟨x, hx, hpos, h⟩ | ⟨hx, h⟩ := initial_cases hvalid hnumbers
  · simp only [doubled_int h, PyFloat.le, decide_eq_true_eq]
    exact mul_le_mul_of_nonneg_left hpow (Int.cast_nonneg ha.le)
  · have hle : x * 2 ^ m ≤ x * 2 ^ n := mul_le_mul_of_nonneg_left hpow hpos.le
    rw [doubled_finite h hpos, doubled_finite h hpos]
    by_cases hn : x * 2 ^ n < PyFloat.bound
    · rw [if_pos hn, if_pos (hle.trans_lt hn), PyFloat.le]
      exact decide_eq_true hle
    · rw [if_neg hn]
      split <;> rfl
  · rw [doubled_inf h, doubled_inf h]
    rfl

/-! ### the delay -/

/-- A delay is the doubled one or the greatest. -/
theorem delay_eq (earlier : Nat) :
    s.delay earlier = s.doubled earlier ∨ s.delay earlier = s.retryBackoffMaxSeconds.value := by
  rw [delay]
  split
  · exact .inl rfl
  · exact .inr rfl

/-- It is at most the greatest. -/
theorem delay_le_max (hnumbers : s.Numbers) (earlier : Nat) :
    (s.delay earlier).le s.retryBackoffMaxSeconds.value = true := by
  rw [delay]
  split
  case isTrue h => exact PyFloat.le_of_lt h
  case isFalse h => exact PyFloat.le_refl hnumbers.2

/-- And at most the doubled one. -/
theorem delay_le_doubled (hvalid : s.validate = .ok ()) (hnumbers : s.Numbers) (earlier : Nat) :
    (s.delay earlier).le (s.doubled earlier) = true := by
  have hnan := doubled_ne_nan hvalid hnumbers earlier
  rw [delay]
  split
  case isTrue h => exact PyFloat.le_refl hnan
  case isFalse h =>
    exact (PyFloat.lt_eq_false_iff hnan hnumbers.2).mp (Bool.eq_false_iff.mpr h)

/-- It is at least the first. -/
theorem initial_le_delay (hvalid : s.validate = .ok ()) (hnumbers : s.Numbers) (earlier : Nat) :
    s.retryBackoffInitialSeconds.value.le (s.delay earlier) = true := by
  obtain h | h := delay_eq (s := s) earlier
  · rw [h, ← doubled_zero hvalid hnumbers]
    exact doubled_mono hvalid hnumbers (Nat.zero_le earlier)
  · rw [h]
    exact initial_le_max hvalid hnumbers

/-- And it does not fall. -/
theorem delay_mono (hvalid : s.validate = .ok ()) (hnumbers : s.Numbers) {m n : Nat}
    (hmn : m ≤ n) : (s.delay m).le (s.delay n) = true := by
  obtain h | h := delay_eq (s := s) n
  · rw [h]
    exact PyFloat.le_trans (delay_le_doubled hvalid hnumbers m) (doubled_mono hvalid hnumbers hmn)
  · rw [h]
    exact delay_le_max hnumbers m

/-- Earlier calls get by with floats too. -/
theorem WithinFloats.of_le (hvalid : s.validate = .ok ()) (hnumbers : s.Numbers) {m n : Nat}
    (hmn : m ≤ n) (h : s.WithinFloats n) : s.WithinFloats m := by
  have hnonneg : 0 ≤ s.retryBackoffInitialSeconds.value.rat := by
    obtain ⟨a, ha, h⟩ | ⟨x, hx, hpos, h⟩ | ⟨hx, h⟩ := initial_cases hvalid hnumbers
    · rw [h]
      exact Int.cast_nonneg ha.le
    · rw [h]
      exact hpos.le
    · rw [h]
      exact le_refl _
  refine ⟨h.1.imp_right hmn.trans_lt, fun huncapped => ?_⟩
  exact (mul_le_mul_of_nonneg_left (pow_le_pow_right₀ one_le_two hmn) hnonneg).trans_lt
    (h.2 huncapped)

end WatchSettings

/-! ## one call -/

section Call

variable {s : WatchSettings}

/-- The backoff of a call, where the power of two can be used. -/
theorem mulInt_spec (earlier : Nat) :
    (s.retryBackoffInitialSeconds.isInt = true ∨ earlier < 1024 →
      ∃ backoff, s.retryBackoffInitialSeconds.mulInt (2 ^ earlier) = some backoff ∧
        backoff.value = s.doubled earlier) ∧
    (¬ (s.retryBackoffInitialSeconds.isInt = true ∨ earlier < 1024) →
      s.retryBackoffInitialSeconds.mulInt (2 ^ earlier) = none) := by
  cases h : s.retryBackoffInitialSeconds with
  | int n =>
      refine ⟨fun _ => ⟨_, rfl, ?_⟩, fun hnot => absurd (.inl rfl) hnot⟩
      rw [s.doubled_int h, PyNumber.value, PyFloat.ofInt]
      simp
  | float x hx =>
      rw [PyNumber.mulInt, PyNumber.toFloat_pow]
      constructor
      · intro hfits
        rw [if_pos (hfits.resolve_left (by simp [PyNumber.isInt]))]
        exact ⟨_, rfl, by rw [WatchSettings.doubled, h]; rfl⟩
      · intro hnot
        rw [if_neg fun hlt => hnot (.inr hlt)]
        rfl

/-- An integer can be added to a float if it is none too large for one. -/
theorem addTo_int_isSome {n : Int} (hpos : 0 < n) (x : PyFloat) :
    ((PyNumber.int n).addTo x).isSome = true ↔ (n : ℚ) < PyFloat.bound := by
  rw [PyNumber.addTo, Option.isSome_map, PyNumber.toFloat_isSome hpos]

/-- An initial backoff that is an integer: its multiples are capped as they are. -/
theorem addTo_min_int {n : Int} (hn : 0 < n) (h : s.retryBackoffInitialSeconds = .int n)
    (hmax : (PyFloat.ofInt n).le s.retryBackoffMaxSeconds.value = true) (earlier : Nat)
    (monotonic : ℚ) :
    ((s.retryBackoffMaxSeconds.min (.int (n * 2 ^ earlier))).addTo (.finite monotonic)).isSome =
        true ↔ (s.Uncapped → (n : ℚ) * 2 ^ earlier < PyFloat.bound) := by
  have hpos : 0 < n * 2 ^ earlier := by positivity
  have hcast : ((n * 2 ^ earlier : Int) : ℚ) = n * 2 ^ earlier := by push_cast; rfl
  cases hM : s.retryBackoffMaxSeconds with
  | int b =>
      have hb : 0 < b := by
        rw [hM, PyNumber.value, PyFloat.ofInt, PyFloat.ofInt, PyFloat.le, decide_eq_true_eq,
          Int.cast_le] at hmax
        omega
      rw [WatchSettings.Uncapped, hM, PyNumber.min, PyNumber.value, PyNumber.value, PyFloat.ofInt,
        PyFloat.ofInt, PyFloat.lt, hcast]
      by_cases hlt : (n : ℚ) * 2 ^ earlier < b
      · rw [decide_eq_true hlt, if_pos rfl, addTo_int_isSome hpos, hcast]
        refine ⟨fun h _ => h, fun h => ?_⟩
        by_contra hlarge
        exact hlarge (h ((not_lt.mp hlarge).trans hlt.le))
      · rw [decide_eq_false hlt, if_neg Bool.false_ne_true, addTo_int_isSome hb]
        refine ⟨fun h hle => absurd h (not_lt.mpr hle), fun h => ?_⟩
        by_contra hlarge
        exact hlt ((h (not_lt.mp hlarge)).trans_le (not_lt.mp hlarge))
  | float x hx =>
      rw [WatchSettings.Uncapped, hM, PyNumber.min, PyNumber.value, PyNumber.value, PyFloat.ofInt,
        hcast, h]
      cases x with
      | finite y =>
          rw [PyFloat.lt]
          refine iff_of_true ?_ fun hinf => by cases hinf.1
          by_cases hlt : (n : ℚ) * 2 ^ earlier < y
          · rw [decide_eq_true hlt, if_pos rfl, addTo_int_isSome hpos, hcast]
            exact hlt.trans hx.2
          · rw [decide_eq_false hlt, if_neg Bool.false_ne_true]
            rfl
      | inf negative =>
          cases negative with
          | false =>
              rw [PyFloat.lt, if_pos (by rfl), addTo_int_isSome hpos, hcast]
              exact ⟨fun h _ => h, fun h => h ⟨rfl, rfl⟩⟩
          | true => simp [hM, PyNumber.value, PyFloat.ofInt, PyFloat.le] at hmax
      | nan => simp [hM, PyNumber.value, PyFloat.ofInt, PyFloat.le] at hmax

/-- An initial backoff that is a float: only a maximum that is an integer can be too large. -/
theorem addTo_min_float (hvalid : s.validate = .ok ()) (hnumbers : s.Numbers) {x : PyFloat}
    {hx : x.InRange} (hinitial : s.retryBackoffInitialSeconds = .float x hx) {earlier : Nat}
    {y : PyFloat} (hy : y.InRange) (hvalue : y = s.doubled earlier) (monotonic : ℚ) :
    ((s.retryBackoffMaxSeconds.min (.float y hy)).addTo (.finite monotonic)).isSome = true ↔
      (s.Uncapped → x.rat * 2 ^ earlier < PyFloat.bound) := by
  have hle := WatchSettings.initial_le_max hvalid hnumbers
  cases hM : s.retryBackoffMaxSeconds with
  | float m hm =>
      have hsome : (((PyNumber.float m hm).min (.float y hy)).addTo (.finite monotonic)).isSome =
          true := by
        rw [PyNumber.min]
        split <;> rfl
      refine iff_of_true hsome fun h => ?_
      rw [WatchSettings.Uncapped, hM, hinitial] at h
      cases h.2
  | int b =>
      obtain ⟨n, -, h⟩ | ⟨z, hz, hpos, h⟩ | ⟨hz, h⟩ := WatchSettings.initial_cases hvalid hnumbers
      · rw [hinitial] at h
        cases h
      · have hxz : x = .finite z := by
          rw [hinitial] at h
          exact (PyNumber.float.inj h)
        have hb : 0 < b := by
          rw [h, hM, PyNumber.value, PyNumber.value, PyFloat.ofInt, PyFloat.le,
            decide_eq_true_eq] at hle
          exact_mod_cast hpos.trans_le hle
        rw [WatchSettings.doubled_finite h hpos] at hvalue
        rw [WatchSettings.Uncapped, hM, hxz, PyFloat.rat, PyNumber.min, PyNumber.value,
          PyNumber.value, PyFloat.ofInt]
        by_cases hlarge : z * 2 ^ earlier < PyFloat.bound
        · rw [if_pos hlarge] at hvalue
          subst hvalue
          refine iff_of_true ?_ fun _ => hlarge
          by_cases hlt : z * 2 ^ earlier < b
          · rw [PyFloat.lt, decide_eq_true hlt, if_pos rfl]
            rfl
          · rw [PyFloat.lt, decide_eq_false hlt, if_neg Bool.false_ne_true, addTo_int_isSome hb]
            exact (not_lt.mp hlt).trans_lt hlarge
        · rw [if_neg hlarge] at hvalue
          subst hvalue
          rw [PyFloat.lt, if_neg Bool.false_ne_true, addTo_int_isSome hb]
          exact ⟨fun h hle => absurd h (not_lt.mpr hle),
            fun h => not_le.mp fun hle => hlarge (h hle)⟩
      · rw [h, hM] at hle
        cases hle

/-- The delay of a call can be added to the clock where it is a float, or an integer that is
one. -/
theorem addTo_min_isSome (hvalid : s.validate = .ok ()) (hnumbers : s.Numbers) {earlier : Nat}
    {backoff : PyNumber} (hbackoff : s.retryBackoffInitialSeconds.mulInt (2 ^ earlier) = some backoff)
    (hvalue : backoff.value = s.doubled earlier) (monotonic : ℚ) :
    ((s.retryBackoffMaxSeconds.min backoff).addTo (.finite monotonic)).isSome = true ↔
      (s.Uncapped → s.retryBackoffInitialSeconds.value.rat * 2 ^ earlier < PyFloat.bound) := by
  cases hinitial : s.retryBackoffInitialSeconds with
  | int n =>
      obtain ⟨m, hm, h⟩ | ⟨x, hx, -, h⟩ | ⟨hx, h⟩ := WatchSettings.initial_cases hvalid hnumbers
      · rw [hinitial, PyNumber.int.injEq] at h
        rw [hinitial, PyNumber.mulInt, Option.some.injEq] at hbackoff
        have hmax := WatchSettings.initial_le_max hvalid hnumbers
        rw [hinitial] at hmax
        rw [← hbackoff]
        exact addTo_min_int (h ▸ hm) hinitial hmax earlier monotonic
      · rw [hinitial] at h
        cases h
      · rw [hinitial] at h
        cases h
  | float x hx =>
      cases backoff with
      | int m =>
          rw [hinitial, PyNumber.mulInt] at hbackoff
          obtain ⟨y, -, hy⟩ := Option.map_eq_some_iff.mp hbackoff
          cases hy
      | float y hy => exact addTo_min_float hvalid hnumbers hinitial hy hvalue monotonic

/-- What a call does after so many earlier failures. -/
theorem failed_spec (hvalid : s.validate = .ok ()) (hnumbers : s.Numbers) (l : DeviceLifecycle)
    (reading : FailureReading) :
    (s.WithinFloats l.consecutiveFailures → (l.failed s reading).2 = .ok () ∧
      (l.failed s reading).1.retryInSeconds = s.delay l.consecutiveFailures) ∧
    (¬ s.WithinFloats l.consecutiveFailures → (l.failed s reading).2 = .error .overflow) := by
  have hmul := mulInt_spec (s := s) l.consecutiveFailures
  unfold DeviceLifecycle.failed DeviceLifecycle.markFailure
  simp only [Nat.add_sub_cancel]
  by_cases hfits : s.retryBackoffInitialSeconds.isInt = true ∨ l.consecutiveFailures < 1024
  · obtain ⟨backoff, hbackoff, hvalue⟩ := hmul.1 hfits
    have hadd := addTo_min_isSome hvalid hnumbers hbackoff hvalue reading.monotonic
    have hdelay : (s.retryBackoffMaxSeconds.min backoff).value = s.delay l.consecutiveFailures := by
      rw [PyNumber.min, WatchSettings.delay, hvalue]
      split
      · exact hvalue
      · rfl
    simp only [hbackoff]
    rw [WatchSettings.WithinFloats, and_iff_right hfits, ← hadd]
    cases hnext : (s.retryBackoffMaxSeconds.min backoff).addTo (.finite reading.monotonic) with
    | none => simp
    | some next => simp [hdelay]
  · rw [WatchSettings.WithinFloats]
    simp only [hmul.2 hfits, hfits, false_and, not_false_eq_true, false_implies, true_and,
      implies_true]

/-- A failure is counted, even if scheduling the retry raises. -/
@[simp] theorem failed_consecutive (l : DeviceLifecycle) (reading : FailureReading) :
    (l.failed s reading).1.consecutiveFailures = l.consecutiveFailures + 1 := by
  unfold DeviceLifecycle.failed DeviceLifecycle.markFailure
  dsimp only
  split
  · rfl
  · split <;> rfl

end Call

/-! ## an outage -/

section Outage

variable {s : WatchSettings} {readings : List FailureReading} (hvalid : s.validate = .ok ())
  (hnumbers : s.Numbers)

include hvalid hnumbers

/-- Within floats each call schedules the delay of its turn. -/
theorem failures_spec {l : DeviceLifecycle}
    (h : ∀ n < readings.length, s.WithinFloats (l.consecutiveFailures + n))
    {o : DeviceLifecycle × Except LifecycleError Unit} (ho : o ∈ l.failures s readings) :
    o.2 = .ok () ∧ ∃ n, l.consecutiveFailures ≤ n ∧ o.1.retryInSeconds = s.delay n := by
  induction readings generalizing l with
  | nil => simp [DeviceLifecycle.failures] at ho
  | cons reading readings ih =>
      obtain ⟨hok, hdelay⟩ := (failed_spec hvalid hnumbers l reading).1 (h 0 (by simp))
      rw [DeviceLifecycle.failures, List.mem_cons] at ho
      cases ho with
      | inl heq =>
          rw [heq]
          exact ⟨hok, l.consecutiveFailures, le_refl _, hdelay⟩
      | inr hmem =>
          have hnext : ∀ n < readings.length,
              s.WithinFloats ((l.failed s reading).1.consecutiveFailures + n) := fun n hn => by
            rw [failed_consecutive, Nat.add_assoc, Nat.add_comm 1]
            exact h (n + 1) (Nat.succ_lt_succ hn)
          obtain ⟨hok', n, hn, hdelay'⟩ := ih hnext hmem
          rw [failed_consecutive] at hn
          exact ⟨hok', n, by omega, hdelay'⟩

/-- Delays do not fall from failure to failure. -/
theorem failures_sorted {l : DeviceLifecycle}
    (h : ∀ n < readings.length, s.WithinFloats (l.consecutiveFailures + n)) :
    (l.failures s readings).Pairwise fun o p =>
      o.1.retryInSeconds.le p.1.retryInSeconds = true := by
  induction readings generalizing l with
  | nil => exact List.Pairwise.nil
  | cons reading readings ih =>
      have hnext : ∀ n < readings.length,
          s.WithinFloats ((l.failed s reading).1.consecutiveFailures + n) := fun n hn => by
        rw [failed_consecutive, Nat.add_assoc, Nat.add_comm 1]
        exact h (n + 1) (Nat.succ_lt_succ hn)
      obtain ⟨-, hdelay⟩ := (failed_spec hvalid hnumbers l reading).1 (h 0 (by simp))
      rw [DeviceLifecycle.failures, List.pairwise_cons]
      refine ⟨fun o ho => ?_, ih hnext⟩
      obtain ⟨-, n, hn, hdelay'⟩ := failures_spec hvalid hnumbers hnext ho
      rw [failed_consecutive] at hn
      rw [hdelay, hdelay']
      exact WatchSettings.delay_mono hvalid hnumbers (by omega)

/-- Beyond them some call raises. -/
theorem exists_overflow {l : DeviceLifecycle} {n : Nat} (hn : n < readings.length)
    (h : ¬ s.WithinFloats (l.consecutiveFailures + n)) :
    ∃ o ∈ l.failures s readings, o.2 = .error .overflow := by
  induction readings generalizing l n with
  | nil => cases hn
  | cons reading readings ih =>
      rw [DeviceLifecycle.failures]
      cases n with
      | zero => exact ⟨_, List.mem_cons_self, (failed_spec hvalid hnumbers l reading).2 h⟩
      | succ n =>
          have hnext : ¬ s.WithinFloats ((l.failed s reading).1.consecutiveFailures + n) := by
            rwa [failed_consecutive, Nat.add_assoc, Nat.add_comm 1]
          obtain ⟨o, ho, herr⟩ := ih (Nat.lt_of_succ_lt_succ hn) hnext
          exact ⟨o, List.mem_cons_of_mem _ ho, herr⟩

/-- A delay too large for a float raises, so the series is not sound. -/
theorem not_sound_of_overflow {l : DeviceLifecycle} {n : Nat} (hn : n < readings.length)
    (h : ¬ s.WithinFloats (l.consecutiveFailures + n)) :
    ¬ BackoffSound s (l.failures s readings) := by
  intro hsound
  obtain ⟨o, ho, herr⟩ := exists_overflow hvalid hnumbers hn h
  rw [hsound.total o ho] at herr
  cases herr

end Outage

/-- Bounds are numbers. -/
theorem BackoffSound.numbers {s : WatchSettings}
    {outcomes : List (DeviceLifecycle × Except LifecycleError Unit)}
    (h : BackoffSound s outcomes) (hne : outcomes ≠ []) : s.Numbers := by
  obtain ⟨o, ho⟩ := List.exists_mem_of_ne_nil _ hne
  obtain ⟨hlow, hhigh⟩ := h.bounded o ho
  constructor
  · intro hnan
    rw [hnan] at hlow
    cases hlow
  · intro hnan
    rw [hnan] at hhigh
    cases hretry : o.1.retryInSeconds <;> simp [hretry, PyFloat.le] at hhigh

/-- The backoff of an outage is total, bounded and nondecreasing exactly as long as its settings
are numbers and its last call gets by with floats. -/
theorem backoff_sound_iff (settings : WatchSettings) (l : DeviceLifecycle)
    (readings : List FailureReading) (hvalid : settings.validate = .ok ())
    (hne : readings ≠ []) :
    BackoffSound settings (l.failures settings readings) ↔
      settings.Numbers ∧ settings.WithinFloats (l.consecutiveFailures + readings.length - 1) := by
  have hpos : 0 < readings.length := List.length_pos_of_ne_nil hne
  constructor
  · intro hsound
    have hfailures : l.failures settings readings ≠ [] := by
      cases readings with
      | nil => exact absurd rfl hne
      | cons reading readings => simp [DeviceLifecycle.failures]
    have hnumbers := hsound.numbers hfailures
    refine ⟨hnumbers, ?_⟩
    by_contra hlong
    rw [show l.consecutiveFailures + readings.length - 1 =
      l.consecutiveFailures + (readings.length - 1) by omega] at hlong
    exact not_sound_of_overflow hvalid hnumbers (by omega) hlong hsound
  · intro h
    obtain ⟨hnumbers, hlast⟩ := h
    have hall : ∀ n < readings.length, settings.WithinFloats (l.consecutiveFailures + n) :=
      fun n hn => hlast.of_le hvalid hnumbers (by omega)
    refine ⟨fun o ho => (failures_spec hvalid hnumbers hall ho).1, fun o ho => ?_,
      failures_sorted hvalid hnumbers hall⟩
    obtain ⟨-, n, -, hdelay⟩ := failures_spec hvalid hnumbers hall ho
    rw [hdelay]
    exact ⟨WatchSettings.initial_le_delay hvalid hnumbers n, WatchSettings.delay_le_max hnumbers n⟩

theorem inRange_two : (PyFloat.finite 2).InRange := by decide +kernel

theorem inRange_sixty : (PyFloat.finite 60).InRange := by decide +kernel

/-- The settings' defaults. -/
def WatchSettings.defaults : WatchSettings where
  failureThreshold := 3
  retryBackoffInitialSeconds := .float (.finite 2) inRange_two
  retryBackoffMaxSeconds := .float (.finite 60) inRange_sixty

/-- Three failures of a new lifecycle. -/
theorem backoff_sound_three :
    BackoffSound .defaults (DeviceLifecycle.failures .defaults {} [⟨0, 0⟩, ⟨0, 2⟩, ⟨0, 6⟩]) :=
  (backoff_sound_iff .defaults {} [⟨0, 0⟩, ⟨0, 2⟩, ⟨0, 6⟩] (by decide +kernel) (by simp)).mpr
    ⟨⟨by decide, by decide⟩, .inr (by decide),
      fun h => by simp [WatchSettings.Uncapped, WatchSettings.defaults] at h⟩

/-- The failure number 1025 of an outage raises. -/
theorem backoff_not_sound_long : ¬ BackoffSound .defaults
    (DeviceLifecycle.failures .defaults {} (List.replicate 1025 ⟨0, 0⟩)) := by
  refine not_sound_of_overflow (n := 1024) (by decide +kernel) ⟨by decide, by decide⟩
    (by rw [List.length_replicate]; decide) fun h => ?_
  exact absurd h.1 (by decide)

/-- The same delays as integers. -/
def WatchSettings.integers : WatchSettings where
  failureThreshold := 3
  retryBackoffInitialSeconds := 2
  retryBackoffMaxSeconds := 60

/-- With settings that are integers an outage may be as long. -/
example (l : DeviceLifecycle) (reading : FailureReading) :
    (l.failed .integers reading).2 = .ok () := by
  refine ((failed_spec (by decide +kernel) ⟨by decide, by decide⟩ l reading).1 ⟨.inl rfl, ?_⟩).1
  intro h
  have hsixty : PyFloat.bound ≤ ((60 : Int) : ℚ) := h
  exact absurd (by exact_mod_cast hsixty) (not_le.mpr inRange_sixty.2)

end MorningstarModbus
