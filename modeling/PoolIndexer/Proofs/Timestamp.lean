import PoolIndexer.Timestamp

/-! Times that are read fit a signed 64-bit word: a year has four digits. The buckets of an interval
divide the times that fit, and those of a multiple of it are made of whole ones. -/
namespace PoolIndexer.Timestamp

theorem value_two (a b : Char) (digitA : a.isDigit) (digitB : b.isDigit) :
    Numeral.value [a, b] ≤ 99 := by
  have low : '0'.toNat = 48 := by decide
  simp only [Char.isDigit, Bool.and_eq_true, decide_eq_true_eq] at digitA digitB
  have upperA : a.toNat ≤ 57 := UInt32.le_iff_toNat_le.mp digitA.2
  have upperB : b.toNat ≤ 57 := UInt32.le_iff_toNat_le.mp digitB.2
  simp only [Numeral.value, List.foldl_cons, List.foldl_nil, low]
  omega

theorem two?_le {s r : List Char} {n : Nat} (read : two? s = some (n, r)) : n ≤ 99 := by
  unfold two? at read
  split at read
  · rename_i a b rest
    split at read
    · rename_i digits
      cases read
      obtain ⟨digitA, digitB⟩ := Bool.and_eq_true_iff.mp digits
      exact value_two a b digitA digitB
    · cases read
  · cases read

theorem four?_le {s r : List Char} {n : Nat} (read : four? s = some (n, r)) : n ≤ 9999 := by
  obtain ⟨⟨high, between⟩, first, read⟩ := Option.bind_eq_some_iff.mp read
  obtain ⟨⟨low, rest⟩, second, read⟩ := Option.bind_eq_some_iff.mp read
  cases read
  have boundHigh := two?_le first
  have boundLow := two?_le second
  omega

theorem offset?_ge {s : List Char} {offset : Int} (read : offset? s = some offset) :
    -86400 ≤ offset := by
  unfold offset? at read
  split at read
  · cases read
    decide
  · cases read
    decide
  · extract_lets offsetOf at read
    have bound : ∀ factor : Int, factor = 1 ∨ factor = -1 → offsetOf factor = some offset →
        -86400 ≤ offset := by
      intro factor unit read
      obtain ⟨⟨hours, r⟩, _, read⟩ := Option.bind_eq_some_iff.mp read
      obtain ⟨r, _, read⟩ := Option.bind_eq_some_iff.mp read
      obtain ⟨⟨minutes, r⟩, _, read⟩ := Option.bind_eq_some_iff.mp read
      dsimp only at read
      split at read
      · rename_i within
        cases read
        rcases unit with rfl | rfl <;> omega
      · cases read
    split at read
    · exact bound 1 (.inl rfl) read
    · split at read
      · exact bound (-1) (.inr rfl) read
      · cases read
  · cases read

theorem daysInMonth_le (year month : Nat) : daysInMonth year month ≤ 31 := by
  unfold daysInMonth
  split
  · split <;> decide
  · split <;> decide

theorem daysBeforeMonth_le (year : Nat) {month : Nat} (within : month ≤ 12) :
    daysBeforeMonth year month ≤ 341 := by
  have added : ∀ (months : List Nat) (days : Nat),
      months.foldl (fun days m => days + daysInMonth year (m + 1)) days
        ≤ days + 31 * months.length := by
    intro months
    induction months with
    | nil => exact fun days => Nat.le_refl days
    | cons m rest ih =>
      intro days
      have first := daysInMonth_le year (m + 1)
      have others := ih (days + daysInMonth year (m + 1))
      rw [List.foldl_cons, List.length_cons]
      omega
  have all := added (List.range (month - 1)) 0
  rw [List.length_range] at all
  unfold daysBeforeMonth
  omega

theorem dayNumber_le {year month day : Nat} (years : year ≤ 9999) (months : month ≤ 12)
    (days : day ≤ daysInMonth year month) : dayNumber year month day ≤ 2933003 := by
  have before := daysBeforeMonth_le year months
  have within := daysInMonth_le year month
  unfold dayNumber daysBeforeYear
  omega

theorem parse?_lt {text : String} {time : Int} (read : parse? text = some time) :
    time < twoTo 63 := by
  obtain ⟨⟨year, r⟩, first, read⟩ := Option.bind_eq_some_iff.mp read
  obtain ⟨r, _, read⟩ := Option.bind_eq_some_iff.mp read
  obtain ⟨⟨month, r⟩, _, read⟩ := Option.bind_eq_some_iff.mp read
  obtain ⟨r, _, read⟩ := Option.bind_eq_some_iff.mp read
  obtain ⟨⟨day, r⟩, _, read⟩ := Option.bind_eq_some_iff.mp read
  obtain ⟨r, _, read⟩ := Option.bind_eq_some_iff.mp read
  obtain ⟨⟨hour, r⟩, _, read⟩ := Option.bind_eq_some_iff.mp read
  obtain ⟨r, _, read⟩ := Option.bind_eq_some_iff.mp read
  obtain ⟨⟨minute, r⟩, _, read⟩ := Option.bind_eq_some_iff.mp read
  obtain ⟨r, _, read⟩ := Option.bind_eq_some_iff.mp read
  obtain ⟨⟨second, r⟩, _, read⟩ := Option.bind_eq_some_iff.mp read
  obtain ⟨r, _, read⟩ := Option.bind_eq_some_iff.mp read
  obtain ⟨offset, last, read⟩ := Option.bind_eq_some_iff.mp read
  split at read
  · rename_i within
    obtain ⟨_, months, _, days, hours, minutes, _⟩ := within
    cases read
    have date := dayNumber_le (four?_le first) months days
    have shift := offset?_ge last
    have word : (twoTo 63 : Int) = 9223372036854775808 := by decide
    rw [word]
    omega
  · cases read

/-! ## Buckets -/

/-- A bucket is a word, whatever the time. -/
theorem bucket_lt {time interval : Int} (positive : 0 < interval) :
    bucket time interval < twoTo 63 := by
  have word : (twoTo 63 : Int) = ((twoTo 64 : Nat) + 1) / 2 := by decide
  unfold bucket wrap64
  rw [if_neg (by omega), word]
  exact Int.bmod_lt (twoTo_pos 64)

/-- The bucket of a time begins within a signed 64-bit word. -/
def InRange (interval time : Int) : Prop :=
  -(twoTo 63 : Int) ≤ time / interval * interval ∧ time / interval * interval < twoTo 63

section

variable {interval time : Int} (positive : 0 < interval) (range : InRange interval time)
include positive range

theorem bucket_eq : bucket time interval = time / interval * interval := by
  have word : twoTo 64 = 2 * twoTo 63 := by decide
  obtain ⟨low, high⟩ := range
  unfold bucket wrap64
  rw [if_neg (Int.not_le.mpr positive)]
  exact Int.bmod_eq_of_le_mul_two (by omega) (by omega)

theorem dvd_bucket : interval ∣ bucket time interval := by
  rw [bucket_eq positive range]
  exact Int.dvd_mul_left _ _

/-- A bucket holds the times of one interval. -/
theorem bucket_eq_iff {start : Int} (begins : interval ∣ start) :
    bucket time interval = start ↔ start ≤ time ∧ time < start + interval := by
  obtain ⟨n, rfl⟩ := begins
  rw [bucket_eq positive range, Int.mul_comm, Int.mul_eq_mul_left_iff (Int.ne_of_gt positive),
    Int.ediv_eq_iff_of_pos positive, Int.mul_comm n]

theorem bucket_mono {later : Int} (range' : InRange interval later) (before : time ≤ later) :
    bucket time interval ≤ bucket later interval := by
  rw [bucket_eq positive range, bucket_eq positive range']
  exact Int.mul_le_mul_of_nonneg_right (Int.ediv_le_ediv positive before) (Int.le_of_lt positive)

/-- Whether by whole buckets or at once, a time is divided by a multiple of the interval alike. -/
theorem bucket_ediv (k : Int) : bucket time interval / (k * interval) = time / (k * interval) := by
  have nonneg := Int.le_of_lt positive
  rw [bucket_eq positive range, Int.mul_comm k, ← Int.ediv_ediv_of_nonneg nonneg,
    Int.mul_ediv_cancel _ (Int.ne_of_gt positive), Int.ediv_ediv_of_nonneg nonneg]

variable {k : Int} (coarse : InRange (k * interval) time)
include coarse

theorem inRange_bucket : InRange (k * interval) (bucket time interval) := by
  rwa [InRange, bucket_ediv positive range]

theorem bucket_bucket (multiple : 1 ≤ k) :
    bucket (bucket time interval) (k * interval) = bucket time (k * interval) := by
  have positive' : 0 < k * interval := Int.mul_pos (by omega) positive
  rw [bucket_eq positive' (inRange_bucket positive range coarse), bucket_eq positive' coarse,
    bucket_ediv positive range]

end

end PoolIndexer.Timestamp
