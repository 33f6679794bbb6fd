import Mathlib.Data.Rat.Floor
import Mathlib.Data.Int.Log
import Mathlib.Tactic.Linarith
import Mathlib.Tactic.FieldSimp

/-!
# Decimal numbers in a database column

A `numeric(p, 2)` column keeps a whole number of hundredths.  Storing a rational
rounds it to the nearest hundredth, halves away from zero; reading it back is
exact.  Rounding is monotone and leaves hundredths alone, so it never carries a
number across a hundredth.

`contextRound` is decimal arithmetic of a fixed number of significant digits,
halves to even.
-/

namespace Base

/-- The nearest integer, halves away from zero. -/
def roundHalfAway (x : ℚ) : ℤ := if 0 ≤ x then ⌊x + 1 / 2⌋ else ⌈x - 1 / 2⌉

/-- The hundredths a number is stored as. -/
def toHundredths (x : ℚ) : ℤ := roundHalfAway (x * 100)

/-- The number that so many hundredths are. -/
def ofHundredths (n : ℤ) : ℚ := n / 100

theorem roundHalfAway_intCast (n : ℤ) : roundHalfAway n = n := by
  unfold roundHalfAway
  split
  · rw [Int.floor_eq_iff]
    constructor <;> linarith
  · rw [Int.ceil_eq_iff]
    constructor <;> linarith

/-- Rounding never carries a number across an integer. -/
theorem roundHalfAway_le {x : ℚ} {n : ℤ} (h : x ≤ n) : roundHalfAway x ≤ n := by
  unfold roundHalfAway
  split
  · have hlt : x + 1 / 2 < (n + 1 : ℤ) := by
      push_cast
      linarith
    exact Int.lt_add_one_iff.mp (Int.floor_lt.mpr hlt)
  · exact Int.ceil_le.mpr (by linarith)

@[simp] theorem toHundredths_ofHundredths (n : ℤ) : toHundredths (ofHundredths n) = n := by
  have h : ofHundredths n * 100 = n := by
    unfold ofHundredths
    field_simp
  rw [toHundredths, h, roundHalfAway_intCast]

theorem toHundredths_le {x : ℚ} {n : ℤ} (h : x ≤ ofHundredths n) : toHundredths x ≤ n := by
  refine roundHalfAway_le ?_
  unfold ofHundredths at h
  rw [le_div_iff₀ (by norm_num)] at h
  exact h

theorem ofHundredths_le {m n : ℤ} : ofHundredths m ≤ ofHundredths n ↔ m ≤ n := by
  constructor
  · intro h
    have := toHundredths_le h
    rwa [toHundredths_ofHundredths] at this
  · intro h
    have : (m : ℚ) ≤ n := by exact_mod_cast h
    unfold ofHundredths
    linarith

/-! ## Decimal contexts -/

/-- The nearest integer, halves to even. -/
def roundHalfEven (x : ℚ) : ℤ :=
  let n := ⌊x⌋
  let d := x - n
  if d < 1 / 2 then n else if 1 / 2 < d then n + 1 else if n % 2 = 0 then n else n + 1

/-- A result rounded to `digits` significant digits. -/
def contextRound (digits : ℕ) (x : ℚ) : ℚ :=
  if x = 0 then 0
  else
    let e := Int.log 10 |x| + 1 - digits
    roundHalfEven (x / 10 ^ e) * 10 ^ e

end Base
