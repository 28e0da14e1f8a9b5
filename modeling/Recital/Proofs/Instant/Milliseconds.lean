import Mathlib.Tactic.NormNum
import Recital.Instant.JulianDay
import Recital.Proofs.Binary64
import Recital.Proofs.Text.Digits

/-!
# Seconds are read to the nearest millisecond

The database reads the seconds of a date step by step, each step rounding to 53 bits.

* `whole_foldl_appendDigit` : nine digits are read exactly.
* `fractionOf?_near` : the fraction that they write is read but for the last of 53 bits.
* `secondMillis_near` : the errors of all steps do not add up to a nanosecond, so that the milliseconds are the
  nearest ones.  Which way a tie goes they do decide.
-/

set_option autoImplicit false

namespace Recital.JulianDay

open Text Ratio

variable {v : Ratio} {c : Char} {digits : List Char} {n k : ℕ}

/-! ## Digits -/

theorem toNat_of_isDigit (h : isDigit c = true) :
    c.toNat = (digitValue? c).getD 0 + '0'.toNat ∧ (digitValue? c).getD 0 ≤ 9 := by
  have hvalue := digitValue?_of_isDigit h
  rw [isDigit_eq, Char.isDigit, Bool.and_eq_true, decide_eq_true_eq, decide_eq_true_eq] at h
  have hlow : 48 ≤ c.toNat := h.1
  have hhigh : c.toNat ≤ 57 := h.2
  have hzero : '0'.toNat = 48 := rfl
  rw [hvalue, Option.getD_some, hzero]
  omega

/-- One more digit is read exactly. -/
theorem whole_appendDigit (h : v.Whole n) (hn : n < 10 ^ 9) (hc : isDigit c = true) :
    (appendDigit v c).Whole (n * 10 + (digitValue? c).getD 0) := by
  obtain ⟨hchar, hdigit⟩ := toNat_of_isDigit hc
  have hzero : '0'.toNat = 48 := rfl
  have hten := (h.mul (whole_ofNat 10)).rounded (by omega)
  have hadded := (hten.add (whole_ofNat c.toNat)).rounded (by omega)
  have hdone := (hadded.sub (whole_ofNat '0'.toNat) (by omega)).rounded (by omega)
  have hsum : n * 10 + c.toNat - '0'.toNat = n * 10 + (digitValue? c).getD 0 := by omega
  rwa [hsum] at hdone

/-- **Nine digits are read exactly.** -/
theorem whole_foldl_appendDigit (h : v.Whole n) (hn : n < 10 ^ k) (hk : k + digits.length ≤ 9)
    (hdigits : digits.all isDigit = true) :
    (digits.foldl appendDigit v).Whole (naturalAfter n digits) := by
  induction digits generalizing v n k with
  | nil => exact h
  | cons c digits ih =>
    rw [List.length_cons] at hk
    rw [List.all_cons, Bool.and_eq_true] at hdigits
    have hsmall : 10 ^ k ≤ 10 ^ 9 := Nat.pow_le_pow_right (by norm_num) (by omega)
    obtain ⟨-, hdigit⟩ := toNat_of_isDigit hdigits.1
    have hnext : n * 10 + (digitValue? c).getD 0 < 10 ^ (k + 1) := by
      rw [pow_succ]
      omega
    exact ih (whole_appendDigit h (hn.trans_le hsmall) hdigits.1) hnext (by omega) hdigits.2

/-- So is the power of ten that they are divided by. -/
theorem whole_foldl_tenfold (h : v.Whole (10 ^ k)) (hk : k + digits.length ≤ 9) :
    (digits.foldl (fun scale _ => tenfold scale) v).Whole (10 ^ (k + digits.length)) := by
  induction digits generalizing v k with
  | nil => exact h
  | cons c digits ih =>
    rw [List.length_cons] at hk ⊢
    have hsmall : 10 ^ k ≤ 10 ^ 9 := Nat.pow_le_pow_right (by norm_num) (by omega)
    have hnext : (tenfold v).Whole (10 ^ (k + 1)) := by
      rw [pow_succ]
      exact (h.mul (whole_ofNat 10)).rounded (by omega)
    have hrest := ih hnext (by omega)
    rwa [Nat.add_right_comm, Nat.add_assoc] at hrest

/-- The fraction that digits write is read but for the last of 53 bits. -/
theorem fractionOf?_near (hlen : digits.length ≤ 9) (hdigits : digits.all isDigit = true) :
    ∃ r, fractionOf? digits = some r ∧ r.Proper ∧
      |r.value - naturalOf digits / 10 ^ digits.length| ≤
        (naturalOf digits / 10 ^ digits.length : ℚ) / 2 ^ 53 := by
  have hnumber : (digits.foldl appendDigit (.ofNat 0)).Whole (naturalOf digits) :=
    whole_foldl_appendDigit (k := 0) (whole_ofNat 0) (by norm_num) (by omega) hdigits
  have hscale : (digits.foldl (fun scale _ => tenfold scale) (.ofNat 1)).Whole (10 ^ digits.length) := by
    have h : (digits.foldl (fun scale _ => tenfold scale) (.ofNat 1)).Whole (10 ^ (0 + digits.length)) :=
      whole_foldl_tenfold (k := 0) (whole_ofNat 1) (by omega)
    rwa [Nat.zero_add] at h
  have hpow : (10 : ℚ) ^ digits.length ≤ 10 ^ 9 := pow_le_pow_right₀ (by norm_num) hlen
  have hrange := exceedsRange_eq_false hscale.proper (by
    rw [hscale.value]
    push_cast
    linarith)
  have hpos : 0 < (digits.foldl (fun scale _ => tenfold scale) (.ofNat 1)).value := by
    rw [hscale.value]
    positivity
  refine ⟨_, by rw [fractionOf?]; simp only [hrange, Bool.false_eq_true, if_false]; rfl,
    proper_rounded _, ?_⟩
  have hnear := rounded_near (proper_div hnumber.proper hpos)
  rw [value_div, hnumber.value, hscale.value] at hnear
  push_cast at hnear
  exact hnear

/-! ## Milliseconds -/

/-- **The milliseconds of seconds are the nearest ones.** -/
theorem secondMillis_near {second nano : ℕ} {r : Ratio} (hs : second < 60) (hn : nano < 10 ^ 9)
    (hr : r.Proper) (hnear : |r.value - nano / 10 ^ 9| ≤ (nano / 10 ^ 9 : ℚ) / 2 ^ 53) :
    10 ^ 6 * secondMillis ((ofNat second).add r).rounded ≤ second * 10 ^ 9 + nano + 500000 ∧
      second * 10 ^ 9 + nano ≤ 10 ^ 6 * secondMillis ((ofNat second).add r).rounded + 500000 := by
  have hs' : (second : ℚ) ≤ 59 := by exact_mod_cast Nat.le_of_lt_succ hs
  have hn' : (nano : ℚ) < 10 ^ 9 := by exact_mod_cast hn
  have hhalf : Proper ⟨1, 2⟩ := Nat.two_pos
  have hsum := rounded_near ((proper_ofNat second).add hr)
  rw [value_add (proper_ofNat second) hr, value_ofNat] at hsum
  generalize hseconds : ((ofNat second).add r).rounded = seconds at hsum ⊢
  have hproper : seconds.Proper := hseconds ▸ proper_rounded _
  have hmillis := rounded_near (hproper.mul (proper_ofNat 1000))
  rw [value_mul, value_ofNat] at hmillis
  have hshifted := rounded_near ((proper_rounded (seconds.mul (.ofNat 1000))).add hhalf)
  rw [value_add (proper_rounded _) hhalf] at hshifted
  have hfloor := floor_le_value (((seconds.mul (.ofNat 1000)).rounded.add ⟨1, 2⟩).rounded)
  have hceil := value_lt_floor_add_one
    (proper_rounded ((seconds.mul (.ofNat 1000)).rounded.add ⟨1, 2⟩))
  have hhalfValue : value ⟨1, 2⟩ = 1 / 2 := by norm_num [value]
  rw [hhalfValue] at hshifted
  unfold secondMillis
  generalize ((seconds.mul (.ofNat 1000)).rounded.add ⟨1, 2⟩).rounded = last at *
  generalize (seconds.mul (.ofNat 1000)).rounded = millis at *
  rw [abs_le] at hnear hsum hmillis hshifted
  push_cast at hmillis
  have hlow : (10 ^ 6 * last.floor : ℚ) < second * 10 ^ 9 + nano + 500000 + 1 := by linarith
  have hhigh : (second * 10 ^ 9 + nano : ℚ) < 10 ^ 6 * last.floor + 500000 + 1 := by linarith
  constructor
  · exact Nat.le_of_lt_succ (by exact_mod_cast hlow)
  · exact Nat.le_of_lt_succ (by exact_mod_cast hhigh)

end Recital.JulianDay
