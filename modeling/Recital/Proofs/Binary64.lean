import Mathlib.Algebra.Order.Field.Basic
import Mathlib.Data.Nat.Cast.Order.Field
import Mathlib.Tactic.FieldSimp
import Mathlib.Tactic.GCongr
import Mathlib.Tactic.Linarith
import Mathlib.Tactic.Positivity
import Mathlib.Tactic.Ring
import Recital.Binary64

/-!
# Rounding is nearly exact

* `Ratio.value` : the rational number of a fraction, with the value of each operation.
* `halfEven_near` : a quotient is rounded by half at most.
* `rounded_eq` : a rounded fraction has a numerator of 53 bits, scaled by a power of two.
* `rounded_near` : rounding changes a fraction by one part in `2 ^ 53` at most.
* `rounded_exact` : whole numbers below `2 ^ 53` are not changed.  `Whole` : a fraction that is one.
-/

set_option autoImplicit false

namespace Recital.Ratio

variable {a b : Ratio} {n : ℕ}

/-! ## Values -/

/-- The rational number of a fraction. -/
def value (a : Ratio) : ℚ := a.num / a.den

/-- The denominator is not zero. -/
def Proper (a : Ratio) : Prop := 0 < a.den

theorem proper_ofNat (n : ℕ) : (ofNat n).Proper :=
  Nat.one_pos

theorem value_ofNat (n : ℕ) : (ofNat n).value = n := by
  simp [value, ofNat]

theorem Proper.mul (ha : a.Proper) (hb : b.Proper) : (a.mul b).Proper :=
  Nat.mul_pos ha hb

theorem value_mul (a b : Ratio) : (a.mul b).value = a.value * b.value := by
  simp only [value, mul, Nat.cast_mul]
  rw [div_mul_div_comm]

theorem Proper.add (ha : a.Proper) (hb : b.Proper) : (a.add b).Proper :=
  Nat.mul_pos ha hb

theorem value_add (ha : a.Proper) (hb : b.Proper) : (a.add b).value = a.value + b.value := by
  have ha' : (a.den : ℚ) ≠ 0 := Nat.cast_ne_zero.2 (Nat.ne_of_gt ha)
  have hb' : (b.den : ℚ) ≠ 0 := Nat.cast_ne_zero.2 (Nat.ne_of_gt hb)
  simp only [value, add, Nat.cast_add, Nat.cast_mul]
  rw [div_add_div _ _ ha' hb', mul_comm (b.num : ℚ)]

theorem Proper.sub (ha : a.Proper) (hb : b.Proper) : (a.sub b).Proper :=
  Nat.mul_pos ha hb

theorem value_sub (ha : a.Proper) (hb : b.Proper) (h : b.value ≤ a.value) :
    (a.sub b).value = a.value - b.value := by
  have ha' : (0 : ℚ) < a.den := Nat.cast_pos.2 ha
  have hb' : (0 : ℚ) < b.den := Nat.cast_pos.2 hb
  have hle : b.num * a.den ≤ a.num * b.den := by
    rw [value, value, div_le_div_iff₀ hb' ha'] at h
    exact_mod_cast h
  simp only [value, sub, Nat.cast_sub hle, Nat.cast_mul]
  rw [div_sub_div _ _ ha'.ne' hb'.ne', mul_comm (b.num : ℚ)]

theorem value_div (a b : Ratio) : (a.div b).value = a.value / b.value := by
  simp only [value, div, Nat.cast_mul]
  rw [div_div_div_eq]

theorem proper_div (ha : a.Proper) (hb : 0 < b.value) : (a.div b).Proper := by
  refine Nat.mul_pos ha (Nat.pos_of_ne_zero fun h => ?_)
  rw [value, h, Nat.cast_zero, zero_div] at hb
  exact lt_irrefl _ hb

theorem floor_le_value (a : Ratio) : (a.floor : ℚ) ≤ a.value :=
  Nat.cast_div_le

theorem value_lt_floor_add_one (ha : a.Proper) : a.value < a.floor + 1 := by
  have hlt : a.num < a.den * (a.floor + 1) := Nat.lt_mul_div_succ a.num ha
  rw [value, div_lt_iff₀ (Nat.cast_pos.2 ha), mul_comm]
  exact_mod_cast hlt

/-- A fraction below `2 ^ 53` is within range. -/
theorem exceedsRange_eq_false (ha : a.Proper) (h : a.value < 2 ^ 53) : a.exceedsRange = false := by
  rw [value, div_lt_iff₀ (Nat.cast_pos.2 ha)] at h
  have hlt : a.num < 2 ^ 53 * a.den := by exact_mod_cast h
  have hpow : ∀ k, 53 ≤ k → a.num < a.den * Nat.pow 2 k := by
    intro k hk
    calc a.num < a.den * 2 ^ 53 := by rwa [Nat.mul_comm]
      _ ≤ a.den * 2 ^ k := Nat.mul_le_mul_left _ (Nat.pow_le_pow_right Nat.two_pos hk)
  exact decide_eq_false (Nat.not_le.2 (hpow 1024 (by omega)))

/-! ## Rounding -/

/-- A quotient is rounded by half at most. -/
theorem halfEven_near {d : ℕ} (n : ℕ) (hd : 0 < d) : |(halfEven n d : ℚ) - n / d| ≤ 1 / 2 := by
  have hdiv : n / d * d + n % d = n := Nat.div_add_mod' n d
  have hmod : n % d < d := Nat.mod_lt n hd
  have hnear : 2 * (halfEven n d * d) ≤ 2 * n + d ∧ 2 * n ≤ 2 * (halfEven n d * d) + d := by
    simp only [halfEven]
    split
    · omega
    · rw [Nat.add_mul]
      omega
  have hd' : (0 : ℚ) < d := Nat.cast_pos.2 hd
  have hlow : (2 * (halfEven n d * d) : ℚ) ≤ 2 * n + d := by exact_mod_cast hnear.1
  have hhigh : (2 * n : ℚ) ≤ 2 * (halfEven n d * d) + d := by exact_mod_cast hnear.2
  rw [sub_div' hd'.ne', abs_le, le_div_iff₀ hd', div_le_iff₀ hd']
  constructor <;> linarith

theorem halfEven_mul_self {d : ℕ} (k : ℕ) (hd : 0 < d) : halfEven (k * d) d = k := by
  simp [halfEven, Nat.mul_div_cancel _ hd, hd]

/-- A rounded fraction is a whole number times `2 ^ down / 2 ^ up`, where it has at least 53 bits. -/
theorem rounded_eq (hnum : a.num ≠ 0) : ∃ up down,
    a.rounded = ⟨halfEven (a.num * 2 ^ up) (a.den * 2 ^ down) * 2 ^ down, 2 ^ up⟩ ∧
      2 ^ 52 * (a.den * 2 ^ down) ≤ a.num * 2 ^ up := by
  have hlog : 2 ^ a.num.log2 ≤ a.num := Nat.log2_self_le hnum
  have hden : a.den < 2 ^ (a.den.log2 + 1) := Nat.lt_log2_self
  unfold rounded
  rw [if_neg hnum]
  generalize hup : 53 + a.den.log2 - a.num.log2 = up
  generalize hlow : a.num.log2 - (53 + a.den.log2) = low
  have hsum : a.num.log2 + up = a.den.log2 + 1 + low + 52 := by omega
  by_cases hsmall : a.num * 2 ^ up < a.den * 2 ^ low * 2 ^ 53
  · have hcond : (a.scaled up low).num < (a.scaled up low).den * Nat.pow 2 53 := hsmall
    refine ⟨up, low, ?_, ?_⟩
    · dsimp only
      rw [if_pos hcond]
      rfl
    · calc 2 ^ 52 * (a.den * 2 ^ low) ≤ 2 ^ 52 * (2 ^ (a.den.log2 + 1) * 2 ^ low) := by gcongr
        _ = 2 ^ (a.num.log2 + up) := by rw [hsum]; ring
        _ ≤ a.num * 2 ^ up := by rw [pow_add]; gcongr
  · have hcond : ¬ (a.scaled up low).num < (a.scaled up low).den * Nat.pow 2 53 := hsmall
    refine ⟨up, low + 1, ?_, ?_⟩
    · dsimp only
      rw [if_neg hcond]
      rfl
    · calc 2 ^ 52 * (a.den * 2 ^ (low + 1)) = a.den * 2 ^ low * 2 ^ 53 := by ring
        _ ≤ a.num * 2 ^ up := Nat.le_of_not_lt hsmall

theorem rounded_zero (h : a.num = 0) : a.rounded = ⟨0, 1⟩ :=
  if_pos h

theorem proper_rounded (a : Ratio) : a.rounded.Proper := by
  by_cases hnum : a.num = 0
  · rw [rounded_zero hnum]
    exact Nat.one_pos
  · obtain ⟨up, down, heq, -⟩ := rounded_eq hnum
    rw [heq]
    exact Nat.two_pow_pos up

/-- **Rounding changes a fraction by one part in `2 ^ 53` at most.** -/
theorem rounded_near (ha : a.Proper) : |a.rounded.value - a.value| ≤ a.value / 2 ^ 53 := by
  by_cases hnum : a.num = 0
  · rw [rounded_zero hnum]
    simp [value, hnum]
  obtain ⟨up, down, heq, hbits⟩ := rounded_eq hnum
  have hden : (0 : ℚ) < a.den := Nat.cast_pos.2 ha
  -- the step of the rounded numbers here, which is at most one part in `2 ^ 52`
  have hstep : (0 : ℚ) < 2 ^ down / 2 ^ up := by positivity
  have hfine : (2 ^ down / 2 ^ up : ℚ) ≤ a.value / 2 ^ 52 := by
    have hcast : (2 ^ 52 * (a.den * 2 ^ down) : ℚ) ≤ a.num * 2 ^ up := by exact_mod_cast hbits
    rw [value, div_div, div_le_div_iff₀ (by positivity) (by positivity)]
    linarith
  have hnear := halfEven_near (a.num * 2 ^ up) (Nat.mul_pos ha (Nat.two_pow_pos down))
  have hvalue : a.rounded.value =
      (halfEven (a.num * 2 ^ up) (a.den * 2 ^ down) : ℚ) * (2 ^ down / 2 ^ up) := by
    rw [heq, value, mul_div_assoc']
    push_cast
    rfl
  have hscaled : a.value = ((a.num * 2 ^ up : ℕ) / (a.den * 2 ^ down : ℕ) : ℚ) * (2 ^ down / 2 ^ up) := by
    rw [value]
    push_cast
    field_simp
  rw [hvalue]
  nth_rewrite 1 [hscaled]
  rw [← sub_mul, abs_mul, abs_of_pos hstep]
  calc _ ≤ 1 / 2 * (2 ^ down / 2 ^ up : ℚ) := mul_le_mul_of_nonneg_right hnear hstep.le
    _ ≤ 1 / 2 * (a.value / 2 ^ 52) := mul_le_mul_of_nonneg_left hfine (by norm_num)
    _ = a.value / 2 ^ 53 := by ring

/-- **Whole numbers below `2 ^ 53` are not changed.** -/
theorem rounded_exact (ha : a.Proper) (hn : a.value = n) (hlt : n < 2 ^ 53) : a.rounded.value = n := by
  have hden : (0 : ℚ) < a.den := Nat.cast_pos.2 ha
  have hnum : a.num = n * a.den := by
    rw [value, div_eq_iff hden.ne'] at hn
    exact_mod_cast hn
  by_cases hzero : a.num = 0
  · rw [rounded_zero hzero, ← hn, value, value, hzero, Nat.cast_zero, zero_div, zero_div]
  obtain ⟨up, down, heq, hbits⟩ := rounded_eq hzero
  -- the step is no greater than one
  have hle : down ≤ up := by
    have hfine : 2 ^ 52 * 2 ^ down ≤ n * 2 ^ up := by
      refine Nat.le_of_mul_le_mul_left ?_ ha
      calc a.den * (2 ^ 52 * 2 ^ down) = 2 ^ 52 * (a.den * 2 ^ down) := by ring
        _ ≤ a.num * 2 ^ up := hbits
        _ = a.den * (n * 2 ^ up) := by rw [hnum]; ring
    have hpow : 2 ^ (52 + down) < 2 ^ (53 + up) := by
      calc 2 ^ (52 + down) = 2 ^ 52 * 2 ^ down := pow_add ..
        _ ≤ n * 2 ^ up := hfine
        _ < 2 ^ 53 * 2 ^ up := by gcongr
        _ = 2 ^ (53 + up) := (pow_add ..).symm
    have hexp := (Nat.pow_lt_pow_iff_right (by norm_num)).1 hpow
    omega
  obtain ⟨shift, rfl⟩ := Nat.exists_eq_add_of_le hle
  have hwhole : a.num * 2 ^ (down + shift) = n * 2 ^ shift * (a.den * 2 ^ down) := by
    rw [hnum]
    ring
  rw [heq, hwhole, halfEven_mul_self _ (Nat.mul_pos ha (Nat.two_pow_pos down)), value]
  push_cast
  field_simp
  ring

/-! ## Whole numbers -/

/-- The fraction is a natural number. -/
structure Whole (a : Ratio) (n : ℕ) : Prop where
  proper : a.Proper
  value : a.value = n

theorem whole_ofNat (n : ℕ) : (ofNat n).Whole n :=
  ⟨proper_ofNat n, value_ofNat n⟩

namespace Whole

variable {m : ℕ}

theorem add (ha : a.Whole n) (hb : b.Whole m) : (a.add b).Whole (n + m) :=
  ⟨ha.proper.add hb.proper, by rw [value_add ha.proper hb.proper, ha.value, hb.value, Nat.cast_add]⟩

theorem mul (ha : a.Whole n) (hb : b.Whole m) : (a.mul b).Whole (n * m) :=
  ⟨ha.proper.mul hb.proper, by rw [value_mul, ha.value, hb.value, Nat.cast_mul]⟩

theorem sub (ha : a.Whole n) (hb : b.Whole m) (h : m ≤ n) : (a.sub b).Whole (n - m) := by
  refine ⟨ha.proper.sub hb.proper, ?_⟩
  have hle : b.value ≤ a.value := by
    rw [ha.value, hb.value]
    exact_mod_cast h
  rw [value_sub ha.proper hb.proper hle, ha.value, hb.value, Nat.cast_sub h]

theorem rounded (ha : a.Whole n) (h : n < 2 ^ 53) : a.rounded.Whole n :=
  ⟨proper_rounded a, rounded_exact ha.proper ha.value h⟩

end Whole

end Recital.Ratio
