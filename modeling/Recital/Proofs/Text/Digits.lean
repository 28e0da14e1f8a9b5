import Recital.Text.Blank
import Recital.Text.Scanner

/-!
# Written numbers are read back

A number written by `padded` is a run of digits of the wanted width, and the readers of digits give it
back:

* `naturalOf_padded` : the run writes the number.
* `naturalOf_take` : of a number with its last digits left out, what they write is gone.
* `field?_padded` : so does a field of its width, whatever follows.
* `takeWhile_isDigit_padded` : a reader of all digits that follow stops where the run does.
-/

set_option autoImplicit false

namespace Recital.Text

theorem isDigit_eq (c : Char) : isDigit c = c.isDigit := by
  have h : ('0' ≤ c ∧ c ≤ '9') ↔ c.isDigit = true := by
    simp only [Char.isDigit, Bool.and_eq_true, decide_eq_true_eq, Char.le_def]
  unfold isDigit digitValue?
  by_cases hd : c.isDigit = true
  · simp [h.2 hd, hd]
  · simp [mt h.1 hd, hd]

theorem digitValue?_of_isDigit {c : Char} (h : isDigit c = true) :
    digitValue? c = some (c.toNat - 48) := by
  unfold isDigit at h
  unfold digitValue? at h ⊢
  split
  · rfl
  · rename_i hc
    simp [hc] at h

/-- White space is no digit. -/
theorem isWhiteSpace_of_isDigit {c : Char} (h : isDigit c = true) : isWhiteSpace c = false := by
  rw [isDigit_eq, Char.isDigit] at h
  simp only [Bool.and_eq_true, decide_eq_true_eq, UInt32.le_iff_toNat_le] at h
  have h1 : 48 ≤ c.toNat := h.1
  have h2 : c.toNat ≤ 57 := h.2
  simp only [isWhiteSpace, Bool.or_eq_false_iff, Bool.and_eq_false_iff, decide_eq_false_iff_not,
    beq_eq_false_iff_ne]
  omega

theorem naturalAfter_eq_ofDigitChars : ∀ (cs : List Char) (acc : Nat), cs.all isDigit = true →
    naturalAfter acc cs = Nat.ofDigitChars 10 cs acc
  | [], acc, _ => by simp [naturalAfter]
  | c :: cs, acc, h => by
    simp only [List.all_cons, Bool.and_eq_true] at h
    rw [naturalAfter, Nat.ofDigitChars_cons, naturalAfter_eq_ofDigitChars cs _ h.2,
      digitValue?_of_isDigit h.1, Nat.mul_comm]
    rfl

theorem all_isDigit_padded (width n : Nat) : (padded width n).all isDigit = true := by
  rw [List.all_eq_true]
  intro c hc
  rw [isDigit_eq]
  rcases List.mem_append.1 hc with h | h
  · rw [List.eq_of_mem_replicate h]
    rfl
  · exact Nat.isDigit_of_mem_toDigits (by decide) (by decide) h

theorem naturalOf_padded (width n : Nat) : naturalOf (padded width n) = n := by
  rw [naturalOf, naturalAfter_eq_ofDigitChars _ _ (all_isDigit_padded width n)]
  simp [padded, Nat.ofDigitChars_append]

theorem naturalAfter_lt : ∀ (cs : List Char) (acc : Nat), cs.all isDigit = true →
    naturalAfter acc cs < (acc + 1) * Nat.pow 10 cs.length
  | [], acc, _ => by simp [naturalAfter]
  | c :: cs, acc, h => by
    simp only [List.all_cons, Bool.and_eq_true] at h
    have hdigit : c.toNat - 48 ≤ 9 := by
      have hc := h.1
      rw [isDigit_eq, Char.isDigit] at hc
      simp only [Bool.and_eq_true, decide_eq_true_eq, UInt32.le_iff_toNat_le] at hc
      have hle : c.toNat ≤ 57 := hc.2
      omega
    have hstep : acc * 10 + (c.toNat - 48) + 1 ≤ (acc + 1) * 10 := by omega
    rw [naturalAfter, digitValue?_of_isDigit h.1, Option.getD_some, List.length_cons, Nat.pow_eq,
      Nat.pow_succ', ← Nat.mul_assoc]
    exact Nat.lt_of_lt_of_le (naturalAfter_lt cs _ h.2) (Nat.mul_le_mul_right _ hstep)

/-- A number is below the power of ten with its digits. -/
theorem naturalOf_lt {cs : List Char} (h : cs.all isDigit = true) : naturalOf cs < Nat.pow 10 cs.length := by
  have hlt := naturalAfter_lt cs 0 h
  rwa [Nat.zero_add, Nat.one_mul] at hlt

/-- The digits of a number that are left out at its end. -/
theorem naturalOf_take {ds : List Char} (h : ds.all isDigit = true) (width : Nat) :
    naturalOf (ds.take width) = naturalOf ds / Nat.pow 10 (ds.length - width) := by
  have hall : ∀ c ∈ ds, isDigit c = true := List.all_eq_true.1 h
  have hfirst : (ds.take width).all isDigit = true :=
    List.all_eq_true.2 fun c hc => hall c (List.mem_of_mem_take hc)
  have hlast : (ds.drop width).all isDigit = true :=
    List.all_eq_true.2 fun c hc => hall c (List.mem_of_mem_drop hc)
  have hsplit : naturalOf ds =
      Nat.pow 10 (ds.length - width) * naturalOf (ds.take width) + naturalOf (ds.drop width) := by
    simp only [naturalOf, naturalAfter_eq_ofDigitChars _ _ h, naturalAfter_eq_ofDigitChars _ _ hfirst,
      naturalAfter_eq_ofDigitChars _ _ hlast, ← List.length_drop, Nat.pow_eq]
    rw [← Nat.ofDigitChars_eq_ofDigitChars_zero, ← Nat.ofDigitChars_append, List.take_append_drop]
  have hlt : naturalOf (ds.drop width) < Nat.pow 10 (ds.length - width) := by
    rw [← List.length_drop]
    exact naturalOf_lt hlast
  have hpos : 0 < Nat.pow 10 (ds.length - width) := Nat.pow_pos (by decide)
  rw [hsplit, Nat.mul_add_div hpos, Nat.div_eq_of_lt hlt, Nat.add_zero]

theorem padded_ne_nil (width n : Nat) : padded width n ≠ [] := by
  simp [padded]

/-- A number is written with `width` digits or more. -/
theorem le_length_padded (width n : Nat) : width ≤ (padded width n).length := by
  simp only [padded, List.length_append, List.length_replicate]
  omega

/-- A number of few enough digits is written with exactly `width` of them. -/
theorem length_padded {width n : Nat} (hw : 0 < width) (h : n < Nat.pow 10 width) :
    (padded width n).length = width := by
  have := (Nat.length_toDigits_le_iff (b := 10) (by decide) hw).2 h
  simp only [padded, List.length_append, List.length_replicate]
  omega

theorem natural?_padded (width n : Nat) : natural? (padded width n) = some n := by
  rw [natural?, if_pos ⟨padded_ne_nil width n, all_isDigit_padded width n⟩, naturalOf_padded]

/-- A field of its width is the number, if it is within the bounds of the field. -/
theorem field?_padded_eq {width n : Nat} (low high : Nat) (rest : List Char) (hw : 0 < width)
    (h : n < Nat.pow 10 width) : field? width low high (padded width n ++ rest) =
      if low ≤ n ∧ n ≤ high then some (n, rest) else none := by
  have hlen := length_padded hw h
  have htake : (padded width n ++ rest).take width = padded width n := by
    rw [List.take_append_of_le_length (by omega), List.take_of_length_le (by omega)]
  have hdrop : (padded width n ++ rest).drop width = rest := by
    rw [List.drop_append_of_le_length (by omega), List.drop_of_length_le (by omega), List.nil_append]
  rw [field?, htake, natural?_padded, hdrop]
  simp only [hlen, true_and]

theorem field?_padded {width low high n : Nat} (rest : List Char) (hw : 0 < width)
    (h : n < Nat.pow 10 width) (hl : low ≤ n) (hh : n ≤ high) :
    field? width low high (padded width n ++ rest) = some (n, rest) := by
  rw [field?_padded_eq low high rest hw h, if_pos ⟨hl, hh⟩]

/-- A field whose number is too great is none. -/
theorem field?_padded_of_lt {width low high n : Nat} (rest : List Char) (hw : 0 < width)
    (h : n < Nat.pow 10 width) (hh : high < n) : field? width low high (padded width n ++ rest) = none := by
  rw [field?_padded_eq low high rest hw h, if_neg fun hbounds => Nat.not_le_of_lt hh hbounds.2]

/-- A written number starts with a digit. -/
theorem padded_eq_cons (width n : Nat) : ∃ c cs, padded width n = c :: cs ∧ isDigit c = true := by
  have hall := all_isDigit_padded width n
  cases hp : padded width n with
  | nil => exact absurd hp (padded_ne_nil width n)
  | cons c cs =>
    rw [hp, List.all_cons, Bool.and_eq_true] at hall
    exact ⟨c, cs, rfl, hall.1⟩

theorem trimStart_padded (width n : Nat) (rest : List Char) :
    trimStart (padded width n ++ rest) = padded width n ++ rest := by
  obtain ⟨c, cs, hp, hc⟩ := padded_eq_cons width n
  rw [hp, List.cons_append, trimStart, List.dropWhile_cons_of_neg]
  simp [isWhiteSpace_of_isDigit hc]

/-- The digits at the start of a text are those of the number, if no digit follows it. -/
theorem takeWhile_isDigit_padded {width n : Nat} {rest : List Char}
    (hr : ∀ c ∈ rest.head?, isDigit c = false) :
    (padded width n ++ rest).takeWhile isDigit = padded width n := by
  have hall := all_isDigit_padded width n
  rw [List.all_eq_true] at hall
  rw [List.takeWhile_append_of_pos hall]
  cases rest with
  | nil => simp
  | cons c rest =>
    have hc := hr c (by simp)
    simp [hc]

end Recital.Text
