import Recital.Instant.Format
import Recital.Instant.Reading
import Recital.Proofs.Text.Digits

/-!
# Stored instants are read back

The database keeps an instant as the text `Instant.stored`.  Reading the column gives the same instant:

* `strict?_stored` : by the strict form, in the years 0 to 9999.
* `loose?_stored` : by the looser form, in any year.
* `ofStored?_stored` : in the order in which the column tries them.
-/

set_option autoImplicit false

namespace Recital

open Text

namespace Civil

/-- The bounds of the fields of a valid date and time. -/
theorem bounds_of_isValid {c : Civil} (h : c.isValid = true) :
    (1 ≤ c.month ∧ c.month ≤ 12) ∧ (1 ≤ c.day ∧ c.day ≤ 31) ∧ c.hour ≤ 23 ∧ c.minute ≤ 59 ∧
      c.second ≤ 60 ∧ c.nano < 1000000000 := by
  simp only [isValid, Bool.and_eq_true, decide_eq_true_eq] at h
  obtain ⟨⟨⟨⟨⟨⟨⟨⟨⟨_, _⟩, hm1⟩, hm2⟩, hd1⟩, hd2⟩, hh⟩, hmin⟩, hs⟩, hn⟩ := h
  have hdays : daysIn c.year c.month ≤ 31 := by
    unfold daysIn
    split
    · split <;> omega
    · split <;> omega
  exact ⟨⟨hm1, hm2⟩, ⟨hd1, by omega⟩, hh, hmin, hs, hn⟩

/-- A clock that is not set forward shows the same fields. -/
theorem shift_zero {c : Civil} (h : c.isValid = true) : c.shift 0 = c := by
  obtain ⟨_, _, hh, hmin, _, _⟩ := bounds_of_isValid h
  have h1 : ¬ c.minuteOfDay + 0 < 0 := by simp only [minuteOfDay]; omega
  have h2 : c.minuteOfDay + 0 < 1440 := by simp only [minuteOfDay]; omega
  have h3 : ((c.minuteOfDay + 0) / 60).toNat = c.hour := by simp only [minuteOfDay]; omega
  have h4 : ((c.minuteOfDay + 0) % 60).toNat = c.minute := by simp only [minuteOfDay]; omega
  simp only [shift, if_neg h1, if_pos h2, atMinute, h3, h4]

theorem instant?_zero (i : Instant) : i.toCivil.instant? 0 = some i := by
  have hs : i.toCivil.shift (-0) = i.toCivil := by simpa using shift_zero i.valid
  simp only [instant?, i.valid, hs, true_and]
  simp [toInstant?, i.valid]

end Civil

namespace Instant

/-! ## Numbers and fractions -/

theorem number_padded {width n : Nat} (rest : List Char) (hw : 0 < width) (h : n < Nat.pow 10 width) :
    number width (padded width n ++ rest) = some (n, rest) := by
  have hlen := length_padded hw h
  have htake : (padded width n ++ rest).take width = padded width n ++ [] := by
    rw [List.take_append_of_le_length (by omega), List.take_of_length_le (by omega),
      List.append_nil]
  rw [number, htake, takeWhile_isDigit_padded (by simp), if_neg (padded_ne_nil width n),
    naturalOf_padded, List.drop_left]

theorem longNumber_padded {width n : Nat} {rest : List Char}
    (hr : ∀ c ∈ rest.head?, isDigit c = false) :
    longNumber (padded width n ++ rest) = some (n, rest) := by
  simp only [longNumber, number, List.take_length, takeWhile_isDigit_padded hr]
  rw [if_neg (padded_ne_nil width n), naturalOf_padded, List.drop_left]

/-- A fraction of up to nine digits, in nanoseconds. -/
theorem fraction_padded {width n : Nat} {rest : List Char} (hw : 0 < width) (hle : width ≤ 9)
    (h : n < Nat.pow 10 width) (hr : ∀ c ∈ rest.head?, isDigit c = false) :
    fraction (padded width n ++ rest) = some (n * Nat.pow 10 (9 - width), rest) := by
  have hlen := length_padded hw h
  have hall := List.all_eq_true.1 (all_isDigit_padded width n)
  -- the nine characters that count end in what follows the number, which starts with no digit
  have htake : ((padded width n ++ rest).take 9).takeWhile isDigit = padded width n := by
    rw [List.take_append, List.take_of_length_le (by omega), List.takeWhile_append_of_pos hall]
    cases rest with
    | nil => simp
    | cons c rest =>
      have hc := hr c (by simp)
      cases 9 - (padded width n).length <;> simp [hc]
  have hdrop : rest.dropWhile isDigit = rest := by
    cases rest with
    | nil => rfl
    | cons c rest => simp [hr c (by simp)]
  have hnum : number 9 (padded width n ++ rest) = some (n, rest) := by
    rw [number, htake, if_neg (padded_ne_nil width n), naturalOf_padded, List.drop_left]
  have hcount : (padded width n ++ rest).length - rest.length = width := by
    simp [hlen]
  simp only [fraction, hnum, hcount, hdrop]

/-- What follows the seconds: neither a digit nor a point. -/
theorem optionalFraction_fractionText {nano : Nat} {c : Char} {rest : List Char}
    (hn : nano < 1000000000) (hp : c ≠ '.') (hd : isDigit c = false) :
    optionalFraction (fractionText nano ++ c :: rest) = some (nano, c :: rest) := by
  have hr : ∀ d ∈ (c :: rest).head?, isDigit d = false := by
    intro d h
    simp only [List.head?_cons, Option.mem_some_iff] at h
    rw [← h]
    exact hd
  unfold fractionText
  split
  · subst nano
    rw [List.nil_append, optionalFraction]
    intro cs h
    exact hp (List.cons.inj h).1
  split
  · rename_i h0 h1
    have hlt : nano / 1000000 < 10 ^ 3 := by omega
    rw [List.cons_append, optionalFraction, fraction_padded (by omega) (by omega) hlt hr]
    simp only [Option.some.injEq, Prod.mk.injEq, and_true, Nat.pow_eq]
    omega
  split
  · rename_i h0 h1 h2
    have hlt : nano / 1000 < 10 ^ 6 := by omega
    rw [List.cons_append, optionalFraction, fraction_padded (by omega) (by omega) hlt hr]
    simp only [Option.some.injEq, Prod.mk.injEq, and_true, Nat.pow_eq]
    omega
  · have hlt : nano < 10 ^ 9 := by omega
    rw [List.cons_append, optionalFraction, fraction_padded (by omega) (by omega) hlt hr]
    simp

/-! ## The stored text -/

/-- The stored text as a chain of fields. -/
theorem toList_stored (i : Instant) :
    i.stored.toList = yearText i.year ++ '-' :: (padded 2 i.month ++ '-' :: (padded 2 i.day ++
      'T' :: (padded 2 i.hour ++ ':' :: (padded 2 i.minute ++ ':' :: (padded 2 i.second ++
        (fractionText i.nano ++ ['+', '0', '0', ':', '0', '0'])))))) := by
  simp [stored, civilText]

theorem strictZone_stored : strictZone ['+', '0', '0', ':', '0', '0'] = some 0 := by
  decide

theorem storedZone_stored : storedZone ['+', '0', '0', ':', '0', '0'] = some 0 := by
  decide

theorem strict?_stored {i : Instant} (h0 : 0 ≤ i.year) (h1 : i.year ≤ 9999) :
    strict? i.stored = some i := by
  obtain ⟨hm, hd, hh, hmin, hs, hn⟩ := Civil.bounds_of_isValid i.valid
  have hy : ((i.year.toNat : Nat) : Int) = i.year := by omega
  simp only [strict?, toList_stored, yearText, if_pos (And.intro h0 h1)]
  simp only [field?_padded _ (by omega) (show i.year.toNat < 10 ^ 4 by omega)
      (Nat.zero_le _) (show i.year.toNat ≤ 9999 by omega),
    field?_padded _ (by omega) (show i.month < 10 ^ 2 by omega) hm.1 hm.2,
    field?_padded _ (by omega) (show i.day < 10 ^ 2 by omega) hd.1 hd.2,
    field?_padded _ (by omega) (show i.hour < 10 ^ 2 by omega) (Nat.zero_le _) hh,
    field?_padded _ (by omega) (show i.minute < 10 ^ 2 by omega) (Nat.zero_le _) hmin,
    field?_padded _ (by omega) (show i.second < 10 ^ 2 by omega) (Nat.zero_le _) hs,
    optionalFraction_fractionText hn (show '+' ≠ '.' by decide) (by decide),
    mark?, separator, strictZone_stored, hy, if_true, Option.bind_eq_bind, Option.bind_some]
  exact Civil.instant?_zero i

/-- A year with a sign has no place in the strict form. -/
theorem strict?_stored_of_sign {i : Instant} (h : ¬ (0 ≤ i.year ∧ i.year ≤ 9999)) :
    strict? i.stored = none := by
  have hf : ∀ (c : Char) (rest : List Char), isDigit c = false →
      field? 4 0 9999 (c :: rest) = none := by
    intro c rest hc
    simp [field?, natural?, hc]
  simp only [strict?, toList_stored, yearText, if_neg h]
  split
  · rw [List.cons_append, hf _ _ (by decide)]
    rfl
  · rw [List.cons_append, hf _ _ (by decide)]
    rfl

/-- A year that starts with a digit has no sign. -/
theorem yearNumber_cons {c : Char} (hc : isDigit c = true) (cs : List Char) :
    yearNumber (c :: cs) = (number 4 (c :: cs)).map fun (n, rest) => ((n : Int), rest) := by
  unfold yearNumber
  split
  · rename_i heq
    rw [(List.cons.inj heq).1] at hc
    exact absurd hc (by decide)
  · rename_i heq
    rw [(List.cons.inj heq).1] at hc
    exact absurd hc (by decide)
  · rfl

theorem yearNumber_padded (width n : Nat) (rest : List Char) :
    yearNumber (padded width n ++ rest) =
      (number 4 (padded width n ++ rest)).map fun (n, rest) => ((n : Int), rest) := by
  obtain ⟨c, cs, hp, hc⟩ := padded_eq_cons width n
  rw [hp, List.cons_append, yearNumber_cons hc]

theorem yearNumber_yearText (year : Int) (rest : List Char) :
    yearNumber (trimStart (yearText year ++ '-' :: rest)) = some (year, '-' :: rest) := by
  have hr : ∀ c ∈ ('-' :: rest).head?, isDigit c = false := by
    intro c h
    simp only [List.head?_cons, Option.mem_some_iff] at h
    rw [← h]
    decide
  have htrim : ∀ (c : Char) (cs : List Char), isWhiteSpace c = false → trimStart (c :: cs) = c :: cs := by
    intro c cs hc
    simp [trimStart, hc]
  unfold yearText
  split
  · rename_i h
    have hlt : year.toNat < 10 ^ 4 := by omega
    rw [trimStart_padded, yearNumber_padded, number_padded _ (by omega) hlt]
    simp only [Option.map_some, Option.some.injEq, Prod.mk.injEq, and_true]
    omega
  split
  · rw [List.cons_append, htrim _ _ (by decide), yearNumber, longNumber_padded hr]
    simp only [Option.map_some, Option.some.injEq, Prod.mk.injEq, and_true]
    omega
  · rw [List.cons_append, htrim _ _ (by decide), yearNumber, longNumber_padded hr]
    simp only [Option.map_some, Option.some.injEq, Prod.mk.injEq, and_true]
    omega

theorem loose?_stored (i : Instant) : loose? i.stored = some i := by
  obtain ⟨hm, hd, hh, hmin, hs, hn⟩ := Civil.bounds_of_isValid i.valid
  simp only [loose?, storedDate, storedTime, storedSeconds, toList_stored, yearNumber_yearText,
    trimStart_padded,
    number_padded _ (by omega) (show i.month < 10 ^ 2 by omega),
    number_padded _ (by omega) (show i.day < 10 ^ 2 by omega),
    number_padded _ (by omega) (show i.hour < 10 ^ 2 by omega),
    number_padded _ (by omega) (show i.minute < 10 ^ 2 by omega),
    number_padded _ (by omega) (show i.second < 10 ^ 2 by omega),
    optionalFraction_fractionText hn (show '+' ≠ '.' by decide) (by decide),
    mark?, storedZone_stored, if_true, Option.bind_eq_bind, Option.bind_some]
  rw [Civil.instant?_zero i]
  rfl

/-- **What the database keeps of an instant is read back as that instant.** -/
theorem ofStored?_stored (i : Instant) : ofStored? i.stored = some i := by
  unfold ofStored?
  by_cases h : 0 ≤ i.year ∧ i.year ≤ 9999
  · rw [strict?_stored h.1 h.2]
    rfl
  · rw [strict?_stored_of_sign h, loose?_stored]
    rfl

end Instant

end Recital
