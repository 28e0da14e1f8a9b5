import Mathlib.Data.List.TakeWhile
import Recital.Proofs.Catalogue.Clock
import Recital.Proofs.Instant.Milliseconds

/-!
# What the database reads of a stored instant

* `clock?_timeText` : the time of day of a stored instant, which a leap second has not.
* `calendarDate?_fields`, `calendarDate?_long` : its date, if the year has four digits.
* `timeOnly?_yearText`, `dayNumber?_yearText` : it has no other form that is read.
* `ofInstant?_of_leap`, `ofInstant?_of_year` : the instants that are not read at all.
* `ofInstant?_of_read` : the others, to the nearest millisecond of their day.
-/

set_option autoImplicit false

namespace Recital.JulianDay

open Text Instant

variable {c : Civil} {nano : Nat}

/-! ## The time of day -/

/-- The zone of a stored instant. -/
def zoneText : List Char := ['+', '0', '0', ':', '0', '0']

/-- The time of day of a stored instant. -/
def timeText (c : Civil) : List Char :=
  padded 2 c.hour ++ ':' :: (padded 2 c.minute ++ ':' :: (padded 2 c.second ++
    (fractionText c.nano ++ zoneText)))

theorem zone_zoneText : zone zoneText = some 0 := by
  decide

theorem fractionDigits_padded (width n : Nat) :
    fractionDigits ('.' :: (padded width n ++ zoneText)) = (padded width n, zoneText) := by
  have hhead : ∀ c ∈ zoneText.head?, isDigit c = false := by
    intro c hc
    obtain rfl := Option.some.inj hc
    decide
  have hdigits : (padded width n ++ zoneText).takeWhile isDigit = padded width n :=
    takeWhile_isDigit_padded hhead
  simp only [fractionDigits, hdigits, if_neg (padded_ne_nil width n), List.drop_left]

/-- The digits of a fraction write its nanoseconds. -/
theorem fractionDigits_fractionText (hn : nano < 1000000000) :
    ∃ digits, fractionDigits (fractionText nano ++ zoneText) = (digits, zoneText) ∧
      digits.all isDigit = true ∧ digits.length ≤ 9 ∧
      naturalOf digits * 10 ^ (9 - digits.length) = nano := by
  have hpadded : ∀ {width n : Nat}, 0 < width → width ≤ 9 → n < 10 ^ width →
      n * 10 ^ (9 - width) = nano → fractionText nano = '.' :: padded width n →
      ∃ digits, fractionDigits (fractionText nano ++ zoneText) = (digits, zoneText) ∧
        digits.all isDigit = true ∧ digits.length ≤ 9 ∧
        naturalOf digits * 10 ^ (9 - digits.length) = nano := by
    intro width n hpos hle hlt hvalue htext
    have hlen := length_padded hpos hlt
    refine ⟨padded width n, ?_, all_isDigit_padded width n, by omega, ?_⟩
    · rw [htext, List.cons_append, fractionDigits_padded]
    · rw [naturalOf_padded, hlen, hvalue]
  by_cases hzero : nano = 0
  · subst hzero
    exact ⟨[], rfl, rfl, by decide, rfl⟩
  by_cases hmillis : nano % 1000000 = 0
  · have hlt : nano / 1000000 < 10 ^ 3 := by omega
    refine hpadded (by omega) (by omega) hlt ?_ ?_
    · norm_num
      omega
    · rw [fractionText, if_neg hzero, if_pos hmillis]
  by_cases hmicros : nano % 1000 = 0
  · have hlt : nano / 1000 < 10 ^ 6 := by omega
    refine hpadded (by omega) (by omega) hlt ?_ ?_
    · norm_num
      omega
    · rw [fractionText, if_neg hzero, if_neg hmillis, if_pos hmicros]
  · have hlt : nano < 10 ^ 9 := hn
    refine hpadded (by omega) (by omega) hlt (Nat.mul_one nano) ?_
    rw [fractionText, if_neg hzero, if_neg hmillis, if_neg hmicros]

theorem clock?_timeText_eq {digits : List Char} {r : Ratio} (hhour : c.hour ≤ 23)
    (hminute : c.minute ≤ 59) (hsecond : c.second < 60)
    (hdigits : fractionDigits (fractionText c.nano ++ zoneText) = (digits, zoneText))
    (hr : fractionOf? digits = some r) :
    clock? (timeText c) = some ⟨(c.hour * 3600000 + c.minute * 60000 : Nat) - 0 * 60000,
      some ((Ratio.ofNat c.second).add r).rounded⟩ := by
  unfold clock? timeText
  rw [field?_padded _ (by omega) (show c.hour < 10 ^ 2 by omega) (Nat.zero_le _)
    (show c.hour ≤ 24 by omega)]
  simp only [mark?, if_true, Option.bind_eq_bind, Option.bind_some]
  rw [field?_padded _ (by omega) (show c.minute < 10 ^ 2 by omega) (Nat.zero_le _) hminute]
  simp only [Option.bind_some]
  rw [field?_padded _ (by omega) (show c.second < 10 ^ 2 by omega) (Nat.zero_le _)
    (show c.second ≤ 59 by omega)]
  simp only [Option.bind_some, Option.map_some, hdigits, zone_zoneText, hr]

/-- **The time of day is read to the nearest millisecond.** -/
theorem clock?_timeText (hhour : c.hour ≤ 23) (hminute : c.minute ≤ 59) (hsecond : c.second < 60)
    (hnano : c.nano < 1000000000) : ∃ clock, clock? (timeText c) = some clock ∧ ∃ millis : Nat,
      clock.total? = some ((c.hour * 3600000 + c.minute * 60000 + millis : Nat) : Int) ∧
      10 ^ 6 * millis ≤ c.second * 10 ^ 9 + c.nano + 500000 ∧
      c.second * 10 ^ 9 + c.nano ≤ 10 ^ 6 * millis + 500000 := by
  obtain ⟨digits, hdigits, hall, hlen, hvalue⟩ := fractionDigits_fractionText hnano
  obtain ⟨r, hr, hproper, hnear⟩ := fractionOf?_near hlen hall
  have hfraction : (naturalOf digits / 10 ^ digits.length : ℚ) = c.nano / 10 ^ 9 := by
    have hpow : (10 : ℚ) ^ 9 = 10 ^ (9 - digits.length) * 10 ^ digits.length := by
      rw [← pow_add, Nat.sub_add_cancel hlen]
    rw [← hvalue, hpow]
    push_cast
    field_simp
  rw [hfraction] at hnear
  refine ⟨_, clock?_timeText_eq hhour hminute hsecond hdigits hr, _, ?_,
    secondMillis_near hsecond hnano hproper hnear⟩
  rw [Clock.total?, Option.map_some, Int.zero_mul, Int.sub_zero, ← Int.natCast_add]

/-- A leap second is no time of day. -/
theorem clock?_timeText_of_leap (hhour : c.hour ≤ 23) (hminute : c.minute ≤ 59) (hsecond : c.second = 60) :
    clock? (timeText c) = none := by
  simp only [clock?, timeText, mark?, if_true,
    field?_padded _ (by omega) (show c.hour < 10 ^ 2 by omega) (Nat.zero_le _) (show c.hour ≤ 24 by omega),
    field?_padded _ (by omega) (show c.minute < 10 ^ 2 by omega) (Nat.zero_le _) hminute,
    field?_padded_of_lt _ (by omega) (show c.second < 10 ^ 2 by omega) (show 59 < c.second by omega),
    Option.bind_eq_bind, Option.bind_some, Option.map_none, Option.bind_none]

/-! ## The date -/

/-- A date with an optional time of day, after its sign. -/
def calendarDate? (sign : Int) (cs : List Char) : Option (Option Int) := do
  let (year, cs) ← field? 4 0 9999 cs
  let cs ← mark? '-' cs
  let (month, cs) ← field? 2 1 12 cs
  let cs ← mark? '-' cs
  let (day, cs) ← field? 2 1 31 cs
  let cs := cs.dropWhile fun c => isGap c || c = 'T'
  let clock ← if cs = [] then some ⟨0, some (.ofNat 0)⟩ else clock? cs
  let year := sign * (year : Int)
  some (if year < -4713 then none else clock.total?.map (dayMillis year month day + ·))

theorem date?_minus (cs : List Char) : date? ('-' :: cs) = calendarDate? (-1) cs :=
  rfl

theorem date?_of_ne {c : Char} {cs : List Char} (h : c ≠ '-') :
    date? (c :: cs) = calendarDate? 1 (c :: cs) := by
  unfold date?
  split
  rename_i sign rest hsigned
  split at hsigned
  · rename_i heq
    exact absurd (List.cons.inj heq).1 h
  · obtain ⟨rfl, rfl⟩ := Prod.mk.inj hsigned
    rfl

theorem ne_of_isDigit {c d : Char} (hc : isDigit c = true) (hd : isDigit d = false) : c ≠ d := by
  rintro rfl
  cases hc.symm.trans hd

theorem isGap_of_isDigit {c : Char} (h : isDigit c = true) : isGap c = false := by
  obtain ⟨hchar, hvalue⟩ := toNat_of_isDigit h
  have hzero : '0'.toNat = 48 := rfl
  have hspace : c ≠ ' ' := ne_of_isDigit h (by decide)
  have hhigh : ¬ c ≤ '\r' := by
    intro hle
    have hle' : c.toNat ≤ 13 := hle
    omega
  simp [isGap, hspace, hhigh]

/-- The day of a year of four digits, with its time of day. -/
theorem calendarDate?_fields (sign : Int) {year : Nat} (hyear : year ≤ 9999)
    (hmonth : 1 ≤ c.month ∧ c.month ≤ 12) (hday : 1 ≤ c.day ∧ c.day ≤ 31) :
    calendarDate? sign (padded 4 year ++ '-' :: (padded 2 c.month ++ '-' :: (padded 2 c.day ++
      'T' :: timeText c))) = (clock? (timeText c)).map fun clock =>
        if sign * year < -4713 then none
        else clock.total?.map (dayMillis (sign * year) c.month c.day + ·) := by
  have hdrop : ('T' :: timeText c).dropWhile (fun c => isGap c || c = 'T') = timeText c := by
    obtain ⟨d, cs, hpadded, hdigit⟩ := padded_eq_cons 2 c.hour
    have hne : d ≠ 'T' := ne_of_isDigit hdigit (by decide)
    rw [timeText, hpadded]
    simp [isGap_of_isDigit hdigit, hne]
  have hfull : timeText c ≠ [] := by
    rw [timeText]
    exact List.append_ne_nil_of_left_ne_nil (padded_ne_nil _ _) _
  unfold calendarDate?
  rw [field?_padded _ (by omega) (show year < 10 ^ 4 by omega) (Nat.zero_le _) hyear]
  simp only [mark?, if_true, Option.bind_eq_bind, Option.bind_some]
  rw [field?_padded _ (by omega) (show c.month < 10 ^ 2 by omega) hmonth.1 hmonth.2]
  simp only [if_true, Option.bind_some]
  rw [field?_padded _ (by omega) (show c.day < 10 ^ 2 by omega) hday.1 hday.2]
  simp only [Option.bind_some, hdrop, if_neg hfull]
  cases clock? (timeText c) <;> rfl

/-! ## Forms that are not read -/

/-- Where more digits follow a field, no mark does. -/
theorem field?_of_longer {width : Nat} {digits : List Char} (low high : Nat) (rest : List Char)
    (hall : digits.all isDigit = true) (hlen : width < digits.length) :
    field? width low high (digits ++ rest) = none ∨ ∃ n after,
      field? width low high (digits ++ rest) = some (n, after) ∧
        ∀ mark, isDigit mark = false → mark? mark after = none := by
  have hdrop : (digits ++ rest).drop width = digits.drop width ++ rest :=
    List.drop_append_of_le_length (by omega)
  obtain ⟨d, ds, hcons⟩ := List.exists_cons_of_length_pos (l := digits.drop width) (by
    rw [List.length_drop]
    omega)
  have hdigit : isDigit d = true := by
    refine List.all_eq_true.1 hall d (List.mem_of_mem_drop (i := width) ?_)
    rw [hcons]
    exact List.mem_cons_self ..
  unfold field?
  split
  · split
    · refine Or.inr ⟨_, _, rfl, fun mark hmark => ?_⟩
      rw [hdrop, hcons, List.cons_append, mark?, if_neg (ne_of_isDigit hdigit hmark)]
    · exact Or.inl rfl
  · exact Or.inl rfl

/-- A field does not start with a sign. -/
theorem field?_of_not_digit {width low high : Nat} {d : Char} (cs : List Char) (hd : isDigit d = false) :
    field? (width + 1) low high (d :: cs) = none := by
  simp [field?, natural?, hd]

/-- A year of more than four digits is not read. -/
theorem calendarDate?_long {sign : Int} {year : Nat} (rest : List Char) (h : 9999 < year) :
    calendarDate? sign (padded 4 year ++ rest) = none := by
  have hlen : 4 < (padded 4 year).length := by
    have hdigits : ¬ (Nat.toDigits 10 year).length ≤ 4 := fun hle =>
      absurd ((Nat.length_toDigits_le_iff (by decide) (by decide)).1 hle) (by omega)
    simp only [padded, List.length_append, List.length_replicate]
    omega
  unfold calendarDate?
  rcases field?_of_longer 0 9999 rest (all_isDigit_padded 4 year) hlen with
    hnone | ⟨n, after, hfield, hmark⟩
  · rw [hnone]
    rfl
  · simp only [hfield, hmark '-' (by decide), Option.bind_eq_bind, Option.bind_some, Option.bind_none]

/-- The text of a year is four digits or more, after a sign or none. -/
theorem yearText_eq (year : Int) : ∃ signs ∈ [[], ['-'], ['+']],
    yearText year = signs ++ padded 4 year.natAbs := by
  unfold yearText
  split
  · refine ⟨[], by simp, ?_⟩
    have habs : year.toNat = year.natAbs := by omega
    rw [habs, List.nil_append]
  split
  · exact ⟨['-'], by simp, rfl⟩
  · exact ⟨['+'], by simp, rfl⟩

/-- A year is no hour. -/
theorem timeOnly?_yearText (year : Int) (rest : List Char) : timeOnly? (yearText year ++ rest) = none := by
  have hclock : clock? (yearText year ++ rest) = none := by
    obtain ⟨signs, hsigns, htext⟩ := yearText_eq year
    rw [htext, List.append_assoc]
    unfold clock?
    simp only [List.mem_cons, List.not_mem_nil, or_false] at hsigns
    rcases hsigns with rfl | rfl | rfl
    · have hlen : 2 < (padded 4 year.natAbs).length := (by decide : 2 < 4).trans_le (le_length_padded _ _)
      rw [List.nil_append]
      rcases field?_of_longer 0 24 rest (all_isDigit_padded 4 year.natAbs) hlen with
        hnone | ⟨n, after, hfield, hmark⟩
      · rw [hnone]
        rfl
      · simp only [hfield, hmark ':' (by decide), Option.bind_eq_bind, Option.bind_some, Option.bind_none]
    · rw [List.cons_append, field?_of_not_digit _ (by decide)]
      rfl
    · rw [List.cons_append, field?_of_not_digit _ (by decide)]
      rfl
  rw [timeOnly?, hclock, Option.map_none]

/-- Digits before a date go on with a dash. -/
theorem scan?_padded (n : Nat) (rest : List Char) :
    ∃ number, Decimal.scan? (padded 4 n ++ '-' :: rest) = some (number, '-' :: rest) := by
  have hwhole : (padded 4 n ++ '-' :: rest).takeWhile isDigit = padded 4 n :=
    takeWhile_isDigit_padded (fun c hc => by
      rw [List.head?_cons, Option.mem_some_iff] at hc
      rw [← hc]
      decide)
  have hne : padded 4 n ++ [] ≠ [] := by
    rw [List.append_nil]
    exact padded_ne_nil 4 n
  refine ⟨⟨naturalOf (padded 4 n ++ []), 0 - ([] : List Char).length⟩, ?_⟩
  simp only [Decimal.scan?, hwhole, List.drop_left]
  exact if_neg hne

/-- A year is no number of days. -/
theorem dayNumber?_yearText (year : Int) (rest : List Char) :
    dayNumber? (yearText year ++ '-' :: rest) = none := by
  obtain ⟨signs, hsigns, htext⟩ := yearText_eq year
  obtain ⟨number, hscan⟩ := scan?_padded year.natAbs rest
  have hsign : ∃ negative, sign ((yearText year ++ '-' :: rest).dropWhile isGap) =
      (negative, padded 4 year.natAbs ++ '-' :: rest) := by
    rw [htext, List.append_assoc]
    simp only [List.mem_cons, List.not_mem_nil, or_false] at hsigns
    rcases hsigns with rfl | rfl | rfl
    · refine ⟨false, ?_⟩
      obtain ⟨d, cs, hpadded, hdigit⟩ := padded_eq_cons 4 year.natAbs
      have hplus : d ≠ '+' := ne_of_isDigit hdigit (by decide)
      have hminus : d ≠ '-' := ne_of_isDigit hdigit (by decide)
      rw [hpadded, List.nil_append, List.cons_append, List.dropWhile_cons_of_neg
        (by rw [isGap_of_isDigit hdigit]; decide)]
      unfold sign
      split
      · rename_i heq
        exact absurd (List.cons.inj heq).1 hplus
      · rename_i heq
        exact absurd (List.cons.inj heq).1 hminus
      · rfl
    · exact ⟨true, rfl⟩
    · exact ⟨false, rfl⟩
  obtain ⟨negative, hsign⟩ := hsign
  unfold dayNumber?
  simp only [hsign, hscan, Option.bind_eq_bind, Option.bind_some]
  refine if_neg fun h => ?_
  cases h.1

/-- A stored instant has no NUL. -/
theorem nul_not_mem_stored (i : Instant) : '\x00' ∉ i.stored.toList := by
  have hpadded : ∀ width n, '\x00' ∉ padded width n := by
    intro width n hmem
    have hdigit := List.all_eq_true.1 (all_isDigit_padded width n) _ hmem
    exact absurd hdigit (by decide)
  have hyear : '\x00' ∉ yearText i.year := by
    unfold yearText
    split
    · exact hpadded _ _
    split <;> simp [hpadded]
  have hfraction : '\x00' ∉ fractionText i.nano := by
    unfold fractionText
    split
    · exact List.not_mem_nil
    split
    · simp [hpadded]
    split <;> simp [hpadded]
  rw [toList_stored]
  simp [hpadded, hyear, hfraction]

/-- A stored instant of a year of four digits is a date. -/
theorem date?_stored {i : Instant} (h : i.year.natAbs ≤ 9999) : date? i.stored.toList =
    (clock? (timeText i.toCivil)).map fun clock => if i.year < -4713 then none
      else clock.total?.map (dayMillis i.year i.month i.day + ·) := by
  obtain ⟨hmonth, hday, -, -, -, -⟩ := Civil.bounds_of_isValid i.valid
  rw [toList_stored, yearText]
  by_cases hsign : 0 ≤ i.year
  · have hyear : (1 : Int) * i.year.toNat = i.year := by omega
    have hfields := calendarDate?_fields (c := i.toCivil) 1
      (show i.year.toNat ≤ 9999 by omega) hmonth hday
    rw [hyear] at hfields
    rw [if_pos ⟨hsign, by omega⟩, ← hfields]
    obtain ⟨d, cs, hpadded, hdigit⟩ := padded_eq_cons 4 i.year.toNat
    rw [hpadded]
    exact date?_of_ne (ne_of_isDigit hdigit (by decide))
  · have hyear : (-1 : Int) * i.year.natAbs = i.year := by omega
    have hfields := calendarDate?_fields (c := i.toCivil) (-1) h hmonth hday
    rw [hyear] at hfields
    rw [if_neg (fun hboth => hsign hboth.1), if_pos (by omega), ← hfields]
    exact date?_minus _

/-- One of a year with more digits is none. -/
theorem date?_stored_of_long {i : Instant} (h : 9999 < i.year.natAbs) : date? i.stored.toList = none := by
  rw [toList_stored, yearText]
  by_cases hsign : 0 ≤ i.year
  · rw [if_neg (by omega), if_neg (by omega), List.cons_append, date?_of_ne (by decide), calendarDate?,
      field?_of_not_digit _ (by decide)]
    rfl
  · rw [if_neg (fun hboth => hsign hboth.1), if_pos (by omega), List.cons_append, date?_minus]
    exact calendarDate?_long _ h

/-! ## What is left -/

/-- **A stored instant is read as a date, or not at all.** -/
theorem ofInstant?_eq (i : Instant) : ofInstant? i =
    (date? i.stored.toList).join.filter fun millis => 0 ≤ millis && millis ≤ lastMillis := by
  obtain ⟨d, cs, hcons, -, hhigh⟩ := head_stored i
  have hall : i.stored.toList.takeWhile (fun c => c ≠ '\x00') = i.stored.toList := by
    refine List.takeWhile_eq_self_iff.2 fun d hd => decide_eq_true ?_
    exact ne_of_mem_of_not_mem hd (nul_not_mem_stored i)
  have htime : timeOnly? i.stored.toList = none := by
    rw [toList_stored]
    exact timeOnly?_yearText i.year _
  have hdays : dayNumber? i.stored.toList = none := by
    rw [toList_stored]
    exact dayNumber?_yearText i.year _
  have hword : isCurrent i.stored.toList = false := by
    rw [hcons]
    exact isCurrent_of_head hhigh
  simp only [ofInstant?, julianMillis?, hall, htime, hdays, hword, Bool.false_eq_true, if_false]
  cases date? i.stored.toList <;> rfl

/-- A leap second is not read. -/
theorem ofInstant?_of_leap {i : Instant} (h : i.second = 60) : ofInstant? i = none := by
  obtain ⟨-, -, hhour, hminute, -, -⟩ := Civil.bounds_of_isValid i.valid
  rw [ofInstant?_eq]
  by_cases hyear : i.year.natAbs ≤ 9999
  · rw [date?_stored hyear, clock?_timeText_of_leap hhour hminute h]
    rfl
  · rw [date?_stored_of_long (by omega)]
    rfl

/-- Nor is a year before the start of the period, or after the year 9999. -/
theorem ofInstant?_of_year {i : Instant} (h : i.year < -4713 ∨ 9999 < i.year) : ofInstant? i = none := by
  rw [ofInstant?_eq]
  by_cases hyear : i.year.natAbs ≤ 9999
  · have hearly : i.year < -4713 := by omega
    rw [date?_stored hyear]
    simp only [if_pos hearly]
    cases clock? (timeText i.toCivil) <;> rfl
  · rw [date?_stored_of_long (by omega)]
    rfl

/-- **Every other instant is read to the nearest millisecond of its day.** -/
theorem ofInstant?_of_read {i : Instant} (hsecond : i.second < 60) (hlow : -4713 ≤ i.year)
    (hhigh : i.year ≤ 9999) : ∃ millis : Nat, ofInstant? i =
      (some (dayMillis i.year i.month i.day +
        ((i.hour * 3600000 + i.minute * 60000 + millis : Nat) : Int))).filter
        (fun millis => 0 ≤ millis && millis ≤ lastMillis) ∧
      10 ^ 6 * millis ≤ i.second * 10 ^ 9 + i.nano + 500000 ∧
      i.second * 10 ^ 9 + i.nano ≤ 10 ^ 6 * millis + 500000 := by
  obtain ⟨-, -, hhour, hminute, -, hnano⟩ := Civil.bounds_of_isValid i.valid
  obtain ⟨clock, hclock, millis, htotal, hbounds⟩ := clock?_timeText hhour hminute hsecond hnano
  refine ⟨millis, ?_, hbounds⟩
  rw [ofInstant?_eq, date?_stored (by omega), hclock, Option.map_some, if_neg (by omega), htotal]
  rfl

end Recital.JulianDay
