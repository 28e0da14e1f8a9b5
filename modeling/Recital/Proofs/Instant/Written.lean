import Recital.Proofs.Instant.Stored
import Recital.Proofs.Instant.Moment

/-!
# Texts of dates

* `Instant.Written` : a text writes the fields of a date and a time on a clock that is some minutes ahead.
* `read?_eq_some_iff` : a text is read as an instant where it writes fields that name the instant, and only there.
* `moment_of_written` : the instant stands where the fields do.
* `written_canonical` : the canonical text of an instant writes its fields, on a clock that is not ahead.
* `read?_canonical` : it is read, as the same instant.
-/

set_option autoImplicit false

namespace Recital.Instant

open Text

/-! ## The parts of a text -/

/-- Blanks. -/
def Blank (b : List Char) : Prop :=
  b.all isWhiteSpace = true

/-- A run of digits, at least one of them, and the number that they write. -/
structure Digits (ds : List Char) (n : Nat) : Prop where
  ne_nil : ds ≠ []
  all : ds.all isDigit = true
  value : naturalOf ds = n

/-- A number of one or two digits, after blanks. -/
inductive ShortText : List Char → Nat → Prop where
  | mk {b ds : List Char} {n : Nat} (hblank : Blank b) (hdigits : Digits ds n) (hlen : ds.length ≤ 2) :
      ShortText (b ++ ds) n

/-- A year, after blanks: up to four digits, or a sign and any number of digits. -/
inductive YearText : List Char → Int → Prop where
  | plain {b ds : List Char} {n : Nat} (hblank : Blank b) (hdigits : Digits ds n) (hlen : ds.length ≤ 4) :
      YearText (b ++ ds) n
  | plus {b ds : List Char} {n : Nat} (hblank : Blank b) (hdigits : Digits ds n) :
      YearText (b ++ '+' :: ds) n
  | minus {b ds : List Char} {n : Nat} (hblank : Blank b) (hdigits : Digits ds n) :
      YearText (b ++ '-' :: ds) (-n)

/-- A fraction of a second, cut to the nanosecond. -/
inductive FractionText : List Char → Nat → Prop where
  | none : FractionText [] 0
  | some {ds : List Char} {n : Nat} (hdigits : Digits ds n) :
      FractionText ('.' :: ds) (n * 1000000000 / Nat.pow 10 ds.length)

/-- The signs of an offset, with their factors. -/
inductive SignText : Char → Int → Prop where
  | plus : SignText '+' 1
  | minus : SignText '-' (-1)
  | typographic : SignText '\u2212' (-1)

/-- A zone, as the minutes that its clocks are ahead. -/
inductive ZoneText : List Char → Int → Prop where
  | zulu {c : Char} (h : c = 'Z' ∨ c = 'z') : ZoneText [c] 0
  | utc {cs : List Char} (h : cs.map Char.toUpper = ['U', 'T', 'C']) : ZoneText cs 0
  | offset {c : Char} {sign : Int} {hours gap minutes : List Char} {h m : Nat} (hsign : SignText c sign)
      (hhours : Digits hours h) (hhoursLen : hours.length = 2)
      (hgap : gap.all (fun c => c = ':' || isWhiteSpace c) = true)
      (hminutes : Digits minutes m) (hminutesLen : minutes.length = 2) (hm : m ≤ 59) :
      ZoneText (c :: (hours ++ (gap ++ minutes))) (sign * (60 * h + m : Nat))

/-- A date: year, month and day, blanks allowed before every part and every dash. -/
inductive DayText : List Char → Int → Nat → Nat → Prop where
  | mk {year dash month dash' day : List Char} {y : Int} {m d : Nat} (hyear : YearText year y)
      (hdash : Blank dash) (hmonth : ShortText month m) (hdash' : Blank dash') (hday : ShortText day d) :
      DayText (year ++ (dash ++ '-' :: (month ++ (dash' ++ '-' :: day)))) y m d

/-- A time of day: hour, minute, second and nanosecond. -/
inductive ClockText : List Char → Nat → Nat → Nat → Nat → Prop where
  | mk {hour colon minute colon' second fraction : List Char} {h m s n : Nat} (hhour : ShortText hour h)
      (hcolon : Blank colon) (hminute : ShortText minute m) (hcolon' : Blank colon')
      (hsecond : ShortText second s) (hfraction : FractionText fraction n) :
      ClockText (hour ++ (colon ++ ':' :: (minute ++ (colon' ++ ':' :: (second ++ fraction))))) h m s n

/-- The text writes the fields, on a clock that is `ahead` minutes ahead. -/
inductive Written : List Char → Civil → Int → Prop where
  | mk {c : Civil} {ahead : Int} {separator : Char} {day clock gap zone after : List Char}
      (hday : DayText day c.year c.month c.day) (hseparator : separator ∈ ['T', 't', ' '])
      (hclock : ClockText clock c.hour c.minute c.second c.nano) (hgap : Blank gap)
      (hzone : ZoneText zone ahead) (hafter : Blank after) :
      Written (day ++ separator :: (clock ++ (gap ++ (zone ++ after)))) c ahead

/-! ## What is read is written -/

variable {cs rest : List Char} {n width : Nat} {i : Instant}

theorem exists_blank (cs : List Char) : ∃ b, Blank b ∧ cs = b ++ trimStart cs :=
  ⟨cs.takeWhile isWhiteSpace, List.all_takeWhile, List.takeWhile_append_dropWhile.symm⟩

theorem digits_of_number (h : number width cs = some (n, rest)) :
    ∃ ds, Digits ds n ∧ ds.length ≤ width ∧ cs = ds ++ rest := by
  unfold number at h
  simp only at h
  split at h
  · cases h
  · rename_i hne
    obtain ⟨rfl, rfl⟩ := Prod.mk.inj (Option.some.inj h)
    have hprefix : (cs.take width).takeWhile isDigit <+: cs :=
      (List.takeWhile_prefix _).trans (List.take_prefix _ _)
    refine ⟨_, ⟨hne, List.all_takeWhile, rfl⟩, ?_, List.prefix_iff_eq_append.1 hprefix |>.symm⟩
    exact ((List.takeWhile_prefix _).length_le).trans (List.length_take_le _ _)

theorem shortText_of_number (h : number 2 (trimStart cs) = some (n, rest)) :
    ∃ w, ShortText w n ∧ cs = w ++ rest := by
  obtain ⟨b, hblank, hcs⟩ := exists_blank cs
  obtain ⟨ds, hdigits, hlen, htrim⟩ := digits_of_number h
  refine ⟨b ++ ds, .mk hblank hdigits hlen, ?_⟩
  rw [List.append_assoc, ← htrim, ← hcs]

theorem blank_of_mark? {c : Char} (h : mark? c (trimStart cs) = some rest) :
    ∃ b, Blank b ∧ cs = b ++ c :: rest := by
  obtain ⟨b, hblank, hcs⟩ := exists_blank cs
  refine ⟨b, hblank, ?_⟩
  rw [← mark?_eq_some_iff.1 h, ← hcs]

theorem yearText_of_yearNumber {year : Int} (h : yearNumber (trimStart cs) = some (year, rest)) :
    ∃ w, YearText w year ∧ cs = w ++ rest := by
  obtain ⟨b, hblank, hcs⟩ := exists_blank cs
  generalize trimStart cs = trimmed at h hcs
  subst hcs
  unfold yearNumber at h
  split at h
  · obtain ⟨⟨n, left⟩, hnumber, heq⟩ := Option.map_eq_some_iff.1 h
    obtain ⟨rfl, rfl⟩ := Prod.mk.inj heq
    obtain ⟨ds, hdigits, -, rfl⟩ := digits_of_number hnumber
    exact ⟨b ++ '-' :: ds, .minus hblank hdigits, by simp⟩
  · obtain ⟨⟨n, left⟩, hnumber, heq⟩ := Option.map_eq_some_iff.1 h
    obtain ⟨rfl, rfl⟩ := Prod.mk.inj heq
    obtain ⟨ds, hdigits, -, rfl⟩ := digits_of_number hnumber
    exact ⟨b ++ '+' :: ds, .plus hblank hdigits, by simp⟩
  · obtain ⟨⟨n, left⟩, hnumber, heq⟩ := Option.map_eq_some_iff.1 h
    obtain ⟨rfl, rfl⟩ := Prod.mk.inj heq
    obtain ⟨ds, hdigits, hlen, rfl⟩ := digits_of_number hnumber
    exact ⟨b ++ ds, .plain hblank hdigits hlen, by simp⟩

theorem twoDigits_eq_some (h : twoDigits cs = some (n, rest)) :
    ∃ ds, Digits ds n ∧ ds.length = 2 ∧ cs = ds ++ rest := by
  unfold twoDigits at h
  split at h
  · rename_i a b left
    split at h
    · rename_i x y hx hy
      obtain ⟨rfl, rfl⟩ := Prod.mk.inj (Option.some.inj h)
      refine ⟨[a, b], ⟨List.cons_ne_nil _ _, ?_, ?_⟩, rfl, rfl⟩
      · simp [isDigit, hx, hy]
      · simp only [naturalOf, naturalAfter, hx, hy, Option.getD_some]
        omega
    · cases h
  · cases h

theorem zoneText_of_offset {ahead : Int} (h : offset cs = some (ahead, rest)) :
    ∃ w, ZoneText w ahead ∧ cs = w ++ rest := by
  unfold offset at h
  simp only [Option.bind_eq_bind, Option.bind_eq_some_iff, Prod.exists] at h
  obtain ⟨sign, left, hsign, hour, left', hread, minute, left'', hread', hresult⟩ := h
  split at hresult
  · rename_i hm
    obtain ⟨rfl, rfl⟩ := Prod.mk.inj (Option.some.inj hresult)
    obtain ⟨c, hc, rfl⟩ : ∃ c, SignText c sign ∧ cs = c :: left := by
      unfold offsetSign at hsign
      split at hsign
      · obtain ⟨rfl, rfl⟩ := Prod.mk.inj (Option.some.inj hsign)
        exact ⟨_, .plus, rfl⟩
      · obtain ⟨rfl, rfl⟩ := Prod.mk.inj (Option.some.inj hsign)
        exact ⟨_, .minus, rfl⟩
      · obtain ⟨rfl, rfl⟩ := Prod.mk.inj (Option.some.inj hsign)
        exact ⟨_, .typographic, rfl⟩
      · cases hsign
    obtain ⟨hours, hhours, hhoursLen, rfl⟩ := twoDigits_eq_some hread
    obtain ⟨minutes, hminutes, hminutesLen, hleft⟩ := twoDigits_eq_some hread'
    refine ⟨_, .offset hc hhours hhoursLen (List.all_takeWhile (l := left')) hminutes hminutesLen hm, ?_⟩
    simp only [List.cons_append, List.append_assoc, ← hleft, List.takeWhile_append_dropWhile]
  · cases hresult

/-- A fraction of any number of digits, of which nine count. -/
theorem fraction_digits {ds tail : List Char} (hds : ds ≠ []) (hall : ds.all isDigit = true)
    (htail : ∀ c ∈ tail.head?, isDigit c = false) :
    fraction (ds ++ tail) = some (naturalOf ds * 1000000000 / Nat.pow 10 ds.length, tail) := by
  have hmem := List.all_eq_true.1 hall
  have hread : ((ds ++ tail).take 9).takeWhile isDigit = ds.take 9 := by
    have hstop : tail.takeWhile isDigit = [] := by
      cases tail with
      | nil => rfl
      | cons c tail => simp [htail c (by simp)]
    rw [← List.take_takeWhile, List.takeWhile_append_of_pos hmem, hstop, List.append_nil]
  have hleft : (ds ++ tail).drop (ds.take 9).length = ds.drop 9 ++ tail := by
    rw [List.length_take, List.drop_append_of_le_length (Nat.min_le_right _ _)]
    rcases Nat.le_total 9 ds.length with h | h
    · rw [Nat.min_eq_left h]
    · rw [Nat.min_eq_right h, List.drop_length, List.drop_of_length_le h]
  have hne : ds.take 9 ≠ [] := by simpa [List.take_eq_nil_iff] using hds
  have hnumber : number 9 (ds ++ tail) = some (naturalOf (ds.take 9), ds.drop 9 ++ tail) := by
    rw [number, hread, if_neg hne, hleft]
  have hcount : (ds ++ tail).length - (ds.drop 9 ++ tail).length = min 9 ds.length := by
    simp only [List.length_append, List.length_drop]
    omega
  have hend : (ds.drop 9 ++ tail).dropWhile isDigit = tail := by
    rw [List.dropWhile_append_of_pos fun c hc => hmem c (List.mem_of_mem_drop hc)]
    cases tail with
    | nil => rfl
    | cons c tail => simp [htail c (by simp)]
  have hvalue : naturalOf (ds.take 9) * Nat.pow 10 (9 - min 9 ds.length) =
      naturalOf ds * 1000000000 / Nat.pow 10 ds.length := by
    rw [naturalOf_take hall, show 1000000000 = Nat.pow 10 9 by rfl]
    simp only [Nat.pow_eq]
    rcases Nat.le_total 9 ds.length with h | h
    · have hpow : 10 ^ ds.length = 10 ^ (ds.length - 9) * 10 ^ 9 := by
        rw [← Nat.pow_add, Nat.sub_add_cancel h]
      rw [Nat.min_eq_left h, Nat.sub_self, Nat.pow_zero, Nat.mul_one, hpow,
        Nat.mul_div_mul_right _ _ (Nat.pow_pos (by decide))]
    · have hpow : 10 ^ 9 = 10 ^ (9 - ds.length) * 10 ^ ds.length := by
        rw [← Nat.pow_add, Nat.sub_add_cancel h]
      rw [Nat.min_eq_right h, Nat.sub_eq_zero_of_le h, Nat.pow_zero, Nat.div_one, hpow, ← Nat.mul_assoc,
        Nat.mul_div_cancel _ (Nat.pow_pos (by decide))]
  simp only [fraction, hnumber, hcount, hend, hvalue]

theorem fractionText_of_optionalFraction {nano : Nat} (h : optionalFraction cs = some (nano, rest)) :
    ∃ w, FractionText w nano ∧ cs = w ++ rest := by
  unfold optionalFraction at h
  split at h
  · rename_i left
    by_cases hds : left.takeWhile isDigit = []
    · have hnone : number 9 left = none := by
        rw [number, ← List.take_takeWhile, hds]
        rfl
      rw [fraction, hnone] at h
      cases h
    · have hall : (left.takeWhile isDigit).all isDigit = true := List.all_takeWhile
      have htail : ∀ c ∈ (left.dropWhile isDigit).head?, isDigit c = false := by
        intro c hc
        have hnot := List.head?_dropWhile_not isDigit left
        rw [Option.mem_def.1 hc] at hnot
        exact hnot
      have hread := fraction_digits hds hall htail
      rw [List.takeWhile_append_dropWhile, h] at hread
      obtain ⟨rfl, rfl⟩ := Prod.mk.inj (Option.some.inj hread)
      refine ⟨_, .some ⟨hds, hall, rfl⟩, ?_⟩
      rw [List.cons_append, List.takeWhile_append_dropWhile]
  · obtain ⟨rfl, rfl⟩ := Prod.mk.inj (Option.some.inj h)
    exact ⟨[], .none, rfl⟩

theorem zoneText_of_zone {ahead : Int} (h : zone cs = some (ahead, rest)) :
    ∃ w, ZoneText w ahead ∧ cs = w ++ rest := by
  unfold zone at h
  split at h
  · rename_i hutc
    obtain ⟨rfl, rfl⟩ := Prod.mk.inj (Option.some.inj h)
    exact ⟨cs.take 3, .utc hutc, (List.take_append_drop 3 cs).symm⟩
  split at h
  · obtain ⟨rfl, rfl⟩ := Prod.mk.inj (Option.some.inj h)
    exact ⟨_, .zulu (Or.inl rfl), rfl⟩
  · obtain ⟨rfl, rfl⟩ := Prod.mk.inj (Option.some.inj h)
    exact ⟨_, .zulu (Or.inr rfl), rfl⟩
  · exact zoneText_of_offset h

theorem dayText_of_relaxedDate {year : Int} {month day : Nat}
    (h : relaxedDate cs = some ((year, month, day), rest)) :
    ∃ w, DayText w year month day ∧ cs = w ++ rest := by
  unfold relaxedDate at h
  simp only [Option.bind_eq_bind, Option.bind_eq_some_iff, Prod.exists] at h
  obtain ⟨_, _, h₁, _, h₂, _, _, h₃, _, h₄, _, _, h₅, hresult⟩ := h
  obtain ⟨⟨rfl, rfl, rfl⟩, rfl⟩ : (_ ∧ _ ∧ _) ∧ _ := by simpa using hresult
  obtain ⟨_, hyear, rfl⟩ := yearText_of_yearNumber h₁
  obtain ⟨_, hdash, rfl⟩ := blank_of_mark? h₂
  obtain ⟨_, hmonth, rfl⟩ := shortText_of_number h₃
  obtain ⟨_, hdash', rfl⟩ := blank_of_mark? h₄
  obtain ⟨_, hday, rfl⟩ := shortText_of_number h₅
  exact ⟨_, .mk hyear hdash hmonth hdash' hday, by simp⟩

theorem clockText_of_relaxedTime {hour minute second nano : Nat}
    (h : relaxedTime cs = some ((hour, minute, second, nano), rest)) :
    ∃ w, ClockText w hour minute second nano ∧ cs = w ++ rest := by
  unfold relaxedTime at h
  simp only [Option.bind_eq_bind, Option.bind_eq_some_iff, Prod.exists] at h
  obtain ⟨_, _, h₁, _, h₂, _, _, h₃, _, h₄, _, _, h₅, _, _, h₆, hresult⟩ := h
  obtain ⟨⟨rfl, rfl, rfl, rfl⟩, rfl⟩ : (_ ∧ _ ∧ _ ∧ _) ∧ _ := by simpa using hresult
  obtain ⟨_, hhour, rfl⟩ := shortText_of_number h₁
  obtain ⟨_, hcolon, rfl⟩ := blank_of_mark? h₂
  obtain ⟨_, hminute, rfl⟩ := shortText_of_number h₃
  obtain ⟨_, hcolon', rfl⟩ := blank_of_mark? h₄
  obtain ⟨_, hsecond, rfl⟩ := shortText_of_number h₅
  obtain ⟨_, hfraction, rfl⟩ := fractionText_of_optionalFraction h₆
  exact ⟨_, .mk hhour hcolon hminute hcolon' hsecond hfraction, by simp⟩

theorem separator_eq_some (h : separator cs = some rest) : ∃ c ∈ ['T', 't', ' '], cs = c :: rest := by
  unfold separator at h
  split at h
  · exact ⟨'T', by simp, by rw [Option.some.inj h]⟩
  · exact ⟨'t', by simp, by rw [Option.some.inj h]⟩
  · exact ⟨' ', by simp, by rw [Option.some.inj h]⟩
  · cases h

/-- The fields that a text writes and the minutes that its clock is ahead, before it is said whether they name an
instant. -/
def fields? (s : String) : Option (Civil × Int) := do
  let ((year, month, day), cs) ← relaxedDate s.toList
  let cs ← separator cs
  let ((hour, minute, second, nano), cs) ← relaxedTime cs
  let (ahead, cs) ← zone (trimStart cs)
  if trimStart cs = [] then some (⟨year, month, day, hour, minute, second, nano⟩, ahead) else none

theorem read?_eq (s : String) :
    read? s = (fields? s).bind fun (written : Civil × Int) => written.1.instant? written.2 := by
  simp only [read?, fields?, Option.bind_eq_bind, Option.bind_assoc]
  congr 1
  funext ⟨⟨year, month, day⟩, cs⟩
  congr 1
  funext cs
  congr 1
  funext ⟨⟨hour, minute, second, nano⟩, cs⟩
  congr 1
  funext ⟨ahead, cs⟩
  dsimp only
  split <;> rfl

theorem written_of_fields? {s : String} {c : Civil} {ahead : Int} (h : fields? s = some (c, ahead)) :
    Written s.toList c ahead := by
  unfold fields? at h
  simp only [Option.bind_eq_bind, Option.bind_eq_some_iff, Prod.exists] at h
  obtain ⟨year, month, day, cs, hdate, cs', hsep, hour, minute, second, nano, cs'', htime, ahead', after, hzone,
    h⟩ := h
  split at h
  · rename_i hafter
    obtain ⟨rfl, rfl⟩ := Prod.mk.inj (Option.some.inj h)
    obtain ⟨_, hday, hs⟩ := dayText_of_relaxedDate hdate
    obtain ⟨_, hseparator, rfl⟩ := separator_eq_some hsep
    obtain ⟨_, hclock, rfl⟩ := clockText_of_relaxedTime htime
    obtain ⟨gap, hgap, hcs⟩ := exists_blank cs''
    obtain ⟨zoned, hzoned, htrim⟩ := zoneText_of_zone hzone
    obtain ⟨blank, hblank, hend⟩ := exists_blank after
    rw [hafter, List.append_nil] at hend
    rw [hs, hcs, htrim, hend]
    exact .mk hday hseparator hclock hgap hzoned hblank
  · cases h

/-! ## What is written is read -/

/-- No digit comes next. -/
def Stops (cs : List Char) : Prop :=
  ∀ c ∈ cs.head?, isDigit c = false

theorem stops_cons {c : Char} (h : isDigit c = false) (cs : List Char) : Stops (c :: cs) := by
  intro d hd
  rw [List.head?_cons, Option.mem_some_iff] at hd
  rwa [← hd]

theorem stops_blank {b : List Char} (hblank : Blank b) (h : Stops cs) : Stops (b ++ cs) := by
  cases b with
  | nil => exact h
  | cons c b =>
    have hwhite : isWhiteSpace c = true := List.all_eq_true.1 hblank c (List.mem_cons_self ..)
    refine stops_cons (Bool.eq_false_iff.2 fun hdigit => ?_) _
    rw [isWhiteSpace_of_isDigit hdigit] at hwhite
    cases hwhite

theorem trimStart_cons {c : Char} (h : isWhiteSpace c = false) (cs : List Char) :
    trimStart (c :: cs) = c :: cs := by
  simp [trimStart, h]

theorem trimStart_blank {b : List Char} (hblank : Blank b) (cs : List Char) :
    trimStart (b ++ cs) = trimStart cs :=
  List.dropWhile_append_of_pos (List.all_eq_true.1 hblank)

theorem Digits.eq_cons {ds : List Char} (h : Digits ds n) : ∃ c left, ds = c :: left ∧ isDigit c = true := by
  cases ds with
  | nil => exact absurd rfl h.ne_nil
  | cons c left => exact ⟨c, left, rfl, List.all_eq_true.1 h.all c (List.mem_cons_self ..)⟩

theorem trimStart_digits {ds : List Char} (h : Digits ds n) (cs : List Char) :
    trimStart (ds ++ cs) = ds ++ cs := by
  obtain ⟨c, left, rfl, hc⟩ := h.eq_cons
  exact trimStart_cons (isWhiteSpace_of_isDigit hc) _

theorem number_digits {ds : List Char} (h : Digits ds n) (hlen : ds.length ≤ width) (hstops : Stops rest) :
    number width (ds ++ rest) = some (n, rest) := by
  obtain ⟨hne, hall, rfl⟩ := h
  have hread : ((ds ++ rest).take width).takeWhile isDigit = ds := by
    have hrest : rest.takeWhile isDigit = [] := by
      cases rest with
      | nil => rfl
      | cons c rest => simp [hstops c (by simp)]
    rw [← List.take_takeWhile, List.takeWhile_append_of_pos (List.all_eq_true.1 hall), hrest, List.append_nil,
      List.take_of_length_le hlen]
  rw [number, hread, if_neg hne, List.drop_left]

theorem number_shortText {w : List Char} (h : ShortText w n) (hstops : Stops rest) :
    number 2 (trimStart (w ++ rest)) = some (n, rest) := by
  obtain ⟨hblank, hdigits, hlen⟩ := h
  rw [List.append_assoc, trimStart_blank hblank, trimStart_digits hdigits, number_digits hdigits hlen hstops]

theorem mark?_blank {b : List Char} {c : Char} (hblank : Blank b) (hc : isWhiteSpace c = false) :
    mark? c (trimStart (b ++ c :: rest)) = some rest := by
  rw [trimStart_blank hblank, trimStart_cons hc, mark?, if_pos rfl]

theorem yearNumber_written {w : List Char} {year : Int} (h : YearText w year) (hstops : Stops rest) :
    yearNumber (trimStart (w ++ rest)) = some (year, rest) := by
  have hlong : ∀ {ds : List Char} {n : Nat}, Digits ds n → longNumber (ds ++ rest) = some (n, rest) :=
    fun hdigits => number_digits hdigits (by simp) hstops
  cases h with
  | plain hblank hdigits hlen =>
    have hnumber := number_digits hdigits hlen hstops
    obtain ⟨c, left, rfl, hc⟩ := hdigits.eq_cons
    rw [List.append_assoc, trimStart_blank hblank, trimStart_digits hdigits, List.cons_append,
      yearNumber_cons hc, ← List.cons_append, hnumber]
    rfl
  | plus hblank hdigits =>
    rw [List.append_assoc, trimStart_blank hblank, List.cons_append, trimStart_cons (by decide), yearNumber,
      hlong hdigits]
    rfl
  | minus hblank hdigits =>
    rw [List.append_assoc, trimStart_blank hblank, List.cons_append, trimStart_cons (by decide), yearNumber,
      hlong hdigits]
    rfl

theorem twoDigits_digits {ds : List Char} (h : Digits ds n) (hlen : ds.length = 2) (rest : List Char) :
    twoDigits (ds ++ rest) = some (n, rest) := by
  obtain ⟨-, hall, rfl⟩ := h
  obtain ⟨a, b, rfl⟩ := List.length_eq_two.1 hlen
  simp only [List.all_cons, List.all_nil, Bool.and_true, Bool.and_eq_true] at hall
  simp only [List.cons_append, List.nil_append, twoDigits, naturalOf, naturalAfter,
    digitValue?_of_isDigit hall.1, digitValue?_of_isDigit hall.2, Option.getD_some]
  congr 2
  omega

theorem offset_written {c : Char} {sign : Int} {hours gap minutes : List Char} {h m : Nat}
    (hsign : SignText c sign) (hhours : Digits hours h) (hhoursLen : hours.length = 2)
    (hgap : gap.all (fun c => c = ':' || isWhiteSpace c) = true) (hminutes : Digits minutes m)
    (hminutesLen : minutes.length = 2) (hm : m ≤ 59) (rest : List Char) :
    offset (c :: (hours ++ (gap ++ (minutes ++ rest)))) = some (sign * (60 * h + m : Nat), rest) := by
  have hread : ∀ cs, offsetSign (c :: cs) = some (sign, cs) := by
    intro cs
    cases hsign <;> rfl
  have hdrop : (gap ++ (minutes ++ rest)).dropWhile (fun c => c = ':' || isWhiteSpace c) = minutes ++ rest := by
    obtain ⟨d, left, rfl, hd⟩ := hminutes.eq_cons
    have hcolon : d ≠ ':' := by
      rintro rfl
      cases hd
    rw [List.dropWhile_append_of_pos (List.all_eq_true.1 hgap), List.cons_append, List.dropWhile_cons_of_neg]
    simp [hcolon, isWhiteSpace_of_isDigit hd]
  simp only [offset, hread, twoDigits_digits hhours hhoursLen, hdrop, twoDigits_digits hminutes hminutesLen,
    if_pos hm, Option.bind_eq_bind, Option.bind_some]

theorem eq_of_toUpper {c : Char} (h : c.toUpper = 'U') : c = 'U' ∨ c = 'u' := by
  unfold Char.toUpper at h
  split at h
  · refine .inr (Char.ext ?_)
    have hval := congrArg Char.val h
    rw [show 'U'.val = 'u'.val + ('A'.val - 'a'.val) by decide] at hval
    exact (UInt32.add_left_inj _).1 hval
  · exact .inl h

/-- A zone starts with a character that goes on neither a number nor a fraction, and is no blank. -/
theorem zoneText_head {w : List Char} {ahead : Int} (h : ZoneText w ahead) :
    ∃ c left, w = c :: left ∧ isDigit c = false ∧ isWhiteSpace c = false ∧ c ≠ '.' := by
  cases h with
  | zulu hz =>
    refine ⟨_, [], rfl, ?_⟩
    rcases hz with rfl | rfl <;> decide
  | offset hsign =>
    refine ⟨_, _, rfl, ?_⟩
    cases hsign <;> decide
  | utc hutc =>
    obtain ⟨c, left, rfl, hc, -⟩ := List.map_eq_cons_iff.1 hutc
    refine ⟨c, left, rfl, ?_⟩
    rcases eq_of_toUpper hc with rfl | rfl <;> decide

theorem zone_written {w : List Char} {ahead : Int} (h : ZoneText w ahead) (rest : List Char) :
    zone (w ++ rest) = some (ahead, rest) := by
  cases h with
  | zulu hz =>
    rcases hz with rfl | rfl <;> rfl
  | utc hutc =>
    have hlen : w.length = 3 := by simpa using congrArg List.length hutc
    unfold zone
    rw [List.take_append_of_le_length hlen.ge, List.take_of_length_le hlen.le, if_pos hutc,
      List.drop_append_of_le_length hlen.ge, List.drop_of_length_le hlen.le, List.nil_append]
  | offset hsign hhours hhoursLen hgap hminutes hminutesLen hm =>
    have hoffset := offset_written hsign hhours hhoursLen hgap hminutes hminutesLen hm rest
    simp only [List.cons_append, List.append_assoc]
    cases hsign <;> exact hoffset

theorem optionalFraction_written {w : List Char} {nano : Nat} (h : FractionText w nano) (hstops : Stops rest)
    (hrest : ∀ left, rest ≠ '.' :: left) :
    optionalFraction (w ++ rest) = some (nano, rest) := by
  cases h with
  | none =>
    unfold optionalFraction
    split
    · rename_i heq
      exact absurd heq (hrest _)
    · rfl
  | some hdigits =>
    obtain ⟨hne, hall, rfl⟩ := hdigits
    exact fraction_digits hne hall hstops

theorem relaxedDate_written {w : List Char} {year : Int} {month day : Nat} (h : DayText w year month day)
    (hstops : Stops rest) : relaxedDate (w ++ rest) = some ((year, month, day), rest) := by
  obtain ⟨hyear, hdash, hmonth, hdash', hday⟩ := h
  have hminus : ∀ cs, Stops ('-' :: cs) := stops_cons (by decide)
  simp only [relaxedDate, List.append_assoc, List.cons_append]
  rw [yearNumber_written hyear (stops_blank hdash (hminus _))]
  simp only [Option.bind_eq_bind, Option.bind_some]
  rw [mark?_blank hdash (by decide), Option.bind_some, number_shortText hmonth (stops_blank hdash' (hminus _)),
    Option.bind_some, mark?_blank hdash' (by decide), Option.bind_some, number_shortText hday hstops]
  rfl

theorem relaxedTime_written {w : List Char} {hour minute second nano : Nat}
    (h : ClockText w hour minute second nano) (hstops : Stops rest) (hrest : ∀ left, rest ≠ '.' :: left) :
    relaxedTime (w ++ rest) = some ((hour, minute, second, nano), rest) := by
  obtain ⟨hhour, hcolon, hminute, hcolon', hsecond, hfraction⟩ := h
  have hmark : ∀ cs, Stops (':' :: cs) := stops_cons (by decide)
  have hnext : ∀ {w}, FractionText w nano → Stops (w ++ rest) := by
    intro w h
    cases h with
    | none => exact hstops
    | some => exact stops_cons (by decide) _
  simp only [relaxedTime, List.append_assoc, List.cons_append]
  rw [number_shortText hhour (stops_blank hcolon (hmark _))]
  simp only [Option.bind_eq_bind, Option.bind_some]
  rw [mark?_blank hcolon (by decide), Option.bind_some, number_shortText hminute (stops_blank hcolon' (hmark _)),
    Option.bind_some, mark?_blank hcolon' (by decide), Option.bind_some,
    number_shortText hsecond (hnext hfraction), Option.bind_some,
    optionalFraction_written hfraction hstops hrest]
  rfl

theorem separator_of_mem {c : Char} (h : c ∈ ['T', 't', ' ']) :
    (∀ cs, separator (c :: cs) = some cs) ∧ isDigit c = false := by
  simp only [List.mem_cons, List.not_mem_nil, or_false] at h
  rcases h with rfl | rfl | rfl <;> exact ⟨fun _ => rfl, by decide⟩

/-- Where a zone follows, the time of day ends. -/
theorem zone_follows {gap w : List Char} {ahead : Int} (hgap : Blank gap) (hzone : ZoneText w ahead)
    (after : List Char) : trimStart (gap ++ (w ++ after)) = w ++ after ∧ Stops (gap ++ (w ++ after)) ∧
      ∀ left, gap ++ (w ++ after) ≠ '.' :: left := by
  obtain ⟨c, cs, rfl, hdigit, hwhite, hpoint⟩ := zoneText_head hzone
  refine ⟨?_, stops_blank hgap (stops_cons hdigit _), ?_⟩
  · rw [trimStart_blank hgap, List.cons_append, trimStart_cons hwhite]
  · intro left heq
    cases gap with
    | nil => exact hpoint (List.cons.inj heq).1
    | cons d gap =>
      have hd : isWhiteSpace d = true := List.all_eq_true.1 hgap d (List.mem_cons_self ..)
      rw [(List.cons.inj heq).1] at hd
      cases hd

theorem fields?_of_written {s : String} {c : Civil} {ahead : Int} (h : Written s.toList c ahead) :
    fields? s = some (c, ahead) := by
  unfold fields?
  generalize s.toList = cs at h
  cases h with
  | mk hday hseparator hclock hgap hzone hafter =>
    obtain ⟨hseparates, hsep⟩ := separator_of_mem hseparator
    obtain ⟨htrim, hstops, hpoint⟩ := zone_follows hgap hzone _
    have hend := trimStart_blank hafter []
    rw [List.append_nil] at hend
    rw [relaxedDate_written hday (stops_cons hsep _)]
    simp only [Option.bind_eq_bind, Option.bind_some, hseparates]
    rw [relaxedTime_written hclock hstops hpoint]
    simp only [Option.bind_some, htrim, zone_written hzone, hend]
    rfl

/-- **A text is read as an instant where it writes fields that name the instant, and only there.** -/
theorem read?_eq_some_iff {s : String} :
    read? s = some i ↔ ∃ c ahead, Written s.toList c ahead ∧ c.instant? ahead = some i := by
  rw [read?_eq, Option.bind_eq_some_iff, Prod.exists]
  exact ⟨fun ⟨c, ahead, hfields, h⟩ => ⟨c, ahead, written_of_fields? hfields, h⟩,
    fun ⟨c, ahead, hwritten, h⟩ => ⟨c, ahead, fields?_of_written hwritten, h⟩⟩

/-- **Whatever fields a text writes, they stand where the instant does that is read.** -/
theorem moment_of_written {s : String} {c : Civil} {ahead : Int} (h : read? s = some i)
    (hwritten : Written s.toList c ahead) : i.moment 0 = c.moment ahead := by
  rw [read?_eq, fields?_of_written hwritten] at h
  exact Civil.moment_of_instant? h

/-! ## Canonical texts -/

theorem toList_canonical (i : Instant) :
    i.canonical.toList = yearText i.year ++ '-' :: (padded 2 i.month ++ '-' :: (padded 2 i.day ++
      'T' :: (padded 2 i.hour ++ ':' :: (padded 2 i.minute ++ ':' :: (padded 2 i.second ++
        (fractionText i.nano ++ ['Z'])))))) := by
  simp [canonical, civilText]

theorem blank_nil : Blank [] :=
  rfl

theorem digits_padded (width n : Nat) : Digits (padded width n) n :=
  ⟨padded_ne_nil width n, all_isDigit_padded width n, naturalOf_padded width n⟩

theorem shortText_padded (h : n < 100) : ShortText (padded 2 n) n :=
  .mk (b := []) blank_nil (digits_padded 2 n) (length_padded (by decide) h).le

theorem yearText_yearText (year : Int) : YearText (yearText year) year := by
  unfold yearText
  split
  · have hyear : ((year.toNat : Nat) : Int) = year := by omega
    have hplain := YearText.plain blank_nil (digits_padded 4 year.toNat)
      (length_padded (by decide) (show year.toNat < 10 ^ 4 by omega)).le
    rwa [hyear] at hplain
  split
  · have hyear : -((year.natAbs : Nat) : Int) = year := by omega
    have hminus := YearText.minus blank_nil (digits_padded 4 year.natAbs)
    rwa [hyear] at hminus
  · have hyear : ((year.natAbs : Nat) : Int) = year := by omega
    have hplus := YearText.plus blank_nil (digits_padded 4 year.natAbs)
    rwa [hyear] at hplus

/-- A fraction of some digits that leaves nothing out. -/
theorem fractionText_padded {width nano : Nat} (hwidth : 0 < width) (hnano : n < Nat.pow 10 width)
    (h : n * 1000000000 / Nat.pow 10 width = nano) : FractionText ('.' :: padded width n) nano := by
  have hsome := FractionText.some (digits_padded width n)
  rwa [length_padded hwidth hnano, h] at hsome

theorem fractionText_fractionText {nano : Nat} (h : nano < 1000000000) :
    FractionText (fractionText nano) nano := by
  unfold fractionText
  split
  · subst nano
    exact .none
  split
  · exact fractionText_padded (by decide) (show nano / 1000000 < 1000 by omega)
      (show nano / 1000000 * 1000000000 / 1000 = nano by omega)
  split
  · exact fractionText_padded (by decide) (show nano / 1000 < 1000000 by omega)
      (show nano / 1000 * 1000000000 / 1000000 = nano by omega)
  · exact fractionText_padded (by decide) (show nano < 1000000000 by omega)
      (show nano * 1000000000 / 1000000000 = nano by omega)

/-- **The canonical text of an instant writes its fields**, on a clock that is not ahead. -/
theorem written_canonical (i : Instant) : Written i.canonical.toList i.toCivil 0 := by
  obtain ⟨hm, hd, hh, hmin, hs, hn⟩ := Civil.bounds_of_isValid i.valid
  have hday : DayText _ i.year i.month i.day := .mk (yearText_yearText i.year) blank_nil
    (shortText_padded (by omega)) blank_nil (shortText_padded (by omega))
  have hclock : ClockText _ i.hour i.minute i.second i.nano := .mk (shortText_padded (by omega))
    blank_nil (shortText_padded (by omega)) blank_nil (shortText_padded (by omega)) (fractionText_fractionText hn)
  have hwritten : Written _ i.toCivil 0 := .mk hday (show 'T' ∈ ['T', 't', ' '] by simp) hclock
    blank_nil (.zulu (.inl rfl)) blank_nil
  rw [toList_canonical]
  simpa using hwritten

/-- **The canonical text of an instant is read as that instant.** -/
theorem read?_canonical (i : Instant) : read? i.canonical = some i :=
  read?_eq_some_iff.2 ⟨_, _, written_canonical i, Civil.instant?_zero i⟩

theorem canonical_injective : Function.Injective canonical := by
  intro i j h
  have hread := read?_canonical i
  rw [h, read?_canonical] at hread
  exact (Option.some.inj hread).symm

end Recital.Instant
