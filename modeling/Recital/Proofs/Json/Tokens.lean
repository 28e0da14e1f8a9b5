import Recital.Proofs.Json.Grammar
import Recital.Proofs.Text.Digits

/-!
# Tokens are read as they are spelled

* `readQuoted_text`, `spelledOut_of_read` : string tokens, there and back.
* `readNumber_text`, `numberText_of_read` : numbers, where no more of a number follows.
* `readScalar_text`, `scalarText_of_read` : words and numbers.
-/

set_option autoImplicit false

namespace Recital.Json

open Text

variable {w rest cs : List Char} {q : Quoted} {n : Numeral} {node : Node}

/-! ## String tokens -/

theorem readQuoted_piece {p : Piece} (h : PieceText w p) (cs : List Char) :
    readQuoted (w ++ cs) = Quoted.push p (readQuoted cs) := by
  cases h with
  | @plain c hquote hslash hcontrol =>
    have hslash' : c = '\\' → False := hslash
    rw [List.singleton_append, readQuoted, if_neg (by omega)]
    · exact hquote
    all_goals
      intros
      exact hslash' ‹_›
  | @escape e c h =>
    have hu : e = 'u' → False := by
      rintro rfl
      cases h
    rw [List.cons_append, List.singleton_append, readQuoted, h]
    all_goals
      intros
      exact hu ‹_›
  | unit h => simp only [List.cons_append, List.nil_append, readQuoted, h]

/-- **A string token is read to its closing quote.** -/
theorem readQuoted_text {texts : List (List Char)} {pieces : List Piece}
    (h : List.Forall₂ PieceText texts pieces) (rest : List Char) :
    readQuoted (texts.flatten ++ '"' :: rest) = (⟨pieces, none⟩, rest) := by
  induction h with
  | nil => rfl
  | cons hpiece _ ih =>
    rw [List.flatten_cons, List.append_assoc, readQuoted_piece hpiece, ih]
    rfl

/-- The characters that have been read are a string token after its opening quote. -/
def SpelledOut (cs : List Char) (token : Quoted × List Char) : Prop :=
  ∃ texts, List.Forall₂ PieceText texts token.1.pieces ∧ cs = texts.flatten ++ '"' :: token.2

theorem SpelledOut.push {p : Piece} {token : Quoted × List Char} (hpiece : PieceText w p)
    (h : SpelledOut cs token) : SpelledOut (w ++ cs) (Quoted.push p token) := by
  obtain ⟨texts, hpieces, rfl⟩ := h
  exact ⟨w :: texts, .cons hpiece hpieces, by rw [List.flatten_cons, List.append_assoc]; rfl⟩

/-- **A string token without a fault is spelled out.** -/
theorem spelledOut_of_read (cs : List Char) (h : (readQuoted cs).1.fault = none) :
    SpelledOut cs (readQuoted cs) := by
  fun_induction readQuoted cs with
  | case1 => cases h
  | case2 rest => exact ⟨[], .nil, rfl⟩
  | case3 a b c d rest u hunit ih => exact (ih h).push (.unit hunit)
  | case4 => cases h
  | case5 => cases h
  | case6 => cases h
  | case7 e rest _ _ c hescape ih => exact (ih h).push (.escape hescape)
  | case8 => cases h
  | case9 => cases h
  | case10 c rest hquote hunit hshort hend hescape hcontrol ih =>
    refine SpelledOut.push (w := [c]) (.plain hquote ?_ (by omega)) (ih h)
    rintro rfl
    cases rest with
    | nil => exact hend rfl rfl
    | cons e rest => exact hescape e rest rfl rfl

/-! ## Numbers -/

/-- No more of a number comes next. -/
def Ends (cs : List Char) : Prop :=
  ∀ c ∈ cs.head?, isDigit c = false ∧ c ≠ '.' ∧ c ≠ 'e' ∧ c ≠ 'E'

theorem takeWhile_run {ds : List Char} (h : Run ds) (hrest : ∀ c ∈ rest.head?, isDigit c = false) :
    (ds ++ rest).takeWhile isDigit = ds := by
  rw [List.takeWhile_append_of_pos (List.all_eq_true.1 h.all)]
  cases rest with
  | nil => simp
  | cons c rest => simp [hrest c (by simp)]

theorem run_takeWhile (h : cs.takeWhile isDigit ≠ []) : Run (cs.takeWhile isDigit) :=
  ⟨h, List.all_takeWhile⟩

theorem takeWhile_append_drop (p : Char → Bool) (cs : List Char) :
    cs.takeWhile p ++ cs.drop (cs.takeWhile p).length = cs :=
  List.prefix_iff_eq_append.1 (List.takeWhile_prefix p)

/-- The sign of an exponent and what follows it. -/
def exponentSign : List Char → Bool × List Char
  | '+' :: cs => (false, cs)
  | '-' :: cs => (true, cs)
  | cs => (false, cs)

theorem readExponent_cons (n : Numeral) {c : Char} (hc : c = 'e' ∨ c = 'E') (cs : List Char) :
    readExponent n (c :: cs) =
      if (exponentSign cs).2.takeWhile isDigit = [] then tornNumber (exponentSign cs).2
      else (.number { n with exponent := some ((exponentSign cs).1, (exponentSign cs).2.takeWhile isDigit) },
        (exponentSign cs).2.drop ((exponentSign cs).2.takeWhile isDigit).length) := by
  unfold readExponent
  simp only [if_pos hc]
  rfl

theorem Run.eq_cons {ds : List Char} (h : Run ds) : ∃ d left, ds = d :: left ∧ isDigit d = true := by
  cases ds with
  | nil => exact absurd rfl h.ne_nil
  | cons d left => exact ⟨d, left, rfl, List.all_eq_true.1 h.all d (List.mem_cons_self ..)⟩

theorem exponentSign_digit {c : Char} (hc : isDigit c = true) (cs : List Char) :
    exponentSign (c :: cs) = (false, c :: cs) := by
  unfold exponentSign
  split
  · rename_i heq
    rw [(List.cons.inj heq).1] at hc
    cases hc
  · rename_i heq
    rw [(List.cons.inj heq).1] at hc
    cases hc
  · rfl

theorem exponentSign_text {sign ds : List Char} {negative : Bool}
    (hsign : sign = signText negative ∨ sign = ['+'] ∧ negative = false) (h : Run ds) (rest : List Char) :
    exponentSign (sign ++ (ds ++ rest)) = (negative, ds ++ rest) := by
  rcases hsign with rfl | ⟨rfl, rfl⟩
  · cases negative with
    | true => rfl
    | false =>
      obtain ⟨d, left, rfl, hd⟩ := h.eq_cons
      exact exponentSign_digit hd _
  · rfl

/-- What has a sign is a sign and the rest. -/
theorem exists_exponentSign (cs : List Char) : ∃ sign, cs = sign ++ (exponentSign cs).2 ∧
    (sign = signText (exponentSign cs).1 ∨ sign = ['+'] ∧ (exponentSign cs).1 = false) := by
  unfold exponentSign
  split
  · exact ⟨['+'], rfl, .inr ⟨rfl, rfl⟩⟩
  · exact ⟨['-'], rfl, .inl rfl⟩
  · exact ⟨[], rfl, .inl rfl⟩

theorem readExponent_text {exponent : List Char} {e : Option (Bool × List Char)}
    (h : ExponentText exponent e) (hn : n.exponent = none) (hrest : Ends rest) :
    readExponent n (exponent ++ rest) = (.number { n with exponent := e }, rest) := by
  cases h with
  | none =>
    have hsame : { n with exponent := none } = n := by
      rw [← hn]
    rw [List.nil_append, hsame]
    cases rest with
    | nil => rfl
    | cons c rest =>
      obtain ⟨-, -, he, hE⟩ := hrest c (by simp)
      unfold readExponent
      simp only [he, hE, or_self, if_false]
  | some he hsign hrun =>
    have hread := takeWhile_run hrun fun c hc => (hrest c hc).1
    rw [List.cons_append, List.append_assoc, readExponent_cons n he, exponentSign_text hsign hrun]
    simp only [hread, if_neg hrun.ne_nil, List.drop_left]

/-- A number that breaks off is not walked over. -/
theorem skip_torn (h : tornNumber cs = (node, rest)) : node.skip ≠ .ok () := by
  cases cs <;> cases h <;> nofun

theorem exponentText_of_read (hn : n.exponent = none) (h : readExponent n cs = (node, rest))
    (hskip : node.skip = .ok ()) : ∃ exponent e, cs = exponent ++ rest ∧ ExponentText exponent e ∧
      node = .number { n with exponent := e } := by
  have hsame : { n with exponent := none } = n := by
    rw [← hn]
  cases cs with
  | nil =>
    obtain ⟨rfl, rfl⟩ := Prod.mk.inj h
    exact ⟨[], none, rfl, .none, by rw [hsame]⟩
  | cons c cs =>
    by_cases hc : c = 'e' ∨ c = 'E'
    · rw [readExponent_cons n hc] at h
      split at h
      · exact absurd hskip (skip_torn h)
      · rename_i hne
        obtain ⟨rfl, rfl⟩ := Prod.mk.inj h
        obtain ⟨sign, hsigned, hsign⟩ := exists_exponentSign cs
        refine ⟨_, _, ?_, .some hc hsign (run_takeWhile hne), rfl⟩
        rw [List.cons_append, List.append_assoc, takeWhile_append_drop, ← hsigned]
    · unfold readExponent at h
      simp only [if_neg hc] at h
      obtain ⟨rfl, rfl⟩ := Prod.mk.inj h
      exact ⟨[], none, rfl, .none, by rw [hsame]⟩

theorem readFraction_point (n : Numeral) (cs : List Char) : readFraction n ('.' :: cs) =
    if cs.takeWhile isDigit = [] then tornNumber cs
    else readExponent { n with fraction := some (cs.takeWhile isDigit) }
      (cs.drop (cs.takeWhile isDigit).length) :=
  rfl

theorem readFraction_of_ne (n : Numeral) (h : ∀ left, cs ≠ '.' :: left) :
    readFraction n cs = readExponent n cs := by
  unfold readFraction
  split
  · exact absurd rfl (h _)
  · rfl

/-- An exponent, or what follows a number without one, starts neither with a digit nor with a point. -/
theorem exponentText_head {exponent : List Char} {e : Option (Bool × List Char)} (h : ExponentText exponent e)
    (hrest : Ends rest) : ∀ c ∈ (exponent ++ rest).head?, isDigit c = false ∧ c ≠ '.' := by
  cases h with
  | none => exact fun c hc => ⟨(hrest c hc).1, (hrest c hc).2.1⟩
  | some he =>
    intro c hc
    rw [List.cons_append, List.head?_cons, Option.mem_some_iff] at hc
    subst hc
    rcases he with rfl | rfl <;> decide

theorem readFraction_text {fraction exponent : List Char} {f : Option (List Char)} {e : Option (Bool × List Char)}
    (hf : FractionText fraction f) (he : ExponentText exponent e) (hn : n.fraction = none ∧ n.exponent = none)
    (hrest : Ends rest) : readFraction n (fraction ++ (exponent ++ rest)) =
      (.number { n with fraction := f, exponent := e }, rest) := by
  have hhead := exponentText_head he hrest
  cases hf with
  | none =>
    rw [List.nil_append, readFraction_of_ne, readExponent_text he hn.2 hrest, ← hn.1]
    intro left hleft
    rw [hleft] at hhead
    exact (hhead '.' rfl).2 rfl
  | some hrun =>
    have hread := takeWhile_run hrun fun c hc => (hhead c hc).1
    rw [List.cons_append, readFraction_point, hread, if_neg hrun.ne_nil, List.drop_left]
    exact readExponent_text he hn.2 hrest

theorem fractionText_of_read (hn : n.fraction = none ∧ n.exponent = none) (h : readFraction n cs = (node, rest))
    (hskip : node.skip = .ok ()) : ∃ fraction f exponent e, cs = fraction ++ (exponent ++ rest) ∧
      FractionText fraction f ∧ ExponentText exponent e ∧
      node = .number { n with fraction := f, exponent := e } := by
  by_cases hpoint : ∃ left, cs = '.' :: left
  · obtain ⟨left, rfl⟩ := hpoint
    rw [readFraction_point] at h
    split at h
    · exact absurd hskip (skip_torn h)
    · rename_i hne
      obtain ⟨exponent, e, hleft, he, rfl⟩ := exponentText_of_read
        (n := { n with fraction := some (left.takeWhile isDigit) }) hn.2 h hskip
      refine ⟨_, _, exponent, e, ?_, .some (run_takeWhile hne), he, rfl⟩
      rw [List.cons_append, ← hleft, takeWhile_append_drop]
  · rw [readFraction_of_ne n fun left hleft => hpoint ⟨left, hleft⟩] at h
    obtain ⟨exponent, e, hleft, he, rfl⟩ := exponentText_of_read hn.2 h hskip
    refine ⟨[], none, exponent, e, hleft, .none, he, ?_⟩
    rw [← hn.1]

/-- A fraction, or what follows a number without one, does not start with a digit. -/
theorem fractionText_head {fraction exponent : List Char} {f : Option (List Char)} {e : Option (Bool × List Char)}
    (hf : FractionText fraction f) (he : ExponentText exponent e) (hrest : Ends rest) :
    ∀ c ∈ (fraction ++ (exponent ++ rest)).head?, isDigit c = false := by
  cases hf with
  | none => exact fun c hc => (exponentText_head he hrest c hc).1
  | some =>
    intro c hc
    rw [List.cons_append, List.head?_cons, Option.mem_some_iff] at hc
    subst hc
    decide

/-- The whole part of a number is followed by its fraction and its exponent. -/
theorem readNumber_eq {ds : List Char} (negative : Bool) (hds : cs.takeWhile isDigit = ds) (hne : ds ≠ [])
    (hzero : ∀ d left, ds ≠ '0' :: d :: left) :
    readNumber negative cs = readFraction ⟨negative, ds, none, none⟩ (cs.drop ds.length) := by
  unfold readNumber
  simp only [hds]

/-- **A number is read to its end.** -/
theorem readNumber_text {negative : Bool} {whole fraction exponent : List Char} {f : Option (List Char)}
    {e : Option (Bool × List Char)} (hwhole : Run whole) (hzero : ∀ d ds, whole ≠ '0' :: d :: ds)
    (hf : FractionText fraction f) (he : ExponentText exponent e) (hrest : Ends rest) :
    readNumber negative (whole ++ (fraction ++ (exponent ++ rest))) =
      (.number ⟨negative, whole, f, e⟩, rest) := by
  have hread := takeWhile_run hwhole (fractionText_head hf he hrest)
  rw [readNumber_eq negative hread hwhole.ne_nil hzero, List.drop_left]
  exact readFraction_text hf he ⟨rfl, rfl⟩ hrest

/-- **A number that is walked over is spelled out.** -/
theorem numberText_of_read {negative : Bool} (h : readNumber negative cs = (node, rest))
    (hskip : node.skip = .ok ()) : ∃ whole fraction exponent f e, Run whole ∧ (∀ d ds, whole ≠ '0' :: d :: ds) ∧
      FractionText fraction f ∧ ExponentText exponent e ∧ cs = whole ++ (fraction ++ (exponent ++ rest)) ∧
      node = .number ⟨negative, whole, f, e⟩ := by
  by_cases hne : cs.takeWhile isDigit = []
  · unfold readNumber at h
    simp only [hne] at h
    exact absurd hskip (skip_torn h)
  by_cases hzero : ∃ d ds, cs.takeWhile isDigit = '0' :: d :: ds
  · obtain ⟨d, ds, hzero⟩ := hzero
    unfold readNumber at h
    simp only [hzero] at h
    obtain ⟨rfl, -⟩ := Prod.mk.inj h
    cases hskip
  have hzero' : ∀ d ds, cs.takeWhile isDigit ≠ '0' :: d :: ds := fun d ds heq => hzero ⟨d, ds, heq⟩
  rw [readNumber_eq negative rfl hne hzero'] at h
  obtain ⟨fraction, f, exponent, e, hleft, hf, he, rfl⟩ := fractionText_of_read ⟨rfl, rfl⟩ h hskip
  refine ⟨_, fraction, exponent, f, e, run_takeWhile hne, hzero', hf, he, ?_, rfl⟩
  rw [← hleft, takeWhile_append_drop]

/-! ## Words and numbers -/

/-- What must not follow a value for it to end where it does: the rest of a number. -/
def Follows (rest : List Char) : Node → Prop
  | .number _ => Ends rest
  | _ => True

theorem readScalar_of_digit {c : Char} (hc : isDigit c = true) (cs : List Char) :
    readScalar (c :: cs) = readNumber false (c :: cs) := by
  have hne : ∀ {d : Char}, isDigit d = false → c = d → False := by
    rintro d hd rfl
    cases hc.symm.trans hd
  rw [readScalar, if_pos hc]
  all_goals exact hne (by decide)

theorem readScalar_text (h : ScalarText w node) (hrest : Follows rest node) :
    readScalar (w ++ rest) = (node, rest) := by
  cases h with
  | null => rfl
  | yes => rfl
  | no => rfl
  | number h =>
    obtain @⟨negative, _, _, _, _, _, hwhole, hzero, hf, he⟩ := h
    have hread : readNumber negative _ = _ := readNumber_text hwhole hzero hf he hrest
    simp only [List.append_assoc]
    cases negative with
    | true => exact hread
    | false =>
      obtain ⟨d, left, rfl, hd⟩ := hwhole.eq_cons
      rw [signText, List.nil_append, List.cons_append, readScalar_of_digit hd]
      exact hread

/-- A word that is walked over is the word. -/
theorem eq_of_readWord {value : Node} {word : List Char} (h : readWord value word cs = (node, rest))
    (hskip : node.skip = .ok ()) : cs = word ++ rest ∧ node = value := by
  fun_induction readWord value word cs with
  | case1 cs =>
    obtain ⟨rfl, rfl⟩ := Prod.mk.inj h
    exact ⟨rfl, rfl⟩
  | case2 =>
    cases h
    cases hskip
  | case3 word d cs ih =>
    obtain ⟨rfl, rfl⟩ := ih h
    exact ⟨rfl, rfl⟩
  | case4 =>
    cases h
    cases hskip

theorem scalarText_of_read (h : readScalar cs = (node, rest)) (hskip : node.skip = .ok ()) :
    ∃ w, cs = w ++ rest ∧ ScalarText w node := by
  have hnumber : ∀ {negative cs}, readNumber negative cs = (node, rest) →
      ∃ w, signText negative ++ cs = w ++ rest ∧ ScalarText w node := by
    intro negative cs h
    obtain ⟨whole, fraction, exponent, f, e, hwhole, hzero, hf, he, rfl, rfl⟩ := numberText_of_read h hskip
    exact ⟨_, by simp only [List.append_assoc], .number (.mk hwhole hzero hf he)⟩
  unfold readScalar at h
  split at h
  · cases h
    cases hskip
  · obtain ⟨rfl, rfl⟩ := eq_of_readWord h hskip
    exact ⟨_, rfl, .null⟩
  · obtain ⟨rfl, rfl⟩ := eq_of_readWord h hskip
    exact ⟨_, rfl, .yes⟩
  · obtain ⟨rfl, rfl⟩ := eq_of_readWord h hskip
    exact ⟨_, rfl, .no⟩
  · exact hnumber h
  · split at h
    · exact hnumber h
    · cases h
      cases hskip

end Recital.Json
