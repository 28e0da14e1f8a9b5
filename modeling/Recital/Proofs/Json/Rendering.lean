import Recital.Json.Value
import Recital.Proofs.Json.Parsing

/-!
# Written values are read back

* `Value.node` : the tree of a value.  `spells_chars` : the text of a value is that tree.
* `Quoted.text_written`, `integer?_ofInt` : the texts and the integers in it are those of the value.
* `parse_render` : the text of a value is read as its tree, with nothing left over.
-/

set_option autoImplicit false

namespace Recital.Json

open Text

/-! ## Trees of values -/

/-- Whether a character of a string is written by its code unit. -/
def isCoded (c : Char) : Bool :=
  c.toNat < 32 && c ≠ '\n' && c ≠ '\r' && c ≠ '\t' && c ≠ '\x08' && c ≠ '\x0c'

/-- How a character of a string is read. -/
def Piece.written (c : Char) : Piece :=
  if isCoded c then .unit c.toNat else .char c

/-- The token of a text. -/
def Quoted.written (s : String) : Quoted :=
  ⟨s.toList.map Piece.written, none⟩

/-- The numeral of an integer. -/
def Numeral.ofInt (n : Int) : Numeral :=
  ⟨n < 0, Nat.toDigits 10 n.natAbs, none, none⟩

mutual

/-- The tree of a value. -/
def Value.node : Value → Node
  | .null => .null
  | .bool b => .bool b
  | .int n => .number (.ofInt n)
  | .string s => .string (.written s)
  | .array items => .array (itemNodes items) .closed
  | .object members => .object (memberNodes members) .closed

/-- The trees of items. -/
def itemNodes : List Value → List Node
  | [] => []
  | item :: items => item.node :: itemNodes items

/-- The trees of members. -/
def memberNodes : List (String × Value) → List (Quoted × Node)
  | [] => []
  | (name, value) :: members => (.written name, value.node) :: memberNodes members

end

/-! ## Texts -/

/-- A control character without a letter of its own is written by four digits. -/
theorem codeUnit?_control {n : Nat} (h : n < 32) :
    codeUnit? '0' '0' (hexDigit (n / 16)) (hexDigit (n % 16)) = some n := by
  have hall : ∀ n : Fin 32, codeUnit? '0' '0' (hexDigit (n / 16)) (hexDigit (n % 16)) = some n.val := by decide
  exact hall ⟨n, h⟩

theorem written_of_isCoded {c : Char} (h : isCoded c = false) : Piece.written c = .char c := by
  rw [Piece.written, h]
  rfl

/-- **An escaped character is read as the character.** -/
theorem pieceText_escaped (c : Char) : PieceText (escaped c) (.written c) := by
  unfold escaped
  split
  · subst c
    exact .escape (by decide)
  split
  · subst c
    exact .escape (by decide)
  split
  · subst c
    exact .escape (by decide)
  split
  · subst c
    exact .escape (by decide)
  split
  · subst c
    exact .escape (by decide)
  split
  · subst c
    exact .escape (by decide)
  split
  · subst c
    exact .escape (by decide)
  rename_i hquote hslash hn hr ht hb hf
  split
  · rename_i hcontrol
    have hcoded : isCoded c = true := by simp [isCoded, hcontrol, hn, hr, ht, hb, hf]
    rw [Piece.written, if_pos hcoded]
    exact .unit (codeUnit?_control hcontrol)
  · rename_i hcontrol
    have hplain : isCoded c = false := by simp [isCoded, hcontrol]
    rw [written_of_isCoded hplain]
    exact .plain hquote hslash (by omega)

theorem quotedText_quote (s : String) : QuotedText (quote s) (.written s) := by
  have hpieces : List.Forall₂ PieceText (s.toList.map escaped) (s.toList.map Piece.written) := by
    rw [List.forall₂_map_left_iff, List.forall₂_map_right_iff, List.forall₂_same]
    exact fun c _ => pieceText_escaped c
  have h := QuotedText.mk hpieces
  rwa [← List.flatMap_def] at h

theorem piecesText_written (cs : List Char) : piecesText none (cs.map Piece.written) = .ok cs := by
  induction cs with
  | nil => rfl
  | cons c cs ih =>
    rw [List.map_cons, Piece.written]
    split
    · rename_i hcoded
      simp only [isCoded, Bool.and_eq_true, decide_eq_true_eq] at hcoded
      have hcontrol : c.toNat < 32 := hcoded.1.1.1.1.1
      have hlow : isLowSurrogate c.toNat = false := by
        simp only [isLowSurrogate, Bool.and_eq_false_iff, decide_eq_false_iff_not]
        omega
      have hhigh : isHighSurrogate c.toNat = false := by
        simp only [isHighSurrogate, Bool.and_eq_false_iff, decide_eq_false_iff_not]
        omega
      unfold piecesText
      simp only [ih, hlow, hhigh, Char.ofNat_toNat]
      rfl
    · rw [piecesText, ih]
      rfl

theorem Quoted.text_written (s : String) : (Quoted.written s).text = .ok s := by
  rw [Quoted.text, Quoted.written, piecesText_written, Except.map, String.ofList_toList]

/-! ## Integers -/

theorem all_isDigit_toDigits (n : Nat) : (Nat.toDigits 10 n).all isDigit = true := by
  have h := all_isDigit_padded 0 n
  rwa [padded, Nat.zero_sub, List.replicate_zero, List.nil_append] at h

theorem naturalOf_toDigits (n : Nat) : naturalOf (Nat.toDigits 10 n) = n := by
  have h := naturalOf_padded 0 n
  rwa [padded, Nat.zero_sub, List.replicate_zero, List.nil_append] at h

theorem run_toDigits (n : Nat) : Run (Nat.toDigits 10 n) :=
  ⟨Nat.toDigits_ne_nil, all_isDigit_toDigits n⟩

/-- The digits of a number do not start with a zero that could be left out. -/
theorem toDigits_ne_zero (n : Nat) (d : Char) (ds : List Char) : Nat.toDigits 10 n ≠ '0' :: d :: ds := by
  intro h
  have hall := all_isDigit_toDigits n
  have hvalue := naturalOf_toDigits n
  rw [h] at hall hvalue
  have hsame : naturalOf (d :: ds) = n := hvalue
  have hlt : naturalOf (d :: ds) < _ := naturalOf_lt (List.all_cons.symm.trans hall |> Bool.and_eq_true_iff.1 |>.2)
  rw [hsame] at hlt
  have hpos := List.length_pos_of_ne_nil (List.cons_ne_nil d ds)
  have hlen := (Nat.length_toDigits_le_iff (b := 10) (by decide) hpos).2 hlt
  rw [h, List.length_cons] at hlen
  omega

theorem numberText_integerText (n : Int) : NumberText (integerText n) (.ofInt n) := by
  have h : NumberText _ (.ofInt n) := .mk (run_toDigits n.natAbs) (toDigits_ne_zero n.natAbs) .none .none
  unfold integerText
  by_cases hn : n < 0
  · simpa [hn, signText] using h
  · simpa [hn, signText] using h

/-- **The numeral of an integer is written as one.** -/
theorem integer?_ofInt (n : Int) : (Numeral.ofInt n).integer? = some n := by
  simp only [Numeral.ofInt, Numeral.integer?, naturalOf_toDigits]
  by_cases hn : n < 0
  · rw [if_pos (decide_eq_true hn), if_neg (by omega)]
    congr 1
    omega
  · rw [if_neg (by simpa using hn)]
    congr 1
    omega

/-! ## Values -/

theorem padded_of_spells {w : List Char} {node : Node} (h : Spells w node) : Padded w node := by
  have hpadded := Padded.mk gap_nil h gap_nil
  rwa [List.nil_append, List.append_nil] at hpadded

/-- The items after the first one, each after a comma, and the bracket. -/
theorem itemsChars_eq (w : List Char) (items : List Value) :
    w ++ itemsChars items = joined (w :: items.map Value.chars) ++ [']'] := by
  induction items generalizing w with
  | nil => rw [itemsChars, List.map_nil, joined_singleton]
  | cons item items ih => rw [itemsChars, List.cons_append, ih, List.map_cons, joined_cons, List.append_assoc,
      List.cons_append]

/-- The text of a member. -/
def memberChars (member : String × Value) : List Char :=
  quote member.1 ++ ':' :: member.2.chars

/-- The members after the first one, each after a comma, and the brace. -/
theorem membersChars_eq (w : List Char) (members : List (String × Value)) :
    w ++ membersChars members = joined (w :: members.map memberChars) ++ ['\x7d'] := by
  induction members generalizing w with
  | nil => rw [membersChars, List.map_nil, joined_singleton]
  | cons member members ih =>
    have hnext := ih (memberChars member)
    obtain ⟨name, value⟩ := member
    simp only [memberChars, List.append_assoc, List.cons_append] at hnext
    simp only [membersChars, List.cons_append, List.append_assoc, List.map_cons, joined_cons, hnext]
    rfl

theorem chars_array (items : List Value) : (Value.array items).chars = arrayText [] (items.map Value.chars) := by
  cases items with
  | nil => rfl
  | cons item items =>
    rw [Value.chars, List.cons_append, itemsChars_eq]
    rfl

theorem chars_object (members : List (String × Value)) :
    (Value.object members).chars = objectText [] (members.map memberChars) := by
  cases members with
  | nil => rfl
  | cons member members =>
    have hmembers := membersChars_eq (memberChars member) members
    obtain ⟨name, value⟩ := member
    simp only [memberChars, List.append_assoc, List.cons_append] at hmembers
    simp only [Value.chars, List.cons_append, List.append_assoc, hmembers]
    rfl

theorem member_memberChars {name : String} {value : Value} (h : Spells value.chars value.node) :
    Member (memberChars (name, value)) (.written name, value.node) := by
  have hmember := Member.mk gap_nil (quotedText_quote name) gap_nil (padded_of_spells h)
  rwa [List.nil_append, List.nil_append] at hmember

mutual

/-- **The text of a value is its tree.** -/
theorem spells_chars : (v : Value) → Spells v.chars v.node
  | .null => .scalar .null
  | .bool true => .scalar .yes
  | .bool false => .scalar .no
  | .int n => .scalar (.number (numberText_integerText n))
  | .string s => .string (quotedText_quote s)
  | .array items => by
    rw [chars_array]
    exact .array gap_nil (padded_items items)
  | .object members => by
    rw [chars_object]
    exact .object gap_nil (member_members members)

theorem padded_items : (items : List Value) → List.Forall₂ Padded (items.map Value.chars) (itemNodes items)
  | [] => .nil
  | item :: items => .cons (padded_of_spells (spells_chars item)) (padded_items items)

theorem member_members : (members : List (String × Value)) →
    List.Forall₂ Member (members.map memberChars) (memberNodes members)
  | [] => .nil
  | (_, value) :: members => .cons (member_memberChars (spells_chars value)) (member_members members)

end

/-- **The text of a value is read as its tree**, with nothing left over. -/
theorem parse_render (v : Value) : parse v.render = (v.node, []) := by
  refine parse_spells gap_nil (spells_chars v) ?_ (by simp [Value.render])
  exact follows_of_ends (fun c hc => by cases hc) _

end Recital.Json
