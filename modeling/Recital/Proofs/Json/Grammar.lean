import Mathlib.Data.List.Forall2
import Recital.Json.Reader

/-!
# The grammar of JSON

* `PieceText`, `QuotedText` : texts of string tokens.  `NumberText`, `ScalarText` : texts of numbers and words.
* `Spells` : a text is a value, from its first character to its last.  `Padded` : blanks may stand around it.
  `Member` : a text is a member of an object.
-/

set_option autoImplicit false

namespace Recital.Json

open Text

/-! ## Tokens -/

/-- Blanks between tokens. -/
def Gap (gap : List Char) : Prop :=
  gap.all isGap = true

/-- The text of a character or a code unit within a string. -/
inductive PieceText : List Char → Piece → Prop where
  | plain {c : Char} (hquote : c ≠ '"') (hslash : c ≠ '\\') (hcontrol : 32 ≤ c.toNat) : PieceText [c] (.char c)
  | escape {e c : Char} (h : unescaped? e = some c) : PieceText ['\\', e] (.char c)
  | unit {a b c d : Char} {u : Nat} (h : codeUnit? a b c d = some u) : PieceText ['\\', 'u', a, b, c, d] (.unit u)

/-- The text of a string token with its quotes. -/
inductive QuotedText : List Char → Quoted → Prop where
  | mk {texts : List (List Char)} {pieces : List Piece} (h : List.Forall₂ PieceText texts pieces) :
      QuotedText ('"' :: (texts.flatten ++ ['"'])) ⟨pieces, none⟩

/-- A run of digits, at least one. -/
structure Run (ds : List Char) : Prop where
  ne_nil : ds ≠ []
  all : ds.all isDigit = true

/-- The text of a sign: the minus of a number. -/
def signText : Bool → List Char
  | true => ['-']
  | false => []

/-- The text of a fraction. -/
inductive FractionText : List Char → Option (List Char) → Prop where
  | none : FractionText [] none
  | some {ds : List Char} (h : Run ds) : FractionText ('.' :: ds) (some ds)

/-- The text of an exponent. -/
inductive ExponentText : List Char → Option (Bool × List Char) → Prop where
  | none : ExponentText [] none
  | some {e : Char} {sign ds : List Char} {negative : Bool} (he : e = 'e' ∨ e = 'E')
      (hsign : sign = signText negative ∨ sign = ['+'] ∧ negative = false) (h : Run ds) :
      ExponentText (e :: (sign ++ ds)) (some (negative, ds))

/-- The text of a number.  A whole part of several digits does not start with zero. -/
inductive NumberText : List Char → Numeral → Prop where
  | mk {negative : Bool} {whole fraction exponent : List Char} {f : Option (List Char)}
      {e : Option (Bool × List Char)} (hwhole : Run whole) (hzero : ∀ d ds, whole ≠ '0' :: d :: ds)
      (hfraction : FractionText fraction f) (hexponent : ExponentText exponent e) :
      NumberText (signText negative ++ (whole ++ (fraction ++ exponent))) ⟨negative, whole, f, e⟩

/-- What is neither a string nor an array nor an object. -/
inductive ScalarText : List Char → Node → Prop where
  | null : ScalarText ['n', 'u', 'l', 'l'] .null
  | yes : ScalarText ['t', 'r', 'u', 'e'] (.bool true)
  | no : ScalarText ['f', 'a', 'l', 's', 'e'] (.bool false)
  | number {w : List Char} {n : Numeral} (h : NumberText w n) : ScalarText w (.number n)

/-! ## Values -/

/-- Texts with commas between them. -/
def joined (texts : List (List Char)) : List Char :=
  [','].intercalate texts

/-- The text of an object with these members, blanks after its brace. -/
def objectText (gap : List Char) (texts : List (List Char)) : List Char :=
  '\x7b' :: (gap ++ (joined texts ++ ['\x7d']))

/-- The text of an array with these items, blanks after its bracket. -/
def arrayText (gap : List Char) (texts : List (List Char)) : List Char :=
  '[' :: (gap ++ (joined texts ++ [']']))

mutual

/-- The text is a value, from its first character to its last. -/
inductive Spells : List Char → Node → Prop where
  | scalar {w : List Char} {node : Node} (h : ScalarText w node) : Spells w node
  | string {w : List Char} {q : Quoted} (h : QuotedText w q) : Spells w (.string q)
  | array {gap : List Char} {texts : List (List Char)} {items : List Node} (hgap : Gap gap)
      (h : List.Forall₂ Padded texts items) : Spells (arrayText gap texts) (.array items .closed)
  | object {gap : List Char} {texts : List (List Char)} {members : List (Quoted × Node)} (hgap : Gap gap)
      (h : List.Forall₂ Member texts members) : Spells (objectText gap texts) (.object members .closed)

/-- The text is a value with blanks around it. -/
inductive Padded : List Char → Node → Prop where
  | mk {before w after : List Char} {node : Node} (hbefore : Gap before) (h : Spells w node)
      (hafter : Gap after) : Padded (before ++ (w ++ after)) node

/-- The text is a member of an object, with blanks around its name and its value. -/
inductive Member : List Char → Quoted × Node → Prop where
  | mk {before name middle value : List Char} {q : Quoted} {node : Node} (hbefore : Gap before)
      (hname : QuotedText name q) (hmiddle : Gap middle) (hvalue : Padded value node) :
      Member (before ++ (name ++ (middle ++ ':' :: value))) (q, node)

end

end Recital.Json
