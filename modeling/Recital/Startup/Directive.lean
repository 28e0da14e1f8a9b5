import Recital.Startup.Log
import Recital.Text.Decimal
import Recital.Text.Pattern
import Recital.Text.Position

/-!
# Log directives

A directive says how much of some places a log shows.

* `Directive` : its target, span, fields and level.
* `Directive.Flaw` : why a text is none.
* `Directive.parse` : the directive of a text.
* `Directive.isAbout` : whether a directive is about the lines of a target; `Directive.better` : the more
  specific one of two.

The places of the parts are counted from the first character that is not white space, but the parts are
cut out of the text as it stands.  With white space before it, that leaves other parts than are meant, or
cuts a character in two.
-/

set_option autoImplicit false

namespace Recital

/-- How much a filter lets through of some places.  A directive about spans, or about the value of a
field, says nothing about lines outside spans. -/
structure Directive where
  target : Option (List Char) := none
  hasSpan : Bool := false
  fields : List (List Char) := []
  level : Level := .trace
  deriving DecidableEq, Repr, Inhabited

namespace Directive

/-- Why a text is no directive. -/
inductive Flaw where
  | malformed
  /-- A part starts or ends inside a character. -/
  | cutCharacter
  deriving DecidableEq, Repr, Inhabited

/-- The text between two positions. -/
def cut (raw : List Char) (first last : Nat) : Except Flaw (List Char) :=
  match Text.slice? first last raw with
  | some part => .ok part
  | none => .error .cutCharacter

/-- The text from a position on. -/
def cutFrom (raw : List Char) (first : Nat) : Except Flaw (List Char) :=
  match Text.fromByte? first raw with
  | some part => .ok part
  | none => .error .cutCharacter

/-- The directive with the level that stands from a position on; no text is the most. -/
def withLevel (d : Directive) (raw : List Char) (first : Nat) : Except Flaw Directive := do
  match ← cutFrom raw first with
  | [] => pure { d with level := .trace }
  | cs => match Level.ofText? cs with
    | some level => pure { d with level := level }
    | none => .error .malformed

/-- The text without the white space around it. -/
def trimmed (cs : List Char) : List Char :=
  ((Text.trimStart cs).reverse.dropWhile Text.isWhiteSpace).reverse

/-- Whether a text is a number: digits with an optional point and exponent, or a word for infinity or
for no number, each with an optional sign. -/
def isNumber (cs : List Char) : Bool :=
  let unsigned := (Text.sign cs).2
  let word := String.ofList (unsigned.map Char.toLower)
  word = "inf" || word = "infinity" || word = "nan" ||
    match Text.Decimal.scan? unsigned with
    | some (_, rest) => rest.isEmpty
    | none => false

/-- Whether a field has the form of one: a name, and perhaps a value after an equals sign, which is a
number or a pattern. -/
def isField (field : List Char) : Bool :=
  match field.dropWhile (· ≠ '=') with
  | [] => field ≠ []
  | _ :: rest =>
    let value := rest.takeWhile (· ≠ '=')
    isNumber value || Text.isPattern value

/-- Reads a directive after the bracket that closes its span, where `text` starts at `position`. -/
def afterSpan (d : Directive) (raw : List Char) (position : Nat) (text : List Char) :
    Except Flaw Directive :=
  match text with
  | [] => .ok d
  | '=' :: _ => d.withLevel raw (position + 1)
  | _ => .error .malformed

/-- Reads a directive after the bracket that opens its span, where `text` starts at `position`. -/
def inSpan (d : Directive) (raw : List Char) (position : Nat) (text : List Char) :
    Except Flaw Directive := do
  match Text.seek [']', '\x7b'] position text with
  | none => .error .malformed
  | some (mark, i, text) =>
    let span ← cut raw position i
    if mark = ']' then afterSpan { d with hasSpan := true } raw (i + 1) text
    else match Text.seek ['\x7d'] (i + 1) text with
      | none => .error .malformed
      | some (_, j, text) =>
        let field ← cut raw (i + 1) j
        if isField field then
          match text with
          | ']' :: text =>
            afterSpan { d with hasSpan := span ≠ [], fields := [field] } raw (j + 2) text
          | _ => .error .malformed
        else .error .malformed

/-- Whether a directive may start with a character: a letter or digit, a dash, a colon or a low
line. -/
def isStart (c : Char) : Bool :=
  Text.isLetterOrDigit c || c = '-' || c = ':' || c = '_'

/-- The directive of a text: a level, or a target, a span with a field, and a level after an equals
sign. -/
def parse (raw : List Char) : Except Flaw Directive := do
  match trimmed raw with
  | [] => .error .malformed
  | '[' :: text => inSpan {} raw 1 text
  | c :: text =>
    if isStart c then
      match Text.seek ['=', '['] c.utf8Size text with
      | none => match Level.ofText? raw with
        | some level => pure { level := level }
        | none => pure { target := some raw }
      | some (mark, i, text) =>
        let d : Directive := { target := some (← cut raw 0 i) }
        if mark = '=' then d.withLevel raw (i + 1) else d.inSpan raw (i + 1) text
    else .error .malformed

/-- Whether a directive is about lines, and not only about spans. -/
def isAboutLines (d : Directive) : Bool :=
  !d.hasSpan && d.fields.all fun field => !field.contains '='

/-- Whether a directive is about lines of a target.  The only field of a line is its message. -/
def isAbout (d : Directive) (target : String) : Bool :=
  d.isAboutLines && d.fields.all (fun field => field = "message".toList) &&
    (d.target.map fun start => start.isPrefixOf target.toList).getD true

/-- The order of directives about one line: the longer its target, and then the more fields it has, the
more specific it is. -/
def specificity (d : Directive) : List Nat :=
  [(d.target.map fun cs => Text.byteLength cs + 1).getD 0, d.fields.length]

/-- The more specific one of two directives; of two that are equally specific, the later one. -/
def better (a : Option Directive) (b : Directive) : Option Directive :=
  match a with
  | none => some b
  | some a => if b.specificity < a.specificity then some a else some b

end Directive

end Recital
