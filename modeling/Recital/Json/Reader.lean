import Recital.Json.Node
import Recital.Text.Percent
import Recital.Text.Position

/-!
# Reading JSON text

* `parse` : the tree of the first value of a text, and the text after it.

The readers take the rest of a text and give what they read and what follows; after a fault nothing
follows.  Nesting is bounded by a count of steps, and `parse` allows more than a text can need.
-/

set_option autoImplicit false

namespace Recital.Json

open Recital.Text

/-- Whether a character may stand between tokens. -/
def isGap (c : Char) : Bool :=
  c = ' ' || c = '\n' || c = '\t' || c = '\r'

/-- Drops the blanks at the start of a text. -/
def skipGap (cs : List Char) : List Char :=
  cs.dropWhile isGap

/-- The character that a letter after a backslash stands for. -/
def unescaped? (c : Char) : Option Char :=
  if c = '"' ∨ c = '\\' ∨ c = '/' then some c
  else if c = 'b' then some '\x08'
  else if c = 'f' then some '\x0c'
  else if c = 'n' then some '\n'
  else if c = 'r' then some '\r'
  else if c = 't' then some '\t'
  else none

/-- The code unit that four hexadecimal digits write. -/
def codeUnit? (a b c d : Char) : Option Nat :=
  match hexValue? a, hexValue? b, hexValue? c, hexValue? d with
  | some w, some x, some y, some z => some (((w * 16 + x) * 16 + y) * 16 + z)
  | _, _, _, _ => none

/-- Adds a piece to the front of a token. -/
def Quoted.push (p : Piece) (token : Quoted × List Char) : Quoted × List Char :=
  ({ token.1 with pieces := p :: token.1.pieces }, token.2)

/-- A token that breaks off at once. -/
def Quoted.fail (f : Failure) : Quoted × List Char :=
  (⟨[], some f⟩, [])

/-- A string token after its opening quote.  An escape needs four bytes after its `u`, even if the
first of them are no digits: with fewer the text has ended. -/
def readQuoted : List Char → Quoted × List Char
  | [] => Quoted.fail .truncated
  | '"' :: rest => (⟨[], none⟩, rest)
  | '\\' :: 'u' :: a :: b :: c :: d :: rest =>
    match codeUnit? a b c d with
    | some u => Quoted.push (.unit u) (readQuoted rest)
    | none => Quoted.fail .malformed
  | '\\' :: 'u' :: rest =>
    Quoted.fail (if byteLength rest < 4 then .truncated else .malformed)
  | ['\\'] => Quoted.fail .truncated
  | '\\' :: e :: rest =>
    match unescaped? e with
    | some c => Quoted.push (.char c) (readQuoted rest)
    | none => Quoted.fail .malformed
  | c :: rest => if c.toNat < 32 then Quoted.fail .malformed else Quoted.push (.char c) (readQuoted rest)

/-- The rest of a word whose first letter has been read. -/
def readWord (value : Node) : List Char → List Char → Node × List Char
  | [], rest => (value, rest)
  | _ :: _, [] => (.torn .truncated .truncated, [])
  | c :: word, d :: rest =>
    if c = d then readWord value word rest else (.torn .malformed .malformed, [])

/-- A number that breaks off: at the end of the text, or at another character. -/
def tornNumber : List Char → Node × List Char
  | [] => (.torn .truncated .malformed, [])
  | _ :: _ => (.torn .malformed .malformed, [])

/-- The exponent of a number, if there is one. -/
def readExponent (n : Numeral) : List Char → Node × List Char
  | [] => (.number n, [])
  | c :: cs =>
    if c = 'e' ∨ c = 'E' then
      let (negative, cs) := match cs with
        | '+' :: cs => (false, cs)
        | '-' :: cs => (true, cs)
        | cs => (false, cs)
      let digits := cs.takeWhile isDigit
      if digits = [] then tornNumber cs
      else (.number { n with exponent := some (negative, digits) }, cs.drop digits.length)
    else (.number n, c :: cs)

/-- The fraction of a number, if there is one, and its exponent. -/
def readFraction (n : Numeral) : List Char → Node × List Char
  | '.' :: cs =>
    let digits := cs.takeWhile isDigit
    if digits = [] then tornNumber cs
    else readExponent { n with fraction := some digits } (cs.drop digits.length)
  | cs => readExponent n cs

/-- A number after its sign.  A whole part of several digits does not start with zero. -/
def readNumber (negative : Bool) (cs : List Char) : Node × List Char :=
  let digits := cs.takeWhile isDigit
  match digits with
  | [] => tornNumber cs
  | '0' :: _ :: _ => (.torn .malformed .malformed, [])
  | _ => readFraction ⟨negative, digits, none, none⟩ (cs.drop digits.length)

/-- A word or a number. -/
def readScalar : List Char → Node × List Char
  | [] => (.broken .truncated, [])
  | 'n' :: cs => readWord .null ['u', 'l', 'l'] cs
  | 't' :: cs => readWord (.bool true) ['r', 'u', 'e'] cs
  | 'f' :: cs => readWord (.bool false) ['a', 'l', 's', 'e'] cs
  | '-' :: cs => readNumber true cs
  | c :: cs => if isDigit c then readNumber false (c :: cs) else (.broken .malformed, [])

mutual

/-- The first value of a text. -/
def readNode : Nat → List Char → Node × List Char
  | 0, _ => (.broken .truncated, [])
  | steps + 1, cs => match skipGap cs with
    | '"' :: cs =>
      let (token, rest) := readQuoted cs
      (.string token, rest)
    | '[' :: cs => match skipGap cs with
      | [] => (.array [] (.cut .truncated), [])
      | ']' :: rest => (.array [] .closed, rest)
      | cs =>
        let ((items, ending), rest) := readItems steps cs
        (.array items ending, rest)
    | '\x7b' :: cs => match skipGap cs with
      | [] => (.object [] (.cut .truncated), [])
      | '\x7d' :: rest => (.object [] .closed, rest)
      | '"' :: cs =>
        let ((members, ending), rest) := readMembers steps cs
        (.object members ending, rest)
      | _ => (.object [] (.cut .malformed), [])
    | cs => readScalar cs

/-- The items of an array, from the next one on. -/
def readItems : Nat → List Char → (List Node × Ending) × List Char
  | 0, _ => (([], .cut .truncated), [])
  | steps + 1, cs =>
    let (item, rest) := readNode steps cs
    match skipGap rest with
    | [] => (([item], .cut .truncated), [])
    | ']' :: rest => (([item], .closed), rest)
    | ',' :: rest => match skipGap rest with
      | [] => (([item], .comma .truncated), [])
      | ']' :: _ => (([item], .comma .malformed), [])
      | rest =>
        let ((items, ending), rest) := readItems steps rest
        ((item :: items, ending), rest)
    | _ => (([item], .cut .malformed), [])

/-- The members of an object, from the next one on, after the quote of its name. -/
def readMembers : Nat → List Char → (List (Quoted × Node) × Ending) × List Char
  | 0, _ => (([], .cut .truncated), [])
  | steps + 1, cs =>
    let (name, rest) := readQuoted cs
    match skipGap rest with
    | [] => (([(name, .broken .truncated)], .cut .truncated), [])
    | ':' :: rest =>
      let (value, rest) := readNode steps rest
      match skipGap rest with
      | [] => (([(name, value)], .cut .truncated), [])
      | '\x7d' :: rest => (([(name, value)], .closed), rest)
      | ',' :: rest => match skipGap rest with
        | [] => (([(name, value)], .comma .truncated), [])
        | '"' :: rest =>
          let ((members, ending), rest) := readMembers steps rest
          (((name, value) :: members, ending), rest)
        | _ => (([(name, value)], .comma .malformed), [])
      | _ => (([(name, value)], .cut .malformed), [])
    | _ => (([(name, .broken .malformed)], .cut .malformed), [])

end

/-- The tree of the first value of a text, and what follows it. -/
def parse (s : String) : Node × List Char :=
  let cs := s.toList
  readNode (2 * cs.length + 2) cs

end Recital.Json
