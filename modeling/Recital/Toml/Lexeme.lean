import Recital.Instant.Basic
import Recital.Text.Percent
import Recital.Text.Scanner
import Recital.Toml.Value

/-!
# Lexemes of TOML

What values and keys are made of, below arrays and tables.

* `skipGap`, `newline?`, `lineEnd?` : blanks, line breaks and comments.
* `quoted?`, `blockQuoted?`, `literal?`, `blockLiteral?` : the four kinds of strings.
* `simpleKey?`, `key?` : keys, and keys joined by dots.
* `dateTime?` : dates, times and both.
* `float?`, `integer?` : numbers.
-/

set_option autoImplicit false

namespace Recital.Toml

open Recital.Text

/-- The blanks within a line. -/
def isGap (c : Char) : Bool :=
  c = ' ' || c = '\t'

/-- Drops the blanks at the start of a text. -/
def skipGap (cs : List Char) : List Char :=
  cs.dropWhile isGap

/-- The characters that may stand in a comment or a string: all but control characters, tabs allowed. -/
def isTextChar (c : Char) : Bool :=
  c = '\t' || (32 ≤ c.toNat && c ≠ '\x7f')

/-- A line break. -/
def newline? : List Char → Option (List Char)
  | '\n' :: cs => some cs
  | '\r' :: '\n' :: cs => some cs
  | _ => none

/-- Drops a comment. -/
def skipComment : List Char → List Char
  | '#' :: cs => cs.dropWhile isTextChar
  | cs => cs

/-- The rest of a line that may hold only blanks and a comment, with its end. -/
def lineEnd? (cs : List Char) : Option (List Char) :=
  match skipComment (skipGap cs) with
  | [] => some []
  | cs => newline? cs

/-- Drops blanks, comments and line breaks between the items of an array.  A comment ends at a line
break there. -/
def skipLines : Nat → List Char → Option (List Char)
  | 0, _ => none
  | steps + 1, cs => match skipGap cs with
    | '#' :: rest => (newline? (rest.dropWhile isTextChar)).bind (skipLines steps)
    | '\n' :: rest => skipLines steps rest
    | '\r' :: '\n' :: rest => skipLines steps rest
    | '\r' :: _ => none
    | cs => some cs

/-! ### Strings -/

/-- The number that hexadecimal digits write. -/
def hexadecimal? : List Char → Option Nat :=
  List.foldl (fun acc c => do some (16 * (← acc) + (← hexValue? c))) (some 0)

/-- The character of a code point. -/
def charOf? (n : Nat) : Option Char :=
  if n.isValidChar then some (Char.ofNat n) else none

/-- A code point of exactly `width` hexadecimal digits. -/
def codePoint (width : Nat) : Scanner Char := fun cs => do
  if (cs.take width).length = width then
    let n ← hexadecimal? (cs.take width)
    let c ← charOf? n
    some (c, cs.drop width)
  else none

/-- The character that stands after a backslash. -/
def escape? : Scanner Char
  | 'b' :: cs => some ('\x08', cs)
  | 't' :: cs => some ('\t', cs)
  | 'n' :: cs => some ('\n', cs)
  | 'f' :: cs => some ('\x0c', cs)
  | 'r' :: cs => some ('\r', cs)
  | '"' :: cs => some ('"', cs)
  | '\\' :: cs => some ('\\', cs)
  | 'u' :: cs => codePoint 4 cs
  | 'U' :: cs => codePoint 8 cs
  | _ => none

/-- The text before a character that is put in front of the text that follows. -/
def prepend (text : List Char) : Option (List Char × List Char) → Option (List Char × List Char)
  | some (s, rest) => some (text ++ s, rest)
  | none => none

/-- A string in quotes, after the first one. -/
def quoted? : Nat → Scanner (List Char)
  | 0, _ => none
  | _ + 1, [] => none
  | _ + 1, '"' :: cs => some ([], cs)
  | steps + 1, '\\' :: cs => match escape? cs with
    | some (c, cs) => prepend [c] (quoted? steps cs)
    | none => none
  | steps + 1, c :: cs => if isTextChar c then prepend [c] (quoted? steps cs) else none

/-- A string in apostrophes, after the first one. -/
def literal? : Scanner (List Char)
  | [] => none
  | '\'' :: cs => some ([], cs)
  | c :: cs => if isTextChar c then prepend [c] (literal? cs) else none

/-- The end of a block of lines: a run of three of its quotes, before which the text may have one or two
more. -/
def blockEnd? (quote : Char) (cs : List Char) : Scanner (List Char) := fun rest =>
  if cs.length < 6 then some (List.replicate (cs.length - 3) quote, rest) else none

/-- Drops blanks and line breaks after a backslash at the end of a line. -/
def joinLines : List Char → List Char
  | [] => []
  | ' ' :: cs => joinLines cs
  | '\t' :: cs => joinLines cs
  | '\n' :: cs => joinLines cs
  | '\r' :: '\n' :: cs => joinLines cs
  | cs => cs

/-- A string of several lines in triple quotes, after the first ones. -/
def blockQuotedBody? : Nat → Scanner (List Char)
  | 0, _ => none
  | _ + 1, [] => none
  | steps + 1, '"' :: cs =>
    let quotes := '"' :: cs.takeWhile (· = '"')
    let rest := cs.dropWhile (· = '"')
    if quotes.length < 3 then prepend quotes (blockQuotedBody? steps rest)
    else blockEnd? '"' quotes rest
  | steps + 1, '\\' :: cs => match newline? (skipGap cs) with
    | some cs => blockQuotedBody? steps (joinLines cs)
    | none => match escape? cs with
      | some (c, cs) => prepend [c] (blockQuotedBody? steps cs)
      | none => none
  | steps + 1, '\n' :: cs => prepend ['\n'] (blockQuotedBody? steps cs)
  | steps + 1, '\r' :: '\n' :: cs => prepend ['\n'] (blockQuotedBody? steps cs)
  | steps + 1, c :: cs => if isTextChar c then prepend [c] (blockQuotedBody? steps cs) else none

/-- A string of several lines in triple apostrophes, after the first ones. -/
def blockLiteralBody? : Nat → Scanner (List Char)
  | 0, _ => none
  | _ + 1, [] => none
  | steps + 1, '\'' :: cs =>
    let quotes := '\'' :: cs.takeWhile (· = '\'')
    let rest := cs.dropWhile (· = '\'')
    if quotes.length < 3 then prepend quotes (blockLiteralBody? steps rest)
    else blockEnd? '\'' quotes rest
  | steps + 1, '\n' :: cs => prepend ['\n'] (blockLiteralBody? steps cs)
  | steps + 1, '\r' :: '\n' :: cs => prepend ['\n'] (blockLiteralBody? steps cs)
  | steps + 1, c :: cs => if isTextChar c then prepend [c] (blockLiteralBody? steps cs) else none

/-- Drops the line break that may follow the first quotes of a block. -/
def skipFirstNewline (cs : List Char) : List Char :=
  (newline? cs).getD cs

/-- A string of any kind. -/
def string? : Scanner (List Char)
  | '"' :: '"' :: '"' :: cs => blockQuotedBody? (cs.length + 1) (skipFirstNewline cs)
  | '"' :: cs => quoted? (cs.length + 1) cs
  | '\'' :: '\'' :: '\'' :: cs => blockLiteralBody? (cs.length + 1) (skipFirstNewline cs)
  | '\'' :: cs => literal? cs
  | _ => none

/-! ### Keys -/

/-- The characters of a bare key. -/
def isKeyChar (c : Char) : Bool :=
  isDigit c || ('a' ≤ c && c ≤ 'z') || ('A' ≤ c && c ≤ 'Z') || c = '-' || c = '_'

/-- One part of a key. -/
def simpleKey? : Scanner String
  | '"' :: cs => (quoted? (cs.length + 1) cs).map fun (s, rest) => (String.ofList s, rest)
  | '\'' :: cs => (literal? cs).map fun (s, rest) => (String.ofList s, rest)
  | cs =>
    let name := cs.takeWhile isKeyChar
    if name = [] then none else some (String.ofList name, cs.drop name.length)

/-- Parts joined by dots, blanks around each. -/
def keyParts? : Nat → Scanner (List String)
  | 0, _ => none
  | steps + 1, cs => do
    let (part, cs) ← simpleKey? (skipGap cs)
    match skipGap cs with
    | '.' :: cs =>
      let (parts, cs) ← keyParts? steps cs
      some (part :: parts, cs)
    | cs => some ([part], cs)

/-- The least nesting that is refused. -/
def depthLimit : Nat := 80

/-- A key: the parts before the last one, and the last one. -/
def key? : Scanner (List String × String) := fun cs => do
  let (parts, cs) ← keyParts? (cs.length + 1) cs
  if depthLimit ≤ parts.length then none
  else
    let last ← parts.getLast?
    some ((parts.dropLast, last), cs)

/-! ### Dates -/

/-- A date of the calendar. -/
def fullDate? (cs : List Char) : Option (List Char) := do
  let (year, cs) ← field? 4 0 9999 cs
  let cs ← mark? '-' cs
  let (month, cs) ← field? 2 1 12 cs
  let cs ← mark? '-' cs
  let (_, cs) ← field? 2 1 (Civil.daysIn year month) cs
  some cs

/-- A time of day with seconds and an optional fraction. -/
def partialTime? (cs : List Char) : Option (List Char) := do
  let (_, cs) ← field? 2 0 23 cs
  let cs ← mark? ':' cs
  let (_, cs) ← field? 2 0 59 cs
  let cs ← mark? ':' cs
  let (_, cs) ← field? 2 0 60 cs
  match cs with
  | '.' :: c :: rest => some (if isDigit c then rest.dropWhile isDigit else cs)
  | cs => some cs

/-- Drops the zone after a time, if there is one. -/
def skipZone : List Char → List Char
  | 'Z' :: cs => cs
  | 'z' :: cs => cs
  | c :: cs =>
    let offset : Option (List Char) := do
      let (_, cs) ← field? 2 0 23 cs
      let cs ← mark? ':' cs
      let (_, cs) ← field? 2 0 59 cs
      some cs
    if c = '+' ∨ c = '-' then offset.getD (c :: cs) else c :: cs
  | [] => []

/-- A date, a date with a time, or a time. -/
def dateTime? (cs : List Char) : Option (List Char) :=
  match fullDate? cs with
  | some (c :: rest) =>
    if c = 'T' ∨ c = 't' ∨ c = ' ' then
      match partialTime? rest with
      | some rest => some (skipZone rest)
      | none => some (c :: rest)
    else some (c :: rest)
  | some [] => some []
  | none => partialTime? cs

/-! ### Numbers -/

/-- Digits, with an underscore between two of them where one likes: the digits, and what follows. -/
def digitRun (isOne : Char → Bool) : List Char → List Char × List Char
  | [] => ([], [])
  | '_' :: c :: cs =>
    if isOne c then
      let (digits, rest) := digitRun isOne cs
      (c :: digits, rest)
    else ([], '_' :: c :: cs)
  | c :: cs =>
    if isOne c then
      let (digits, rest) := digitRun isOne cs
      (c :: digits, rest)
    else ([], c :: cs)

/-- At least one digit, with underscores. -/
def digits? (isOne : Char → Bool) : Scanner (List Char)
  | [] => none
  | c :: cs => if isOne c then some (digitRun isOne (c :: cs)) else none

/-- A decimal number without a sign, which is zero or does not start with zero. -/
def whole? : Scanner (List Char)
  | '0' :: cs => some (['0'], cs)
  | cs => digits? isDigit cs

/-- The number of digits in a base. -/
def baseNumber? (base : Nat) : Scanner Nat := fun cs => do
  let isOne := fun c => ((hexValue? c).map fun n => decide (n < base)).getD false
  let (digits, rest) ← digits? isOne cs
  some (digits.foldl (fun acc c => base * acc + (hexValue? c).getD 0) 0, rest)

/-- An integer of 64 bits. -/
def integer? (cs : List Char) : Option (Int × List Char) := do
  let (n, rest) ← match cs with
    | '0' :: 'x' :: cs => (baseNumber? 16 cs).map fun (n, rest) => ((n : Int), rest)
    | '0' :: 'o' :: cs => (baseNumber? 8 cs).map fun (n, rest) => ((n : Int), rest)
    | '0' :: 'b' :: cs => (baseNumber? 2 cs).map fun (n, rest) => ((n : Int), rest)
    | cs => do
      let (negative, cs) := sign cs
      let (digits, rest) ← whole? cs
      some (if negative then -(naturalOf digits : Int) else (naturalOf digits : Int), rest)
  if inInt64 n then some (n, rest) else none

/-- The exponent of a number, if there is one. -/
def exponent? : Scanner Int
  | c :: cs => do
    if c = 'e' ∨ c = 'E' then
      let (negative, cs) := sign cs
      let (digits, rest) ← digits? isDigit cs
      some (if negative then -(naturalOf digits : Int) else (naturalOf digits : Int), rest)
    else none
  | [] => none

/-- Whether `n * 10 ^ power` rounds to a finite number of double width. -/
def isFinite (n : Nat) (power : Int) : Bool :=
  let size := (Nat.toDigits 10 n).length
  let bound := (Nat.pow 2 54 - 1) * Nat.pow 2 970
  if n = 0 ∨ size + power < 300 then true
  else if 320 < size + power then false
  else if power < 0 then n < bound * Nat.pow 10 power.natAbs
  else n * Nat.pow 10 power.natAbs < bound

/-- A floating point number, which may not be too great. -/
def float? (cs : List Char) : Option (List Char) := do
  let (negative, cs) := sign cs
  match cs with
  | 'i' :: 'n' :: 'f' :: rest => some rest
  | 'n' :: 'a' :: 'n' :: rest => some rest
  | cs =>
    let (whole, cs) ← whole? cs
    let (fraction, cs) ← match cs with
      | '.' :: cs => digits? isDigit cs
      | cs => if (exponent? cs).isSome then some ([], cs) else none
    let (power, cs) := (exponent? cs).getD (0, cs)
    if negative ∨ isFinite (naturalOf (whole ++ fraction)) (power - fraction.length) then some cs
    else none

end Recital.Toml
