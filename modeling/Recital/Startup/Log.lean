import Recital.Text.Integer
import Recital.Text.Quoted

/-!
# Log lines

* `Level` : how much a log tells, from nothing to everything.
* `LogLine` : a line, its level and where it comes from.
* `LogLine.text` : the line as it is written.
-/

set_option autoImplicit false

namespace Recital

/-- How much a log tells. -/
inductive Level where
  | off | error | warn | info | debug | trace
  deriving DecidableEq, Repr, Inhabited

namespace Level

/-- The levels in ascending order. -/
def rank : Level → Nat
  | off => 0
  | error => 1
  | warn => 2
  | info => 3
  | debug => 4
  | trace => 5

/-- The level of a rank. -/
def ofRank? : Nat → Option Level
  | 0 => some off
  | 1 => some error
  | 2 => some warn
  | 3 => some info
  | 4 => some debug
  | 5 => some trace
  | _ => none

theorem ofRank?_rank (l : Level) : ofRank? l.rank = some l := by
  cases l <;> rfl

/-- The name of a level in a log. -/
def name : Level → String
  | off => "OFF"
  | error => "ERROR"
  | warn => "WARN"
  | info => "INFO"
  | debug => "DEBUG"
  | trace => "TRACE"

/-- The level of a name in any case, or of its rank. -/
def ofText? (cs : List Char) : Option Level :=
  let digits := match cs with
    | '+' :: cs => cs
    | cs => cs
  match Text.natural? digits with
  | some n => ofRank? n
  | none => [off, error, warn, info, debug, trace].find? fun l =>
      l.name = String.ofList (cs.map Char.toUpper)

end Level

/-- A line of the log. -/
structure LogLine where
  level : Level
  target : String
  message : String
  deriving DecidableEq, Repr, Inhabited

/-- The control characters of ASCII that terminals obey. -/
def terminalControls : List Char :=
  ['\x07', '\x08', '\x0c', '\x1b', '\x7f']

/-- How a character of a message is written: one that terminals obey by its code, any other one as it
is. -/
def writtenChar (c : Char) : List Char :=
  if terminalControls.contains c then
    ['\\', 'x', Nat.digitChar (c.toNat / 16), Nat.digitChar (c.toNat % 16)]
  else if 0x80 ≤ c.toNat ∧ c.toNat ≤ 0x9F then
    ['\\', 'u', '\x7b'] ++ Text.hexadecimal c.toNat ++ ['\x7d']
  else [c]

/-- The line as it is written. -/
def LogLine.text (line : LogLine) : String :=
  line.level.name ++ " " ++ line.target ++ ": " ++
    String.ofList (line.message.toList.flatMap writtenChar)

end Recital
