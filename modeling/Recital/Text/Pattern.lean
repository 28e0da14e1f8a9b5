import Recital.Text.Blank
import Recital.Text.Letter
import Recital.Text.Percent
import Recital.Text.Scanner

/-!
# Patterns

A pattern is a regular expression over characters: literals, escapes, groups, alternatives, classes in
brackets, and the repetitions `?`, `*` and `+`.  Here it is only told which texts are patterns.

Two things make a text no pattern although its form is right.  There are no tables of properties and
cases of characters, so that nothing may need them; and nothing may match a part of a character, as bytes
above 127 would.

* `Modes` : what the switches of a group set.
* `Atom` : what stands for one character or for a place between two; `Atom.isSupported`.
* `escape?`, `class?`, `opening?` : the parts of a pattern.
* `isPattern` : whether a text is a pattern.

A counted repetition needs a closing brace, which the texts that are read here do not hold; no brace
opens one.
-/

set_option autoImplicit false

namespace Recital.Text.Pattern

/-- What the switches of a group set. -/
structure Modes where
  /-- Whether the case of letters does not matter. -/
  caseless : Bool := false
  /-- Whether a pattern is one of characters, and not of bytes. -/
  unicode : Bool := true
  /-- Whether white space and comments may stand between the parts of a pattern. -/
  spaced : Bool := false
  deriving DecidableEq, Repr, Inhabited

/-- The letters of the switches. -/
def switches : List Char := ['i', 'm', 's', 'U', 'u', 'R', 'x']

/-- The modes with a switch turned on or off. -/
def Modes.turn (m : Modes) (switch : Char) (isOn : Bool) : Modes :=
  if switch = 'i' then { m with caseless := isOn }
  else if switch = 'u' then { m with unicode := isOn }
  else if switch = 'x' then { m with spaced := isOn }
  else m

/-- Drops white space and comments, which end with their line. -/
def skipSpace (inComment : Bool) : List Char → List Char
  | [] => []
  | c :: cs =>
    if inComment then skipSpace (c ≠ '\n') cs
    else if isWhiteSpace c then skipSpace false cs
    else if c = '#' then skipSpace true cs
    else c :: cs

/-- Drops what may stand between the parts of a pattern. -/
def Modes.skip (m : Modes) (cs : List Char) : List Char :=
  if m.spaced then skipSpace false cs else cs

/-- What stands for one character, or for a place between two. -/
inductive Atom where
  | literal (c : Char)
  /-- The character whose code two hexadecimal digits write. -/
  | octet (c : Char)
  /-- Any character. -/
  | any
  /-- The start or the end of the text or of a line. -/
  | edge
  /-- A place where a word starts or ends, or does not. -/
  | wordEdge
  /-- A digit, a blank or a character of words, or any other character than these. -/
  | kind (others : Bool)
  deriving DecidableEq, Repr, Inhabited

/-- Whether a character is an ASCII one. -/
def isAscii (c : Char) : Bool := c.toNat < 128

/-- Whether an atom can stand in a pattern. -/
def Atom.isSupported (m : Modes) : Atom → Bool
  | literal _ => !(m.caseless && m.unicode)
  | octet c => if m.unicode then !m.caseless else isAscii c
  | any => m.unicode
  | edge => true
  | wordEdge => !m.unicode
  | kind others => !m.unicode && !others

/-- The character of an atom that is one. -/
def Atom.char? : Atom → Option Char
  | literal c => some c
  | octet c => some c
  | _ => none

/-- Whether an atom can stand in a class. -/
def Atom.isMember (m : Modes) : Atom → Bool
  | literal c => m.unicode || isAscii c
  | octet c => m.unicode || isAscii c
  | kind others => !m.unicode && !others
  | _ => false

/-- The character whose code some hexadecimal digits write, after those read into `code`. -/
def codePoint? (m : Modes) : Nat → Nat → Scanner Char
  | 0, code, cs => if code.isValidChar then some (Char.ofNat code, cs) else none
  | count + 1, code, cs => match m.skip cs with
    | [] => none
    | c :: cs => (hexValue? c).bind fun digit => codePoint? m count (code * 16 + digit) cs

/-- The control character that a letter after a backslash stands for. -/
def control? : Char → Option Char
  | 'a' => some '\x07'
  | 't' => some '\t'
  | 'n' => some '\n'
  | 'v' => some '\x0b'
  | 'f' => some '\x0c'
  | 'r' => some '\r'
  | _ => none

/-- An escape after its backslash.  There are no back references, and no properties of characters. -/
def escape? (m : Modes) : Scanner Atom
  | [] => none
  | c :: cs =>
    if c = 'x' then (codePoint? m 2 0 cs).map fun (c, cs) => (.octet c, cs)
    else if c = 'u' then (codePoint? m 4 0 cs).map fun (c, cs) => (.literal c, cs)
    else if c = 'U' then (codePoint? m 8 0 cs).map fun (c, cs) => (.literal c, cs)
    else if ['d', 's', 'w'].contains c then some (.kind false, cs)
    else if ['D', 'S', 'W'].contains c then some (.kind true, cs)
    else if let some control := control? c then some (.literal control, cs)
    else if ['A', 'z'].contains c then some (.edge, cs)
    else if ['b', 'B', '<', '>'].contains c then some (.wordEdge, cs)
    else if c.isAlphanum || !isAscii c then none
    else some (.literal c, cs)

/-- An atom outside classes. -/
def atom? (m : Modes) : Scanner Atom
  | [] => none
  | '\\' :: cs => escape? m cs
  | '.' :: cs => some (.any, cs)
  | '^' :: cs => some (.edge, cs)
  | '$' :: cs => some (.edge, cs)
  | c :: cs => some (.literal c, cs)

/-- An atom in a class. -/
def member? (m : Modes) : Scanner Atom
  | [] => none
  | '\\' :: cs => escape? m cs
  | c :: cs => some (.literal c, cs)

/-- An atom in a class, or two characters with a dash between them, in ascending order.  A dash before
another one or before the closing bracket is no such dash. -/
def range? (m : Modes) (cs : List Char) : Option (List Char) := do
  let (first, cs) ← member? m cs
  let single := if first.isMember m then some cs else none
  match m.skip cs with
  | '-' :: next => match m.skip next with
    | ']' :: _ => single
    | '-' :: _ => single
    | next => do
      let (last, rest) ← member? m next
      let a ← first.char?
      let b ← last.char?
      if a ≤ b ∧ first.isMember m ∧ last.isMember m then some rest else none
  | _ => single

/-- The names of the classes of ASCII characters. -/
def asciiClasses : List String :=
  ["alnum", "alpha", "ascii", "blank", "cntrl", "digit", "graph", "lower", "print", "punct", "space",
    "upper", "word", "xdigit"]

/-- A class of ASCII characters by name, after its opening bracket: whether it is negated. -/
def asciiClass? : Scanner Bool
  | ':' :: cs =>
    let (negated, cs) := match cs with
      | '^' :: cs => (true, cs)
      | cs => (false, cs)
    let name := cs.takeWhile (· ≠ ':')
    match cs.drop name.length with
    | ':' :: ']' :: rest =>
      if asciiClasses.contains (String.ofList name) then some (negated, rest) else none
    | _ => none
  | _ => none

/-- Drops dashes, and what may stand after each. -/
def skipDashes (m : Modes) : Nat → List Char → List Char
  | steps + 1, '-' :: cs => skipDashes m steps (m.skip cs)
  | _, cs => cs

/-- The start of a class after its opening bracket: a circumflex negates it, and dashes or a closing
bracket are members there. -/
def classStart? (m : Modes) (cs : List Char) : Option (List Char) :=
  let start (cs : List Char) : List Char := match m.skip cs with
    | '-' :: cs => skipDashes m cs.length (m.skip cs)
    | ']' :: cs => cs
    | cs => cs
  match m.skip cs with
  | '^' :: cs => if m.unicode then some (start cs) else none
  | cs => some (start cs)

/-- The rest of a class inside of which `depth` others are open. -/
def classRest? (m : Modes) : Nat → Nat → List Char → Option (List Char)
  | 0, _, _ => none
  | steps + 1, depth, cs => match m.skip cs with
    | [] => none
    | '[' :: cs => match asciiClass? cs with
      | some (negated, rest) =>
        if negated && !m.unicode then none else classRest? m steps depth rest
      | none => (classStart? m cs).bind (classRest? m steps (depth + 1))
    | ']' :: cs => match depth with
      | 0 => some cs
      | depth + 1 => classRest? m steps depth cs
    | '&' :: '&' :: cs => classRest? m steps depth cs
    | '-' :: '-' :: cs => classRest? m steps depth cs
    | '~' :: '~' :: cs => classRest? m steps depth cs
    | cs => (range? m cs).bind (classRest? m steps depth)

/-- A class after its opening bracket. -/
def class? (m : Modes) (cs : List Char) : Option (List Char) :=
  if m.caseless && m.unicode then none
  else (classStart? m cs).bind fun rest => classRest? m (rest.length + 1) 0 rest

/-- What opens after a parenthesis. -/
inductive Opening where
  /-- Switches for the rest of the group around. -/
  | modes (m : Modes)
  /-- A group, perhaps with a name. -/
  | group (m : Modes) (name : Option (List Char))
  deriving DecidableEq, Repr, Inhabited

/-- Whether a text names a group. -/
def isGroupName : List Char → Bool
  | [] => false
  | c :: cs => (c = '_' || isLetter c) &&
      cs.all fun c => ['_', '.', '[', ']'].contains c || isLetterOrDigit c

/-- The name of a group, up to its closing angle. -/
def groupName? : Scanner (List Char) := fun cs =>
  let name := cs.takeWhile (· ≠ '>')
  match cs.drop name.length with
  | '>' :: rest => if isGroupName name then some (name, rest) else none
  | _ => none

/-- Switches up to a colon or a closing parenthesis, after those in `seen`.  Those after the dash are
turned off; nothing stands there twice, and something follows the dash. -/
def switches? (m : Modes) (seen : List Char) : Scanner Opening
  | [] => none
  | ':' :: cs => if seen.head? = some '-' then none else some (.group m none, cs)
  | ')' :: cs =>
    if seen = [] ∨ seen.head? = some '-' then none else some (.modes m, cs)
  | c :: cs =>
    if seen.contains c then none
    else if c = '-' then switches? m (c :: seen) cs
    else if switches.contains c then switches? (m.turn c (!seen.contains '-')) (c :: seen) cs
    else none

/-- What opens after a parenthesis. -/
def opening? (m : Modes) : Scanner Opening := fun cs =>
  let named (cs : List Char) : Option (Opening × List Char) :=
    (groupName? cs).map fun (name, rest) => (.group m (some name), rest)
  match m.skip cs with
  | '?' :: 'P' :: '<' :: cs => named cs
  | '?' :: '<' :: cs => named cs
  | '?' :: cs => switches? m [] cs
  | cs => some (.group m none, cs)

/-- Where the reading of a pattern stands. -/
structure State where
  modes : Modes := {}
  /-- The modes of the groups around, the nearest first. -/
  outer : List Modes := []
  names : List (List Char) := []
  /-- Whether something stands before that can be repeated. -/
  isRepeatable : Bool := false
  deriving DecidableEq, Repr, Inhabited

/-- The state after what opens behind a parenthesis.  No two groups have one name. -/
def State.enter (s : State) : Opening → Option State
  | .modes m => some { s with modes := m, isRepeatable := false }
  | .group m name =>
    if name.any s.names.contains then none
    else some ⟨m, s.modes :: s.outer, name.toList ++ s.names, false⟩

/-- Whether the rest of a text completes a pattern. -/
def completes : Nat → State → List Char → Bool
  | 0, _, _ => false
  | steps + 1, s, cs => match s.modes.skip cs with
    | [] => s.outer.isEmpty
    | '(' :: cs => match opening? s.modes cs with
      | none => false
      | some (opening, rest) => match s.enter opening with
        | none => false
        | some s => completes steps s rest
    | ')' :: cs => match s.outer with
      | [] => false
      | m :: outer => completes steps { s with modes := m, outer := outer, isRepeatable := true } cs
    | '|' :: cs => completes steps { s with isRepeatable := false } cs
    | '[' :: cs => match class? s.modes cs with
      | none => false
      | some rest => completes steps { s with isRepeatable := true } rest
    | '\x7b' :: _ => false
    | c :: cs =>
      if ['?', '*', '+'].contains c then
        s.isRepeatable && completes steps s (match cs with
          | '?' :: rest => rest
          | rest => rest)
      else match atom? s.modes (c :: cs) with
        | none => false
        | some (atom, rest) =>
          atom.isSupported s.modes && completes steps { s with isRepeatable := true } rest

end Pattern

/-- Whether a text is a pattern. -/
def isPattern (cs : List Char) : Bool :=
  Pattern.completes (cs.length + 1) {} cs

end Recital.Text
