import Recital.Startup.Directive

/-!
# The filter of the log

* `LogFilter` : directives in order.
* `LogFilter.parse` : the filter of a text whose pieces are all directives.
* `LogFilter.ofText` : the filter of the directives among the pieces of a text.
* `LogFilter.passes` : the most specific directive about a line decides.
-/

set_option autoImplicit false

namespace Recital

/-- A filter: its directives in order. -/
abbrev LogFilter := List Directive

namespace LogFilter

/-- The pieces of a text between commas, without the empty ones. -/
def pieces (s : String) : List (List Char) :=
  (Text.splitAt ',' s.toList).filter (· ≠ [])

/-- The filter with the given directives, or the one for errors if there are none. -/
def ofDirectives : List Directive → LogFilter
  | [] => [{ level := .error }]
  | ds => ds

/-- The directives of some pieces, or the first flaw among them. -/
def directives : List (List Char) → Except Directive.Flaw (List Directive)
  | [] => .ok []
  | piece :: pieces => match Directive.parse piece with
    | .error flaw => .error flaw
    | .ok d => (directives pieces).map (d :: ·)

/-- The directives among some pieces, unless one of the others cuts a character. -/
def directivesAmong? : List (List Char) → Option (List Directive)
  | [] => some []
  | piece :: pieces => match Directive.parse piece with
    | .error .cutCharacter => none
    | .error .malformed => directivesAmong? pieces
    | .ok d => (directivesAmong? pieces).map (d :: ·)

/-- The filter of a text whose pieces are all directives. -/
def parse (s : String) : Except Directive.Flaw LogFilter :=
  (directives (pieces s)).map ofDirectives

/-- The filter of the directives among the pieces of a text, unless a piece cuts a character. -/
def ofText? (s : String) : Option LogFilter :=
  (directivesAmong? (pieces s)).map ofDirectives

/-- Whether a filter lets a line through. -/
def passes (filter : LogFilter) (line : LogLine) : Bool :=
  match (filter.filter fun d => d.isAbout line.target).foldl Directive.better none with
  | some d => line.level.rank ≤ d.level.rank
  | none => false

end LogFilter

end Recital
