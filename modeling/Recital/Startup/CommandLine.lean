import Recital.Settings
import Recital.Text.Integer

/-!
# The command line

* `Switch` : the options that take a value.
* `Given` : the values of the options that are given.
* `Environment` : the variables that stand in for options.
* `Arguments` : what the start needs from both.
* `Arguments.read` : the arguments of a command line, or the notice with which the program ends at once.

A value follows its option, or is attached to it: after `=`, or right after a letter.  A value that
follows does not start with a dash.
-/

set_option autoImplicit false

namespace Recital

/-- The options that take a value. -/
inductive Switch where
  | config | host | port | database | logLevel
  deriving DecidableEq, Repr, Inhabited

/-- Why the program ends at once. -/
inductive Notice where
  /-- The command line or a variable is wrong. -/
  | usage
  | help
  | version
  deriving DecidableEq, Repr, Inhabited

/-- What a name on the command line stands for. -/
inductive Word where
  | switch (s : Switch)
  | notice (n : Notice)
  deriving DecidableEq, Repr, Inhabited

/-- The words of the long names. -/
def Word.ofName? : List Char → Option Word := fun name =>
  match String.ofList name with
  | "config" => some (.switch .config)
  | "host" => some (.switch .host)
  | "port" => some (.switch .port)
  | "database" => some (.switch .database)
  | "log-level" => some (.switch .logLevel)
  | "help" => some (.notice .help)
  | "version" => some (.notice .version)
  | _ => none

/-- The words of the letters. -/
def Word.ofLetter? : Char → Option Word
  | 'c' => some (.switch .config)
  | 'p' => some (.switch .port)
  | 'd' => some (.switch .database)
  | 'h' => some (.notice .help)
  | 'V' => some (.notice .version)
  | _ => none

/-- The port that a text writes. -/
def portOf? (s : String) : Option Nat :=
  match Text.integer64? s.toList with
  | some n => if 0 ≤ n ∧ n ≤ 65535 then some n.toNat else none
  | none => none

/-- Whether an option takes a value. -/
def Switch.accepts (s : Switch) (value : String) : Bool :=
  match s with
  | .config => value ≠ ""
  | .host => true
  | .port => (portOf? value).isSome
  | .database => value ≠ ""
  | .logLevel => true

/-- The values of the options that are given. -/
structure Given where
  config : Option String := none
  host : Option String := none
  port : Option String := none
  database : Option String := none
  logLevel : Option String := none
  deriving DecidableEq, Repr, Inhabited

namespace Given

/-- The value of an option. -/
def get? (g : Given) : Switch → Option String
  | .config => g.config
  | .host => g.host
  | .port => g.port
  | .database => g.database
  | .logLevel => g.logLevel

/-- The values with the one of an option replaced. -/
def set (g : Given) (value : Option String) : Switch → Given
  | .config => { g with config := value }
  | .host => { g with host := value }
  | .port => { g with port := value }
  | .database => { g with database := value }
  | .logLevel => { g with logLevel := value }

theorem get?_set (g : Given) (value : Option String) (s t : Switch) :
    (g.set value s).get? t = if t = s then value else g.get? t := by
  cases s <;> cases t <;> rfl

/-- Gives an option a value, for the first time. -/
def give (g : Given) (s : Switch) (value : String) : Except Notice Given :=
  if (g.get? s).isSome ∨ ¬ s.accepts value then .error .usage else .ok (g.set (some value) s)

end Given

/-- What one argument does. -/
inductive Token where
  /-- Two dashes: no options follow. -/
  | stop
  /-- A name, perhaps with a value attached. -/
  | long (name : List Char) (value : Option (List Char))
  /-- A letter, and what follows it. -/
  | short (letter : Char) (rest : List Char)
  /-- Anything else. -/
  | plain (s : String)
  deriving DecidableEq, Repr, Inhabited

/-- The kind of an argument. -/
def Token.of (s : String) : Token :=
  match s.toList with
  | ['-', '-'] => .stop
  | '-' :: '-' :: cs =>
    match cs.dropWhile (· ≠ '=') with
    | [] => .long cs none
    | _ :: value => .long (cs.takeWhile (· ≠ '=')) (some value)
  | '-' :: c :: cs => .short c cs
  | _ => .plain s

/-- The value attached to a letter, if any; an equals sign before it does not count. -/
def attached : List Char → Option (List Char)
  | [] => none
  | '=' :: cs => some cs
  | cs => some cs

/-- What a word does when no option waits for its value: the program ends, the option has its value, or
it waits for it. -/
def Given.take (g : Given) (word : Option Word) (value : Option (List Char)) :
    Except Notice (Given × Option Switch) :=
  match word, value with
  | some (.switch s), some value => (g.give s (String.ofList value)).map fun g => (g, none)
  | some (.switch s), none => .ok (g, some s)
  | some (.notice n), _ => .error n
  | none, _ => .error .usage

/-- Reads the arguments into `g`, while the option `pending` waits for its value. -/
def Given.read (g : Given) (pending : Option Switch) : List String → Except Notice Given
  | [] => if pending.isSome then .error .usage else .ok g
  | argument :: rest => match Token.of argument with
    | .stop => if pending.isSome ∨ rest ≠ [] then .error .usage else .ok g
    | .plain value => match pending with
      | none => .error .usage
      | some s => match g.give s value with
        | .error n => .error n
        | .ok g => read g none rest
    | .long name value =>
      let word := Word.ofName? name
      let refused := match word, value with
        | some (.notice _), some _ => true
        | _, _ => pending.isSome
      if refused then .error .usage
      else match g.take word value with
        | .error n => .error n
        | .ok (g, pending) => read g pending rest
    | .short letter value =>
      if pending.isSome then .error .usage
      else match g.take (Word.ofLetter? letter) (attached value) with
        | .error n => .error n
        | .ok (g, pending) => read g pending rest

/-- The variables that stand in for options, and the one with the log filter. -/
structure Environment where
  config : Option String := none
  host : Option String := none
  port : Option String := none
  database : Option String := none
  logFilter : Option String := none
  deriving DecidableEq, Repr, Inhabited

/-- The environment whose variables a look-up gives. -/
def Environment.of (lookup : String → Option String) : Environment where
  config := lookup "ARMAN_CONFIG"
  host := lookup "ARMAN_HOST"
  port := lookup "ARMAN_PORT"
  database := lookup "ARMAN_DATABASE"
  logFilter := lookup "RUST_LOG"

/-- The variable that stands in for an option. -/
def Environment.get? (environment : Environment) : Switch → Option String
  | .config => environment.config
  | .host => environment.host
  | .port => environment.port
  | .database => environment.database
  | .logLevel => none

/-- Fills an option that is not given from its variable. -/
def Given.complete (g : Given) (environment : Environment) (s : Switch) : Except Notice Given :=
  match g.get? s, environment.get? s with
  | none, some value => g.give s value
  | _, _ => .ok g

/-- What the start needs to know. -/
structure Arguments where
  config : String := "arman.toml"
  overrides : Overrides := {}
  deriving DecidableEq, Repr, Inhabited

/-- The arguments of the given options. -/
def Given.arguments (g : Given) : Arguments where
  config := g.config.getD "arman.toml"
  overrides := ⟨g.host, g.port.bind portOf?, g.database, g.logLevel⟩

/-- The arguments of a command line in an environment. -/
def Arguments.read (arguments : List String) (environment : Environment) : Except Notice Arguments := do
  let g ← Given.read {} none arguments
  let g ← g.complete environment .config
  let g ← g.complete environment .host
  let g ← g.complete environment .port
  let g ← g.complete environment .database
  pure g.arguments

end Recital
