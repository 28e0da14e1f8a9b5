import Recital.Fault
import Recital.Text.Percent
import Recital.Toml.Reader

/-!
# Settings

* `Settings` : what the service needs to start, with a default for each setting.
* `Settings.ofToml` : the settings of a document, which may lack any of them and hold others.
* `Source` : what is found where the configuration file should be; `Settings.load`.
* `Overrides` : settings given at the start, which win; `Settings.override`.
* `Settings.bindAddress` : the address to listen at.
-/

set_option autoImplicit false

namespace Recital

open Toml (Value Entries)

/-- The settings of the connections to the database. -/
structure DatabaseSettings where
  maxConnections : Nat := 10
  /-- How long a writer waits for another one, in milliseconds. -/
  busyTimeout : Nat := 5000
  deriving DecidableEq, Repr, Inhabited

/-- The settings of the log. -/
structure LogSettings where
  level : String := "info"
  deriving DecidableEq, Repr, Inhabited

/-- What the service needs to start. -/
structure Settings where
  host : String := "127.0.0.1"
  port : Nat := 5780
  databasePath : String := "arman.db"
  database : DatabaseSettings := {}
  logging : LogSettings := {}
  deriving DecidableEq, Repr, Inhabited

/-- A setting of a group: how a value of it is put into the group. -/
structure Setting (G : Type) where
  name : String
  put : Value → G → Option G

/-- A setting that is a text. -/
def Setting.text {G : Type} (name : String) (set : String → G → G) : Setting G :=
  { name, put := fun value g => match value with
      | .string s => some (set s g)
      | _ => none }

/-- A setting that is a number below a bound. -/
def Setting.number {G : Type} (name : String) (bound : Nat) (set : Nat → G → G) : Setting G :=
  { name, put := fun value g => match value with
      | .integer n => if 0 ≤ n ∧ n < bound then some (set n.toNat g) else none
      | _ => none }

/-- The group that the entries of a table give; what is no setting does not matter. -/
def readEntries {G : Type} (settings : List (Setting G)) : Entries → G → Option G
  | [], g => some g
  | (key, value) :: entries, g => match settings.find? fun s => s.name = key with
    | none => readEntries settings entries g
    | some s => (s.put value g).bind (readEntries settings entries)

/-- The group that the items of an array give, in the order of the settings; more items do not
matter. -/
def readItems {G : Type} : List (Setting G) → List Value → G → Option G
  | s :: settings, value :: values, g => (s.put value g).bind (readItems settings values)
  | _, _, g => some g

/-- The group of a value.  A date stands for a group without settings. -/
def readGroup {G : Type} (settings : List (Setting G)) (g : G) : Value → Option G
  | .table _ entries => readEntries settings entries g
  | .array items => readItems settings items g
  | .tables items => readItems settings (items.map (Value.table .header)) g
  | .date => some g
  | _ => none

/-- A setting that is a group of settings. -/
def Setting.group {G H : Type} (name : String) (settings : List (Setting H)) (blank : H)
    (set : H → G → G) : Setting G :=
  { name, put := fun value g => (readGroup settings blank value).map fun h => set h g }

def DatabaseSettings.settings : List (Setting DatabaseSettings) :=
  [.number "max_connections" 4294967296 fun n g => { g with maxConnections := n },
    .number "busy_timeout_ms" 18446744073709551616 fun n g => { g with busyTimeout := n }]

def LogSettings.settings : List (Setting LogSettings) :=
  [.text "level" fun s g => { g with level := s }]

namespace Settings

def settings : List (Setting Settings) :=
  [.text "host" fun s g => { g with host := s },
    .number "port" 65536 fun n g => { g with port := n },
    .text "database_path" fun s g => { g with databasePath := s },
    .group "database" DatabaseSettings.settings {} fun d g => { g with database := d },
    .group "logging" LogSettings.settings {} fun l g => { g with logging := l }]

/-- The settings of a document. -/
def ofToml (s : String) : Except Fault Settings :=
  match (Toml.parse? s).bind fun entries => readEntries settings entries {} with
  | some g => .ok g
  | none => .error (.configuration "Failed to parse TOML")

end Settings

/-- What is found where the configuration file should be. -/
inductive Source where
  | missing
  | directory
  | file (bytes : List UInt8)
  deriving DecidableEq, Repr, Inhabited

/-- Settings given at the start. -/
structure Overrides where
  host : Option String := none
  port : Option Nat := none
  databasePath : Option String := none
  logLevel : Option String := none
  deriving DecidableEq, Repr, Inhabited

namespace Settings

/-- The settings of a configuration file.  One that is missing gives the defaults, one that is no text
cannot be read. -/
def load : Source → Except Fault Settings
  | .missing => .ok {}
  | .directory => .error .io
  | .file bytes => match Text.utf8Text? bytes with
    | some s => ofToml s
    | none => .error .io

/-- The settings with those that are given at the start in place of their own. -/
def override (g : Settings) (o : Overrides) : Settings :=
  { g with
    host := o.host.getD g.host
    port := o.port.getD g.port
    databasePath := o.databasePath.getD g.databasePath
    logging := { g.logging with level := o.logLevel.getD g.logging.level } }

/-- The address to listen at. -/
def bindAddress (g : Settings) : String :=
  g.host ++ ":" ++ toString g.port

end Settings

end Recital
