import Recital.Startup.CommandLine
import Recital.Startup.DatabaseName
import Recital.Startup.Disk
import Recital.Startup.LogFilter

/-!
# Starting the service

* `Surroundings` : the command line, the environment, the disk and the addresses in use.
* `Surroundings.launch` : what the start leads to, step by step: arguments, configuration file, log,
  database, address.
* `openDatabase` : the database opened, or made if there is none; `Progress` tells how far that comes.
* `Ending` : how the start ends; `Ending.message?`, `Ending.exitCode`.
-/

set_option autoImplicit false

namespace Recital

/-- All that the start depends on. -/
structure Surroundings where
  arguments : List String := []
  environment : Environment := {}
  disk : Disk := {}
  /-- Whether nothing can listen at an address. -/
  isTaken : String → Bool

/-- How the start ends. -/
inductive Ending where
  /-- At once, as the command line says. -/
  | notice (n : Notice)
  /-- The configuration file cannot be read. -/
  | unreadable (path : String)
  /-- The filter of the log cuts a character in two: the start breaks off. -/
  | brokenFilter
  | noDatabase
  /-- The settings allow no connection at all: the start breaks off. -/
  | noConnections
  | addressTaken (address : String)
  | serving (address : String)
  deriving DecidableEq, Repr, Inhabited

namespace Ending

/-- The error. -/
def message? : Ending → Option String
  | unreadable path => some ("Failed to load " ++ path)
  | noDatabase => some "Failed to initialize database"
  | addressTaken address => some ("Failed to bind to " ++ address)
  | notice _ => none
  | brokenFilter => none
  | noConnections => none
  | serving _ => none

/-- The status that the program ends with. -/
def exitCode : Ending → Nat
  | notice .usage => 2
  | notice .help => 0
  | notice .version => 0
  | serving _ => 0
  | brokenFilter => 101
  | noConnections => 101
  | unreadable _ => 1
  | noDatabase => 1
  | addressTaken _ => 1

end Ending

/-- The ending of a start, the lines of its log and the disk that it leaves. -/
structure Launch where
  ending : Ending
  log : List LogLine
  disk : Disk
  deriving Repr, Inhabited

/-- The longest time that a writer can be told to wait, in milliseconds. -/
def longestWait : Nat := 2147483647

/-- Whether a writer can be told to wait as long as the settings say. -/
def DatabaseSettings.canWait (d : DatabaseSettings) : Bool :=
  d.busyTimeout ≤ longestWait

/-- How far the opening of a database comes. -/
inductive Progress where
  /-- There is no connection. -/
  | stopped (ending : Ending)
  /-- There are connections, but its tables cannot be made. -/
  | connected
  | ready
  deriving DecidableEq, Repr, Inhabited

/-- The result of opening a database. -/
structure Opened where
  progress : Progress
  disk : Disk
  deriving Repr, Inhabited

/-- The greatest number of bytes of the path of a database from the root, with its slashes. -/
def pathLimit : Nat := 504

/-- The name of the journal beside a database, which is there while the database is changed. -/
def journalName (location : Location) : String :=
  location.getLastD "" ++ "-journal"

/-- Whether a database at a location can be written to: it was opened for that, and the journal beside
it can have its name. -/
def isWritable (name : DatabaseName) (location : Location) : Bool :=
  !name.isReadOnly && Path.isName (journalName location)

/-- Opens a file that holds nothing yet as a new database; a journal of an earlier one is dropped.  What
cannot be written to gives connections only if they do not have to set up a log. -/
def openEmpty (name : DatabaseName) (disk : Disk) (location : Location) (canWait : Bool) : Opened :=
  if ¬ canWait then ⟨.stopped .noDatabase, disk⟩
  else if isWritable name location then
    ⟨.ready, (disk.erase (location.dropLast ++ [journalName location])).write location
      (.database .fresh)⟩
  else if name.isLogged then ⟨.stopped .noDatabase, disk⟩
  else ⟨.connected, disk⟩

/-- Opens the database in a file.  A missing file is made before the settings of a connection are looked
at. -/
def openFile (name : DatabaseName) (disk : Disk) (canWait : Bool) : Opened :=
  let location := disk.resolve name.path
  let refused : Opened := ⟨.stopped .noDatabase, disk⟩
  if pathLimit < (Disk.pathOf location).utf8ByteSize + 1 then refused
  else match disk.find location with
    | .folder => refused
    | .file .sink => refused
    | .file (.bytes (_ :: _)) => refused
    | .file (.bytes []) => openEmpty name disk location canWait
    | .file (.database db) =>
      if ¬ canWait then refused
      else if isWritable name location then ⟨.ready, disk.write location (.database db.seeded)⟩
      else ⟨.connected, disk⟩
    | .nothing =>
      if name.access = .create ∧ Path.isName (location.getLastD "") ∧ disk.isOpen location ∧
          disk.isFolder location.dropLast then
        openEmpty name (disk.write location (.bytes [])) location canWait
      else refused

/-- Opens a database in memory.  If each of several connections has its own, the tables that one makes
are missing for the next. -/
def openMemory (name : DatabaseName) (d : DatabaseSettings) : Progress :=
  if ¬ d.canWait then .stopped .noDatabase
  else if name.isReadOnly ∨ (name.keeping = .apart ∧ 1 < d.maxConnections) then .connected
  else .ready

/-- Opens the database of the settings, after the folders on the way to it have been made.  For that its
name is taken as a path, whatever it stands for. -/
def openDatabase (g : Settings) (disk : Disk) : Opened :=
  match disk.makeFolders? g.databasePath with
  | none => ⟨.stopped .noDatabase, disk⟩
  | some disk =>
    if g.database.maxConnections = 0 then ⟨.stopped .noConnections, disk⟩
    else match DatabaseName.parse? g.databasePath with
      | none => ⟨.stopped .noDatabase, disk⟩
      | some name => match name.keeping with
        | .file => openFile name disk g.database.canWait
        | _ => ⟨openMemory name g.database, disk⟩

/-- The filter that the settings ask for, unless it cuts a character. -/
def settingsFilter? (g : Settings) : Option LogFilter :=
  let level := g.logging.level
  LogFilter.ofText? ("arman_cms=" ++ level ++ ",arman_common=" ++ level ++ ",tower_http=" ++ level)

/-- The filter of the log: the one of the environment, or if it is malformed the one of the settings,
unless it cuts a character. -/
def logFilter? (environment : Environment) (g : Settings) : Option LogFilter :=
  match environment.logFilter.map LogFilter.parse with
  | some (.ok filter) => some filter
  | some (.error .cutCharacter) => none
  | some (.error .malformed) => settingsFilter? g
  | none => settingsFilter? g

/-- A line of the service. -/
def serviceLine (level : Level) (message : String) : LogLine :=
  ⟨level, "arman_cms", message⟩

/-- The lines before the database is opened. -/
def firstLines (arguments : Arguments) (g : Settings) (disk : Disk) : List LogLine :=
  serviceLine .info "Starting Arman CMS" ::
    (if disk.lacks arguments.config then
      [serviceLine .warn
        ("Config file " ++ arguments.config ++ " not found, using compiled defaults")]
      else []) ++
    [serviceLine .info ("Database: " ++ g.databasePath)]

/-- The line that tells of connections to a database. -/
def databaseLine (g : Settings) (disk : Disk) : LogLine :=
  ⟨.info, "arman_common::db::init",
    (if disk.lacks g.databasePath then "Initialized new database: "
      else "Opened existing database: ") ++ g.databasePath⟩

namespace Surroundings

/-- How the start ends with an open database. -/
def addressEnding (s : Surroundings) (g : Settings) : Ending :=
  if s.isTaken g.bindAddress then .addressTaken g.bindAddress else .serving g.bindAddress

/-- The start with settings: the database, then the address. -/
def launchWith (s : Surroundings) (arguments : Arguments) (g : Settings) : Launch :=
  match logFilter? s.environment g with
  | none => ⟨.brokenFilter, [], s.disk⟩
  | some filter =>
    let opened := openDatabase g s.disk
    let (ending, lines) := match opened.progress with
      | .stopped ending => (ending, [])
      | .connected => (Ending.noDatabase, [databaseLine g s.disk])
      | .ready => (s.addressEnding g, [databaseLine g s.disk,
          serviceLine .info ("Starting HTTP server on " ++ g.bindAddress)])
    ⟨ending, (firstLines arguments g s.disk ++ lines).filter filter.passes, opened.disk⟩

/-- The settings in effect, or the ending of a start that does not get them. -/
def settings (s : Surroundings) : Except Ending (Arguments × Settings) :=
  match Arguments.read s.arguments s.environment with
  | .error n => .error (.notice n)
  | .ok arguments => match Settings.load (s.disk.source arguments.config) with
    | .error _ => .error (.unreadable arguments.config)
    | .ok g => .ok (arguments, g.override arguments.overrides)

/-- What the start leads to. -/
def launch (s : Surroundings) : Launch :=
  match s.settings with
  | .error ending => ⟨ending, [], s.disk⟩
  | .ok (arguments, g) => s.launchWith arguments g

end Surroundings

end Recital
