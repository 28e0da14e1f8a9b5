import Recital.Proofs.Outcome
import Recital.Proofs.Startup.CommandLine
import Recital.Proofs.Startup.File
import Recital.Proofs.Startup.Refill

/-!
# Which place a setting is taken from

* `firstGiven` : the first value of several places, or a default.
* `configPath`, `effective` : the configuration file and the settings in effect, each from the first place that gives
  it.
* `Environment.Fits` : the variables that count are accepted.
* `settings_eq_ok_iff` : the settings of a start are those in effect.
* `Environment.set`, `FileSettings.SameBut` : a value that a variable or the file gives is changed.
* `launch_environment`, `launch_refill` : neither the settings nor the start depend on it if a place before gives one.
* `settings_priority` : all of this.
-/

set_option autoImplicit false

namespace Recital

/-- The first value that one of the places gives, or the default. -/
def firstGiven {α : Type} (places : List (Option α)) (default : α) : α :=
  (places.findSome? id).getD default

/-- The configuration file: the command line, the environment, the default. -/
def configPath (line : Given) (environment : Environment) : String :=
  firstGiven [line.config, environment.config] "arman.toml"

/-- The settings in effect: the command line, the environment, the file, the default. -/
def effective (line : Given) (environment : Environment) (file : FileSettings) : Settings where
  host := firstGiven [line.host, environment.host, file.host] "127.0.0.1"
  port := firstGiven [line.port.bind portOf?, environment.port.bind portOf?, file.port] 5780
  databasePath := firstGiven [line.database, environment.database, file.databasePath] "arman.db"
  database := ⟨firstGiven [file.maxConnections] 10, firstGiven [file.busyTimeout] 5000⟩
  logging := ⟨firstGiven [line.logLevel, file.level] "info"⟩

/-- A variable is accepted unless the command line gives its option. -/
def Environment.Fits (environment : Environment) (line : Given) : Prop :=
  ∀ s v, line.get? s = none → environment.get? s = some v → s.accepts v = true

/-! ## Arguments -/

variable {line g g' : Given} {environment : Environment} {s t : Switch} {v : String} {arguments : List String}

theorem Given.set_self (g : Given) (s : Switch) : g.set (g.get? s) s = g := by
  cases s <;> rfl

theorem complete_eq_ok_iff : g.complete environment s = .ok g' ↔
    (∀ v, g.get? s = none → environment.get? s = some v → s.accepts v = true) ∧
      g' = g.set ((g.get? s).or (environment.get? s)) s := by
  unfold Given.complete
  split
  · rename_i value hnone hvalue
    rw [give_eq_ok_iff, hnone, hvalue]
    simp
  · rename_i hother
    cases hgiven : g.get? s with
    | some v =>
      rw [Option.some_or, ← hgiven, Given.set_self]
      exact ⟨fun h => ⟨fun _ hnone => absurd (hgiven.symm.trans hnone) nofun, (Except.ok.inj h).symm⟩,
        fun h => congrArg _ h.2.symm⟩
    | none =>
      cases hvalue : environment.get? s with
      | some v => exact absurd hvalue (hother v hgiven)
      | none =>
        rw [Option.or_none, ← hgiven, Given.set_self]
        exact ⟨fun h => ⟨fun _ _ hsome => absurd (hgiven.symm.trans hsome) nofun, (Except.ok.inj h).symm⟩,
          fun h => congrArg _ h.2.symm⟩

/-- Options that are spelled out have values that they accept. -/
theorem accepts_of_spelled (h : g.Spelled arguments line) (hg : ∀ s v, g.get? s = some v → s.accepts v = true) :
    ∀ s v, line.get? s = some v → s.accepts v = true := by
  induction h with
  | done => exact hg
  | stop => exact hg
  | option _ _ haccepts _ ih =>
    refine ih fun t w hw => ?_
    rw [Given.get?_set] at hw
    split at hw
    · rename_i heq
      rwa [heq, ← Option.some.inj hw]
    · exact hg t w hw

/-- A value on the command line is one that its option accepts. -/
theorem accepts_of_line (hline : Given.Spelled {} arguments line) :
    ∀ s v, line.get? s = some v → s.accepts v = true := by
  refine accepts_of_spelled hline fun s v hv => ?_
  cases s <;> cases hv

/-- The options of a command line, filled from the environment. -/
def Given.filled (line : Given) (environment : Environment) : Given where
  config := line.config.or environment.config
  host := line.host.or environment.host
  port := line.port.or environment.port
  database := line.database.or environment.database
  logLevel := line.logLevel

/-- **Arguments are read if the command line is spelled out and the variables fit**, and are then what it gives, filled
from the environment. -/
theorem arguments_eq_ok_iff {a : Arguments} : Arguments.read arguments environment = .ok a ↔
    ∃ line, Given.Spelled {} arguments line ∧ environment.Fits line ∧ a = (line.filled environment).arguments := by
  unfold Arguments.read
  simp only [bind_eq_ok_iff, read_eq_ok_iff, complete_eq_ok_iff]
  constructor
  · rintro ⟨line, hline, _, ⟨hconfig, rfl⟩, _, ⟨hhost, rfl⟩, _, ⟨hport, rfl⟩, _, ⟨hdatabase, rfl⟩, ha⟩
    refine ⟨line, hline, fun s v hnone hvalue => ?_, (Except.ok.inj ha).symm⟩
    cases s with
    | config => exact hconfig v hnone hvalue
    | host => exact hhost v hnone hvalue
    | port => exact hport v hnone hvalue
    | database => exact hdatabase v hnone hvalue
    | logLevel => cases hvalue
  · rintro ⟨line, hline, hfits, rfl⟩
    exact ⟨line, hline, _, ⟨fun v => hfits .config v, rfl⟩, _, ⟨fun v => hfits .host v, rfl⟩,
      _, ⟨fun v => hfits .port v, rfl⟩, _, ⟨fun v => hfits .database v, rfl⟩, rfl⟩

/-! ## Settings -/

theorem getD_or {α : Type} (a b : Option α) (d : α) : (a.or b).getD d = firstGiven [a, b] d := by
  cases a <;> cases b <;> rfl

theorem getD_getD {α : Type} (a b c : Option α) (d : α) : (a.or b).getD (c.getD d) = firstGiven [a, b, c] d := by
  cases a <;> cases b <;> cases c <;> rfl

theorem firstGiven_single {α : Type} (a : Option α) (d : α) : firstGiven [a] d = a.getD d := by
  cases a <;> rfl

/-- A port that is given is one. -/
theorem bind_portOf? {a b : Option String} (ha : ∀ v, a = some v → (portOf? v).isSome = true) :
    (a.or b).bind portOf? = (a.bind portOf?).or (b.bind portOf?) := by
  cases a with
  | none => rfl
  | some v =>
    obtain ⟨n, hn⟩ := Option.isSome_iff_exists.1 (ha v rfl)
    simp [hn]

theorem override_complete (hline : Given.Spelled {} arguments line) (file : FileSettings) :
    file.complete.override (line.filled environment).arguments.overrides = effective line environment file := by
  have haccepts := accepts_of_line hline
  have hport : (line.port.or environment.port).bind portOf? =
      (line.port.bind portOf?).or (environment.port.bind portOf?) := bind_portOf? (haccepts .port)
  have hlevel : line.logLevel.getD (file.level.getD "info") = firstGiven [line.logLevel, file.level] "info" := by
    cases line.logLevel <;> cases file.level <;> rfl
  simp only [Settings.override, Given.arguments, Given.filled, FileSettings.complete, effective, hport, getD_getD,
    hlevel, firstGiven_single]

theorem settings_of_spelled {x : Surroundings} {file : FileSettings} (hline : Given.Spelled {} x.arguments line)
    (hfits : x.environment.Fits line)
    (hread : FileSettings.Read (x.disk.source (configPath line x.environment)) file) :
    x.settings = .ok ((line.filled x.environment).arguments, effective line x.environment file) := by
  have harguments := arguments_eq_ok_iff.2 ⟨line, hline, hfits, rfl⟩
  have hpath : (line.filled x.environment).arguments.config = configPath line x.environment := getD_or _ _ _
  have hload := load_eq_ok_iff.2 ⟨file, hread, rfl⟩
  simp only [Surroundings.settings, harguments, hpath, hload, override_complete hline]

/-- **The settings of a start are those in effect**, of the file in effect. -/
theorem settings_eq_ok_iff {s : Surroundings} {path : String} {g : Settings} :
    (∃ a : Arguments, a.config = path ∧ s.settings = .ok (a, g)) ↔
      ∃ line file, Given.Spelled {} s.arguments line ∧ s.environment.Fits line ∧ path = configPath line s.environment ∧
        FileSettings.Read (s.disk.source path) file ∧ g = effective line s.environment file := by
  constructor
  · rintro ⟨a, rfl, h⟩
    unfold Surroundings.settings at h
    split at h
    · cases h
    · rename_i a' harguments
      obtain ⟨line, hline, hfits, rfl⟩ := arguments_eq_ok_iff.1 harguments
      split at h
      · cases h
      · rename_i g' hload
        obtain ⟨file, hread, rfl⟩ := load_eq_ok_iff.1 hload
        obtain ⟨rfl, rfl⟩ := Prod.mk.inj (Except.ok.inj h)
        exact ⟨line, file, hline, hfits, getD_or _ _ _, hread, override_complete hline file⟩
  · rintro ⟨line, file, hline, hfits, rfl, hread, rfl⟩
    exact ⟨_, getD_or _ _ _, settings_of_spelled hline hfits hread⟩

/-! ## Values elsewhere -/

/-- The environment with the variable of an option changed. -/
def Environment.set (environment : Environment) (value : Option String) : Switch → Environment
  | .config => { environment with config := value }
  | .host => { environment with host := value }
  | .port => { environment with port := value }
  | .database => { environment with database := value }
  | .logLevel => environment

theorem Environment.get?_set (value : Option String) (h : t ≠ s) :
    (environment.set value s).get? t = environment.get? t := by
  cases s <;> cases t <;> first | rfl | exact absurd rfl h

theorem complete_set (value : Option String) (h : (g.get? s).isSome = true) :
    g.complete (environment.set value s) t = g.complete environment t := by
  unfold Given.complete
  by_cases hts : t = s
  · subst hts
    obtain ⟨v, hv⟩ := Option.isSome_iff_exists.1 h
    simp only [hv]
  · rw [Environment.get?_set value hts]

theorem isSome_complete (hcomplete : g.complete environment t = .ok g') (h : (g.get? s).isSome = true) :
    (g'.get? s).isSome = true := by
  obtain ⟨-, rfl⟩ := complete_eq_ok_iff.1 hcomplete
  rw [Given.get?_set]
  split
  · rename_i hst
    rw [← hst, Option.isSome_or, h, Bool.true_or]
  · exact h

theorem Arguments.read_set (value : Option String) (hline : Given.Spelled {} arguments line)
    (h : (line.get? s).isSome = true) :
    Arguments.read arguments (environment.set value s) = Arguments.read arguments environment := by
  have hbind : ∀ {g : Given} {t : Switch} {f f' : Given → Except Notice Arguments}, (g.get? s).isSome = true →
      (∀ g', (g'.get? s).isSome = true → f g' = f' g') →
      (g.complete (environment.set value s) t >>= f) = (g.complete environment t >>= f') := by
    intro g t f f' hg hf
    rw [complete_set value hg]
    cases hcomplete : g.complete environment t with
    | error n => rfl
    | ok g' => exact hf g' (isSome_complete hcomplete hg)
  unfold Arguments.read
  rw [read_eq_ok_iff.2 hline]
  exact hbind h fun _ h => hbind h fun _ h => hbind h fun _ h => hbind h fun _ _ => rfl

/-- **A start does not depend on a variable whose option the command line gives.** -/
theorem launch_environment {x : Surroundings} (value : Option String) (hline : Given.Spelled {} x.arguments line)
    (h : (line.get? s).isSome = true) :
    { x with environment := x.environment.set value s }.settings = x.settings ∧
      { x with environment := x.environment.set value s }.launch = x.launch := by
  have hsettings : { x with environment := x.environment.set value s }.settings = x.settings := by
    simp only [Surroundings.settings, Arguments.read_set value hline h]
  refine ⟨hsettings, ?_⟩
  unfold Surroundings.launch
  rw [hsettings]
  have hfilter : (x.environment.set value s).logFilter = x.environment.logFilter := by cases s <;> rfl
  simp only [Surroundings.launchWith, logFilter?, hfilter]
  rfl

/-! ## Values in the file -/

/-- The file gives the setting of an option. -/
def FileSettings.Gives (f : FileSettings) : Switch → Prop
  | .config => False
  | .host => f.host.isSome = true
  | .port => f.port.isSome = true
  | .database => f.databasePath.isSome = true
  | .logLevel => f.level.isSome = true

/-- All that another file gives is the same, but for the setting of an option. -/
def FileSettings.SameBut (f f' : FileSettings) : Switch → Prop
  | .config => f' = f
  | .host => f' = { f with host := f'.host }
  | .port => f' = { f with port := f'.port }
  | .database => f' = { f with databasePath := f'.databasePath }
  | .logLevel => f' = { f with level := f'.level }

theorem firstGiven_skip {α : Type} {a b : Option α} (h : a.isSome = true ∨ b.isSome = true) (c c' : Option α) (d : α) :
    firstGiven [a, b, c] d = firstGiven [a, b, c'] d := by
  cases a <;> cases b <;> first | rfl | simp at h

theorem isSome_bind_portOf? {a : Option String} (h : a.isSome = true)
    (haccepts : ∀ v, a = some v → (portOf? v).isSome = true) : (a.bind portOf?).isSome = true := by
  obtain ⟨v, rfl⟩ := Option.isSome_iff_exists.1 h
  exact haccepts v rfl

/-- What the file gives for an option does not matter if the command line or the environment gives it. -/
theorem effective_sameBut {f f' : FileSettings} (hline : Given.Spelled {} arguments line)
    (hfits : environment.Fits line) (hsame : f.SameBut f' s)
    (h : (line.get? s).isSome = true ∨ (environment.get? s).isSome = true) :
    effective line environment f' = effective line environment f := by
  have haccepts := accepts_of_line hline
  cases s with
  | config => exact congrArg _ hsame
  | host =>
    have hhost : line.host.isSome = true ∨ environment.host.isSome = true := h
    rw [hsame]
    simp only [effective, firstGiven_skip hhost f'.host f.host]
  | port =>
    have hport : (line.port.bind portOf?).isSome = true ∨ (environment.port.bind portOf?).isSome = true := by
      cases hgiven : line.port with
      | some v => exact .inl (isSome_bind_portOf? rfl fun w hw => haccepts .port w (hgiven.trans hw))
      | none =>
        refine .inr (isSome_bind_portOf? (h.resolve_left ?_) fun w hw => hfits .port w hgiven hw)
        rw [show line.get? .port = none from hgiven]
        nofun
    rw [hsame]
    simp only [effective, firstGiven_skip hport f'.port f.port]
  | database =>
    have hpath : line.database.isSome = true ∨ environment.database.isSome = true := h
    rw [hsame]
    simp only [effective, firstGiven_skip hpath f'.databasePath f.databasePath]
  | logLevel =>
    obtain ⟨v, hv⟩ := Option.isSome_iff_exists.1 (h.resolve_right nofun)
    rw [hsame]
    simp only [effective, show line.logLevel = some v from hv]
    rfl

/-- A file that gives a setting is not empty. -/
theorem cons_of_gives {bytes : List UInt8} {f : FileSettings} (hread : FileSettings.Read (.file bytes) f)
    (h : f.Gives s) : ∃ b old, bytes = b :: old := by
  cases bytes with
  | cons b old => exact ⟨b, old, rfl⟩
  | nil =>
    cases hread with
    | file htext hparse hf =>
      obtain rfl := Option.some.inj ((show Text.utf8Text? [] = some "" from by decide).symm.trans htext)
      obtain rfl := Option.some.inj ((show Toml.parse? "" = some [] from rfl).symm.trans hparse)
      cases s with
      | config => exact h.elim
      | host => rw [FileSettings.Gives, Option.map_eq_none_iff.1 hf.host.symm] at h; cases h
      | port => rw [FileSettings.Gives, Option.map_eq_none_iff.1 hf.port.symm] at h; cases h
      | database => rw [FileSettings.Gives, Option.map_eq_none_iff.1 hf.databasePath.symm] at h; cases h
      | logLevel => rw [FileSettings.Gives, Option.map_eq_none_iff.1 hf.level.symm] at h; cases h

/-- **A start does not depend on what its file gives for an option that the command line or the environment gives.** -/
theorem launch_refill {x : Surroundings} {f f' : FileSettings} {location : Location} {bytes bytes' : List UInt8}
    (hline : Given.Spelled {} x.arguments line) (hfits : x.environment.Fits line)
    (hlocate : x.disk.locate? (configPath line x.environment) = some location)
    (hsource : x.disk.source (configPath line x.environment) = .file bytes)
    (hread : FileSettings.Read (.file bytes) f) (hread' : FileSettings.Read (.file bytes') f')
    (hsame : f.SameBut f' s) (hgives : f.Gives s) (hgives' : f'.Gives s)
    (h : (line.get? s).isSome = true ∨ (x.environment.get? s).isSome = true) :
    (x.refill location (.bytes bytes')).settings = x.settings ∧
      (x.refill location (.bytes bytes')).launch = x.launch.refill location (.bytes bytes') := by
  have hsettings := settings_of_spelled hline hfits (hsource ▸ hread)
  have hsource' : (x.refill location (.bytes bytes')).disk.source (configPath line x.environment) = .file bytes' :=
    Disk.source_refill hlocate hsource
  have hsettings' : (x.refill location (.bytes bytes')).settings = x.settings := by
    rw [hsettings, settings_of_spelled (x := x.refill _ _) hline hfits (hsource' ▸ hread')]
    rw [show (x.refill location (.bytes bytes')).environment = x.environment from rfl,
      effective_sameBut hline hfits hsame h]
  refine ⟨hsettings', ?_⟩
  obtain ⟨b, old, rfl⟩ := cons_of_gives hread hgives
  obtain ⟨c, new, rfl⟩ := cons_of_gives hread' hgives'
  unfold Surroundings.launch
  rw [hsettings', hsettings]
  exact launchWith_refill (Disk.file?_of_source hlocate hsource) _ _

/-! ## Priority -/

/-- **Each setting is taken from the first place that gives it**: the command line, the environment, the file, the
default.  What a later place gives for it changes neither the settings nor the start. -/
theorem Surroundings.settings_priority (x : Surroundings) :
    (∀ path g, (∃ a : Arguments, a.config = path ∧ x.settings = .ok (a, g)) ↔
      ∃ line file, Given.Spelled {} x.arguments line ∧ x.environment.Fits line ∧ path = configPath line x.environment ∧
        FileSettings.Read (x.disk.source path) file ∧ g = effective line x.environment file) ∧
    (∀ line s value, Given.Spelled {} x.arguments line → (line.get? s).isSome = true →
      { x with environment := x.environment.set value s }.settings = x.settings ∧
        { x with environment := x.environment.set value s }.launch = x.launch) ∧
    ∀ line s f f' location bytes bytes', Given.Spelled {} x.arguments line → x.environment.Fits line →
      (line.get? s).isSome = true ∨ (x.environment.get? s).isSome = true →
      x.disk.locate? (configPath line x.environment) = some location →
      x.disk.source (configPath line x.environment) = .file bytes →
      FileSettings.Read (.file bytes) f → FileSettings.Read (.file bytes') f' →
      f.Gives s → f'.Gives s → f.SameBut f' s →
      (x.refill location (.bytes bytes')).settings = x.settings ∧
        (x.refill location (.bytes bytes')).launch = x.launch.refill location (.bytes bytes') :=
  ⟨fun _ _ => settings_eq_ok_iff, fun _ _ value hline h => launch_environment value hline h,
    fun _ _ _ _ _ _ _ hline hfits h hlocate hsource hread hread' hgives hgives' hsame =>
      launch_refill hline hfits hlocate hsource hread hread' hsame hgives hgives' h⟩

/-- A port on the command line, next to a malformed one in the environment and one in the file. -/
theorem Surroundings.settings_priority_ports :
    let x : Surroundings :=
      { arguments := ["--port=7000", "-d", "x.db"]
        environment := { port := some "abc" }
        disk := { files := [(["arman.toml"], .bytes [112, 111, 114, 116, 32, 61, 32, 49])] }
        isTaken := fun _ => false }
    let other := Content.bytes [112, 111, 114, 116, 32, 61, 32, 50]
    (∃ a : Arguments, a.config = "arman.toml" ∧ x.settings = .ok (a, { port := 7000, databasePath := "x.db" })) ∧
      { x with environment := x.environment.set (some "99999") .port }.launch = x.launch ∧
      (x.refill ["arman.toml"] other).launch = x.launch.refill ["arman.toml"] other := by
  intro x other
  let line : Given := { port := some "7000", database := some "x.db" }
  have hline : Given.Spelled {} x.arguments line := read_eq_ok_iff.1 (by decide +kernel)
  have hfits : x.environment.Fits line := by
    intro s v hnone hvalue
    cases s with
    | port => cases hnone
    | _ => cases hvalue
  have hread : FileSettings.Read (.file [112, 111, 114, 116, 32, 61, 32, 49]) { port := some 1 } := by decide +kernel
  have hread' : FileSettings.Read (.file [112, 111, 114, 116, 32, 61, 32, 50]) { port := some 2 } := by decide +kernel
  have heffective : { port := 7000, databasePath := "x.db" } = effective line x.environment { port := some 1 } := by
    decide +kernel
  have hsource : x.disk.source "arman.toml" = .file [112, 111, 114, 116, 32, 61, 32, 49] := by decide +kernel
  have hlocate : x.disk.locate? "arman.toml" = some ["arman.toml"] := by decide +kernel
  obtain ⟨hsettings, henvironment, hfile⟩ := Surroundings.settings_priority x
  exact ⟨(hsettings _ _).2 ⟨line, _, hline, hfits, rfl, hsource ▸ hread, heffective⟩,
    (henvironment line .port _ hline rfl).2,
    (hfile line .port _ _ _ _ _ hline hfits (.inl rfl) hlocate hsource hread hread' rfl rfl rfl).2⟩

end Recital
