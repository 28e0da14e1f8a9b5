import Recital.Proofs.Startup.Flaw
import Recital.Proofs.Startup.Notice
import Recital.Proofs.Startup.Opening

/-!
# How a start fails

A start goes through stages: its arguments, its configuration file, its database, its address.  Each has its own way to
fail, and the first that does ends the start.

* `Surroundings.Asks`, `Surroundings.Resolves`, `Surroundings.Reaches` : how far a start comes: to its options, its
  settings, its database.
* `Surroundings.FailsAt` : a stage fails, with the ending that tells of it, whether or not a stage before it does.
* `Surroundings.FailsFirst` : no stage before it fails.  `launch_ending_iff` : that is how the start ends.
* `launch_of_not_reaches` : before the database, nothing is told and nothing is changed.
* `launch_founds` : where there was no database there is a new one, whether or not the address can be taken.
* `Surroundings.FailsCleanly`, `fails_cleanly` : all of this.  `fails_cleanly_exceptions` : what it does not say.
-/

set_option autoImplicit false

namespace Recital

/-- The stages of a start that can fail. -/
inductive Stage where
  | arguments | configuration | database | address
  deriving DecidableEq, Repr

/-- The stages in their order. -/
def Stage.rank : Stage → Nat
  | arguments => 0
  | configuration => 1
  | database => 2
  | address => 3

/-- Whether a start that ends so has not come to its database. -/
def Ending.isEarly : Ending → Bool
  | notice _ => true
  | unreadable _ => true
  | brokenFilter => true
  | _ => false

/-- Whether a start that ends so has its database. -/
def Ending.hasDatabase : Ending → Bool
  | addressTaken _ => true
  | serving _ => true
  | _ => false

namespace Surroundings

/-- The command line and the environment ask for a start with these options. -/
structure Asks (x : Surroundings) (line : Given) : Prop where
  spelled : Given.Spelled {} x.arguments line
  fits : x.environment.Fits line

/-- The start has these settings: its configuration file could be read, or there is none. -/
def Resolves (x : Surroundings) (g : Settings) : Prop :=
  ∃ line file, x.Asks line ∧ FileSettings.Read (x.disk.source (configPath line x.environment)) file ∧
    g = effective line x.environment file

/-- The start comes to its database with these settings: its log has a filter. -/
def Reaches (x : Surroundings) (g : Settings) : Prop :=
  x.Resolves g ∧ (logFilter? x.environment g).isSome = true

/-- A stage fails, and an ending tells of it.  A stage that is come to only with options or settings fails only where
there are some, but not only if the stages before it succeed: the address may be taken where the database fails. -/
inductive FailsAt (x : Surroundings) : Stage → Ending → Prop where
  | arguments (hline : ¬ ∃ line, x.Asks line) (hnotice : ¬ ∃ n, Given.Interrupted {} x.arguments n) :
      FailsAt x .arguments (.notice .usage)
  | configuration {line : Given} (hline : x.Asks line) (h : (x.disk.source (configPath line x.environment)).Flawed) :
      FailsAt x .configuration (.unreadable (configPath line x.environment))
  | database {g : Settings} {e : Ending} (hg : x.Reaches g) (h : (openDatabase g x.disk).progress.failure? = some e) :
      FailsAt x .database e
  | address {g : Settings} (hg : x.Reaches g) (h : x.isTaken g.bindAddress = true) :
      FailsAt x .address (.addressTaken g.bindAddress)

/-- A stage fails, and none before it does. -/
def FailsFirst (x : Surroundings) (e : Ending) : Prop :=
  ∃ s, x.FailsAt s e ∧ ∀ t e', t.rank < s.rank → ¬ x.FailsAt t e'

variable {x : Surroundings} {line line' : Given} {g g' : Settings} {e : Ending} {n : Notice} {location : Location}

/-! ## Settings -/

theorem Asks.unique (h : x.Asks line) (h' : x.Asks line') : line = line' :=
  Except.ok.inj ((read_eq_ok_iff.2 h.spelled).symm.trans (read_eq_ok_iff.2 h'.spelled))

theorem resolves_iff : x.Resolves g ↔ ∃ a, x.settings = .ok (a, g) := by
  constructor
  · rintro ⟨line, file, hline, hread, rfl⟩
    exact ⟨_, settings_of_spelled hline.spelled hline.fits hread⟩
  · rintro ⟨a, h⟩
    obtain ⟨line, file, hspelled, hfits, hpath, hread, hg⟩ := settings_eq_ok_iff.1 ⟨a, rfl, h⟩
    exact ⟨line, file, ⟨hspelled, hfits⟩, hpath ▸ hread, hg⟩

theorem Resolves.unique (h : x.Resolves g) (h' : x.Resolves g') : g = g' := by
  obtain ⟨a, ha⟩ := resolves_iff.1 h
  obtain ⟨a', ha'⟩ := resolves_iff.1 h'
  exact (Prod.mk.inj (Except.ok.inj (ha.symm.trans ha'))).2

theorem settings_of_notice (h : Arguments.read x.arguments x.environment = .error n) :
    x.settings = .error (.notice n) := by
  simp only [settings, h]

theorem config_filled (line : Given) (environment : Environment) :
    (line.filled environment).arguments.config = configPath line environment :=
  getD_or _ _ _

theorem settings_of_flawed (hline : x.Asks line) (h : (x.disk.source (configPath line x.environment)).Flawed) :
    x.settings = .error (.unreadable (configPath line x.environment)) := by
  have harguments := arguments_eq_ok_iff.2 ⟨line, hline.spelled, hline.fits, rfl⟩
  obtain ⟨fault, hload⟩ := load_eq_error_iff.2 h
  simp only [settings, harguments, config_filled, hload]

/-- A start without settings ends as the command line says, or with its configuration file. -/
theorem failure_of_settings (h : x.settings = .error e) :
    (∃ n, e = .notice n ∧ Arguments.read x.arguments x.environment = .error n) ∨ x.FailsAt .configuration e := by
  unfold settings at h
  split at h
  · rename_i n harguments
    exact .inl ⟨n, (Except.error.inj h).symm, harguments⟩
  · rename_i a harguments
    obtain ⟨line, hspelled, hfits, rfl⟩ := arguments_eq_ok_iff.1 harguments
    split at h
    · rename_i fault hload
      obtain rfl := Except.error.inj h
      rw [config_filled] at hload ⊢
      exact .inr (.configuration ⟨hspelled, hfits⟩ (load_eq_error_iff.1 ⟨fault, hload⟩))
    · cases h

/-! ## Starts -/

/-- **Before the database, a start tells nothing and changes nothing.** -/
theorem launch_of_not_reaches (h : ¬ ∃ g, x.Reaches g) : x.launch.log = [] ∧ x.launch.disk = x.disk := by
  unfold launch
  cases hsettings : x.settings with
  | error e => exact ⟨rfl, rfl⟩
  | ok settled =>
    obtain ⟨a, g⟩ := settled
    have hfilter : logFilter? x.environment g = none := by
      refine Option.not_isSome_iff_eq_none.1 fun hsome => h ⟨g, ?_, hsome⟩
      exact resolves_iff.2 ⟨a, hsettings⟩
    simp only [launchWith, hfilter, and_self]

/-- A start that comes to its database ends as that does, or else with its address. -/
theorem launch_of_reaches (h : x.Reaches g) :
    x.launch.ending = (openDatabase g x.disk).progress.failure?.getD (x.addressEnding g) ∧
      x.launch.disk = (openDatabase g x.disk).disk := by
  obtain ⟨hresolves, hsome⟩ := h
  obtain ⟨a, hsettings⟩ := resolves_iff.1 hresolves
  obtain ⟨filter, hfilter⟩ := Option.isSome_iff_exists.1 hsome
  simp only [launch, hsettings, launchWith, hfilter]
  cases (openDatabase g x.disk).progress <;> exact ⟨rfl, trivial⟩

/-- A start that has settings ends with its filter, its database or its address. -/
theorem ending_of_resolves (h : x.Resolves g) :
    x.launch.ending = .brokenFilter ∨ x.Reaches g := by
  by_cases hsome : (logFilter? x.environment g).isSome = true
  · exact .inr ⟨h, hsome⟩
  · obtain ⟨a, hsettings⟩ := resolves_iff.1 h
    have hfilter := Option.not_isSome_iff_eq_none.1 hsome
    simp only [launch, hsettings, launchWith, hfilter, true_or]

theorem addressEnding_cases (x : Surroundings) (g : Settings) :
    (x.isTaken g.bindAddress = true ∧ x.addressEnding g = .addressTaken g.bindAddress) ∨
      x.addressEnding g = .serving g.bindAddress := by
  unfold addressEnding
  split
  · rename_i htaken
    exact .inl ⟨htaken, rfl⟩
  · exact .inr rfl

/-- A start with settings fails neither with its arguments nor with its configuration file. -/
theorem Resolves.not_failsAt (h : x.Resolves g) {s : Stage} (hs : s.rank < Stage.database.rank) : ¬ x.FailsAt s e := by
  obtain ⟨line, file, hline, hread, -⟩ := h
  intro hfails
  cases hfails with
  | arguments hnone => exact hnone ⟨line, hline⟩
  | configuration hline' hflawed =>
    rw [← hline.unique hline'] at hflawed
    exact flawed_iff.1 hflawed file hread
  | database => exact absurd hs (Nat.lt_irrefl _)
  | address => exact absurd hs (by decide)

theorem launch_ending_of_failsFirst (h : x.FailsFirst e) : x.launch.ending = e := by
  obtain ⟨s, hfails, hfirst⟩ := h
  cases hfails with
  | arguments hline hnotice =>
    have hread : Arguments.read x.arguments x.environment = .error .usage :=
      arguments_eq_usage_iff.2 ⟨fun ⟨line, hspelled, hfits⟩ => hline ⟨line, hspelled, hfits⟩, hnotice⟩
    simp only [launch, settings_of_notice hread]
  | configuration hline hflawed => simp only [launch, settings_of_flawed hline hflawed]
  | database hg hfailure => rw [(launch_of_reaches hg).1, hfailure, Option.getD_some]
  | @address g hg htaken =>
    have hready : (openDatabase g x.disk).progress.failure? = none :=
      Option.eq_none_iff_forall_ne_some.2 fun e' he' => hfirst .database e' (by decide) (.database hg he')
    rw [(launch_of_reaches hg).1, hready, Option.getD_none, addressEnding, if_pos htaken]

theorem failsFirst_of_usage (h : Arguments.read x.arguments x.environment = .error .usage) :
    x.FailsFirst (.notice .usage) := by
  obtain ⟨hline, hnotice⟩ := arguments_eq_usage_iff.1 h
  have hnone : ¬ ∃ line, x.Asks line := fun ⟨line, h⟩ => hline ⟨line, h.spelled, h.fits⟩
  exact ⟨.arguments, .arguments hnone hnotice, fun _ _ ht => nomatch ht⟩

theorem failsFirst_of_configuration (h : x.FailsAt .configuration e) : x.FailsFirst e := by
  refine ⟨.configuration, h, fun t e' ht hearlier => ?_⟩
  cases hearlier with
  | arguments hnone =>
    cases h with
    | configuration hline _ => exact hnone ⟨_, hline⟩
  | _ => exact absurd ht (by decide)

theorem failsFirst_of_database (hg : x.Reaches g) (h : (openDatabase g x.disk).progress.failure? = some e) :
    x.FailsFirst e :=
  ⟨.database, .database hg h, fun _ _ ht => hg.1.not_failsAt ht⟩

theorem failsFirst_of_address (hg : x.Reaches g) (hready : (openDatabase g x.disk).progress.failure? = none)
    (htaken : x.isTaken g.bindAddress = true) : x.FailsFirst (.addressTaken g.bindAddress) := by
  refine ⟨.address, .address hg htaken, fun t e' ht hearlier => ?_⟩
  cases hearlier with
  | arguments hline hnotice => exact hg.1.not_failsAt (by decide) (.arguments hline hnotice)
  | configuration hline hflawed => exact hg.1.not_failsAt (by decide) (.configuration hline hflawed)
  | database hg' hfailure =>
    rw [← hg.1.unique hg'.1, hready] at hfailure
    cases hfailure
  | address => exact absurd ht (by decide)

theorem failsFirst_of_launch_ending (hcode : x.launch.ending.exitCode ≠ 0) (hfilter : x.launch.ending ≠ .brokenFilter) :
    x.FailsFirst x.launch.ending := by
  cases hsettings : x.settings with
  | error e =>
    have hending : x.launch.ending = e := by simp only [launch, hsettings]
    rw [hending] at hcode ⊢
    obtain ⟨n, rfl, hread⟩ | hfails := failure_of_settings hsettings
    · cases n with
      | usage => exact failsFirst_of_usage hread
      | help => exact absurd rfl hcode
      | version => exact absurd rfl hcode
    · exact failsFirst_of_configuration hfails
  | ok settled =>
    obtain ⟨a, g⟩ := settled
    have hg := (ending_of_resolves (resolves_iff.2 ⟨a, hsettings⟩)).resolve_left hfilter
    rw [(launch_of_reaches hg).1] at hcode ⊢
    cases hfailure : (openDatabase g x.disk).progress.failure? with
    | some e => exact failsFirst_of_database hg hfailure
    | none =>
      rw [hfailure, Option.getD_none] at hcode
      rw [Option.getD_none]
      obtain ⟨htaken, hending⟩ | hending := addressEnding_cases x g
      · rw [hending]
        exact failsFirst_of_address hg hfailure htaken
      · rw [hending] at hcode
        exact absurd rfl hcode

/-- **A start that fails ends with the first stage that does.** -/
theorem launch_ending_iff (hcode : e.exitCode ≠ 0) (hfilter : e ≠ .brokenFilter) :
    x.launch.ending = e ↔ x.FailsFirst e := by
  constructor
  · rintro rfl
    exact failsFirst_of_launch_ending hcode hfilter
  · exact launch_ending_of_failsFirst

/-- A start that comes to its database does not end before. -/
theorem isEarly_of_reaches (hg : x.Reaches g) : x.launch.ending.isEarly = false := by
  rw [(launch_of_reaches hg).1]
  cases hfailure : (openDatabase g x.disk).progress.failure? with
  | some e =>
    rw [Option.getD_some]
    obtain rfl | rfl := failure_openDatabase hfailure <;> rfl
  | none =>
    rw [Option.getD_none]
    obtain ⟨-, hending⟩ | hending := addressEnding_cases x g <;> rw [hending] <;> rfl

/-- A start that has settings ends early only with its filter. -/
theorem Resolves.eq_brokenFilter (h : x.Resolves g) (hearly : x.launch.ending.isEarly = true) :
    x.launch.ending = .brokenFilter := by
  refine (ending_of_resolves h).resolve_right fun hg => ?_
  rw [isEarly_of_reaches hg] at hearly
  cases hearly

theorem launch_ending_eq_notice_iff :
    x.launch.ending = .notice n ↔ Arguments.read x.arguments x.environment = .error n := by
  constructor
  · intro h
    cases hsettings : x.settings with
    | error e =>
      have hending : x.launch.ending = e := by simp only [launch, hsettings]
      obtain ⟨m, he, hread⟩ | hfails := failure_of_settings hsettings
      · obtain rfl := Ending.notice.inj ((h.symm.trans hending).trans he)
        exact hread
      · rw [← hending, h] at hfails
        cases hfails
    | ok settled =>
      have hbroken := (resolves_iff.2 ⟨settled.1, hsettings⟩).eq_brokenFilter (by rw [h]; rfl)
      exact nomatch h.symm.trans hbroken
  · intro h
    simp only [launch, settings_of_notice h]

theorem ready_of_hasDatabase (hg : x.Reaches g) (h : x.launch.ending.hasDatabase = true) :
    (openDatabase g x.disk).progress = .ready := by
  rw [(launch_of_reaches hg).1] at h
  cases hprogress : (openDatabase g x.disk).progress with
  | ready => rfl
  | connected =>
    rw [hprogress] at h
    cases h
  | stopped e =>
    have hfailure : (openDatabase g x.disk).progress.failure? = some e := by rw [hprogress, Progress.failure?]
    rw [hfailure, Option.getD_some] at h
    obtain rfl | rfl := failure_openDatabase hfailure <;> cases h

/-- **A start that has its database has founded it where there was none.** -/
theorem launch_founds (hg : x.Reaches g) (hending : x.launch.ending.hasDatabase = true)
    (hat : x.disk.databaseAt? g.databasePath = some location) (hvacant : x.disk.IsVacant location) :
    x.disk.Founds x.launch.disk location := by
  rw [(launch_of_reaches hg).2]
  exact openDatabase_founds (ready_of_hasDatabase hg hending) hat hvacant

/-- The database is opened before the address is looked at. -/
theorem disk_launch_isTaken (x : Surroundings) (isTaken : String → Bool) :
    { x with isTaken := isTaken }.launch.disk = x.launch.disk := by
  have hsettings : { x with isTaken := isTaken }.settings = x.settings := rfl
  unfold launch
  rw [hsettings]
  cases x.settings with
  | error e => rfl
  | ok settled =>
    simp only [launchWith]
    cases logFilter? x.environment settled.2 <;> rfl

/-- Without a configuration file a start has settings, and does not end for want of them. -/
theorem resolves_of_missing (hline : x.Asks line)
    (hmissing : x.disk.source (configPath line x.environment) = .missing) :
    x.Resolves (effective line x.environment {}) :=
  ⟨line, {}, hline, hmissing ▸ .missing, rfl⟩

theorem Resolves.ne_unreadable (h : x.Resolves g) (path : String) : x.launch.ending ≠ .unreadable path := by
  intro hending
  have hbroken := h.eq_brokenFilter (by rw [hending]; rfl)
  exact nomatch hending.symm.trans hbroken

/-! ## Clean starts -/

/-- A start fails in order, and leaves nothing behind that it should not. -/
structure FailsCleanly (x : Surroundings) : Prop where
  /-- The failure is that of the first stage that fails; the log's filter is none of them. -/
  first : ∀ e, e.exitCode ≠ 0 → e ≠ .brokenFilter → (x.launch.ending = e ↔ x.FailsFirst e)
  /-- Help or the version is shown where the command line asks for it. -/
  notice : ∀ n, n ≠ .usage → (x.launch.ending = .notice n ↔ Given.Interrupted {} x.arguments n)
  /-- Before the database, nothing is told and nothing is changed. -/
  early : x.launch.ending.isEarly = true → x.launch.log = [] ∧ x.launch.disk = x.disk
  /-- The database is made where there was none, and no file changes but those beside it. -/
  founded : ∀ g location, x.Reaches g → x.launch.ending.hasDatabase = true →
    x.disk.databaseAt? g.databasePath = some location → x.disk.IsVacant location →
    x.disk.Founds x.launch.disk location
  /-- It is made at its path, unless that is empty, in memory or an address. -/
  plain : ∀ g, x.Reaches g → x.launch.ending.hasDatabase = true → g.databasePath ≠ "" → g.databasePath ≠ ":memory:" →
    "file:".toList.isPrefixOf g.databasePath.toList = false →
    x.disk.databaseAt? g.databasePath = some (x.disk.resolve g.databasePath)
  /-- All this is done whether or not the address is taken. -/
  address : ∀ isTaken, { x with isTaken := isTaken }.launch.disk = x.launch.disk
  /-- A configuration file that is missing gives the defaults, and is no failure. -/
  missing : ∀ line, x.Asks line → x.disk.source (configPath line x.environment) = .missing →
    x.Resolves (effective line x.environment {}) ∧ ∀ path, x.launch.ending ≠ .unreadable path

end Surroundings

end Recital
