import Recital.Proofs.Toml.Distinct
import Recital.Settings

/-!
# What a configuration file gives

The reader takes the entries of a document one after the other.  Here a setting is what stands under its key.

* `FileSettings` : the settings that a file gives; `FileSettings.complete` : a default for each of the others.
* `FileSettings.Of` : what stands under the keys of a document.
* `readEntries_eq_put`, `readItems_eq_put` : the entries of a table and the items of an array, taken in the order of the
  settings.
* `FileSettings.Read` : what is found in place of the file gives these settings; for a file it can be decided.
* `load_eq_ok_iff` : a file is read as what it gives, with the defaults.
-/

set_option autoImplicit false

namespace Recital

open Toml (Value Entries lookup)

/-- The settings that a configuration file gives. -/
structure FileSettings where
  host : Option String := none
  port : Option Nat := none
  databasePath : Option String := none
  maxConnections : Option Nat := none
  busyTimeout : Option Nat := none
  level : Option String := none
  deriving DecidableEq, Repr, Inhabited

/-- The settings with the defaults for what is not given. -/
def FileSettings.complete (f : FileSettings) : Settings where
  host := f.host.getD "127.0.0.1"
  port := f.port.getD 5780
  databasePath := f.databasePath.getD "arman.db"
  database := ⟨f.maxConnections.getD 10, f.busyTimeout.getD 5000⟩
  logging := ⟨f.level.getD "info"⟩

/-- The value of a natural number. -/
def Toml.Value.natural (n : Nat) : Value :=
  .integer n

/-- Whether a value may stand for a group of settings. -/
def Toml.Value.isGroup : Value → Bool
  | .table _ _ => true
  | .array _ => true
  | .tables _ => true
  | .date => true
  | _ => false

/-- What stands in a group under a key, or, if it is written as an array, at a place. -/
def Toml.Value.member? (key : String) (place : Nat) : Value → Option Value
  | .table _ entries => lookup key entries
  | .array items => items[place]?
  | .tables items => items[place]?.map (Value.table .header)
  | _ => none

/-- What stands under a key of a group of a document. -/
def groupMember? (entries : Entries) (group key : String) (place : Nat) : Option Value :=
  (lookup group entries).bind (Value.member? key place)

/-- The document gives these settings, and no others. -/
structure FileSettings.Of (entries : Entries) (f : FileSettings) : Prop where
  host : lookup "host" entries = f.host.map Value.string
  port : lookup "port" entries = f.port.map Value.natural
  port_lt : ∀ n ∈ f.port, n < 65536
  databasePath : lookup "database_path" entries = f.databasePath.map Value.string
  database : ∀ v ∈ lookup "database" entries, v.isGroup = true
  maxConnections : groupMember? entries "database" "max_connections" 0 = f.maxConnections.map Value.natural
  maxConnections_lt : ∀ n ∈ f.maxConnections, n < 4294967296
  busyTimeout : groupMember? entries "database" "busy_timeout_ms" 1 = f.busyTimeout.map Value.natural
  busyTimeout_lt : ∀ n ∈ f.busyTimeout, n < 18446744073709551616
  logging : ∀ v ∈ lookup "logging" entries, v.isGroup = true
  level : groupMember? entries "logging" "level" 0 = f.level.map Value.string

/-! ## Settings one after the other -/

variable {G H A B : Type} {s t : Setting G} {settings : List (Setting G)} {entries : Entries} {g : G}
  {found : Option Value}

/-- Puts what was found of a setting, if anything. -/
def Setting.put? (s : Setting G) (found : Option Value) (g : G) : Option G :=
  found.elim (some g) fun v => s.put v g

/-- Puts each of the settings in their order, from a place on. -/
def putFrom (find : String → Nat → Option Value) : Nat → List (Setting G) → G → Option G
  | _, [], g => some g
  | place, s :: settings, g => (s.put? (find s.name place) g).bind (putFrom find (place + 1) settings)

/-- Of two settings either may be put first. -/
def Setting.Commute (s t : Setting G) : Prop :=
  ∀ v w g, (s.put v g).bind (t.put w) = (t.put w g).bind (s.put v)

/-- Settings of different names that may be put in any order. -/
structure Independent (settings : List (Setting G)) : Prop where
  names : (settings.map Setting.name).Nodup
  commute : settings.Pairwise Setting.Commute

theorem Setting.Commute.put? (h : s.Commute t) (v : Value) (found : Option Value) (g : G) :
    (s.put v g).bind (t.put? found) = (t.put? found g).bind (s.put v) := by
  cases found with
  | none => exact Option.bind_fun_some (s.put v g)
  | some w => exact h v w g

theorem Setting.Commute.symm (h : s.Commute t) : t.Commute s :=
  fun v w g => (h w v g).symm

theorem putFrom_none (find : String → Nat → Option Value) (h : ∀ key place, find key place = none) (place : Nat) :
    putFrom find place settings g = some g := by
  induction settings generalizing place with
  | nil => rfl
  | cons s settings ih => simp only [putFrom, h, Setting.put?, Option.elim_none, Option.bind_some, ih]

theorem putFrom_congr {find find' : String → Nat → Option Value} (place : Nat)
    (h : ∀ s ∈ settings, ∀ place, find s.name place = find' s.name place) :
    putFrom find place settings g = putFrom find' place settings g := by
  induction settings generalizing place g with
  | nil => rfl
  | cons s settings ih =>
    obtain ⟨hfirst, h⟩ := List.forall_mem_cons.1 h
    simp only [putFrom, hfirst]
    exact congrArg _ (funext fun g => ih _ h)

theorem lookup_cons (key k : String) (v : Value) (entries : Entries) :
    lookup key ((k, v) :: entries) = if k = key then some v else lookup key entries := by
  unfold lookup
  by_cases h : k = key <;> simp [h]

/-- An entry may be put first, whatever its place is among the settings. -/
theorem putFrom_cons {key : String} {v : Value} (hs : Independent settings) (hmem : s ∈ settings)
    (hname : s.name = key) (hnew : lookup key entries = none) (place : Nat) :
    putFrom (fun key _ => lookup key ((s.name, v) :: entries)) place settings g =
      (s.put v g).bind (putFrom (fun key _ => lookup key entries) place settings) := by
  subst hname
  have hother : ∀ t : Setting G, t.name ≠ s.name →
      lookup t.name ((s.name, v) :: entries) = lookup t.name entries := by
    intro t hne
    rw [lookup_cons, if_neg hne.symm]
  induction settings generalizing place g with
  | nil => cases hmem
  | cons t settings ih =>
    obtain ⟨hnames, hnodup⟩ := List.nodup_cons.1 hs.names
    obtain ⟨hfirst, hcommute⟩ := List.pairwise_cons.1 hs.commute
    by_cases hst : t.name = s.name
    · have hts : t = s := by
        rcases List.mem_cons.1 hmem with rfl | hmem
        · rfl
        · exact absurd (hst ▸ List.mem_map_of_mem hmem) hnames
      subst hts
      have hrest : ∀ u ∈ settings, ∀ _ : Nat, lookup u.name ((t.name, v) :: entries) = lookup u.name entries := by
        intro u hu _
        exact hother u fun heq => hnames (heq ▸ List.mem_map_of_mem hu)
      have hself : lookup t.name ((t.name, v) :: entries) = some v := by rw [lookup_cons, if_pos rfl]
      simp only [putFrom, hself, hnew, Setting.put?, Option.elim_some, Option.elim_none, Option.bind_some]
      exact congrArg _ (funext fun g => putFrom_congr (place + 1) hrest)
    · have hmem' : s ∈ settings := by
        rcases List.mem_cons.1 hmem with rfl | hmem
        · exact absurd rfl hst
        · exact hmem
      have hstep := fun g => ih ⟨hnodup, hcommute⟩ hmem' (place + 1) (g := g)
      simp only [putFrom, hother t hst]
      rw [funext hstep, ← Option.bind_assoc, ← ((hfirst s hmem').symm.put? v _ g), Option.bind_assoc]

/-- **The entries of a table are put in the order of the settings.** -/
theorem readEntries_eq_put (hs : Independent settings) (hentries : (entries.map Prod.fst).Nodup) (place : Nat) :
    readEntries settings entries g = putFrom (fun key _ => lookup key entries) place settings g := by
  induction entries generalizing g with
  | nil => exact (putFrom_none _ (fun _ _ => rfl) place).symm
  | cons entry entries ih =>
    obtain ⟨key, v⟩ := entry
    obtain ⟨hnew, hrest⟩ := List.nodup_cons.1 hentries
    have hnone : lookup key entries = none := by
      refine Option.eq_none_iff_forall_ne_some.2 fun w hw => hnew ?_
      have hmem : key ∈ entries.map Prod.fst := List.mem_map_of_mem (Toml.mem_of_lookup hw)
      exact hmem
    unfold readEntries
    split
    · rename_i hunknown
      rw [ih hrest]
      refine putFrom_congr place fun s hs _ => ?_
      have hne : s.name ≠ key := by simpa using List.find?_eq_none.1 hunknown s hs
      rw [lookup_cons, if_neg hne.symm]
    · rename_i s hfound
      have hmem : s ∈ settings := List.mem_of_find?_eq_some hfound
      obtain rfl : s.name = key := by simpa using List.find?_some hfound
      rw [putFrom_cons hs hmem rfl hnone]
      congr 1
      funext g
      exact ih hrest

/-- **The items of an array are put in the order of the settings.** -/
theorem readItems_eq_put (values : List Value) (place : Nat) :
    readItems settings (values.drop place) g = putFrom (fun _ place => values[place]?) place settings g := by
  induction settings generalizing place g with
  | nil => cases values.drop place <;> rfl
  | cons s settings ih =>
    by_cases h : place < values.length
    · rw [List.drop_eq_getElem_cons h]
      simp only [readItems, putFrom, List.getElem?_eq_getElem h, Setting.put?, Option.elim_some]
      congr 1
      funext g
      exact ih (place + 1)
    · have hmore : values.length ≤ place + 1 := by omega
      have hnext := ih (place + 1) (g := g)
      rw [List.drop_eq_nil_of_le hmore] at hnext
      rw [List.drop_eq_nil_of_le (by omega)]
      simp only [readItems, putFrom, List.getElem?_eq_none (Nat.not_lt.1 h), Setting.put?, Option.elim_none,
        Option.bind_some, ← hnext]

/-- **A group is what is put from its members.** -/
theorem readGroup_eq_put (hs : Independent settings) {v : Value} (hv : v.Distinct) :
    readGroup settings g v =
      if v.isGroup then putFrom (fun key place => v.member? key place) 0 settings g else none := by
  cases hv with
  | array => exact readItems_eq_put _ 0
  | table hkeys => exact readEntries_eq_put hs hkeys 0
  | @tables items =>
    have hitems : readItems settings ((items.map (Value.table .header)).drop 0) g = _ := readItems_eq_put _ 0
    simp only [List.getElem?_map] at hitems
    exact hitems
  | date => exact (putFrom_none _ (fun _ _ => rfl) 0).symm
  | _ => rfl

/-! ## Kinds of settings -/

/-- The setting puts what is decoded of a value in place of what it gets. -/
structure Setting.Puts (s : Setting G) (decode : Value → Option A) (get : G → A) (set : A → G → G) : Prop where
  put_eq : ∀ v g, s.put v g = (decode v).map fun a => set a g
  set_get : ∀ g, set (get g) g = g

/-- The text that a value is. -/
def Toml.Value.text? : Value → Option String
  | .string s => some s
  | _ => none

/-- The number below a bound that a value is. -/
def Toml.Value.number? (bound : Nat) : Value → Option Nat
  | .integer n => if 0 ≤ n ∧ n < bound then some n.toNat else none
  | _ => none

theorem puts_text (name : String) (set : String → G → G) (get : G → String)
    (h : ∀ g, set (get g) g = g := by intros; rfl) : (Setting.text name set).Puts Value.text? get set where
  put_eq v g := by cases v <;> rfl
  set_get := h

theorem puts_number (name : String) (bound : Nat) (set : Nat → G → G) (get : G → Nat)
    (h : ∀ g, set (get g) g = g := by intros; rfl) :
    (Setting.number name bound set).Puts (Value.number? bound) get set where
  put_eq v g := by
    cases v with
    | integer n =>
      simp only [Setting.number, Value.number?]
      split <;> rfl
    | _ => rfl
  set_get := h

theorem puts_group (name : String) (members : List (Setting H)) (blank : H) (set : H → G → G) (get : G → H)
    (h : ∀ g, set (get g) g = g := by intros; rfl) :
    (Setting.group name members blank set).Puts (readGroup members blank) get set where
  put_eq _ _ := rfl
  set_get := h

theorem Setting.Puts.commute {decode : Value → Option A} {decode' : Value → Option B} {set : A → G → G}
    {set' : B → G → G} {get : G → A} {get' : G → B} (hs : s.Puts decode get set) (ht : t.Puts decode' get' set')
    (h : ∀ a b g, set' b (set a g) = set a (set' b g) := by intros; rfl) : s.Commute t := by
  intro v w g
  rw [hs.put_eq, ht.put_eq]
  cases hv : decode v with
  | none => cases decode' w <;> simp [hs.put_eq, hv]
  | some a =>
    cases hw : decode' w with
    | none => simp [ht.put_eq, hw]
    | some b => simp [hs.put_eq, ht.put_eq, hv, hw, h]

/-- What is decoded of what was found: nothing if nothing was. -/
def decoded? (decode : Value → Option A) (found : Option Value) : Option (Option A) :=
  found.elim (some none) fun v => (decode v).map some

theorem Setting.Puts.put? {decode : Value → Option A} {get : G → A} {set : A → G → G} (hs : s.Puts decode get set)
    (found : Option Value) (g : G) :
    s.put? found g = (decoded? decode found).map fun a => set (a.getD (get g)) g := by
  cases found with
  | none => exact congrArg some (hs.set_get g).symm
  | some v =>
    simp only [Setting.put?, Option.elim_some, hs.put_eq, decoded?, Option.map_map]
    rfl

theorem decoded?_text {a : Option String} : decoded? Value.text? found = some a ↔ found = a.map Value.string := by
  cases found with
  | none => cases a <;> simp [decoded?]
  | some v => cases v <;> cases a <;> simp [decoded?, Value.text?]

theorem decoded?_number {bound : Nat} {a : Option Nat} : decoded? (Value.number? bound) found = some a ↔
    found = a.map Value.natural ∧ ∀ n ∈ a, n < bound := by
  cases found with
  | none => cases a <;> simp [decoded?]
  | some v =>
    cases v with
    | integer n =>
      cases a with
      | none => simp [decoded?, Value.number?]
      | some m =>
        have hnumber : (if 0 ≤ n ∧ n < bound then some n.toNat else none) = some m ↔ n = m ∧ m < bound := by
          split
          · rw [Option.some.injEq]
            omega
          · simp only [reduceCtorEq, false_iff]
            omega
        simpa [decoded?, Value.number?, Value.natural] using hnumber
    | _ => cases a <;> simp [decoded?, Value.number?, Value.natural]

/-- What the first setting gives, and then the others. -/
theorem putFrom_eq_some_iff {decode : Value → Option A} {get : G → A} {set : A → G → G} (hs : s.Puts decode get set)
    {find : String → Nat → Option Value} {place : Nat} {g' : G} : putFrom find place (s :: settings) g = some g' ↔
      ∃ a, decoded? decode (find s.name place) = some a ∧
        putFrom find (place + 1) settings (set (a.getD (get g)) g) = some g' := by
  rw [putFrom, hs.put?, Option.bind_map, Option.bind_eq_some_iff]
  rfl

/-! ## The settings of the service -/

theorem independent_database : Independent DatabaseSettings.settings where
  names := by decide
  commute := by
    refine List.pairwise_pair.2 ?_
    exact (puts_number _ _ _ DatabaseSettings.maxConnections).commute (puts_number _ _ _ DatabaseSettings.busyTimeout)

theorem independent_logging : Independent LogSettings.settings where
  names := by decide
  commute := List.pairwise_singleton _ _

theorem independent_settings : Independent Settings.settings where
  names := by decide
  commute := by
    have hhost := puts_text "host" (fun s (g : Settings) => { g with host := s }) Settings.host
    have hport := puts_number "port" 65536 (fun n (g : Settings) => { g with port := n }) Settings.port
    have hpath := puts_text "database_path" (fun s (g : Settings) => { g with databasePath := s }) Settings.databasePath
    have hdatabase := puts_group "database" DatabaseSettings.settings {}
      (fun d (g : Settings) => { g with database := d }) Settings.database
    have hlogging := puts_group "logging" LogSettings.settings {}
      (fun l (g : Settings) => { g with logging := l }) Settings.logging
    simp only [Settings.settings, List.pairwise_cons, List.forall_mem_cons]
    exact ⟨⟨hhost.commute hport, hhost.commute hpath, hhost.commute hdatabase, hhost.commute hlogging, nofun⟩,
      ⟨hport.commute hpath, hport.commute hdatabase, hport.commute hlogging, nofun⟩,
      ⟨hpath.commute hdatabase, hpath.commute hlogging, nofun⟩, ⟨hdatabase.commute hlogging, nofun⟩, nofun, .nil⟩

/-- **What a group gives, if one was found, is put from its members.** -/
theorem decoded?_group {members : List (Setting H)} (hmembers : Independent members) {blank : H}
    (hfound : ∀ v ∈ found, v.Distinct) {d : Option H} : decoded? (readGroup members blank) found = some d ↔
      (∀ v ∈ found, v.isGroup = true) ∧
        ∃ d', putFrom (fun key place => found.bind (Value.member? key place)) 0 members blank = some d' ∧
          d = found.map fun _ => d' := by
  cases found with
  | none =>
    have hput : putFrom (fun key place => none.bind (Value.member? key place)) 0 members blank = some blank :=
      putFrom_none _ (fun _ _ => rfl) 0
    simp only [decoded?, Option.elim_none, Option.some.injEq, hput, Option.map_none]
    constructor
    · rintro rfl
      exact ⟨nofun, blank, rfl, rfl⟩
    · rintro ⟨-, _, -, rfl⟩
      rfl
  | some v =>
    simp only [decoded?, Option.elim_some, Option.bind_some, Option.map_some, Option.mem_some_iff, forall_eq',
      readGroup_eq_put hmembers (hfound v rfl)]
    cases v.isGroup with
    | false => simp
    | true =>
      rw [if_pos rfl, Option.map_eq_some_iff]
      simp only [true_and, eq_comm (a := d)]

/-- The settings of the connections, if a group was found. -/
theorem decoded?_database (hfound : ∀ v ∈ found, v.Distinct) {d : Option DatabaseSettings} :
    decoded? (readGroup DatabaseSettings.settings {}) found = some d ↔
      (∀ v ∈ found, v.isGroup = true) ∧ ∃ m b : Option Nat,
        (found.bind (Value.member? "max_connections" 0) = m.map Value.natural ∧ ∀ n ∈ m, n < 4294967296) ∧
        (found.bind (Value.member? "busy_timeout_ms" 1) = b.map Value.natural ∧ ∀ n ∈ b, n < 18446744073709551616) ∧
        d = found.map fun _ => ⟨m.getD 10, b.getD 5000⟩ := by
  have hput : ∀ {find : String → Nat → Option Value} {d' : DatabaseSettings},
      putFrom find 0 DatabaseSettings.settings {} = some d' ↔
        ∃ m, decoded? (Value.number? 4294967296) (find "max_connections" 0) = some m ∧
          ∃ b, decoded? (Value.number? 18446744073709551616) (find "busy_timeout_ms" 1) = some b ∧
            some (⟨m.getD 10, b.getD 5000⟩ : DatabaseSettings) = some d' :=
    (putFrom_eq_some_iff (puts_number _ _ _ DatabaseSettings.maxConnections)).trans <|
      exists_congr fun m => and_congr_right fun _ =>
        putFrom_eq_some_iff (puts_number _ _ _ DatabaseSettings.busyTimeout)
  rw [decoded?_group independent_database hfound]
  simp only [hput, decoded?_number]
  refine and_congr_right fun _ => ?_
  constructor
  · rintro ⟨d', ⟨m, hm, b, hb, heq⟩, rfl⟩
    exact ⟨m, b, hm, hb, Option.some.inj heq ▸ rfl⟩
  · rintro ⟨m, b, hm, hb, rfl⟩
    exact ⟨_, ⟨m, hm, b, hb, rfl⟩, rfl⟩

/-- The settings of the log, if a group was found. -/
theorem decoded?_logging (hfound : ∀ v ∈ found, v.Distinct) {l : Option LogSettings} :
    decoded? (readGroup LogSettings.settings {}) found = some l ↔
      (∀ v ∈ found, v.isGroup = true) ∧ ∃ s : Option String,
        found.bind (Value.member? "level" 0) = s.map Value.string ∧ l = found.map fun _ => ⟨s.getD "info"⟩ := by
  have hput : ∀ {find : String → Nat → Option Value} {l' : LogSettings},
      putFrom find 0 LogSettings.settings {} = some l' ↔
        ∃ s, decoded? Value.text? (find "level" 0) = some s ∧ some (⟨s.getD "info"⟩ : LogSettings) = some l' :=
    putFrom_eq_some_iff (puts_text _ _ LogSettings.level)
  rw [decoded?_group independent_logging hfound]
  simp only [hput, decoded?_text]
  refine and_congr_right fun _ => ?_
  constructor
  · rintro ⟨l', ⟨s, hs, heq⟩, rfl⟩
    exact ⟨s, hs, Option.some.inj heq ▸ rfl⟩
  · rintro ⟨s, hs, rfl⟩
    exact ⟨_, ⟨s, hs, rfl⟩, rfl⟩

theorem putFrom_settings_iff {find : String → Nat → Option Value} {g : Settings} :
    putFrom find 0 Settings.settings {} = some g ↔
      ∃ host, decoded? Value.text? (find "host" 0) = some host ∧
      ∃ port, decoded? (Value.number? 65536) (find "port" 1) = some port ∧
      ∃ path, decoded? Value.text? (find "database_path" 2) = some path ∧
      ∃ d, decoded? (readGroup DatabaseSettings.settings {}) (find "database" 3) = some d ∧
      ∃ l, decoded? (readGroup LogSettings.settings {}) (find "logging" 4) = some l ∧
        some (⟨host.getD "127.0.0.1", port.getD 5780, path.getD "arman.db", d.getD {}, l.getD {}⟩ : Settings) =
          some g :=
  (putFrom_eq_some_iff (puts_text _ _ Settings.host)).trans <| exists_congr fun _ => and_congr_right fun _ =>
  (putFrom_eq_some_iff (puts_number _ _ _ Settings.port)).trans <| exists_congr fun _ => and_congr_right fun _ =>
  (putFrom_eq_some_iff (puts_text _ _ Settings.databasePath)).trans <| exists_congr fun _ => and_congr_right fun _ =>
  (putFrom_eq_some_iff (puts_group _ _ _ _ Settings.database)).trans <| exists_congr fun _ => and_congr_right fun _ =>
  putFrom_eq_some_iff (puts_group _ _ _ _ Settings.logging)

/-- A group that is missing has no members. -/
theorem eq_none_of_groupMember? {group key : String} {place : Nat} {write : A → Value} {a : Option A}
    (hmissing : lookup group entries = none) (h : groupMember? entries group key place = a.map write) : a = none := by
  rw [groupMember?, hmissing, Option.bind_none] at h
  exact Option.map_eq_none_iff.1 h.symm

/-- **The settings of a document are what stands under its keys**, and the defaults. -/
theorem readEntries_eq_some_iff (h : Entries.Distinct entries) {g : Settings} :
    readEntries Settings.settings entries {} = some g ↔ ∃ f, FileSettings.Of entries f ∧ g = f.complete := by
  have hgroup : ∀ key, ∀ v ∈ lookup key entries, v.Distinct := fun key v hv => h.of_lookup hv
  rw [readEntries_eq_put independent_settings h.keys 0, putFrom_settings_iff]
  simp only [decoded?_text, decoded?_number, decoded?_database (hgroup _), decoded?_logging (hgroup _),
    Option.some.injEq]
  have hdatabase : ∀ {m b : Option Nat}, groupMember? entries "database" "max_connections" 0 = m.map Value.natural →
      groupMember? entries "database" "busy_timeout_ms" 1 = b.map Value.natural →
      ((lookup "database" entries).map fun _ => (⟨m.getD 10, b.getD 5000⟩ : DatabaseSettings)).getD {} =
        ⟨m.getD 10, b.getD 5000⟩ := by
    intro m b hm hb
    cases hfound : lookup "database" entries with
    | none =>
      rw [eq_none_of_groupMember? hfound hm, eq_none_of_groupMember? hfound hb]
      rfl
    | some v => rfl
  have hlogging : ∀ {s : Option String}, groupMember? entries "logging" "level" 0 = s.map Value.string →
      ((lookup "logging" entries).map fun _ => (⟨s.getD "info"⟩ : LogSettings)).getD {} = ⟨s.getD "info"⟩ := by
    intro s hs
    cases hfound : lookup "logging" entries with
    | none =>
      rw [eq_none_of_groupMember? hfound hs]
      rfl
    | some v => rfl
  constructor
  · rintro ⟨host, hhost, port, ⟨hport, hportlt⟩, path, hpath, _, ⟨hgroup, m, b, ⟨hm, hmlt⟩, ⟨hb, hblt⟩, rfl⟩,
      _, ⟨hgroup', level, hlevel, rfl⟩, rfl⟩
    refine ⟨⟨host, port, path, m, b, level⟩,
      ⟨hhost, hport, hportlt, hpath, hgroup, hm, hmlt, hb, hblt, hgroup', hlevel⟩, ?_⟩
    rw [hdatabase hm hb, hlogging hlevel]
    rfl
  · rintro ⟨f, hf, rfl⟩
    refine ⟨_, hf.host, _, ⟨hf.port, hf.port_lt⟩, _, hf.databasePath, _, ⟨hf.database, _, _,
      ⟨hf.maxConnections, hf.maxConnections_lt⟩, ⟨hf.busyTimeout, hf.busyTimeout_lt⟩, rfl⟩,
      _, ⟨hf.logging, _, hf.level, rfl⟩, ?_⟩
    rw [hdatabase hf.maxConnections hf.busyTimeout, hlogging hf.level]
    rfl

/-- What is found where the configuration file should be gives these settings. -/
inductive FileSettings.Read : Source → FileSettings → Prop where
  /-- Without a file there are none. -/
  | missing : Read .missing {}
  | file {bytes : List UInt8} {s : String} {entries : Entries} {f : FileSettings}
      (htext : Text.utf8Text? bytes = some s) (hparse : Toml.parse? s = some entries) (h : Of entries f) :
      Read (.file bytes) f

theorem FileSettings.of_iff {f : FileSettings} : FileSettings.Of entries f ↔
    decoded? Value.text? (lookup "host" entries) = some f.host ∧
    decoded? (Value.number? 65536) (lookup "port" entries) = some f.port ∧
    decoded? Value.text? (lookup "database_path" entries) = some f.databasePath ∧
    (∀ v ∈ lookup "database" entries, v.isGroup = true) ∧
    decoded? (Value.number? 4294967296) (groupMember? entries "database" "max_connections" 0) = some f.maxConnections ∧
    decoded? (Value.number? 18446744073709551616) (groupMember? entries "database" "busy_timeout_ms" 1) =
      some f.busyTimeout ∧
    (∀ v ∈ lookup "logging" entries, v.isGroup = true) ∧
    decoded? Value.text? (groupMember? entries "logging" "level" 0) = some f.level := by
  simp only [decoded?_text, decoded?_number]
  constructor
  · intro h
    exact ⟨h.host, ⟨h.port, h.port_lt⟩, h.databasePath, h.database, ⟨h.maxConnections, h.maxConnections_lt⟩,
      ⟨h.busyTimeout, h.busyTimeout_lt⟩, h.logging, h.level⟩
  · rintro ⟨hhost, ⟨hport, hportlt⟩, hpath, hdatabase, ⟨hm, hmlt⟩, ⟨hb, hblt⟩, hlogging, hlevel⟩
    exact ⟨hhost, hport, hportlt, hpath, hdatabase, hm, hmlt, hb, hblt, hlogging, hlevel⟩

instance (entries : Entries) (f : FileSettings) : Decidable (FileSettings.Of entries f) :=
  decidable_of_iff' _ FileSettings.of_iff

theorem FileSettings.read_file_iff {bytes : List UInt8} {f : FileSettings} : FileSettings.Read (.file bytes) f ↔
    ∃ entries ∈ (Text.utf8Text? bytes).bind Toml.parse?, FileSettings.Of entries f := by
  constructor
  · intro h
    cases h with
    | file htext hparse h => exact ⟨_, Option.bind_eq_some_iff.2 ⟨_, htext, hparse⟩, h⟩
  · rintro ⟨entries, hentries, h⟩
    obtain ⟨_, htext, hparse⟩ := Option.bind_eq_some_iff.1 hentries
    exact .file htext hparse h

instance (bytes : List UInt8) (f : FileSettings) : Decidable (FileSettings.Read (.file bytes) f) :=
  decidable_of_iff' _ FileSettings.read_file_iff

/-- **A configuration file is read as what it gives**, with the defaults. -/
theorem load_eq_ok_iff {source : Source} {g : Settings} :
    Settings.load source = .ok g ↔ ∃ f, FileSettings.Read source f ∧ g = f.complete := by
  cases source with
  | missing =>
    constructor
    · intro h
      exact ⟨{}, .missing, (Except.ok.inj h).symm⟩
    · rintro ⟨_, ⟨⟩, rfl⟩
      rfl
  | directory =>
    constructor
    · nofun
    · rintro ⟨_, ⟨⟩, -⟩
  | file bytes =>
    constructor
    · intro h
      unfold Settings.load at h
      simp only at h
      split at h
      · rename_i s htext
        unfold Settings.ofToml at h
        split at h
        · rename_i g' hread
          obtain rfl := Except.ok.inj h
          obtain ⟨entries, hparse, hentries⟩ := Option.bind_eq_some_iff.1 hread
          obtain ⟨f, hf, rfl⟩ := (readEntries_eq_some_iff (Toml.distinct_parse? hparse)).1 hentries
          exact ⟨f, .file htext hparse hf, rfl⟩
        · cases h
      · cases h
    · rintro ⟨f, hread, rfl⟩
      cases hread with
      | file htext hparse hf =>
        have hentries := (readEntries_eq_some_iff (Toml.distinct_parse? hparse)).2 ⟨f, hf, rfl⟩
        simp only [Settings.load, htext, Settings.ofToml, hparse, Option.bind_some, hentries]

end Recital
