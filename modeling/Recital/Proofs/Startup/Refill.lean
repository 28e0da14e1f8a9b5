import Recital.Startup.Launch

/-!
# A disk with another content of one file

* `Disk.refill` : the disk with something else in the file at a location.
* `find_refill`, `lookup_refill`, `makeFolders?_refill` : nothing else changes.  `makeFolders?_adds` : nor does it when
  folders are made.
* `openDatabase_refill`, `launchWith_refill` : if the file holds text before and after, neither the opening of a
  database nor the rest of the start depends on it.
-/

set_option autoImplicit false

namespace Recital

namespace Disk

variable {disk disk' : Disk} {location l : Location} {content : Content}

/-- The disk with another content of the file at a location. -/
def refill (disk : Disk) (location : Location) (content : Content) : Disk :=
  { disk with files := disk.files.map fun f => if f.1 = location then (location, content) else f }

/-- The content of a file after another one was changed. -/
def Found.refill (found : Found) (content : Content) : Found :=
  match found with
  | .file _ => .file content
  | found => found

theorem fst_refill (f : Location × Content) :
    (if f.1 = location then (location, content) else f).1 = f.1 := by
  split
  · rename_i h
    exact h.symm
  · rfl

theorem file?_refill : (disk.refill location content).file? l =
    (disk.file? l).map fun old => if l = location then content else old := by
  unfold file? refill
  simp only [List.find?_map, Option.map_map]
  have hfind : (fun f : Location × Content => decide (f.1 = l)) ∘
      (fun f : Location × Content => if f.1 = location then (location, content) else f) =
        fun f => decide (f.1 = l) := by
    funext f
    simp only [Function.comp_apply, fst_refill]
  rw [hfind]
  cases hfound : disk.files.find? fun f => decide (f.1 = l) with
  | none => rfl
  | some f =>
    have hl : f.1 = l := by simpa using List.find?_some hfound
    simp only [Option.map_some, Function.comp_apply, hl]
    split <;> rfl

theorem isFolder_refill : (disk.refill location content).isFolder l = disk.isFolder l := by
  simp only [isFolder, refill, List.any_map]
  congr 1
  refine congrArg (fun p => disk.files.any p) (funext fun f => ?_)
  simp only [Function.comp_apply, fst_refill]

theorem find_refill : (disk.refill location content).find l =
    if l = location then (disk.find l).refill content else disk.find l := by
  simp only [find, file?_refill, isFolder_refill]
  cases disk.file? l with
  | none =>
    simp only [Option.map_none]
    split <;> split <;> rfl
  | some old =>
    simp only [Option.map_some]
    split <;> rfl

/-- What is at another location stays as it is. -/
theorem find_refill_of_ne (h : l ≠ location) : (disk.refill location content).find l = disk.find l := by
  rw [find_refill, if_neg h]

theorem step_refill : (disk.refill location content).step = disk.step := by
  funext start name
  simp only [step, isFolder_refill]

/-- The location that a path leads to, when every folder on the way exists. -/
def locate? (disk : Disk) (path : String) : Option Location :=
  (Path.names path).foldl disk.step (some (disk.start path))

/-- What a path leads to is the same, but for the content of the file. -/
theorem lookup_refill (path : String) : (disk.refill location content).lookup path =
    if disk.locate? path = some location then (disk.lookup path).refill content else disk.lookup path := by
  have hstart : (disk.refill location content).start path = disk.start path := rfl
  unfold lookup locate?
  by_cases hempty : path = ""
  · simp only [if_pos hempty]
    split <;> rfl
  rw [if_neg hempty, if_neg hempty, step_refill, hstart]
  cases (Path.names path).foldl disk.step (some (disk.start path)) with
  | none =>
    simp only
    split <;> rfl
  | some l =>
    simp only [find_refill, Option.some.injEq]
    by_cases hl : l = location
    · simp only [if_pos hl]
      cases disk.find l with
      | file old =>
        simp only [Found.refill]
        split <;> rfl
      | _ => rfl
    · simp only [if_neg hl]

/-- Whether a path leads to nothing does not depend on what a file holds. -/
theorem lacks_refill (path : String) : (disk.refill location content).lacks path = disk.lacks path := by
  unfold lacks
  rw [lookup_refill]
  by_cases h : disk.locate? path = some location
  · rw [if_pos h]
    cases disk.lookup path <;> rfl
  · rw [if_neg h]

/-- The file that a path leads to holds what was put there. -/
theorem source_refill {path : String} {old new : List UInt8} (hlocate : disk.locate? path = some location)
    (hfile : disk.source path = .file old) : (disk.refill location (.bytes new)).source path = .file new := by
  unfold source at hfile ⊢
  rw [lookup_refill, if_pos hlocate]
  cases hlookup : disk.lookup path with
  | file c => rfl
  | _ =>
    rw [hlookup] at hfile
    cases hfile

/-- Text that a path leads to is in the file at its location. -/
theorem file?_of_source {path : String} {b : UInt8} {old : List UInt8}
    (hlocate : disk.locate? path = some location) (hsource : disk.source path = .file (b :: old)) :
    disk.file? location = some (.bytes (b :: old)) := by
  unfold locate? at hlocate
  unfold source lookup at hsource
  rw [hlocate] at hsource
  by_cases hempty : path = ""
  · rw [if_pos hempty] at hsource
    cases hsource
  simp only [if_neg hempty, find] at hsource
  cases hfile : disk.file? location with
  | none =>
    cases hfolder : disk.isFolder location <;> simp [hfile, hfolder] at hsource
  | some content =>
    by_cases hwants : Path.wantsFolder path = true
    · simp [hfile, hwants] at hsource
    · cases content <;> simp [hfile, hwants] at hsource
      rw [hsource]

theorem write_refill (h : l ≠ location) (c : Content) :
    (disk.refill location content).write l c = (disk.write l c).refill location content := by
  simp only [write, refill, List.filter_map, List.map_append, List.map_cons, List.map_nil, if_neg h]
  congr 2
  refine congrArg _ (congrArg (fun p => disk.files.filter p) (funext fun f => ?_))
  simp only [Function.comp_apply, fst_refill]

theorem erase_refill : (disk.refill location content).erase l = (disk.erase l).refill location content := by
  simp only [erase, refill, List.filter_map]
  congr 1
  refine congrArg _ (congrArg (fun p => disk.files.filter p) (funext fun f => ?_))
  simp only [Function.comp_apply, fst_refill]

theorem makeStep_refill (name : String) :
    makeStep (some (disk.refill location content, l)) name =
      (makeStep (some (disk, l)) name).map fun state => (state.1.refill location content, state.2) := by
  have hopen : (disk.refill location content).isOpen (l ++ [name]) = disk.isOpen (l ++ [name]) := rfl
  simp only [makeStep, Option.bind_some, find_refill, hopen]
  split
  · rfl
  cases disk.find (l ++ [name]) with
  | nothing =>
    simp only [Found.refill, ite_self]
    split <;> rfl
  | folder =>
    simp only [Found.refill, ite_self]
    rfl
  | file old =>
    by_cases hl : l ++ [name] = location
    · rw [if_pos hl]
      rfl
    · rw [if_neg hl]
      rfl

theorem makeSteps_refill (names : List String) (state : Option (Disk × Location)) :
    names.foldl makeStep (state.map fun state => (state.1.refill location content, state.2)) =
      (names.foldl makeStep state).map fun state => (state.1.refill location content, state.2) := by
  induction names generalizing state with
  | nil => rfl
  | cons name names ih =>
    rw [List.foldl_cons, List.foldl_cons, ← ih]
    congr 1
    cases state with
    | none => rfl
    | some state => exact makeStep_refill name

/-- **Folders are made alike**, whatever a file holds. -/
theorem makeFolders?_refill (path : String) : (disk.refill location content).makeFolders? path =
    (disk.makeFolders? path).map fun disk => disk.refill location content := by
  have hstart : some (disk.refill location content, (disk.refill location content).start path) =
      (some (disk, disk.start path)).map fun state => (state.1.refill location content, state.2) := rfl
  unfold makeFolders?
  rw [hstart, makeSteps_refill, Option.map_map, Option.map_map]
  rfl

theorem makeStep_adds {name : String} {state : Disk × Location} (h : makeStep (some (disk, l)) name = some state) :
    ∃ folders, state.1 = { disk with folders := folders } := by
  simp only [makeStep, Option.bind_some] at h
  split at h
  · obtain rfl := Option.some.inj h
    exact ⟨_, rfl⟩
  split at h
  · obtain rfl := Option.some.inj h
    exact ⟨_, rfl⟩
  · cases h
  · split at h
    · obtain rfl := Option.some.inj h
      exact ⟨_, rfl⟩
    · cases h

theorem makeSteps_adds {names : List String} {state state' : Disk × Location}
    (h : names.foldl makeStep (some state) = some state') :
    ∃ folders, state'.1 = { state.1 with folders := folders } := by
  induction names generalizing state with
  | nil =>
    obtain rfl := Option.some.inj h
    exact ⟨_, rfl⟩
  | cons name names ih =>
    rw [List.foldl_cons] at h
    cases hstep : makeStep (some state) name with
    | none =>
      have hnone : names.foldl makeStep none = none := by
        clear h ih
        induction names with
        | nil => rfl
        | cons name names ih => exact ih
      rw [hstep, hnone] at h
      cases h
    | some next =>
      rw [hstep] at h
      obtain ⟨folders, hnext⟩ := makeStep_adds hstep
      obtain ⟨more, hstate'⟩ := ih h
      exact ⟨more, by rw [hstate', hnext]⟩

/-- Making folders changes nothing else. -/
theorem makeFolders?_adds {path : String} (h : disk.makeFolders? path = some disk') :
    ∃ folders, disk' = { disk with folders := folders } := by
  obtain ⟨state, hstate, rfl⟩ := Option.map_eq_some_iff.1 h
  exact makeSteps_adds hstate

end Disk

/-! ## Opening a database -/

variable {disk : Disk} {location l : Location} {old new : List UInt8} {b c : UInt8}

/-- The result on a disk with another content of a file. -/
def Opened.refill (opened : Opened) (location : Location) (content : Content) : Opened :=
  { opened with disk := opened.disk.refill location content }

theorem openEmpty_refill (name : DatabaseName) (hne : l ≠ location) (content : Content) (canWait : Bool) :
    openEmpty name (disk.refill location content) l canWait =
      (openEmpty name disk l canWait).refill location content := by
  unfold openEmpty
  split
  · rfl
  split
  · rw [Disk.erase_refill, Disk.write_refill hne]
    rfl
  split <;> rfl

/-- A file that holds text is no database, whatever the text is. -/
theorem openFile_refill (name : DatabaseName) (hold : disk.file? location = some (.bytes (b :: old))) (canWait : Bool) :
    openFile name (disk.refill location (.bytes (c :: new))) canWait =
      (openFile name disk canWait).refill location (.bytes (c :: new)) := by
  have hresolve : (disk.refill location (.bytes (c :: new))).resolve name.path = disk.resolve name.path := rfl
  have hopen : ∀ l, (disk.refill location (.bytes (c :: new))).isOpen l = disk.isOpen l := fun _ => rfl
  unfold openFile
  simp only [hresolve]
  generalize disk.resolve name.path = l
  split
  · rfl
  by_cases hl : l = location
  · subst hl
    have hfind : disk.find l = .file (.bytes (b :: old)) := by rw [Disk.find, hold]
    rw [Disk.find_refill, if_pos rfl, hfind]
    rfl
  · rw [Disk.find_refill_of_ne hl]
    cases disk.find l with
    | folder => rfl
    | nothing =>
      simp only [hopen, Disk.isFolder_refill, Disk.write_refill hl]
      split
      · exact openEmpty_refill name hl _ canWait
      · rfl
    | file found =>
      cases found with
      | sink => rfl
      | bytes bytes =>
        cases bytes with
        | nil => exact openEmpty_refill name hl _ canWait
        | cons => rfl
      | database db =>
        simp only [Disk.write_refill hl]
        split
        · rfl
        split <;> rfl

/-- **The opening of a database does not depend on what text another file holds.** -/
theorem openDatabase_refill (g : Settings) (hold : disk.file? location = some (.bytes (b :: old))) :
    openDatabase g (disk.refill location (.bytes (c :: new))) =
      (openDatabase g disk).refill location (.bytes (c :: new)) := by
  unfold openDatabase
  rw [Disk.makeFolders?_refill]
  cases hfolders : disk.makeFolders? g.databasePath with
  | none => rfl
  | some next =>
    have hnext : next.file? location = some (.bytes (b :: old)) := by
      obtain ⟨folders, rfl⟩ := Disk.makeFolders?_adds hfolders
      exact hold
    simp only [Option.map_some]
    split
    · rfl
    cases DatabaseName.parse? g.databasePath with
    | none => rfl
    | some name =>
      simp only
      split
      · exact openFile_refill name hnext _
      · rfl

/-! ## The start -/

/-- The result on a disk with another content of a file. -/
def Launch.refill (launch : Launch) (location : Location) (content : Content) : Launch :=
  { launch with disk := launch.disk.refill location content }

/-- The surroundings with another content of a file. -/
def Surroundings.refill (x : Surroundings) (location : Location) (content : Content) : Surroundings :=
  { x with disk := x.disk.refill location content }

/-- A start with settings does not depend on what text a file holds. -/
theorem launchWith_refill {x : Surroundings}
    (hold : x.disk.file? location = some (.bytes (b :: old))) (a : Arguments) (g : Settings) :
    (x.refill location (.bytes (c :: new))).launchWith a g =
      (x.launchWith a g).refill location (.bytes (c :: new)) := by
  unfold Surroundings.launchWith
  simp only [Surroundings.refill, firstLines, databaseLine, Disk.lacks_refill, openDatabase_refill g hold]
  cases logFilter? x.environment g with
  | none => rfl
  | some filter => rfl

end Recital
