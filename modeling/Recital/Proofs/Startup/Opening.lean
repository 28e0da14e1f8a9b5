import Recital.Proofs.Startup.Refill

/-!
# How a database is opened

* `Progress.failure?` : how a start ends if its database comes no further.  `failure_openDatabase` : there is no
  database, or it may have no connections.
* `Disk.databaseAt?` : the file that the path of a database names; in memory there is none.
* `Disk.beside` : the files that a database may keep beside its own.
* `Catalogue.IsNew` : a catalogue with nothing in it but a row for each biography.
* `Disk.Founds` : a new database is in a file, and no other file has changed but those beside it.
* `openEmpty_founds`, `openFile_founds`, `openDatabase_founds` : a database that is made where there was none, or an
  empty file, is founded.
* `databaseAt?_of_plain` : a path that is not empty, in memory or an address names the file at its location.
-/

set_option autoImplicit false

namespace Recital

/-- The catalogue is a new one: all tables are there, and nothing is in them but an empty text for each biography. -/
structure Catalogue.IsNew (db : Catalogue) : Prop where
  eq_fresh : db = .fresh
  entities : ∀ kind, db.size kind = 0
  slots : db.slots = []
  biographies : ∀ v, db.biographies.get? v = some ""

theorem Catalogue.isNew_fresh : fresh.IsNew where
  eq_fresh := rfl
  entities kind := by cases kind <;> rfl
  slots := rfl
  biographies v := Biographies.get?_seeded {} v

namespace Disk

variable {disk disk' : Disk} {location l : Location} {content : Content}

/-- The file that the path of a database names, unless the path is malformed or the database is in memory. -/
def databaseAt? (disk : Disk) (path : String) : Option Location :=
  (DatabaseName.parse? path).bind fun name => if name.keeping = .file then some (disk.resolve name.path) else none

/-- The files that a database may keep beside its own: a log, the memory that its writers share, a journal. -/
def beside (location : Location) : List Location :=
  ["-wal", "-shm", "-journal"].map fun ending => location.dropLast ++ [location.getLastD "" ++ ending]

/-- A new database is in a file, and all other files but those beside it are as they were. -/
structure Founds (disk disk' : Disk) (location : Location) : Prop where
  database : ∃ db, disk'.file? location = some (.database db) ∧ db.IsNew
  others : ∀ l, l ≠ location → l ∉ beside location → disk'.file? l = disk.file? l

/-- There is no file, or nothing in it. -/
def IsVacant (disk : Disk) (location : Location) : Prop :=
  disk.file? location = none ∨ disk.file? location = some (.bytes [])

theorem file?_of_find (h : disk.find location = .file content) : disk.file? location = some content := by
  unfold find at h
  split at h
  · rename_i found hfound
    cases h
    exact hfound
  · split at h <;> cases h

theorem journal_mem_beside (location : Location) : location.dropLast ++ [journalName location] ∈ beside location := by
  simp [beside, journalName]

/-- The other files stay as they are when one is erased. -/
theorem file?_erase_of_ne (disk : Disk) (h : l ≠ location) : (disk.erase location).file? l = disk.file? l := by
  simp only [erase, file?, List.find?_filter]
  congr 2
  funext f
  by_cases hf : f.1 = l <;> simp [hf, h]

/-- What is founded on a file that has just been made is founded where it was made. -/
theorem Founds.of_write (h : (disk.write location content).Founds disk' location) : disk.Founds disk' location where
  database := h.database
  others l hl hbeside := (h.others l hl hbeside).trans (file?_write_of_ne disk content hl)

end Disk

variable {disk : Disk} {name : DatabaseName} {location : Location} {g : Settings} {canWait : Bool} {e : Ending}

/-! ## Failures -/

/-- How a start ends if its database comes no further. -/
def Progress.failure? : Progress → Option Ending
  | stopped ending => some ending
  | connected => some .noDatabase
  | ready => none

theorem failure_openEmpty (h : (openEmpty name disk location canWait).progress.failure? = some e) :
    e = .noDatabase := by
  unfold openEmpty at h
  split at h
  · exact (Option.some.inj h).symm
  split at h
  · cases h
  split at h <;> exact (Option.some.inj h).symm

theorem failure_openFile (h : (openFile name disk canWait).progress.failure? = some e) : e = .noDatabase := by
  unfold openFile at h
  simp only at h
  split at h
  · exact (Option.some.inj h).symm
  split at h
  · exact (Option.some.inj h).symm
  · exact (Option.some.inj h).symm
  · exact (Option.some.inj h).symm
  · exact failure_openEmpty h
  · split at h
    · exact (Option.some.inj h).symm
    split at h
    · cases h
    · exact (Option.some.inj h).symm
  · split at h
    · exact failure_openEmpty h
    · exact (Option.some.inj h).symm

theorem failure_openMemory {d : DatabaseSettings} (h : (openMemory name d).failure? = some e) : e = .noDatabase := by
  unfold openMemory at h
  split at h
  · exact (Option.some.inj h).symm
  split at h
  · exact (Option.some.inj h).symm
  · cases h

/-- A database fails to open, or may have no connections. -/
theorem failure_openDatabase (h : (openDatabase g disk).progress.failure? = some e) :
    e = .noDatabase ∨ e = .noConnections := by
  unfold openDatabase at h
  split at h
  · exact .inl (Option.some.inj h).symm
  split at h
  · exact .inr (Option.some.inj h).symm
  split at h
  · exact .inl (Option.some.inj h).symm
  split at h
  · exact .inl (failure_openFile h)
  · exact .inl (failure_openMemory h)

/-! ## Founding -/

theorem openEmpty_founds (h : (openEmpty name disk location canWait).progress = .ready) :
    disk.Founds (openEmpty name disk location canWait).disk location := by
  unfold openEmpty at h ⊢
  split at h
  · cases h
  rename_i hwait
  split at h
  · rename_i hwritable
    rw [if_neg hwait, if_pos hwritable]
    refine ⟨⟨_, Disk.file?_write_self _ _ _, Catalogue.isNew_fresh⟩, fun l hl hbeside => ?_⟩
    have hjournal : l ≠ location.dropLast ++ [journalName location] :=
      fun heq => hbeside (heq ▸ Disk.journal_mem_beside location)
    exact (Disk.file?_write_of_ne _ _ hl).trans (Disk.file?_erase_of_ne disk hjournal)
  split at h <;> cases h

theorem openFile_founds (h : (openFile name disk canWait).progress = .ready)
    (hvacant : disk.IsVacant (disk.resolve name.path)) :
    disk.Founds (openFile name disk canWait).disk (disk.resolve name.path) := by
  unfold openFile at h ⊢
  simp only at h ⊢
  generalize disk.resolve name.path = location at h hvacant ⊢
  split at h
  · cases h
  rename_i hlength
  rw [if_neg hlength]
  cases hfind : disk.find location with
  | folder => simp [hfind] at h
  | nothing =>
    simp only [hfind] at h ⊢
    split at h
    · rename_i hmay
      rw [if_pos hmay]
      exact (openEmpty_founds h).of_write
    · cases h
  | file content =>
    have hfile := Disk.file?_of_find hfind
    rcases hvacant with hnone | hempty
    · exact nomatch hnone.symm.trans hfile
    · obtain rfl := Option.some.inj (hempty.symm.trans hfile)
      simp only [hfind] at h ⊢
      exact openEmpty_founds h

/-- A database that is opened has a name, and the folders on the way to it are there. -/
theorem openDatabase_of_ready (h : (openDatabase g disk).progress = .ready) :
    ∃ folders name, DatabaseName.parse? g.databasePath = some name ∧ (name.keeping = .file →
      openDatabase g disk = openFile name { disk with folders := folders } g.database.canWait) := by
  unfold openDatabase at h ⊢
  cases hfolders : disk.makeFolders? g.databasePath with
  | none => simp [hfolders] at h
  | some next =>
    obtain ⟨folders, rfl⟩ := Disk.makeFolders?_adds hfolders
    simp only [hfolders] at h
    split at h
    · cases h
    rename_i hsome
    cases hname : DatabaseName.parse? g.databasePath with
    | none => simp [hname] at h
    | some name =>
      refine ⟨folders, name, rfl, fun hkeeping => ?_⟩
      simp only [if_neg hsome, hkeeping]

/-- **A database that is opened where there was none is founded.** -/
theorem openDatabase_founds (h : (openDatabase g disk).progress = .ready)
    (hat : disk.databaseAt? g.databasePath = some location) (hvacant : disk.IsVacant location) :
    disk.Founds (openDatabase g disk).disk location := by
  obtain ⟨folders, name, hname, hopen⟩ := openDatabase_of_ready h
  simp only [Disk.databaseAt?, hname, Option.bind_some, Option.ite_none_right_eq_some, Option.some.injEq] at hat
  obtain ⟨hkeeping, rfl⟩ := hat
  rw [hopen hkeeping] at h ⊢
  obtain ⟨hdatabase, hothers⟩ := openFile_founds h hvacant
  exact ⟨hdatabase, hothers⟩

/-- **A plain path names the file at its location.** -/
theorem databaseAt?_of_plain (h : (openDatabase g disk).progress = .ready) (hempty : g.databasePath ≠ "")
    (hmemory : g.databasePath ≠ ":memory:") (hplain : "file:".toList.isPrefixOf g.databasePath.toList = false) :
    disk.databaseAt? g.databasePath = some (disk.resolve g.databasePath) := by
  obtain ⟨-, name, hname, -⟩ := openDatabase_of_ready h
  have hnul : g.databasePath.toList.contains '\x00' = false := by
    refine Bool.eq_false_iff.2 fun hnul => ?_
    rw [DatabaseName.parse?, if_pos hnul] at hname
    cases hname
  simp [Disk.databaseAt?, DatabaseName.parse?_eq_path hnul hplain, DatabaseName.keeping, hempty, hmemory]

end Recital
