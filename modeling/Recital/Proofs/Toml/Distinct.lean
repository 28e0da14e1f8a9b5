import Mathlib.Data.List.Nodup
import Recital.Toml.Reader

/-!
# No table has a key twice

* `Value.Distinct`, `Entries.Distinct` : no table in a value, or in a table, has a key twice.
* `distinct_store`, `distinct_assign?`, `distinct_within?`, `distinct_fill?` : what changes a table keeps this.
* `readsDistinct` : so it is of every value that is read.
* `distinct_parse?` : so it is of every document.
-/

set_option autoImplicit false

namespace Recital.Toml

/-- No table within the value has a key twice. -/
inductive Value.Distinct : Value → Prop where
  | string (s : String) : Distinct (.string s)
  | integer (n : Int) : Distinct (.integer n)
  | float : Distinct .float
  | boolean (b : Bool) : Distinct (.boolean b)
  | date : Distinct .date
  | array {items : List Value} (h : ∀ v ∈ items, Distinct v) : Distinct (.array items)
  | table {origin : Origin} {entries : List (String × Value)} (hkeys : (entries.map Prod.fst).Nodup)
      (h : ∀ e ∈ entries, Distinct e.2) : Distinct (.table origin entries)
  | tables {items : List (List (String × Value))} (hkeys : ∀ t ∈ items, (t.map Prod.fst).Nodup)
      (h : ∀ t ∈ items, ∀ e ∈ t, Distinct e.2) : Distinct (.tables items)

/-- Neither a table nor a table within it has a key twice. -/
structure Entries.Distinct (entries : Entries) : Prop where
  keys : (entries.map Prod.fst).Nodup
  values : ∀ e ∈ entries, e.2.Distinct

variable {entries entries' inner : Entries} {items items' : List Entries} {key : String} {value : Value}
  {origin : Origin}

theorem distinct_nil : Entries.Distinct [] :=
  ⟨.nil, nofun⟩

theorem distinct_table : (Value.table origin entries).Distinct ↔ Entries.Distinct entries :=
  ⟨fun h => by cases h with | table hkeys h => exact ⟨hkeys, h⟩, fun h => .table h.keys h.values⟩

theorem distinct_tables : (Value.tables items).Distinct ↔ ∀ t ∈ items, Entries.Distinct t :=
  ⟨fun h => by cases h with | tables hkeys h => exact fun t ht => ⟨hkeys t ht, h t ht⟩,
    fun h => .tables (fun t ht => (h t ht).keys) fun t ht => (h t ht).values⟩

/-- A change of a table after which it still has no key twice. -/
def KeepsDistinct (change : Entries → Option Entries) : Prop :=
  ∀ entries entries', Entries.Distinct entries → change entries = some entries' → Entries.Distinct entries'

/-! ## One table -/

theorem mem_of_lookup (h : lookup key entries = some value) : (key, value) ∈ entries := by
  obtain ⟨entry, hentry, rfl⟩ := Option.map_eq_some_iff.1 h
  obtain rfl : entry.1 = key := by simpa using List.find?_some hentry
  exact List.mem_of_find?_eq_some hentry

theorem Entries.Distinct.of_lookup (h : Entries.Distinct entries) (hlookup : lookup key entries = some value) :
    value.Distinct :=
  h.values _ (mem_of_lookup hlookup)

/-- **A stored value replaces the one under its key**, or is added under a new one. -/
theorem distinct_store (h : Entries.Distinct entries) (hvalue : value.Distinct) :
    Entries.Distinct (store key value entries) := by
  unfold store
  split
  · refine ⟨?_, fun e he => ?_⟩
    · have hkeys : (entries.map fun entry => if entry.1 = key then (key, value) else entry).map Prod.fst =
          entries.map Prod.fst := by
        rw [List.map_map]
        refine List.map_congr_left fun entry _ => ?_
        by_cases hentry : entry.1 = key <;> simp [hentry]
      rw [hkeys]
      exact h.keys
    · obtain ⟨entry, hentry, rfl⟩ := List.mem_map.1 he
      split
      · exact hvalue
      · exact h.values entry hentry
  · rename_i hnew
    have hnot : key ∉ entries.map Prod.fst := by simpa using hnew
    refine ⟨?_, fun e he => ?_⟩
    · rw [List.map_append, List.nodup_append]
      refine ⟨h.keys, List.nodup_singleton _, fun a ha b hb heq => hnot ?_⟩
      rwa [← show b = key from List.mem_singleton.1 hb, ← heq]
    · rcases List.mem_append.1 he with he | he
      · exact h.values e he
      · rw [List.mem_singleton.1 he]
        exact hvalue

theorem distinct_changeLast {change : Entries → Option Entries} (hchange : KeepsDistinct change)
    (h : ∀ t ∈ items, Entries.Distinct t) (hresult : changeLast change items = some items') :
    ∀ t ∈ items', Entries.Distinct t := by
  fun_induction changeLast change items generalizing items' with
  | case1 => cases hresult
  | case2 last =>
    obtain ⟨last', hlast, rfl⟩ := Option.map_eq_some_iff.1 hresult
    exact List.forall_mem_singleton.2 (hchange _ _ (List.forall_mem_singleton.1 h) hlast)
  | case3 t rest _ ih =>
    obtain ⟨rest', hrest, rfl⟩ := Option.map_eq_some_iff.1 hresult
    obtain ⟨hfirst, h⟩ := List.forall_mem_cons.1 h
    exact List.forall_mem_cons.2 ⟨hfirst, ih h hrest⟩

/-! ## Changes of a table -/

theorem distinct_assign? (hvalue : value.Distinct) (path : List String) (key : String) :
    KeepsDistinct (assign? value path key) := by
  induction path with
  | nil =>
    intro entries entries' h hresult
    unfold assign? add? at hresult
    split at hresult
    · cases hresult
    · rw [← Option.some.inj hresult]
      exact distinct_store h hvalue
  | cons k path ih =>
    intro entries entries' h hresult
    unfold assign? at hresult
    split at hresult
    · obtain ⟨inner, hinner, rfl⟩ := Option.map_eq_some_iff.1 hresult
      exact distinct_store h (distinct_table.2 (ih _ _ distinct_nil hinner))
    · rename_i origin inner hlookup
      split at hresult
      · obtain ⟨inner', hinner, rfl⟩ := Option.map_eq_some_iff.1 hresult
        exact distinct_store h (distinct_table.2 (ih _ _ (distinct_table.1 (h.of_lookup hlookup)) hinner))
      · cases hresult
    · rename_i items hlookup
      split at hresult
      · cases hresult
      · obtain ⟨items', hitems, rfl⟩ := Option.map_eq_some_iff.1 hresult
        exact distinct_store h
          (distinct_tables.2 (distinct_changeLast ih (distinct_tables.1 (h.of_lookup hlookup)) hitems))
    · cases hresult

theorem distinct_fill? {content : List Assignment} (hcontent : ∀ a ∈ content, a.2.2.Distinct) :
    KeepsDistinct fun entries => fill? entries content := by
  induction content with
  | nil =>
    intro entries entries' h hresult
    rwa [← Option.some.inj hresult]
  | cons a content ih =>
    intro entries entries' h hresult
    obtain ⟨path, key, value⟩ := a
    obtain ⟨hfirst, hcontent⟩ := List.forall_mem_cons.1 hcontent
    obtain ⟨next, hnext, hresult⟩ := Option.bind_eq_some_iff.1 hresult
    exact ih hcontent _ _ (distinct_assign? hfirst path key _ _ h hnext) hresult

theorem distinct_within? {change : Entries → Option Entries} (hchange : KeepsDistinct change) (path : List String) :
    KeepsDistinct (within? change path) := by
  induction path with
  | nil => exact hchange
  | cons k path ih =>
    intro entries entries' h hresult
    unfold within? at hresult
    split at hresult
    · obtain ⟨inner, hinner, rfl⟩ := Option.map_eq_some_iff.1 hresult
      exact distinct_store h (distinct_table.2 (ih _ _ distinct_nil hinner))
    · cases hresult
    · rename_i origin inner _ hlookup
      obtain ⟨inner', hinner, rfl⟩ := Option.map_eq_some_iff.1 hresult
      exact distinct_store h (distinct_table.2 (ih _ _ (distinct_table.1 (h.of_lookup hlookup)) hinner))
    · rename_i items hlookup
      obtain ⟨items', hitems, rfl⟩ := Option.map_eq_some_iff.1 hresult
      exact distinct_store h
        (distinct_tables.2 (distinct_changeLast ih (distinct_tables.1 (h.of_lookup hlookup)) hitems))
    · cases hresult

theorem distinct_openTable? {content : List Assignment} (hcontent : ∀ a ∈ content, a.2.2.Distinct) (key : String) :
    KeepsDistinct (openTable? content key) := by
  intro entries entries' h hresult
  unfold openTable? at hresult
  split at hresult
  · obtain ⟨inner, hinner, rfl⟩ := Option.map_eq_some_iff.1 hresult
    exact distinct_store h (distinct_table.2 (distinct_fill? hcontent _ _ distinct_nil hinner))
  · rename_i inner hlookup
    obtain ⟨inner', hinner, rfl⟩ := Option.map_eq_some_iff.1 hresult
    exact distinct_store h
      (distinct_table.2 (distinct_fill? hcontent _ _ (distinct_table.1 (h.of_lookup hlookup)) hinner))
  · cases hresult

theorem distinct_extendTables? {content : List Assignment} (hcontent : ∀ a ∈ content, a.2.2.Distinct)
    (key : String) : KeepsDistinct (extendTables? content key) := by
  intro entries entries' h hresult
  unfold extendTables? at hresult
  split at hresult
  · obtain ⟨inner, hinner, rfl⟩ := Option.map_eq_some_iff.1 hresult
    exact distinct_store h
      (distinct_tables.2 (List.forall_mem_singleton.2 (distinct_fill? hcontent _ _ distinct_nil hinner)))
  · rename_i items hlookup
    obtain ⟨inner, hinner, rfl⟩ := Option.map_eq_some_iff.1 hresult
    refine distinct_store h (distinct_tables.2 (List.forall_mem_append.2 ⟨distinct_tables.1 (h.of_lookup hlookup), ?_⟩))
    exact List.forall_mem_singleton.2 (distinct_fill? hcontent _ _ distinct_nil hinner)
  · cases hresult

/-! ## Values and documents that are read -/

theorem distinct_readScalar {cs rest : List Char} (h : readScalar cs = some (value, rest)) : value.Distinct := by
  unfold readScalar at h
  split at h
  · obtain ⟨_, -, heq⟩ := Option.map_eq_some_iff.1 h
    obtain ⟨rfl, -⟩ := Prod.mk.inj heq
    exact .string _
  · obtain ⟨_, -, heq⟩ := Option.map_eq_some_iff.1 h
    obtain ⟨rfl, -⟩ := Prod.mk.inj heq
    exact .string _
  · cases h
    exact .boolean true
  · cases h
    exact .boolean false
  · split at h
    · cases h
      exact .date
    · split at h
      · cases h
        exact .float
      · obtain ⟨_, -, heq⟩ := Option.map_eq_some_iff.1 h
        obtain ⟨rfl, -⟩ := Prod.mk.inj heq
        exact .integer _

/-- What is read in so many steps has no key twice. -/
structure ReadsDistinct (steps : Nat) : Prop where
  value : ∀ {depth cs v rest}, readValue depth steps cs = some (v, rest) → v.Distinct
  items : ∀ {depth cs items rest}, readItems depth steps cs = some (items, rest) → ∀ v ∈ items, v.Distinct
  pairs : ∀ {depth cs pairs rest}, readPairs depth steps cs = some (pairs, rest) → ∀ a ∈ pairs, a.2.2.Distinct

variable {steps depth : Nat} {cs rest : List Char}

theorem distinct_value_succ (h : ReadsDistinct steps) (hread : readValue depth (steps + 1) cs = some (value, rest)) :
    value.Distinct := by
  unfold readValue at hread
  split at hread
  · cases hread
  · rename_i heq
    obtain rfl := Nat.succ.inj heq
    split at hread
    · cases hread
    · split at hread
      · cases hread
        exact .array nofun
      · split at hread
        · rename_i hitems
          cases hread
          exact .array (h.items hitems)
        · cases hread
      · cases hread
  · rename_i heq
    obtain rfl := Nat.succ.inj heq
    split at hread
    · cases hread
    · split at hread
      · cases hread
        exact distinct_table.2 distinct_nil
      · split at hread
        · rename_i hpairs
          obtain ⟨entries, hfill, heq⟩ := Option.map_eq_some_iff.1 hread
          obtain ⟨rfl, -⟩ := Prod.mk.inj heq
          exact distinct_table.2 (distinct_fill? (h.pairs hpairs) _ _ distinct_nil hfill)
        · cases hread
  · exact distinct_readScalar hread

theorem distinct_items_succ (h : ReadsDistinct steps) {items : List Value}
    (hread : readItems depth (steps + 1) cs = some (items, rest)) : ∀ v ∈ items, v.Distinct := by
  unfold readItems at hread
  split at hread
  · cases hread
  · rename_i hitem
    have hfirst := h.value hitem
    split at hread
    · cases hread
      exact List.forall_mem_singleton.2 hfirst
    · split at hread
      · cases hread
        exact List.forall_mem_singleton.2 hfirst
      · split at hread
        · rename_i hmore
          cases hread
          exact List.forall_mem_cons.2 ⟨hfirst, h.items hmore⟩
        · cases hread
      · cases hread
    · cases hread

theorem distinct_pairs_succ (h : ReadsDistinct steps) {pairs : List Assignment}
    (hread : readPairs depth (steps + 1) cs = some (pairs, rest)) : ∀ a ∈ pairs, a.2.2.Distinct := by
  unfold readPairs at hread
  split at hread
  · split at hread
    · cases hread
    · rename_i hvalue
      have hfirst := h.value hvalue
      split at hread
      · cases hread
        exact List.forall_mem_singleton.2 hfirst
      · split at hread
        · rename_i hmore
          cases hread
          exact List.forall_mem_cons.2 ⟨hfirst, h.pairs hmore⟩
        · cases hread
      · cases hread
  · cases hread

theorem readsDistinct (steps : Nat) : ReadsDistinct steps := by
  induction steps with
  | zero => exact ⟨fun h => by simp [readValue] at h, fun h => by simp [readItems] at h,
      fun h => by simp [readPairs] at h⟩
  | succ steps ih => exact ⟨distinct_value_succ ih, distinct_items_succ ih, distinct_pairs_succ ih⟩

/-- The values of a line have no key twice. -/
def Line.Distinct : Line → Prop
  | .assignment a => a.2.2.Distinct
  | _ => True

theorem distinct_readLine {cs rest : List Char} {line : Line} (h : readLine cs = some (line, rest)) :
    line.Distinct := by
  have hheader : ∀ {isArray cs}, readHeader isArray cs = some (line, rest) → line.Distinct := by
    intro isArray cs h
    unfold readHeader at h
    split at h
    · obtain ⟨_, -, heq⟩ := Option.map_eq_some_iff.1 h
      obtain ⟨rfl, -⟩ := Prod.mk.inj heq
      trivial
    · obtain ⟨_, -, heq⟩ := Option.map_eq_some_iff.1 h
      obtain ⟨rfl, -⟩ := Prod.mk.inj heq
      trivial
    · cases h
  unfold readLine at h
  split at h
  · exact hheader h
  · exact hheader h
  · split at h
    · split at h
      · rename_i hvalue
        obtain ⟨_, -, heq⟩ := Option.map_eq_some_iff.1 h
        obtain ⟨rfl, -⟩ := Prod.mk.inj heq
        exact (readsDistinct _).value hvalue
      · cases h
    · cases h

theorem distinct_readLines {steps : Nat} {cs : List Char} {lines : List Line} (h : readLines steps cs = some lines) :
    ∀ line ∈ lines, line.Distinct := by
  induction steps generalizing cs lines with
  | zero => cases h
  | succ steps ih =>
    unfold readLines at h
    split at h
    · cases h
      nofun
    · obtain ⟨_, -, hmore⟩ := Option.bind_eq_some_iff.1 h
      exact ih hmore
    · exact ih h
    · obtain ⟨_, -, hmore⟩ := Option.bind_eq_some_iff.1 h
      exact ih hmore
    · split at h
      · rename_i hline
        obtain ⟨more, hmore, rfl⟩ := Option.map_eq_some_iff.1 h
        exact List.forall_mem_cons.2 ⟨distinct_readLine hline, ih hmore⟩
      · cases h

theorem distinct_sections {lines : List Line} (h : ∀ line ∈ lines, line.Distinct) :
    (∀ a ∈ (sections lines).1, a.2.2.Distinct) ∧ ∀ s ∈ (sections lines).2, ∀ a ∈ s.content, a.2.2.Distinct := by
  fun_induction sections lines with
  | case1 => exact ⟨nofun, nofun⟩
  | case2 a lines content rest hsections ih =>
    obtain ⟨hfirst, h⟩ := List.forall_mem_cons.1 h
    rw [hsections] at ih
    exact ⟨List.forall_mem_cons.2 ⟨hfirst, (ih h).1⟩, (ih h).2⟩
  | case3 header lines _ content rest hsections ih =>
    obtain ⟨-, h⟩ := List.forall_mem_cons.1 h
    rw [hsections] at ih
    exact ⟨nofun, List.forall_mem_cons.2 ⟨(ih h).1, (ih h).2⟩⟩

theorem distinct_addSection {s : Section} (hcontent : ∀ a ∈ s.content, a.2.2.Distinct) :
    KeepsDistinct fun entries => addSection entries s := by
  intro entries entries' h hresult
  unfold addSection at hresult
  simp only at hresult
  split at hresult
  · exact distinct_within? (distinct_openTable? hcontent _) _ _ _ h hresult
  · exact distinct_within? (distinct_extendTables? hcontent _) _ _ _ h hresult
  · cases hresult

theorem distinct_addSections {rest : List Section} (hrest : ∀ s ∈ rest, ∀ a ∈ s.content, a.2.2.Distinct)
    {start : Option Entries} (hstart : ∀ entries, start = some entries → Entries.Distinct entries)
    (h : rest.foldl (fun entries s => entries.bind fun entries => addSection entries s) start = some entries) :
    Entries.Distinct entries := by
  induction rest generalizing start with
  | nil => exact hstart _ h
  | cons s rest ih =>
    obtain ⟨hfirst, hrest⟩ := List.forall_mem_cons.1 hrest
    refine ih hrest (fun next hnext => ?_) h
    obtain ⟨old, hold, hadd⟩ := Option.bind_eq_some_iff.1 hnext
    exact distinct_addSection hfirst _ _ (hstart _ hold) hadd

/-- **No table of a document has a key twice.** -/
theorem distinct_parse? {s : String} (h : parse? s = some entries) : Entries.Distinct entries := by
  obtain ⟨lines, hlines, h⟩ := Option.bind_eq_some_iff.1 h
  obtain ⟨hcontent, hrest⟩ := distinct_sections (distinct_readLines hlines)
  exact distinct_addSections hrest (fun first hfirst => distinct_fill? hcontent _ _ distinct_nil hfirst) h

end Recital.Toml
