/-!
# TOML values

* `Value` : the values of a document.  Of floating point numbers and dates only the kind is kept.
* `Origin` : how a table came to be, which decides what may be added to it.
* `lookup`, `store` : the value of a key; `lookup_store` : what is found after one is stored.
* `assign?` : a key and its value added to a table.
* `openTable?`, `extendTables?` : a table, or one more table of an array, opened by a header and filled.
-/

set_option autoImplicit false

namespace Recital.Toml

/-- How a table came to be. -/
inductive Origin where
  /-- It stands in braces. -/
  | inline
  /-- It has a header, or is the whole document. -/
  | header
  /-- The header of a table within it named it. -/
  | implied
  /-- A dotted key named it. -/
  | dotted
  deriving DecidableEq, Repr, Inhabited

/-- A value of a document. -/
inductive Value where
  | string (s : String)
  | integer (n : Int)
  | float
  | boolean (b : Bool)
  | date
  | array (items : List Value)
  | table (origin : Origin) (entries : List (String × Value))
  /-- An array of tables, each with a header. -/
  | tables (items : List (List (String × Value)))
  deriving Repr, Inhabited

/-- The entries of a table. -/
abbrev Entries := List (String × Value)

/-- The value of a key. -/
def lookup (key : String) (entries : Entries) : Option Value :=
  (entries.find? fun entry => entry.1 = key).map Prod.snd

/-- The entries with the value of a key replaced, or added. -/
def store (key : String) (value : Value) (entries : Entries) : Entries :=
  if entries.any fun entry => entry.1 = key then
    entries.map fun entry => if entry.1 = key then (key, value) else entry
  else entries ++ [(key, value)]

theorem lookup_replace (key k : String) (value : Value) (entries : Entries) :
    lookup k (entries.map fun entry => if entry.1 = key then (key, value) else entry) =
      (lookup k entries).map fun old => if k = key then value else old := by
  induction entries with
  | nil => rfl
  | cons entry entries ih =>
    unfold lookup at ih ⊢
    simp only [List.map_cons, List.find?_cons]
    by_cases he : entry.1 = key
    · by_cases hk : key = k
      · simp [he, hk]
      · simpa [he, hk] using ih
    · by_cases hk : entry.1 = k
      · have hne : k ≠ key := fun h => he (hk.trans h)
        simp [hk, hne]
      · simpa [he, hk] using ih

theorem isSome_lookup (key : String) (entries : Entries) :
    (lookup key entries).isSome = entries.any fun entry => entry.1 = key := by
  rw [Bool.eq_iff_iff]
  simp [lookup]

/-- What is stored under a key is found there, and under every other key what was there before. -/
theorem lookup_store (key k : String) (value : Value) (entries : Entries) :
    lookup k (store key value entries) = if k = key then some value else lookup k entries := by
  unfold store
  rw [← isSome_lookup]
  by_cases h : (lookup key entries).isSome
  · rw [if_pos h, lookup_replace]
    split
    · subst k
      obtain ⟨old, hold⟩ := Option.isSome_iff_exists.1 h
      simp [hold]
    · simp
  · have hn : lookup key entries = none := by simpa using h
    rw [if_neg h]
    by_cases hk : k = key
    · subst k
      have hf : entries.find? (fun entry => entry.1 = key) = none := by
        simpa only [lookup, Option.map_eq_none_iff] using hn
      simp [lookup, List.find?_append, hf]
    · have hk' : ¬ key = k := fun e => hk e.symm
      simp [lookup, hk, hk']

/-- Changes the last of the tables of an array. -/
def changeLast (f : Entries → Option Entries) : List Entries → Option (List Entries)
  | [] => none
  | [last] => (f last).map fun last => [last]
  | t :: rest => (changeLast f rest).map (t :: ·)

/-- Adds a key and its value to a table that exists; the key must be new. -/
def add? (key : String) (value : Value) (entries : Entries) : Option Entries :=
  if (lookup key entries).isSome then none else some (store key value entries)

/-- Adds a value under a dotted key.  It may go through tables that headers or dotted keys named and
through the last table of an array, but the table that receives the value must be new or one that only
dotted keys have named. -/
def assign? (value : Value) : List String → String → Entries → Option Entries
  | [], key, entries => add? key value entries
  | k :: path, key, entries =>
    match lookup k entries with
    | none => (assign? value path key []).map fun inner => store k (.table .dotted inner) entries
    | some (.table origin inner) =>
      if origin = .dotted ∨ (origin = .implied ∧ path ≠ []) then
        (assign? value path key inner).map fun inner => store k (.table origin inner) entries
      else none
    | some (.tables items) =>
      if path = [] then none
      else (changeLast (assign? value path key) items).map fun items =>
        store k (.tables items) entries
    | some _ => none

/-- Changes the entries of the table that a header path leads to; tables on the way that do not exist
are implied, and of an array the last table is meant. -/
def within? (change : Entries → Option Entries) : List String → Entries → Option Entries
  | [], entries => change entries
  | k :: path, entries =>
    match lookup k entries with
    | none => (within? change path []).map fun inner => store k (.table .implied inner) entries
    | some (.table .inline _) => none
    | some (.table origin inner) =>
      (within? change path inner).map fun inner => store k (.table origin inner) entries
    | some (.tables items) =>
      (changeLast (within? change path) items).map fun items => store k (.tables items) entries
    | some _ => none

/-- Fills a table with keys and their values. -/
def fill? (entries : Entries) : List (List String × String × Value) → Option Entries
  | [] => some entries
  | (path, key, value) :: rest =>
    (assign? value path key entries).bind fun entries => fill? entries rest

/-- The table of a header, which must be new or implied, filled. -/
def openTable? (content : List (List String × String × Value)) (key : String) (entries : Entries) :
    Option Entries :=
  match lookup key entries with
  | none => (fill? [] content).map fun inner => store key (.table .header inner) entries
  | some (.table .implied inner) =>
    (fill? inner content).map fun inner => store key (.table .header inner) entries
  | some _ => none

/-- One more table of an array, filled. -/
def extendTables? (content : List (List String × String × Value)) (key : String) (entries : Entries) :
    Option Entries :=
  match lookup key entries with
  | none => (fill? [] content).map fun inner => store key (.tables [inner]) entries
  | some (.tables items) =>
    (fill? [] content).map fun inner => store key (.tables (items ++ [inner])) entries
  | some _ => none

end Recital.Toml
