import Recital.Proofs.Startup.File

/-!
# Why a configuration file cannot be read

* `settingValues` : what a document has for each setting, and what a value of the setting is.
* `Misfits` : a document has something for a setting that is no value of it.
* `Source.Flawed` : a folder, no text, no document, or a document that misfits.
* `flawed_iff` : exactly then there are no settings.  `load_eq_error_iff` : exactly then the file cannot be read.
-/

set_option autoImplicit false

namespace Recital

open Toml (Value Entries lookup)

/-- What a document has for each setting, and whether a value may stand there. -/
def settingValues (entries : Entries) : List (Option Value × (Value → Bool)) :=
  [(lookup "host" entries, fun v => v.text?.isSome),
    (lookup "port" entries, fun v => (v.number? 65536).isSome),
    (lookup "database_path" entries, fun v => v.text?.isSome),
    (lookup "database" entries, Value.isGroup),
    (groupMember? entries "database" "max_connections" 0, fun v => (v.number? 4294967296).isSome),
    (groupMember? entries "database" "busy_timeout_ms" 1, fun v => (v.number? 18446744073709551616).isSome),
    (lookup "logging" entries, Value.isGroup),
    (groupMember? entries "logging" "level" 0, fun v => v.text?.isSome)]

/-- Something stands for a setting that is of another kind or out of range. -/
def Misfits (entries : Entries) : Prop :=
  ∃ place ∈ settingValues entries, ∃ v, place.1 = some v ∧ place.2 v = false

/-- There is a configuration file, and it gives no settings. -/
inductive Source.Flawed : Source → Prop where
  /-- It is no file of text at all. -/
  | directory : Flawed .directory
  | notText {bytes : List UInt8} (h : Text.utf8Text? bytes = none) : Flawed (.file bytes)
  | notToml {bytes : List UInt8} {s : String} (htext : Text.utf8Text? bytes = some s) (h : Toml.parse? s = none) :
      Flawed (.file bytes)
  | misfits {bytes : List UInt8} {s : String} {entries : Entries} (htext : Text.utf8Text? bytes = some s)
      (hparse : Toml.parse? s = some entries) (h : Misfits entries) : Flawed (.file bytes)

variable {A : Type} {entries : Entries} {found : Option Value} {source : Source}

theorem exists_decoded?_iff {decode : Value → Option A} :
    (∃ a, decoded? decode found = some a) ↔ ∀ v, found = some v → (decode v).isSome = true := by
  cases found with
  | none => simp [decoded?]
  | some v => simp [decoded?, Option.isSome_iff_exists]

/-- **A document gives settings unless it misfits.** -/
theorem exists_of_iff : (∃ f, FileSettings.Of entries f) ↔ ¬ Misfits entries := by
  have hfits : (¬ Misfits entries) ↔
      ∀ place ∈ settingValues entries, ∀ v, place.1 = some v → place.2 v = true := by
    simp only [Misfits, not_exists, not_and, Bool.not_eq_false]
  rw [hfits]
  simp only [settingValues, List.forall_mem_cons, List.not_mem_nil, false_imp_iff, implies_true, and_true,
    ← exists_decoded?_iff, FileSettings.of_iff]
  constructor
  · rintro ⟨f, hhost, hport, hpath, hdatabase, hmost, htimeout, hlogging, hlevel⟩
    exact ⟨⟨_, hhost⟩, ⟨_, hport⟩, ⟨_, hpath⟩, hdatabase, ⟨_, hmost⟩, ⟨_, htimeout⟩, hlogging, ⟨_, hlevel⟩⟩
  · rintro ⟨⟨host, hhost⟩, ⟨port, hport⟩, ⟨path, hpath⟩, hdatabase, ⟨most, hmost⟩, ⟨timeout, htimeout⟩, hlogging,
      ⟨level, hlevel⟩⟩
    exact ⟨⟨host, port, path, most, timeout, level⟩, hhost, hport, hpath, hdatabase, hmost, htimeout, hlogging, hlevel⟩

/-- **A source gives no settings exactly if it is flawed.** -/
theorem flawed_iff : source.Flawed ↔ ∀ f, ¬ FileSettings.Read source f := by
  constructor
  · intro h f hread
    cases h with
    | directory => cases hread
    | notText h =>
      cases hread with
      | file htext _ _ => exact nomatch h.symm.trans htext
    | notToml htext h =>
      cases hread with
      | file htext' hparse _ =>
        obtain rfl := Option.some.inj (htext.symm.trans htext')
        exact nomatch h.symm.trans hparse
    | misfits htext hparse h =>
      cases hread with
      | file htext' hparse' hf =>
        obtain rfl := Option.some.inj (htext.symm.trans htext')
        obtain rfl := Option.some.inj (hparse.symm.trans hparse')
        exact exists_of_iff.1 ⟨f, hf⟩ h
  · intro h
    cases source with
    | missing => exact absurd .missing (h {})
    | directory => exact .directory
    | file bytes =>
      cases htext : Text.utf8Text? bytes with
      | none => exact .notText htext
      | some s =>
        cases hparse : Toml.parse? s with
        | none => exact .notToml htext hparse
        | some entries =>
          refine .misfits htext hparse (not_not.1 fun hfits => ?_)
          obtain ⟨f, hf⟩ := exists_of_iff.2 hfits
          exact h f (.file htext hparse hf)

/-- **A configuration file cannot be read exactly if it is flawed.** -/
theorem load_eq_error_iff : (∃ e, Settings.load source = .error e) ↔ source.Flawed := by
  rw [flawed_iff]
  cases hload : Settings.load source with
  | error e =>
    refine ⟨fun _ f hread => ?_, fun _ => ⟨e, rfl⟩⟩
    rw [load_eq_ok_iff.2 ⟨f, hread, rfl⟩] at hload
    cases hload
  | ok g =>
    obtain ⟨f, hread, -⟩ := load_eq_ok_iff.1 hload
    exact ⟨fun ⟨_, h⟩ => (nomatch h), fun h => absurd hread (h f)⟩

end Recital
