import Recital.Entity.Json
import Recital.Proofs.Json.Codec

/-!
# The entities are read back

* `optionalInt`, `optionalText`, `optionalDate` : values that may be null, and what is written of them.
* `Composer.faithful`, `Piece.faithful`, and so on: what an entity is written as is read back.
* `Intent.faithful` : an intent on an entity is, whose mark has no member when there is none.
-/

set_option autoImplicit false

namespace Recital

open Json

theorem codec_optionalInt : Codec (optional integer) optionalInt :=
  codec_integer.optional fun _ => Value.noConfusion

theorem codec_optionalText : Codec (optional text) optionalText :=
  codec_text.optional fun _ => Value.noConfusion

theorem codec_optionalDate : Codec (optional instant) optionalDate :=
  codec_instant.optional fun _ => Value.noConfusion

@[simp] theorem optionalInt_inj {a b : Option Int} : optionalInt a = optionalInt b ↔ a = b :=
  codec_optionalInt.injective.eq_iff

@[simp] theorem optionalText_inj {a b : Option String} : optionalText a = optionalText b ↔ a = b :=
  codec_optionalText.injective.eq_iff

@[simp] theorem optionalDate_inj {a b : Option Instant} : optionalDate a = optionalDate b ↔ a = b :=
  codec_optionalDate.injective.eq_iff

/-! ## Names -/

@[simp] theorem Status.name_inj {a b : Status} : a.name = b.name ↔ a = b := by
  cases a <;> cases b <;> decide

@[simp] theorem Biography.Variant.name_inj {a b : Biography.Variant} : a.name = b.name ↔ a = b := by
  cases a <;> cases b <;> decide

@[simp] theorem Operation.tag_inj {a b : Operation} : a.tag = b.tag ↔ a = b := by
  cases a <;> cases b <;> decide

theorem Status.codec : Codec Status.decoder fun s => .string s.name :=
  codec_tagged Status.ofName?_name

theorem Timeframe.codec : Codec Timeframe.decoder fun t => .string t.name :=
  codec_tagged Timeframe.ofName?_name

theorem Biography.Variant.codec : Codec Biography.Variant.decoder fun v => .string v.name :=
  codec_tagged Biography.Variant.ofName?_name

theorem Operation.codec : Codec Operation.decoder fun op => .string op.tag :=
  codec_tagged fun op => congrArg some (ofTag_tag op)

/-! ## Entities -/

theorem Composer.faithful : Composer.record.Faithful where
  names := by decide
  keeps := by
    simp only [record, List.forall_mem_cons]
    exact ⟨.of codec_integer id fun _ => rfl, .of codec_text fullName fun _ => rfl,
      .of codec_text shortName fun _ => rfl, List.forall_mem_nil _⟩
  apart := by
    simp only [record, List.pairwise_cons, List.forall_mem_cons]
    and_intros
    all_goals first | exact Field.spares (fun _ => rfl) fun _ _ => rfl | simp
  ext := by
    rintro ⟨⟩ ⟨⟩ h
    simpa [record, Field.of] using h

theorem Piece.faithful : Piece.record.Faithful where
  names := by decide
  keeps := by
    simp only [record, List.forall_mem_cons]
    exact ⟨.of codec_integer id fun _ => rfl, .of codec_text title fun _ => rfl,
      .of codec_integer composerId fun _ => rfl, List.forall_mem_nil _⟩
  apart := by
    simp only [record, List.pairwise_cons, List.forall_mem_cons]
    and_intros
    all_goals first | exact Field.spares (fun _ => rfl) fun _ _ => rfl | simp
  ext := by
    rintro ⟨⟩ ⟨⟩ h
    simpa [record, Field.of] using h

theorem Programme.faithful : Programme.record.Faithful where
  names := by decide
  keeps := by
    simp only [record, List.forall_mem_cons]
    exact ⟨.of codec_integer id fun _ => rfl, .of codec_text title fun _ => rfl, List.forall_mem_nil _⟩
  apart := by
    simp only [record, List.pairwise_cons, List.forall_mem_cons]
    and_intros
    all_goals first | exact Field.spares (fun _ => rfl) fun _ _ => rfl | simp
  ext := by
    rintro ⟨⟩ ⟨⟩ h
    simpa [record, Field.of] using h

theorem Venue.faithful : Venue.record.Faithful where
  names := by decide
  keeps := by
    simp only [record, List.forall_mem_cons]
    exact ⟨.of codec_integer id fun _ => rfl, .of codec_text name fun _ => rfl,
      .of codec_text fullAddress fun _ => rfl, .of codec_text shortAddress fun _ => rfl, List.forall_mem_nil _⟩
  apart := by
    simp only [record, List.pairwise_cons, List.forall_mem_cons]
    and_intros
    all_goals first | exact Field.spares (fun _ => rfl) fun _ _ => rfl | simp
  ext := by
    rintro ⟨⟩ ⟨⟩ h
    simpa [record, Field.of] using h

theorem EventDetails.faithful : EventDetails.record.Faithful where
  names := by decide
  keeps := by
    simp only [record, List.forall_mem_cons]
    exact ⟨.of codec_text title fun _ => rfl, .of codec_optionalDate date fun _ => rfl,
      .of codec_optionalText ticketLink fun _ => rfl, .of codec_optionalInt venueId fun _ => rfl,
      .of codec_optionalInt programmeId fun _ => rfl, List.forall_mem_nil _⟩
  apart := by
    simp only [record, List.pairwise_cons, List.forall_mem_cons]
    and_intros
    all_goals first | exact Field.spares (fun _ => rfl) fun _ _ => rfl | simp
  ext := by
    rintro ⟨⟩ ⟨⟩ h
    simpa [record, Field.of] using h

theorem Event.faithful : Event.record.Faithful where
  names := by decide
  keeps := by
    simp only [record, List.forall_mem_cons]
    exact ⟨.of codec_integer id (absurd rfl), .of codec_text title (absurd rfl),
      .of codec_optionalDate date fun _ => rfl, .of codec_optionalText ticketLink fun _ => rfl,
      .of codec_optionalInt venueId fun _ => rfl, .of codec_optionalInt programmeId fun _ => rfl,
      .of Status.codec status (absurd rfl), .of codec_optionalText notes fun _ => rfl, List.forall_mem_nil _⟩
  apart := by
    simp only [record, List.pairwise_cons, List.forall_mem_cons]
    and_intros
    all_goals first | exact Field.spares (fun _ => rfl) fun _ _ => rfl | simp
  ext := by
    rintro ⟨⟩ ⟨⟩ h
    simpa [record, Field.of] using h

theorem Biography.faithful : Biography.record.Faithful where
  names := by decide
  keeps := by
    simp only [record, List.forall_mem_cons]
    exact ⟨.of codec_text content (absurd rfl), .of Variant.codec variant (absurd rfl), List.forall_mem_nil _⟩
  apart := by
    simp only [record, List.pairwise_cons, List.forall_mem_cons]
    and_intros
    all_goals first | exact Field.spares (fun _ => rfl) fun _ _ => rfl | simp
  ext := by
    rintro ⟨⟩ ⟨⟩ h
    simpa [record, Field.of] using h

/-! ## Intents -/

/-- A mark is written when there is one. -/
theorem keeps_markField {α : Type} {record : Record (Intent α)} (h : record.blank.tempId = none) :
    record.Keeps markField := by
  have hproper : (markField (α := α)).Proper :=
    Field.proper (fun _ => rfl) codec_optionalText.formed fun _ _ _ => rfl
  have hreturns : ∀ i : Intent α, record.Returns markField i := by
    intro i
    unfold Record.Returns
    simp only [markField, h]
    cases hmark : i.tempId with
    | none => exact ⟨nofun, rfl⟩
    | some s =>
      have hread : optional text (Value.string s).node = .ok (some s) :=
        congrArg (Except.map some) (Quoted.text_written s)
      exact ⟨_, congrArg (Except.map _) hread, by simp only [hmark]⟩
  exact ⟨hproper, fun _ _ => hreturns _, fun _ => hreturns _, fun hnone => ⟨_, rfl, hnone.symm⟩⟩

theorem Intent.faithful {α : Type} {data : Record α} (h : data.Faithful) : (Intent.record data).Faithful where
  names := by simp [record, Field.of, markField]
  keeps := by
    simp only [record, List.forall_mem_cons]
    exact ⟨.of Operation.codec operation (absurd rfl), .of h.codec Intent.data (absurd rfl), keeps_markField rfl,
      List.forall_mem_nil _⟩
  apart := by
    simp only [record, List.pairwise_cons, List.forall_mem_cons]
    and_intros
    all_goals first | exact Field.spares (fun _ => rfl) fun _ _ => rfl | simp
  ext := by
    rintro ⟨⟩ ⟨⟩ h'
    simpa [record, Field.of, markField, h.codec.injective.eq_iff,
      (Option.map_injective codec_text.injective).eq_iff] using h'

end Recital
