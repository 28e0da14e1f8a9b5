import Recital.Proofs.Instant.Written
import Recital.Proofs.Json.Lawful
import Recital.Proofs.Json.Rendering

/-!
# What is written is read back

* `Codec` : a decoder and an encoder.  What is decoded and then encoded is decoded as the same value, and no two values
  are encoded alike.
* `codec_integer`, `codec_text`, `codec_instant`, `Codec.optional`, `codec_tagged` : the kinds of fields.
* `Record.Returns` : what a field writes is its value.  `Record.Faithful` : all fields of the record do so.
* `Faithful.codec` : such a record is read back.
-/

set_option autoImplicit false

namespace Recital.Json

variable {α R : Type}

/-- What is decoded is written so that it is decoded as the same value, and no two values are written alike. -/
structure Codec (decoder : Decoder α) (encode : α → Value) : Prop where
  formed : Formed decoder
  undone : ∀ {node a}, decoder node = .ok a → decoder (encode a).node = .ok a
  injective : Function.Injective encode

/-! ## Kinds of fields -/

theorem inInt64_of_integer {node : Node} {i : Int} (h : integer node = .ok i) : Text.inInt64 i = true := by
  unfold integer at h
  split at h
  · split at h
    · split at h
      · rename_i hin
        rwa [Except.ok.inj h] at hin
      · cases h
    · cases h
  · cases h

theorem codec_integer : Codec integer Value.int where
  formed := formed_integer
  undone h := by simp only [Value.node, integer, integer?_ofInt, inInt64_of_integer h, if_true]
  injective _ _ h := Value.int.inj h

theorem codec_text : Codec text Value.string where
  formed := formed_text
  undone _ := by simp only [Value.node, text, Quoted.text_written]
  injective _ _ h := Value.string.inj h

theorem codec_instant : Codec instant fun i => .string i.canonical where
  formed := formed_instant
  undone _ := by simp only [Value.node, instant, text, Quoted.text_written, Instant.read?_canonical]
  injective _ _ h := Instant.canonical_injective (Value.string.inj h)

theorem Value.node_ne_null {v : Value} (h : v ≠ .null) : v.node ≠ .null := by
  cases v with
  | null => exact absurd rfl h
  | _ => nofun

theorem optional_of_ne {decoder : Decoder α} {node : Node} (h : node ≠ .null) :
    optional decoder node = (decoder node).map some := by
  unfold Json.optional
  split
  · exact absurd rfl h
  · rfl

theorem Codec.optional {decoder : Decoder α} {encode : α → Value} (hc : Codec decoder encode)
    (hnull : ∀ a, encode a ≠ .null) : Codec (optional decoder) (Value.ofOption encode) where
  formed := hc.formed.optional
  undone {node a} h := by
    cases a with
    | none => rfl
    | some a =>
      have hdecoder : decoder node = .ok a := by
        unfold Json.optional at h
        split at h
        · cases h
        · obtain ⟨b, hb, heq⟩ := map_eq_ok_iff.1 h
          rwa [Option.some.inj heq] at hb
      rw [Value.ofOption, optional_of_ne (Value.node_ne_null (hnull a)), hc.undone hdecoder, Except.map]
  injective a b h := by
    cases a with
    | none =>
      cases b with
      | none => rfl
      | some b => exact absurd h.symm (hnull b)
    | some a =>
      cases b with
      | none => exact absurd h (hnull a)
      | some b => exact congrArg some (hc.injective h)

theorem codec_tagged {lookup : String → Option α} {name : α → String} (h : ∀ a, lookup (name a) = some a) :
    Codec (tagged lookup) fun a => .string (name a) where
  formed := formed_tagged lookup
  undone _ := by simp only [Value.node, tagged, named, Quoted.text_written, h]
  injective a b heq := by
    have hname := h a
    rw [Value.string.inj heq, h] at hname
    exact (Option.some.inj hname).symm

/-! ## Records -/

variable {record : Record R} {f g : Field R} {r s : R} {name : String} {presence : Presence} {v : Value}

/-- What the field writes is its value.  If it writes nothing, it may be left out and is blank. -/
def Record.Returns (record : Record R) (f : Field R) (r : R) : Prop :=
  match f.write r with
  | some v => f.Holds v.node r
  | none => f.presence ≠ .required ∧ f.write record.blank = none

/-- What a field has read and what is blank is written back. -/
structure Record.Keeps (record : Record R) (f : Field R) : Prop where
  proper : f.Proper
  read : ∀ {node set}, f.read node = .ok set → ∀ r, record.Returns f (set r)
  blank : f.presence ≠ .required → record.Returns f record.blank
  absent : ∀ {r}, f.write r = none → f.Holds .null r

/-- A record whose fields are written back. -/
structure Record.Faithful (record : Record R) : Prop where
  names : (record.fields.map Field.name).Nodup
  keeps : ∀ f ∈ record.fields, record.Keeps f
  apart : record.fields.Pairwise fun f g => f.Spares g ∧ g.Spares f
  ext : ∀ r s, (∀ f ∈ record.fields, f.write r = f.write s) → r = s

theorem Record.Returns.congr (h : record.Returns f r) (hf : f.Proper) (heq : f.write r = f.write s) :
    record.Returns f s := by
  unfold Record.Returns at h ⊢
  rw [← heq]
  split
  · rename_i v hv
    simp only [hv] at h
    obtain ⟨set, hset, hwrite⟩ := h
    exact ⟨set, hset, by rw [hf.settled hset s r, hwrite, heq]⟩
  · rename_i hnone
    simpa only [hnone] using h

/-- A field that is always written, and whose value is a part of the record that is got and set. -/
theorem Record.Keeps.of {decoder : Decoder α} {encode : α → Value} {set : α → R → R} {write : R → Value}
    (hc : Codec decoder encode) (get : R → α)
    (hblank : presence ≠ .required → decoder (encode (get record.blank)).node = .ok (get record.blank))
    (hget : ∀ a r, get (set a r) = a := by intros; rfl)
    (hwrite : ∀ r, write r = encode (get r) := by intros; rfl) :
    record.Keeps (.of name presence decoder set write) := by
  have hproper : (Field.of name presence decoder set write).Proper :=
    Field.proper (fun _ => rfl) hc.formed fun a r s => by simp only [Field.of, hwrite, hget]
  have hreturns : ∀ r, decoder (encode (get r)).node = .ok (get r) →
      record.Returns (.of name presence decoder set write) r := by
    intro r h
    simp only [Returns, Field.of, hwrite]
    exact ⟨set (get r), by simp only [h, Except.map], by simp only [hget]⟩
  refine ⟨hproper, fun {node set'} hread r => ?_, fun h => hreturns _ (hblank h), nofun⟩
  obtain ⟨a, ha, rfl⟩ := map_eq_ok_iff.1 hread
  exact hreturns _ (by rw [hget, hc.undone ha])

namespace Record.Faithful

theorem lawful (h : record.Faithful) : record.Lawful :=
  ⟨h.names, fun f hf => (h.keeps f hf).proper, h.apart, h.ext⟩

/-- What is read of any tree is written back. -/
theorem returns_of_read {node : Node} (h : record.Faithful) (hread : record.read node = .ok r) :
    ∀ f ∈ record.fields, record.Returns f r := by
  intro f hf
  have hkeeps := h.keeps f hf
  rcases h.lawful.gives_of_read hread f hf with ⟨node, set, hset, hwrite⟩ | ⟨hpresence, hwrite⟩
  · exact (hkeeps.read hset r).congr hkeeps.proper hwrite
  · exact (hkeeps.blank hpresence).congr hkeeps.proper hwrite.symm

end Record.Faithful

/-- The members that a record is written with. -/
def Record.written (record : Record R) (r : R) : List (String × Value) :=
  record.fields.filterMap fun f => (f.write r).map fun v => (f.name, v)

theorem Record.mem_written {member : String × Value} : member ∈ record.written r ↔
    ∃ f ∈ record.fields, f.name = member.1 ∧ f.write r = some member.2 := by
  simp [Record.written, List.mem_filterMap, Prod.ext_iff, Option.map_eq_some_iff, and_comm]

theorem memberNodes_eq_map (members : List (String × Value)) :
    memberNodes members = members.map fun member => (.written member.1, member.2.node) := by
  induction members with
  | nil => rfl
  | cons member members ih => rw [memberNodes, ih, List.map_cons]

theorem names_written {member : String × Value} :
    f.Names (.written member.1, member.2.node) ↔ member.1 = f.name := by
  rw [Field.Names, Quoted.text_written, Except.ok.injEq]

namespace Record.Lawful

theorem write_eq_some_iff (h : record.Lawful) (hf : f ∈ record.fields) :
    f.write r = some v ↔ (f.name, v) ∈ record.written r := by
  rw [Record.mem_written]
  constructor
  · exact fun hwrite => ⟨f, hf, rfl, hwrite⟩
  · rintro ⟨g, hg, hname, hwrite⟩
    rwa [← h.eq_of_name hg hf hname]

theorem write_injective (h : record.Lawful) : Function.Injective record.write := by
  intro r s heq
  have hmembers : record.written r = record.written s := Value.object.inj heq
  refine h.ext r s fun f hf => Option.ext fun v => ?_
  exact (h.write_eq_some_iff hf).trans (hmembers ▸ (h.write_eq_some_iff hf).symm)

end Record.Lawful

namespace Record.Faithful

/-- The members that are written fit the record. -/
theorem fits_written (h : record.Faithful) (hreturns : ∀ f ∈ record.fields, record.Returns f r) :
    record.Fits (memberNodes (record.written r)) r := by
  have hmissing : ∀ f ∈ record.fields, (∀ m ∈ memberNodes (record.written r), ¬ f.Names m) →
      f.write r = none := by
    intro f hf hnot
    refine Option.eq_none_iff_forall_ne_some.2 fun v hv => ?_
    rw [memberNodes_eq_map, List.forall_mem_map] at hnot
    exact hnot (f.name, v) ((h.lawful.write_eq_some_iff hf).1 hv) (names_written.2 rfl)
  have hblank : ∀ f ∈ record.fields, f.write r = none →
      f.presence ≠ .required ∧ f.write record.blank = none := by
    intro f hf hnone
    have hreturn := hreturns f hf
    simpa only [Returns, hnone] using hreturn
  refine ⟨⟨?_, ?_, ?_, ?_, ?_⟩, ?_⟩
  · rw [memberNodes_eq_map, List.forall_mem_map]
    exact fun member _ => ⟨_, Quoted.text_written member.1⟩
  · rw [memberNodes_eq_map, List.forall_mem_map]
    exact fun member _ => skip_of_spells _ (spells_chars member.2)
  · intro f hf
    rw [memberNodes_eq_map, List.forall_mem_map]
    intro member hmember hnames
    obtain ⟨g, hg, hname, hwrite⟩ := Record.mem_written.1 hmember
    obtain rfl := h.lawful.eq_of_name hg hf (hname.trans (names_written.1 hnames))
    have hreturn := hreturns g hg
    simpa only [Returns, hwrite] using hreturn
  · have hnames : record.fields.Pairwise fun f g => f.name ≠ g.name := List.pairwise_map.1 h.names
    rw [memberNodes_eq_map, List.pairwise_map, Record.written, List.pairwise_filterMap]
    refine hnames.imp fun {f g} hne member hmember member' hmember' k _ hk hk' => hne ?_
    obtain ⟨_, -, rfl⟩ := Option.map_eq_some_iff.1 hmember
    obtain ⟨_, -, rfl⟩ := Option.map_eq_some_iff.1 hmember'
    exact (names_written.1 hk).trans (names_written.1 hk').symm
  · intro f hf hnot
    have hnone := hmissing f hf hnot
    rw [hnone, (hblank f hf hnone).2]
  · exact fun f hf hnot => (hblank f hf (hmissing f hf hnot)).1

/-- **A record is read back**, and no two records are written alike. -/
theorem codec (h : record.Faithful) : Codec record.read record.write where
  formed := h.lawful.formed
  undone hread := h.lawful.read_object_iff.2 ⟨rfl, h.fits_written (h.returns_of_read hread)⟩
  injective := h.lawful.write_injective

end Record.Faithful

/-- The values of the fields in order.  A field that writes nothing has null. -/
def Record.row (record : Record R) (r : R) : List Value :=
  record.fields.map fun f => (f.write r).getD .null

theorem itemNodes_eq_map (items : List Value) : itemNodes items = items.map Value.node := by
  induction items with
  | nil => rfl
  | cons item items ih => rw [itemNodes, ih, List.map_cons]

/-- What a record that has been read is written as, value by value, are the values of its fields. -/
theorem Record.Faithful.holds_row {node : Node} (h : record.Faithful) (hread : record.read node = .ok r) :
    List.Forall₂ (fun f node => f.Holds node r) record.fields (itemNodes (record.row r)) := by
  rw [itemNodes_eq_map, row, List.map_map, List.forall₂_map_right_iff, List.forall₂_same]
  intro f hf
  have hreturn := h.returns_of_read hread f hf
  unfold Returns at hreturn
  rw [Function.comp_apply]
  split at hreturn
  · rename_i v hv
    rwa [hv]
  · rename_i hnone
    rw [hnone]
    exact (h.keeps f hf).absent hnone

/-! ## Texts -/

variable {decoder : Decoder α} {encode : α → Value} {a : α} {w : String}

/-- **What a text is decoded as is written so that the whole text is decoded as the same value.** -/
theorem Codec.decodeWhole_render (hc : Codec decoder encode) (h : decode decoder w = .ok a) :
    decodeWhole decoder (encode a).render = .ok a := by
  simp only [decodeWhole, parse_render, hc.undone h, List.all_nil, if_true]

end Recital.Json
