import Mathlib.Data.List.Forall2
import Recital.Json.Record

/-!
# Records that are read alike

Two records may differ in what they keep of a value and agree on everything else.  What the one reads is then the
image of what the other reads, whatever the text is.

* `Quoted.ofString` : any text can be written, and is read back.
* `SetsAlike`, `Field.Maps`, `Record.Maps` : results of fields, fields and records that are read alike.
* `Maps.read` : the same trees are read, the same are refused for the same reason, and what is read is the image.
* `optional_map`, `tagged_map` : decoders of the kinds of fields.
-/

set_option autoImplicit false

namespace Recital.Json

variable {α β R S : Type} {image : R → S} {σ : α → β}

/-! ## Texts -/

/-- A text as a string token, without escapes. -/
def Quoted.ofString (s : String) : Quoted :=
  ⟨s.toList.map .char, none⟩

theorem Quoted.text_ofString (s : String) : (Quoted.ofString s).text = .ok s := by
  have hpieces : ∀ chars : List Char, piecesText none (chars.map .char) = .ok chars := by
    intro chars
    induction chars with
    | nil => rfl
    | cons c chars ih => rw [List.map_cons, piecesText, ih, Except.map]
  rw [Quoted.text, Quoted.ofString, hpieces, Except.map, String.ofList_toList]

/-! ## Decoders -/

theorem optional_map {decoder : Decoder α} {decoder' : Decoder β}
    (h : ∀ node, decoder' node = (decoder node).map σ) (node : Node) :
    optional decoder' node = (optional decoder node).map (Option.map σ) := by
  have hsome : ∀ node, (decoder' node).map some = ((decoder node).map some).map (Option.map σ) := by
    intro node
    rw [h]
    cases decoder node <;> rfl
  cases node with
  | null => rfl
  | _ => exact hsome _

theorem named_map (lookup : String → Option α) (q : Quoted) :
    named (fun s => (lookup s).map σ) q = (named lookup q).map σ := by
  unfold named
  cases q.text with
  | error f => rfl
  | ok s =>
    simp only
    cases lookup s <;> rfl

theorem tagged_map (lookup : String → Option α) (node : Node) :
    tagged (fun s => (lookup s).map σ) node = (tagged lookup node).map σ := by
  cases node with
  | string q => exact named_map lookup q
  | object members ending =>
    cases members with
    | nil => cases ending <;> rfl
    | cons member members =>
      obtain ⟨q, value⟩ := member
      simp only [tagged, named_map]
      cases named lookup q with
      | error f => rfl
      | ok a =>
        cases value with
        | null =>
          cases members with
          | nil => cases ending <;> rfl
          | cons member members => rfl
        | _ => rfl
  | _ => rfl

/-! ## Fields and records -/

/-- Both refuse a value for one reason, or both set it, and the image follows. -/
inductive SetsAlike (image : R → S) : Except Failure (R → R) → Except Failure (S → S) → Prop where
  | set {set : R → R} {set' : S → S} (h : ∀ r, set' (image r) = image (set r)) :
      SetsAlike image (.ok set) (.ok set')
  | fault (f : Failure) : SetsAlike image (.error f) (.error f)

theorem SetsAlike.map {decoded : Except Failure α} {decoded' : Except Failure β} {set : α → R → R}
    {set' : β → S → S} (h : decoded' = decoded.map σ)
    (hset : ∀ a r, set' (σ a) (image r) = image (set a r)) :
    SetsAlike image (decoded.map set) (decoded'.map set') := by
  subst h
  cases decoded with
  | error f => exact .fault f
  | ok a => exact .set (hset a)

theorem SetsAlike.same {decoded : Except Failure α} {set : α → R → R} {set' : α → S → S}
    (hset : ∀ a r, set' a (image r) = image (set a r)) :
    SetsAlike image (decoded.map set) (decoded.map set') :=
  .map (Except.map_id ▸ rfl : decoded = decoded.map id) hset

/-- The fields have one name, are missed alike and are read alike. -/
structure Field.Maps (image : R → S) (f : Field R) (g : Field S) : Prop where
  name : g.name = f.name
  presence : g.presence = f.presence
  read : ∀ node, SetsAlike image (f.read node) (g.read node)

theorem Field.Maps.of {name : String} {presence : Presence} {decoder : Decoder α} {decoder' : Decoder β}
    {set : α → R → R} {set' : β → S → S} {get : R → Value} {get' : S → Value}
    (h : ∀ node, decoder' node = (decoder node).map σ)
    (hset : ∀ a r, set' (σ a) (image r) = image (set a r)) :
    Field.Maps image (.of name presence decoder set get) (.of name presence decoder' set' get') :=
  ⟨rfl, rfl, fun node => .map (h node) hset⟩

theorem Field.Maps.same {name : String} {presence : Presence} {decoder : Decoder α} {set : α → R → R}
    {set' : α → S → S} {get : R → Value} {get' : S → Value}
    (hset : ∀ a r, set' a (image r) = image (set a r)) :
    Field.Maps image (.of name presence decoder set get) (.of name presence decoder set' get') :=
  ⟨rfl, rfl, fun _ => .same hset⟩

/-- The records have the same fields in order, which are read alike. -/
structure Record.Maps (image : R → S) (record : Record R) (other : Record S) : Prop where
  blank : other.blank = image record.blank
  fields : List.Forall₂ (Field.Maps image) record.fields other.fields

namespace Record.Maps

variable {record : Record R} {other : Record S}

theorem field? (h : record.Maps image other) (name : String) :
    Option.Rel (Field.Maps image) (record.field? name) (other.field? name) := by
  have hfields := h.fields
  unfold Record.field?
  generalize record.fields = fields at hfields ⊢
  generalize other.fields = fields' at hfields ⊢
  induction hfields with
  | nil => exact .none
  | @cons f g fields fields' hfirst _ ih =>
    rw [List.find?_cons, List.find?_cons, hfirst.name]
    cases decide (f.name = name) with
    | true => exact .some hfirst
    | false => exact ih

theorem isComplete (h : record.Maps image other) (seen : List String) :
    other.isComplete seen = record.isComplete seen := by
  have hfields := h.fields
  unfold Record.isComplete
  generalize record.fields = fields at hfields ⊢
  generalize other.fields = fields' at hfields ⊢
  induction hfields with
  | nil => rfl
  | cons hfirst _ ih => rw [List.all_cons, List.all_cons, ih, hfirst.name, hfirst.presence]

theorem readMembers (h : record.Maps image other) (members : List (Quoted × Node)) (seen : List String)
    (r : R) : other.readMembers seen (image r) members =
      (record.readMembers seen r members).map fun read => (read.1, image read.2) := by
  induction members generalizing seen r with
  | nil => rfl
  | cons member members ih =>
    obtain ⟨q, node⟩ := member
    simp only [Record.readMembers]
    cases q.text with
    | error f => rfl
    | ok name =>
      have hfield := h.field? name
      simp only
      generalize record.field? name = found at hfield ⊢
      generalize other.field? name = found' at hfield ⊢
      cases hfield with
      | none =>
        simp only
        cases node.skip with
        | error f => rfl
        | ok u => exact ih seen r
      | @some f g hmaps =>
        simp only
        split
        · rfl
        have hread := hmaps.read node
        generalize f.read node = read at hread ⊢
        generalize g.read node = read' at hread ⊢
        cases hread with
        | fault e => rfl
        | set hset =>
          simp only [hset]
          exact ih _ _

theorem readItems {ending : Ending} {fields : List (Field R)} {fields' : List (Field S)}
    (h : List.Forall₂ (Field.Maps image) fields fields') (r : R) (nodes : List Node) :
    Record.readItems ending fields' (image r) nodes =
      (Record.readItems ending fields r nodes).map image := by
  induction h generalizing r nodes with
  | nil =>
    cases nodes with
    | nil => cases ending <;> rfl
    | cons node nodes => rfl
  | @cons f g fields fields' hfirst _ ih =>
    cases nodes with
    | nil =>
      simp only [Record.readItems, hfirst.presence]
      cases ending.check with
      | error e => rfl
      | ok u =>
        simp only
        split
        · exact ih r []
        · rfl
    | cons node nodes =>
      have hread := hfirst.read node
      simp only [Record.readItems]
      generalize f.read node = read at hread ⊢
      generalize g.read node = read' at hread ⊢
      cases hread with
      | fault e => rfl
      | set hset =>
        simp only [hset]
        exact ih _ nodes

/-- **What is read of a tree is the image of what the other record reads of it**, and the same trees are refused
for the same reason. -/
theorem read (h : record.Maps image other) (node : Node) :
    other.read node = (record.read node).map image := by
  cases node with
  | object members ending =>
    simp only [Record.read, h.blank]
    rw [h.readMembers]
    cases record.readMembers [] record.blank members with
    | error f => rfl
    | ok read =>
      simp only [Except.map]
      cases ending.check with
      | error f => rfl
      | ok u =>
        simp only [h.isComplete]
        split <;> rfl
  | array nodes ending =>
    simp only [Record.read, h.blank]
    exact readItems h.fields record.blank nodes
  | _ => rfl

end Record.Maps

end Recital.Json
