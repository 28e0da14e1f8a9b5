import Recital.Proofs.Json.Codec

/-!
# How an object is written does not matter

* `WrittenMember`, `WrittenItem` : the text of a member or an item together with its tree.
* `WrittenObject`, `WrittenArray` : a text that starts with an object or an array, split up at its members or items.
* `exists_writtenObject` : a text that starts with a brace and is decoded is split up so.
* `Fits.perm`, `Fits.append`, `Fits.erase`, `Fits.replace` : members in another order, more members, one that is left
  out, and one that is written otherwise.
* `Extent` : whether the whole text has to be the value.
* `Indifferent` : what may be changed in the text of an object without a change of what it is decoded as.
* `Faithful.indifferent` : all of it may be changed for every object that a record is decoded from.
-/

set_option autoImplicit false

namespace Recital.Json

variable {R : Type} {record : Record R} {f : Field R} {r : R}

/-! ## Members -/

namespace Record.Fits

variable {members members' more : List (Quoted × Node)} {m m' : Quoted × Node}

/-- The order of the members does not matter. -/
theorem perm (h : record.Fits members r) (hperm : members'.Perm members) : record.Fits members' r := by
  have hmem : ∀ m, m ∈ members' ↔ m ∈ members := fun _ => hperm.mem_iff
  have hsymm : ∀ {a b : Quoted × Node}, (∀ f ∈ record.fields, f.Names a → ¬ f.Names b) →
      ∀ f ∈ record.fields, f.Names b → ¬ f.Names a := fun h f hf hb ha => h f hf ha hb
  refine ⟨⟨?_, ?_, ?_, ?_, ?_⟩, ?_⟩
  · exact fun m hm => h.named m ((hmem m).1 hm)
  · exact fun m hm => h.formed m ((hmem m).1 hm)
  · exact fun f hf m hm => h.holds f hf m ((hmem m).1 hm)
  · exact (hperm.pairwise_iff hsymm).2 h.once
  · exact fun f hf hnot => h.kept f hf fun m hm => hnot m ((hmem m).2 hm)
  · exact fun f hf hnot => h.complete f hf fun m hm => hnot m ((hmem m).2 hm)

/-- Members of names that the record does not have do not matter. -/
theorem append (h : record.Fits members r)
    (hmore : ∀ m ∈ more, (∃ name, m.1.text = .ok name) ∧ m.2.skip = .ok () ∧ ∀ f ∈ record.fields, ¬ f.Names m) :
    record.Fits (more ++ members) r := by
  refine ⟨⟨?_, ?_, ?_, ?_, ?_⟩, ?_⟩
  · exact List.forall_mem_append.2 ⟨fun m hm => (hmore m hm).1, h.named⟩
  · exact List.forall_mem_append.2 ⟨fun m hm => (hmore m hm).2.1, h.formed⟩
  · exact fun f hf => List.forall_mem_append.2
      ⟨fun m hm hnames => absurd hnames ((hmore m hm).2.2 f hf), h.holds f hf⟩
  · refine List.pairwise_append.2 ⟨List.pairwise_iff_forall_sublist.2 fun {a b} hsub f hf hnames => ?_, h.once,
      fun a ha b _ f hf hnames => ?_⟩
    · exact absurd hnames ((hmore a (hsub.subset (List.mem_cons_self ..))).2.2 f hf)
    · exact absurd hnames ((hmore a ha).2.2 f hf)
  · exact fun f hf hnot => h.kept f hf (List.forall_mem_append.1 hnot).2
  · exact fun f hf hnot => h.complete f hf (List.forall_mem_append.1 hnot).2

/-- A member of the blank value may be left out, if its field may be missing. -/
theorem erase (h : record.Fits (m :: members) r) (hlawful : record.Lawful) (hf : f ∈ record.fields)
    (hnames : f.Names m) (hpresence : f.presence ≠ .required) (hblank : f.Holds m.2 record.blank) :
    record.Fits members r := by
  have hself : ∀ g ∈ record.fields, g.Names m → g = f := fun g hg hnamed =>
    hlawful.eq_of_name hg hf (Except.ok.inj (hnamed.symm.trans hnames))
  have hcons : ∀ g ∈ record.fields, g ≠ f → (∀ m ∈ members, ¬ g.Names m) → ∀ m' ∈ m :: members, ¬ g.Names m' :=
    fun g hg hne hnot => List.forall_mem_cons.2 ⟨fun hnamed => hne (hself g hg hnamed), hnot⟩
  refine ⟨⟨?_, ?_, ?_, ?_, ?_⟩, ?_⟩
  · exact (List.forall_mem_cons.1 h.named).2
  · exact (List.forall_mem_cons.1 h.formed).2
  · exact fun g hg => (List.forall_mem_cons.1 (h.holds g hg)).2
  · exact (List.pairwise_cons.1 h.once).2
  · intro g hg hnot
    by_cases hgf : g = f
    · rw [hgf]
      exact (h.holds f hf m (List.mem_cons_self ..) hnames).eq_write hblank (hlawful.proper f hf)
    · exact h.kept g hg (hcons g hg hgf hnot)
  · intro g hg hnot
    by_cases hgf : g = f
    · rwa [hgf]
    · exact h.complete g hg (hcons g hg hgf hnot)

/-- A member may be written otherwise, if its field reads it alike. -/
theorem replace (h : record.Fits (m :: members) r) (hlawful : record.Lawful) (hf : f ∈ record.fields)
    (hnames : f.Names m) (hnames' : f.Names m') (hread : f.read m'.2 = f.read m.2) :
    record.Fits (m' :: members) r := by
  have hiff : ∀ g ∈ record.fields, g.Names m' ↔ g.Names m := by
    intro g _
    rw [Field.Names, Field.Names, hnames, hnames']
  have hcons : ∀ g ∈ record.fields, (∀ k ∈ m' :: members, ¬ g.Names k) → ∀ k ∈ m :: members, ¬ g.Names k := by
    intro g hg hnot
    obtain ⟨hfirst, hrest⟩ := List.forall_mem_cons.1 hnot
    exact List.forall_mem_cons.2 ⟨fun hnamed => hfirst ((hiff g hg).2 hnamed), hrest⟩
  obtain ⟨set, hset, hwrite⟩ := h.holds f hf m (List.mem_cons_self ..) hnames
  refine ⟨⟨?_, ?_, ?_, ?_, ?_⟩, ?_⟩
  · exact List.forall_mem_cons.2 ⟨⟨_, hnames'⟩, (List.forall_mem_cons.1 h.named).2⟩
  · exact List.forall_mem_cons.2
      ⟨(hlawful.proper f hf).formed (hread.trans hset), (List.forall_mem_cons.1 h.formed).2⟩
  · refine fun g hg => List.forall_mem_cons.2 ⟨fun hnamed => ?_, (List.forall_mem_cons.1 (h.holds g hg)).2⟩
    obtain rfl := hlawful.eq_of_name hg hf (Except.ok.inj (hnamed.symm.trans hnames'))
    exact ⟨set, hread.trans hset, hwrite⟩
  · obtain ⟨hfirst, hrest⟩ := List.pairwise_cons.1 h.once
    exact List.pairwise_cons.2 ⟨fun b hb g hg hnamed => hfirst b hb g hg ((hiff g hg).1 hnamed), hrest⟩
  · exact fun g hg hnot => h.kept g hg (hcons g hg hnot)
  · exact fun g hg hnot => h.complete g hg (hcons g hg hnot)

/-- No two members are of one field. -/
theorem not_twice (h : record.Fits members r) (hf : f ∈ record.fields) (htwice : [m, m'].Sublist members)
    (hnames : f.Names m) : ¬ f.Names m' := by
  have hpair := h.once.sublist htwice
  exact (List.pairwise_cons.1 hpair).1 m' (List.mem_singleton_self m') f hf hnames

end Record.Fits

/-! ## Texts of members and items -/

/-- The text of a member, together with its tree. -/
structure WrittenMember where
  text : List Char
  tree : Quoted × Node
  spelled : Member text tree

/-- The text of an item, together with its tree. -/
structure WrittenItem where
  text : List Char
  tree : Node
  spelled : Padded text tree

/-- A member as it is written in answers. -/
def WrittenMember.of (name : String) (value : Value) : WrittenMember :=
  ⟨memberChars (name, value), _, member_memberChars (spells_chars value)⟩

/-- A text that starts with an object: the blanks before it and behind its brace, its members, and what follows. -/
structure WrittenObject where
  before : List Char
  gap : List Char
  members : List WrittenMember
  after : List Char
  gap_before : Gap before
  gap_gap : Gap gap

namespace WrittenObject

variable (o : WrittenObject)

/-- The whole text. -/
def text : String :=
  String.ofList (o.before ++ (objectText o.gap (o.members.map WrittenMember.text) ++ o.after))

/-- The members as they are read. -/
def trees : List (Quoted × Node) :=
  o.members.map WrittenMember.tree

/-- The same with other members. -/
def holding (members : List WrittenMember) : WrittenObject :=
  { o with members }

theorem parse_text : parse o.text = (.object o.trees .closed, o.after) := by
  have hmembers : List.Forall₂ Member (o.members.map WrittenMember.text) o.trees := by
    rw [trees, List.forall₂_map_left_iff, List.forall₂_map_right_iff, List.forall₂_same]
    exact fun m _ => m.spelled
  exact parse_spells o.gap_before (.object o.gap_gap hmembers) trivial (by rw [text, String.toList_ofList])

end WrittenObject

/-- A text that starts with an array: the blanks before it and behind its bracket, its items, and what follows. -/
structure WrittenArray where
  before : List Char
  gap : List Char
  items : List WrittenItem
  after : List Char
  gap_before : Gap before
  gap_gap : Gap gap

namespace WrittenArray

variable (a : WrittenArray)

/-- The whole text. -/
def text : String :=
  String.ofList (a.before ++ (arrayText a.gap (a.items.map WrittenItem.text) ++ a.after))

/-- The items as they are read. -/
def trees : List Node :=
  a.items.map WrittenItem.tree

theorem parse_text : parse a.text = (.array a.trees .closed, a.after) := by
  have hitems : List.Forall₂ Padded (a.items.map WrittenItem.text) a.trees := by
    rw [trees, List.forall₂_map_left_iff, List.forall₂_map_right_iff, List.forall₂_same]
    exact fun m _ => m.spelled
  exact parse_spells a.gap_before (.array a.gap_gap hitems) trivial (by rw [text, String.toList_ofList])

end WrittenArray

theorem exists_written {texts : List (List Char)} {trees : List (Quoted × Node)}
    (h : List.Forall₂ Member texts trees) :
    ∃ members : List WrittenMember,
      members.map WrittenMember.text = texts ∧ members.map WrittenMember.tree = trees := by
  induction h with
  | nil => exact ⟨[], rfl, rfl⟩
  | cons hfirst _ ih =>
    obtain ⟨members, rfl, rfl⟩ := ih
    exact ⟨⟨_, _, hfirst⟩ :: members, rfl, rfl⟩

/-- **A text that starts with a brace and is well formed is that of an object.** -/
theorem exists_writtenObject {s : String} {node : Node} {rest : List Char} (h : parse s = (node, rest))
    (hskip : node.skip = .ok ()) (hbrace : (skipGap s.toList).head? = some '\x7b') :
    ∃ o : WrittenObject, o.text = s := by
  obtain ⟨before, w, hbefore, hs, hspells⟩ := spells_of_parse h hskip
  obtain ⟨c, left, hw, hgap, -⟩ := hspells.eq_cons
  have hc : c = '\x7b' := by
    rw [hs, skipGap_append hbefore, hw, List.cons_append, skipGap_cons hgap] at hbrace
    exact Option.some.inj hbrace
  subst hc
  cases hspells with
  | scalar hscalar =>
    obtain ⟨c, left', hw', hstarts⟩ := hscalar.eq_cons
    obtain rfl := (List.cons.inj (hw.symm.trans hw')).1
    cases hstarts
  | string hquoted =>
    cases hquoted
    cases hw
  | array => cases hw
  | @object gap texts members hgap hmembers =>
    obtain ⟨members, rfl, rfl⟩ := exists_written hmembers
    exact ⟨⟨before, gap, members, rest, hbefore, hgap⟩, by
      rw [WrittenObject.text, ← hs, String.ofList_toList]⟩

/-! ## Whole texts and their starts -/

/-- How much of a text has to be the value. -/
inductive Extent where
  /-- Its start: what follows the value does not matter. -/
  | start
  /-- All of it, but for blanks. -/
  | whole
  deriving DecidableEq, Repr, Inhabited

namespace Extent

/-- Decodes a text. -/
def decode (extent : Extent) {α : Type} (decoder : Decoder α) (s : String) : Except Failure α :=
  match extent with
  | start => Json.decode decoder s
  | whole => decodeWhole decoder s

/-- What may follow a value. -/
def Allows (extent : Extent) (rest : List Char) : Prop :=
  match extent with
  | start => True
  | whole => Gap rest

theorem decode_eq_ok_iff (extent : Extent) {α : Type} {decoder : Decoder α} {s : String} {a : α} {node : Node}
    {rest : List Char} (h : parse s = (node, rest)) :
    extent.decode decoder s = .ok a ↔ decoder node = .ok a ∧ extent.Allows rest := by
  cases extent with
  | start => simp only [decode, Json.decode, h, Allows, and_true]
  | whole =>
    simp only [decode, decodeWhole, h, Allows, Gap]
    cases decoder node with
    | error e => simp
    | ok b =>
      simp only
      split <;> simp [*]

end Extent

/-! ## What does not matter -/

/-- A member of a name that the record does not have. -/
def Record.Ignores (record : Record R) (m : WrittenMember) : Prop :=
  (∃ name, m.tree.1.text = .ok name) ∧ ∀ f ∈ record.fields, ¬ f.Names m.tree

/-- What may be changed in the text of an object without a change of what it is decoded as, and what may not. -/
structure Record.Indifferent (record : Record R) (extent : Extent) (o : WrittenObject) (r : R) : Prop where
  /-- Each member of a field is the value of the field. -/
  valued : ∀ m ∈ o.members, ∀ f ∈ record.fields, f.Names m.tree → f.Holds m.tree.2 r
  /-- No two members are of one field. -/
  single : o.members.Pairwise fun m m' => ∀ f ∈ record.fields, f.Names m.tree → ¬ f.Names m'.tree
  /-- The members may stand in any order. -/
  permuted : ∀ members : List WrittenMember, members.Perm o.members →
    extent.decode record.read (o.holding members).text = .ok r
  /-- Members of other names may be added anywhere, whatever their values are. -/
  extended : ∀ more members : List WrittenMember, (∀ m ∈ more, record.Ignores m) → members.Perm (more ++ o.members) →
    extent.decode record.read (o.holding members).text = .ok r
  /-- A member whose value is blank may be left out, if its field may be missing. -/
  trimmed : ∀ f ∈ record.fields, f.presence ≠ .required → ∀ (m : WrittenMember) (members : List WrittenMember),
    o.members.Perm (m :: members) → f.Names m.tree → f.Holds m.tree.2 record.blank →
    extent.decode record.read (o.holding members).text = .ok r
  /-- A member may be written otherwise, as long as its field reads its value alike.  So may a record within it. -/
  rewritten : ∀ f ∈ record.fields, ∀ (m m' : WrittenMember) (members members' : List WrittenMember),
    o.members.Perm (m :: members) → members'.Perm (m' :: members) → f.Names m.tree → f.Names m'.tree →
    f.read m'.tree.2 = f.read m.tree.2 → extent.decode record.read (o.holding members').text = .ok r
  /-- A second member of a field is refused, wherever it stands and whatever its value is. -/
  doubled : ∀ f ∈ record.fields, ∀ m ∈ o.members, f.Names m.tree → ∀ m' : WrittenMember, f.Names m'.tree →
    ∀ members : List WrittenMember, members.Perm (m' :: o.members) →
    ∀ s, extent.decode record.read (o.holding members).text ≠ .ok s
  /-- The values of the fields in order may stand in an array. -/
  positional : ∀ a : WrittenArray, extent.Allows a.after →
    List.Forall₂ (fun f item => f.Holds item.tree r) record.fields a.items →
    extent.decode record.read a.text = .ok r
  /-- So may what is written of them. -/
  enlisted : extent.decode record.read (Value.array (record.row r)).render = .ok r

namespace Record

variable {extent : Extent} {o : WrittenObject}

/-- **An object is decoded as the record that its members fit**, and as no other. -/
theorem Lawful.decode_object_iff (h : record.Lawful) : extent.decode record.read o.text = .ok r ↔
    record.Fits o.trees r ∧ extent.Allows o.after := by
  rw [extent.decode_eq_ok_iff o.parse_text, h.read_object_iff, and_iff_right rfl]

theorem Lawful.decode_array (h : record.Lawful) {a : WrittenArray} (hallows : extent.Allows a.after)
    (hholds : List.Forall₂ (fun f item => f.Holds item.tree r) record.fields a.items) :
    extent.decode record.read a.text = .ok r := by
  refine (extent.decode_eq_ok_iff a.parse_text).2 ⟨h.read_array ?_, hallows⟩
  rwa [WrittenArray.trees, List.forall₂_map_right_iff]

/-- What an object is decoded as does not depend on how it is written. -/
theorem Faithful.indifferent (h : record.Faithful) (hdecode : extent.decode record.read o.text = .ok r) :
    record.Indifferent extent o r := by
  obtain ⟨hfits, hallows⟩ := h.lawful.decode_object_iff.1 hdecode
  have hdecodes : ∀ {members}, record.Fits (members.map WrittenMember.tree) r →
      extent.decode record.read (o.holding members).text = .ok r :=
    fun h' => h.lawful.decode_object_iff.2 ⟨h', hallows⟩
  have hmove : ∀ {m members}, o.members.Perm (m :: members) →
      record.Fits (m.tree :: members.map WrittenMember.tree) r :=
    fun hperm => hfits.perm (hperm.map WrittenMember.tree).symm
  constructor
  case valued => exact fun m hm f hf hnames => hfits.holds f hf _ (List.mem_map_of_mem hm) hnames
  case single => exact List.pairwise_map.1 hfits.once
  case permuted => exact fun members hperm => hdecodes (hfits.perm (hperm.map _))
  case extended =>
    intro more members hmore hperm
    have happend : record.Fits (more.map WrittenMember.tree ++ o.trees) r := by
      refine hfits.append (List.forall_mem_map.2 fun m hm => ⟨(hmore m hm).1, ?_, (hmore m hm).2⟩)
      obtain ⟨text, ⟨q, node⟩, hspelled⟩ := m
      obtain @⟨_, _, _, _, _, _, _, _, _, hvalue⟩ := hspelled
      obtain @⟨_, _, _, _, _, hspells, _⟩ := hvalue
      exact skip_of_spells node hspells
    refine hdecodes (happend.perm ?_)
    rw [WrittenObject.trees, ← List.map_append]
    exact hperm.map _
  case trimmed =>
    intro f hf hpresence m members hperm hnames hblank
    exact hdecodes ((hmove hperm).erase h.lawful hf hnames hpresence hblank)
  case rewritten =>
    intro f hf m m' members members' hperm hperm' hnames hnames' hread
    exact hdecodes (((hmove hperm).replace h.lawful hf hnames hnames' hread).perm (hperm'.map _))
  case doubled =>
    intro f hf m hm hnames m' hnames' members hperm s hdecode'
    obtain ⟨hfits', -⟩ := h.lawful.decode_object_iff.1 hdecode'
    have hfits'' := hfits'.perm (hperm.map WrittenMember.tree).symm
    have hsub : [m'.tree, m.tree].Sublist (m'.tree :: o.trees) :=
      (List.singleton_sublist.2 (List.mem_map_of_mem hm)).cons_cons _
    exact hfits''.not_twice hf hsub hnames' hnames
  case positional => exact fun a hafter hholds => h.lawful.decode_array hafter hholds
  case enlisted =>
    have hread : record.read (.object o.trees .closed) = .ok r := h.lawful.read_object_iff.2 ⟨rfl, hfits⟩
    refine (extent.decode_eq_ok_iff (parse_render _)).2 ⟨h.lawful.read_array (h.holds_row hread), ?_⟩
    cases extent with
    | start => trivial
    | whole => exact gap_nil

/-- **A text that starts with a brace and is decoded is that of an object.** -/
theorem Lawful.exists_object (h : record.Lawful) {s : String} (hdecode : extent.decode record.read s = .ok r)
    (hbrace : (skipGap s.toList).head? = some '\x7b') : ∃ o : WrittenObject, o.text = s := by
  obtain ⟨hread, -⟩ := (extent.decode_eq_ok_iff (show parse s = ((parse s).1, (parse s).2) from rfl)).1 hdecode
  exact exists_writtenObject rfl (h.formed _ _ hread) hbrace

end Record

end Recital.Json
