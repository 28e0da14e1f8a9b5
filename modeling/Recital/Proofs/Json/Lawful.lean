import Mathlib.Data.List.Nodup
import Mathlib.Data.List.Pairwise
import Recital.Json.Record
import Recital.Proofs.Json.Parsing
import Recital.Proofs.Outcome

/-!
# Records are what their fields are

* `Field.Holds` : a tree is the value of a field.
* `Record.Lawful` : the fields of a record are apart from each other, and together they are the record.
* `Record.Fits` : the members of an object are those of a record, in any order and among others.
* `Record.Reads` : the same while they are read one after the other.
* `Lawful.read_object_iff` : an object is read as the record that its members fit, and no other.
* `Lawful.read_array` : an array of the values of the fields in order is read as the record.
-/

set_option autoImplicit false

namespace Recital.Json

variable {α R : Type}

/-! ## Decoders of values that are walked over -/

/-- What is decoded is well formed. -/
def Formed (decoder : Decoder α) : Prop :=
  ∀ node a, decoder node = .ok a → node.skip = .ok ()

theorem fault_of_piecesText {fault : Option Failure} {pieces : List Piece} {cs : List Char}
    (h : piecesText fault pieces = .ok cs) : fault = none := by
  fun_induction piecesText fault pieces generalizing cs with
  | case1 hfault => exact hfault
  | case2 => cases h
  | case3 c rest ih =>
    obtain ⟨_, hrest, -⟩ := map_eq_ok_iff.1 h
    exact ih hrest
  | case4 => cases h
  | case5 u _ _ v rest _ ih =>
    obtain ⟨_, hrest, -⟩ := map_eq_ok_iff.1 h
    exact ih hrest
  | case6 => cases h
  | case7 => cases h
  | case8 => cases h
  | case9 u rest _ _ ih =>
    obtain ⟨_, hrest, -⟩ := map_eq_ok_iff.1 h
    exact ih hrest

/-- A string that is a text is walked over. -/
theorem skip_of_text {q : Quoted} {s : String} (h : q.text = .ok s) : q.skip = .ok () := by
  obtain ⟨_, hpieces, -⟩ := map_eq_ok_iff.1 h
  rw [Quoted.skip, fault_of_piecesText hpieces]

theorem check_eq_ok {ending : Ending} (h : ending.check = .ok ()) : ending = .closed := by
  cases ending with
  | closed => rfl
  | _ => cases h

theorem formed_integer : Formed integer := by
  intro node a h
  unfold integer at h
  split at h
  · rfl
  · cases h

theorem formed_text : Formed text := by
  intro node a h
  unfold text at h
  split at h
  · exact skip_of_text h
  · cases h

theorem formed_instant : Formed instant := by
  intro node a h
  unfold instant at h
  split at h
  · cases h
  · exact formed_text _ _ ‹_›

theorem Formed.optional {decoder : Decoder α} (hd : Formed decoder) : Formed (optional decoder) := by
  intro node a h
  unfold Json.optional at h
  split at h
  · rfl
  · obtain ⟨b, hb, -⟩ := map_eq_ok_iff.1 h
    exact hd _ b hb

theorem text_of_named {lookup : String → Option α} {q : Quoted} {a : α} (h : named lookup q = .ok a) :
    ∃ s, q.text = .ok s ∧ lookup s = some a := by
  unfold named at h
  split at h
  · cases h
  · rename_i s hs
    split at h
    · rename_i b hb
      exact ⟨s, hs, by rw [hb, Except.ok.inj h]⟩
    · cases h

theorem formed_tagged (lookup : String → Option α) : Formed (tagged lookup) := by
  intro node a h
  unfold tagged at h
  split at h
  · obtain ⟨s, hs, -⟩ := text_of_named h
    exact skip_of_text hs
  · cases h
  · cases h
  · cases h
  · split at h
    · cases h
    · rename_i q value members ending b hname
      obtain ⟨s, hs, -⟩ := text_of_named hname
      split at h
      · split at h
        · -- one member, whose name is read and whose value is null
          simp only [Node.skip, skipMembers, skip_of_text hs, Ending.check]
        · cases h
        · cases h
      · cases h
  · cases h
  · cases h

/-! ## Fields -/

variable {record : Record R} {f g : Field R} {node : Node} {r s : R} {set : R → R}
  {members : List (Quoted × Node)}

/-- The tree is the value of the field. -/
def Field.Holds (f : Field R) (node : Node) (r : R) : Prop :=
  ∃ set, f.read node = .ok set ∧ f.write (set r) = f.write r

/-- What is set does not depend on what it is set in, and a tree that is read is well formed. -/
structure Field.Proper (f : Field R) : Prop where
  settled : ∀ {node set}, f.read node = .ok set → ∀ r s, f.write (set r) = f.write (set s)
  formed : ∀ {node set}, f.read node = .ok set → node.skip = .ok ()

/-- The first field leaves the second as it is. -/
def Field.Spares (f g : Field R) : Prop :=
  ∀ node set, f.read node = .ok set → ∀ r, g.write (set r) = g.write r

theorem Field.proper {decoder : Decoder α} {set : α → R → R} (hread : ∀ node, f.read node = (decoder node).map set)
    (hd : Formed decoder) (hset : ∀ a r s, f.write (set a r) = f.write (set a s)) : f.Proper where
  settled h r s := by
    rw [hread] at h
    obtain ⟨a, -, rfl⟩ := map_eq_ok_iff.1 h
    exact hset a r s
  formed h := by
    rw [hread] at h
    obtain ⟨a, ha, -⟩ := map_eq_ok_iff.1 h
    exact hd _ a ha

theorem Field.spares {decoder : Decoder α} {set : α → R → R} (hread : ∀ node, f.read node = (decoder node).map set)
    (hset : ∀ a r, g.write (set a r) = g.write r) : f.Spares g := by
  intro node set' h r
  rw [hread] at h
  obtain ⟨a, -, rfl⟩ := map_eq_ok_iff.1 h
  exact hset a r

/-- The fields of a record are apart from each other, and together they are the record. -/
structure Record.Lawful (record : Record R) : Prop where
  names : (record.fields.map Field.name).Nodup
  proper : ∀ f ∈ record.fields, f.Proper
  apart : record.fields.Pairwise fun f g => f.Spares g ∧ g.Spares f
  ext : ∀ r s, (∀ f ∈ record.fields, f.write r = f.write s) → r = s

theorem Record.field?_eq_some {name : String} (h : record.field? name = some f) :
    f ∈ record.fields ∧ f.name = name :=
  ⟨List.mem_of_find?_eq_some h, by simpa using List.find?_some h⟩

theorem Record.field?_eq_none {name : String} (h : record.field? name = none) : ∀ f ∈ record.fields, f.name ≠ name := by
  simpa using List.find?_eq_none.1 h

namespace Record.Lawful

theorem spares (h : record.Lawful) (hf : f ∈ record.fields) (hg : g ∈ record.fields) (hne : f.name ≠ g.name) :
    f.Spares g := by
  have hsymm : Std.Symm fun f g : Field R => f.Spares g ∧ g.Spares f := ⟨fun _ _ h => ⟨h.2, h.1⟩⟩
  exact (h.apart.forall hf hg fun heq => hne (congrArg Field.name heq)).1

theorem eq_of_name (h : record.Lawful) (hf : f ∈ record.fields) (hg : g ∈ record.fields)
    (hname : f.name = g.name) : f = g :=
  List.inj_on_of_nodup_map h.names hf hg hname

/-- What each field writes tells what is set. -/
theorem write_set (h : record.Lawful) (hf : f ∈ record.fields) (hg : g ∈ record.fields)
    (hread : f.read node = .ok set) (hne : g ≠ f) (r : R) : g.write (set r) = g.write r :=
  h.spares hf hg (fun hname => hne (h.eq_of_name hg hf hname.symm)) _ _ hread r

end Record.Lawful

/-! ## Objects -/

/-- A member is one of the field. -/
def Field.Names (f : Field R) (member : Quoted × Node) : Prop :=
  member.1.text = .ok f.name

/-- The members are those of a record that is started from `s`, in any order and among others. -/
structure Record.FitsFrom (record : Record R) (s : R) (members : List (Quoted × Node)) (r : R) : Prop where
  named : ∀ m ∈ members, ∃ name, m.1.text = .ok name
  formed : ∀ m ∈ members, m.2.skip = .ok ()
  holds : ∀ f ∈ record.fields, ∀ m ∈ members, f.Names m → f.Holds m.2 r
  once : members.Pairwise fun a b => ∀ f ∈ record.fields, f.Names a → ¬ f.Names b
  kept : ∀ f ∈ record.fields, (∀ m ∈ members, ¬ f.Names m) → f.write r = f.write s

/-- From the members, after the fields `seen`, the record `s` becomes `r`, and then the fields `seen'` have been
read. -/
structure Record.Reads (record : Record R) (seen : List String) (s : R) (members : List (Quoted × Node))
    (seen' : List String) (r : R) : Prop where
  fits : record.FitsFrom s members r
  fresh : ∀ f ∈ record.fields, f.name ∈ seen → ∀ m ∈ members, ¬ f.Names m
  seen_iff : ∀ f ∈ record.fields, f.name ∈ seen' ↔ f.name ∈ seen ∨ ∃ m ∈ members, f.Names m

namespace Record.Lawful

variable {seen seen' : List String} {name : String} {q : Quoted}

/-- A member of no field comes before the others. -/
theorem reads_skip (hname : q.text = .ok name) (hunknown : record.field? name = none) (hskip : node.skip = .ok ())
    (hrest : record.Reads seen s members seen' r) : record.Reads seen s ((q, node) :: members) seen' r := by
  obtain ⟨hfits, hfresh, hseen⟩ := hrest
  have hother : ∀ f ∈ record.fields, ¬ f.Names (q, node) := fun f hf hnamed =>
    Record.field?_eq_none hunknown f hf (Except.ok.inj (hnamed.symm.trans hname))
  refine ⟨⟨?_, ?_, ?_, ?_, ?_⟩, ?_, ?_⟩
  · exact List.forall_mem_cons.2 ⟨⟨name, hname⟩, hfits.named⟩
  · exact List.forall_mem_cons.2 ⟨hskip, hfits.formed⟩
  · exact fun f hf => List.forall_mem_cons.2 ⟨fun hnamed => absurd hnamed (hother f hf), hfits.holds f hf⟩
  · exact .cons (fun _ _ f hf hnamed => absurd hnamed (hother f hf)) hfits.once
  · exact fun f hf hmissing => hfits.kept f hf (List.forall_mem_cons.1 hmissing).2
  · exact fun f hf hmem => List.forall_mem_cons.2 ⟨hother f hf, hfresh f hf hmem⟩
  · intro f hf
    simp only [hseen f hf, List.exists_mem_cons_iff, hother f hf, false_or]

/-- A member of a field that has not been read comes before the others. -/
theorem reads_set (h : record.Lawful) (hf : f ∈ record.fields) (hname : f.Names (q, node)) (hunseen : f.name ∉ seen)
    (hset : f.read node = .ok set) (hrest : record.Reads (f.name :: seen) (set s) members seen' r) :
    record.Reads seen s ((q, node) :: members) seen' r := by
  obtain ⟨hfits, hfresh, hseen⟩ := hrest
  have hlast : ∀ m ∈ members, ¬ f.Names m := hfresh f hf (List.mem_cons_self ..)
  have hholds : f.Holds node r := by
    refine ⟨set, hset, ?_⟩
    rw [hfits.kept f hf hlast]
    exact (h.proper f hf).settled hset _ _
  have hself : ∀ g ∈ record.fields, g.Names (q, node) → g = f := fun g hg hnamed =>
    h.eq_of_name hg hf (Except.ok.inj (hnamed.symm.trans hname))
  refine ⟨⟨?_, ?_, ?_, ?_, ?_⟩, ?_, ?_⟩
  · exact List.forall_mem_cons.2 ⟨⟨_, hname⟩, hfits.named⟩
  · exact List.forall_mem_cons.2 ⟨(h.proper f hf).formed hset, hfits.formed⟩
  · refine fun g hg => List.forall_mem_cons.2 ⟨fun hnamed => ?_, hfits.holds g hg⟩
    obtain rfl := hself g hg hnamed
    exact hholds
  · refine .cons (fun m hm g hg hnamed => ?_) hfits.once
    obtain rfl := hself g hg hnamed
    exact hlast m hm
  · intro g hg hmissing
    obtain ⟨hnot, hrest⟩ := List.forall_mem_cons.1 hmissing
    rw [hfits.kept g hg hrest]
    refine h.write_set hf hg hset (fun heq => hnot ?_) _
    rw [heq]
    exact hname
  · intro g hg hmem
    refine List.forall_mem_cons.2 ⟨fun hnamed => ?_, hfresh g hg (List.mem_cons_of_mem _ hmem)⟩
    obtain rfl := hself g hg hnamed
    exact hunseen hmem
  · intro g hg
    have hnames : g.Names (q, node) ↔ g.name = f.name := by
      refine ⟨fun hnamed => congrArg Field.name (hself g hg hnamed), fun heq => ?_⟩
      rw [Field.Names, heq]
      exact hname
    rw [hseen g hg, List.mem_cons, List.exists_mem_cons_iff, hnames, or_assoc, or_left_comm]

theorem reads_of_readMembers (h : record.Lawful) (hread : record.readMembers seen s members = .ok (seen', r)) :
    record.Reads seen s members seen' r := by
  induction members generalizing seen s with
  | nil =>
    obtain ⟨rfl, rfl⟩ := Prod.mk.inj (Except.ok.inj hread)
    refine ⟨⟨?_, ?_, ?_, .nil, fun _ _ _ => rfl⟩, ?_, ?_⟩ <;> simp
  | cons member members ih =>
    obtain ⟨q, node⟩ := member
    unfold readMembers at hread
    split at hread
    · cases hread
    · rename_i name hname
      split at hread
      · rename_i hunknown
        split at hread
        · cases hread
        · rename_i hskip
          exact reads_skip hname hunknown hskip (ih hread)
      · rename_i f hfield
        obtain ⟨hf, rfl⟩ := Record.field?_eq_some hfield
        split at hread
        · cases hread
        · rename_i hunseen
          split at hread
          · cases hread
          · rename_i set hset
            exact reads_set h hf hname (by simpa using hunseen) hset (ih hread)

/-- Members are read if each is, and none is of a field that has been read before. -/
theorem exists_readMembers (h : record.Lawful) (hnamed : ∀ m ∈ members, ∃ name, m.1.text = .ok name)
    (hformed : ∀ m ∈ members, m.2.skip = .ok ())
    (hset : ∀ f ∈ record.fields, ∀ m ∈ members, f.Names m → ∃ set, f.read m.2 = .ok set)
    (honce : members.Pairwise fun a b => ∀ f ∈ record.fields, f.Names a → ¬ f.Names b)
    (hfresh : ∀ f ∈ record.fields, f.name ∈ seen → ∀ m ∈ members, ¬ f.Names m) :
    ∃ seen' r, record.readMembers seen s members = .ok (seen', r) := by
  induction members generalizing seen s with
  | nil => exact ⟨_, _, rfl⟩
  | cons member members ih =>
    obtain ⟨q, node⟩ := member
    obtain ⟨⟨name, hname⟩, hnamed⟩ := List.forall_mem_cons.1 hnamed
    obtain ⟨hskip, hformed⟩ := List.forall_mem_cons.1 hformed
    obtain ⟨hfirst, honce⟩ := List.pairwise_cons.1 honce
    have hset' : ∀ f ∈ record.fields, ∀ m ∈ members, f.Names m → ∃ set, f.read m.2 = .ok set :=
      fun f hf m hm => hset f hf m (List.mem_cons_of_mem _ hm)
    unfold readMembers
    simp only [hname]
    cases hfield : record.field? name with
    | none =>
      simp only [hskip]
      exact ih hnamed hformed hset' honce fun f hf hmem => (List.forall_mem_cons.1 (hfresh f hf hmem)).2
    | some f =>
      obtain ⟨hf, rfl⟩ := Record.field?_eq_some hfield
      have hnot : f.name ∉ seen := fun hmem => (List.forall_mem_cons.1 (hfresh f hf hmem)).1 hname
      obtain ⟨set, hread⟩ := hset f hf (q, node) (List.mem_cons_self ..) hname
      simp only [List.contains_iff_mem, hnot, if_false, hread]
      refine ih hnamed hformed hset' honce fun g hg hmem m hm hnames => ?_
      rcases List.mem_cons.1 hmem with heq | hmem
      · obtain rfl := h.eq_of_name hg hf heq
        exact hfirst m hm g hg hname hnames
      · exact hfresh g hg hmem m (List.mem_cons_of_mem _ hm) hnames

end Record.Lawful

/-- The members of an object are those of a record, in any order and among others.  A field without a member has its
blank value. -/
structure Record.Fits (record : Record R) (members : List (Quoted × Node)) (r : R) : Prop
    extends record.FitsFrom record.blank members r where
  complete : ∀ f ∈ record.fields, (∀ m ∈ members, ¬ f.Names m) → f.presence ≠ .required

theorem Field.Holds.eq_write (h : f.Holds node r) (h' : f.Holds node s) (hf : f.Proper) : f.write r = f.write s := by
  obtain ⟨set, hset, hr⟩ := h
  obtain ⟨set', hset', hs⟩ := h'
  obtain rfl := Except.ok.inj (hset.symm.trans hset')
  rw [← hr, ← hs]
  exact hf.settled hset r s

/-- The members determine what each field writes. -/
theorem Record.FitsFrom.eq_write {t : R} (hfits : record.FitsFrom t members r) (h : record.Lawful)
    (hfits' : record.FitsFrom t members s) (hf : f ∈ record.fields) : f.write r = f.write s := by
  by_cases hnames : ∃ m ∈ members, f.Names m
  · obtain ⟨m, hm, hnames⟩ := hnames
    exact (hfits.holds f hf m hm hnames).eq_write (hfits'.holds f hf m hm hnames) (h.proper f hf)
  · have hmissing : ∀ m ∈ members, ¬ f.Names m := fun m hm hname => hnames ⟨m, hm, hname⟩
    rw [hfits.kept f hf hmissing, hfits'.kept f hf hmissing]

namespace Record.Lawful

theorem isComplete_iff {seen : List String} : record.isComplete seen = true ↔
    ∀ f ∈ record.fields, f.name ∉ seen → f.presence ≠ .required := by
  simp only [isComplete, List.all_eq_true, Bool.or_eq_true, decide_eq_true_eq, List.contains_iff_mem]
  exact forall₂_congr fun f _ => or_iff_not_imp_right

/-- **An object is read as the record that its members fit**, and as no other. -/
theorem read_object_iff (h : record.Lawful) {ending : Ending} :
    record.read (.object members ending) = .ok r ↔ ending = .closed ∧ record.Fits members r := by
  have hmissing : ∀ {seen r}, record.readMembers [] record.blank members = .ok (seen, r) →
      ∀ f ∈ record.fields, f.name ∉ seen ↔ ∀ m ∈ members, ¬ f.Names m := by
    intro seen r hmembers f hf
    rw [(h.reads_of_readMembers hmembers).seen_iff f hf]
    simp
  constructor
  · intro hread
    unfold Record.read at hread
    simp only at hread
    split at hread
    · cases hread
    · rename_i seen r' hmembers
      split at hread
      · cases hread
      · rename_i hending
        split at hread
        · rename_i hcomplete
          obtain rfl := Except.ok.inj hread
          have hfits := (h.reads_of_readMembers hmembers).fits
          exact ⟨check_eq_ok hending, hfits, fun f hf hnot =>
            isComplete_iff.1 hcomplete f hf ((hmissing hmembers f hf).2 hnot)⟩
        · cases hread
  · rintro ⟨rfl, hfits⟩
    have hset : ∀ f ∈ record.fields, ∀ m ∈ members, f.Names m → ∃ set, f.read m.2 = .ok set := by
      intro f hf m hm hnames
      obtain ⟨set, hset, -⟩ := hfits.holds f hf m hm hnames
      exact ⟨set, hset⟩
    obtain ⟨seen, r', hmembers⟩ := h.exists_readMembers (s := record.blank) hfits.named hfits.formed hset hfits.once
      (fun f hf hmem => absurd hmem List.not_mem_nil)
    have hcomplete : record.isComplete seen = true := isComplete_iff.2 fun f hf hnot =>
      hfits.complete f hf ((hmissing hmembers f hf).1 hnot)
    have hfits' := (h.reads_of_readMembers hmembers).fits
    have hsame : r' = r := h.ext _ _ fun f hf => hfits'.eq_write h hfits.toFitsFrom hf
    simp only [Record.read, hmembers, Ending.check, hcomplete, if_true, hsame]

end Record.Lawful

/-! ## Arrays -/

theorem skipMembers_eq_ok (hnamed : ∀ m ∈ members, ∃ name, m.1.text = .ok name)
    (hformed : ∀ m ∈ members, m.2.skip = .ok ()) : skipMembers members = .ok () := by
  induction members with
  | nil => rfl
  | cons member members ih =>
    obtain ⟨⟨name, hname⟩, hnamed⟩ := List.forall_mem_cons.1 hnamed
    obtain ⟨hskip, hformed⟩ := List.forall_mem_cons.1 hformed
    simp only [skipMembers, skip_of_text hname, hskip, ih hnamed hformed]

/-- The value of the field is one that the record may have: a tree stands for it, or it is blank and may be left
out. -/
def Record.Gives (record : Record R) (f : Field R) (r : R) : Prop :=
  (∃ node, f.Holds node r) ∨ f.presence ≠ .required ∧ f.write r = f.write record.blank

namespace Record.Lawful

variable {fields : List (Field R)} {nodes : List Node} {ending : Ending}

/-- What the fields of a part of the record write is not changed by the others. -/
theorem write_readItems (h : record.Lawful) (hsub : ∀ f ∈ fields, f ∈ record.fields) (hg : g ∈ record.fields)
    (hnot : g ∉ fields) (hread : readItems ending fields s nodes = .ok r) : g.write r = g.write s := by
  induction fields generalizing s nodes with
  | nil =>
    cases nodes with
    | nil =>
      cases ending with
      | closed => rw [Except.ok.inj hread]
      | _ => cases hread
    | cons node nodes => cases hread
  | cons f fields ih =>
    obtain ⟨hf, hsub⟩ := List.forall_mem_cons.1 hsub
    obtain ⟨hne, hnot⟩ := List.ne_and_not_mem_of_not_mem_cons hnot
    cases nodes with
    | nil =>
      simp only [readItems] at hread
      split at hread
      · cases hread
      · split at hread
        · exact ih hsub hnot hread
        · cases hread
    | cons node nodes =>
      simp only [readItems] at hread
      split at hread
      · cases hread
      · rename_i set hset
        rw [ih hsub hnot hread, h.write_set hf hg hset hne]

/-- Items that are read are the values of the fields in order, and the fields beyond them are blank. -/
theorem gives_of_readItems (h : record.Lawful) (hnodup : fields.Nodup) (hsub : ∀ f ∈ fields, f ∈ record.fields)
    (hblank : ∀ f ∈ fields, f.write s = f.write record.blank) (hread : readItems ending fields s nodes = .ok r) :
    ending = .closed ∧ skipItems nodes = .ok () ∧ ∀ f ∈ fields, record.Gives f r := by
  induction fields generalizing s nodes with
  | nil =>
    cases nodes with
    | nil =>
      cases ending with
      | closed => exact ⟨rfl, rfl, by simp⟩
      | _ => cases hread
    | cons node nodes => cases hread
  | cons f fields ih =>
    obtain ⟨hnot, hnodup⟩ := List.nodup_cons.1 hnodup
    obtain ⟨hf, hsub⟩ := List.forall_mem_cons.1 hsub
    obtain ⟨hfirst, hblank⟩ := List.forall_mem_cons.1 hblank
    cases nodes with
    | nil =>
      simp only [readItems] at hread
      split at hread
      · cases hread
      · split at hread
        · rename_i hdefaulted
          obtain ⟨hending, hskip, hgives⟩ := ih hnodup hsub hblank hread
          refine ⟨hending, hskip, List.forall_mem_cons.2 ⟨.inr ⟨?_, ?_⟩, hgives⟩⟩
          · rw [hdefaulted]
            nofun
          · rw [h.write_readItems hsub hf hnot hread, hfirst]
        · cases hread
    | cons node nodes =>
      simp only [readItems] at hread
      split at hread
      · cases hread
      · rename_i set hset
        have hblank' : ∀ g ∈ fields, g.write (set s) = g.write record.blank := fun g hg => by
          rw [h.write_set hf (hsub g hg) hset fun heq => hnot (heq ▸ hg), hblank g hg]
        obtain ⟨hending, hskip, hgives⟩ := ih hnodup hsub hblank' hread
        refine ⟨hending, ?_, List.forall_mem_cons.2 ⟨.inl ⟨node, set, hset, ?_⟩, hgives⟩⟩
        · simp only [skipItems, (h.proper f hf).formed hset, hskip]
        · rw [h.write_readItems hsub hf hnot hread]
          exact (h.proper f hf).settled hset _ _

theorem nodup (h : record.Lawful) : record.fields.Nodup :=
  .of_map _ h.names

/-- Whatever a record is read of gives the value of each field. -/
theorem gives_of_read (h : record.Lawful) (hread : record.read node = .ok r) :
    ∀ f ∈ record.fields, record.Gives f r := by
  cases node with
  | object members ending =>
    obtain ⟨-, hfits⟩ := h.read_object_iff.1 hread
    intro f hf
    by_cases hnames : ∃ m ∈ members, f.Names m
    · obtain ⟨m, hm, hnames⟩ := hnames
      exact .inl ⟨m.2, hfits.holds f hf m hm hnames⟩
    · have hmissing : ∀ m ∈ members, ¬ f.Names m := fun m hm hname => hnames ⟨m, hm, hname⟩
      exact .inr ⟨hfits.complete f hf hmissing, hfits.kept f hf hmissing⟩
  | array nodes ending => exact (h.gives_of_readItems h.nodup (fun _ => id) (fun _ _ => rfl) hread).2.2
  | _ => cases hread

/-- What a record is read of is well formed. -/
theorem formed (h : record.Lawful) : Formed record.read := by
  intro node r hread
  cases node with
  | object members ending =>
    obtain ⟨rfl, hfits⟩ := h.read_object_iff.1 hread
    simp only [Node.skip, skipMembers_eq_ok hfits.named hfits.formed, Ending.check]
  | array nodes ending =>
    obtain ⟨rfl, hskip, -⟩ := h.gives_of_readItems h.nodup (fun _ => id) (fun _ _ => rfl) hread
    simp only [Node.skip, hskip, Ending.check]
  | _ => cases hread

theorem exists_readItems (h : List.Forall₂ (fun f node => f.Holds node r) fields nodes) :
    ∃ r', readItems .closed fields s nodes = .ok r' := by
  induction h generalizing s with
  | nil => exact ⟨s, rfl⟩
  | cons hfirst _ ih =>
    obtain ⟨set, hset, -⟩ := hfirst
    simp only [readItems, hset]
    exact ih

theorem write_of_readItems (h : record.Lawful) (hnodup : fields.Nodup) (hsub : ∀ f ∈ fields, f ∈ record.fields)
    (hholds : List.Forall₂ (fun f node => f.Holds node r) fields nodes) {r' : R}
    (hread : readItems .closed fields s nodes = .ok r') : ∀ f ∈ fields, f.write r' = f.write r := by
  induction hholds generalizing s with
  | nil => simp
  | @cons f node fields nodes hfirst _ ih =>
    obtain ⟨hnot, hnodup⟩ := List.nodup_cons.1 hnodup
    obtain ⟨hf, hsub⟩ := List.forall_mem_cons.1 hsub
    obtain ⟨set, hset, hwrite⟩ := hfirst
    simp only [readItems, hset] at hread
    refine List.forall_mem_cons.2 ⟨?_, ih hnodup hsub hread⟩
    rw [h.write_readItems hsub hf hnot hread, ← hwrite]
    exact (h.proper f hf).settled hset _ _

/-- **An array of the values of the fields in order is read as the record.** -/
theorem read_array (h : record.Lawful) (hholds : List.Forall₂ (fun f node => f.Holds node r) record.fields nodes) :
    record.read (.array nodes .closed) = .ok r := by
  obtain ⟨r', hread⟩ := exists_readItems (s := record.blank) hholds
  rw [Record.read, hread, h.ext _ _ (h.write_of_readItems h.nodup (fun _ => id) hholds hread)]

end Record.Lawful

end Recital.Json
