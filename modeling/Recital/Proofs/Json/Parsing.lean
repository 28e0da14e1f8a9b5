import Recital.Proofs.Json.Tokens

/-!
# Texts are read as they are spelled

* `readNode_spells` : a text that is a value is read as that value, whatever follows.
* `spells_of_readNode` : a value that is read, and walked over, is spelled out.
* `parse_spells`, `spells_of_parse` : the same of whole texts.
-/

set_option autoImplicit false

namespace Recital.Json

open Text

variable {gap w rest cs : List Char} {node : Node} {texts : List (List Char)}

/-! ## Blanks -/

theorem skipGap_append (h : Gap gap) (cs : List Char) : skipGap (gap ++ cs) = skipGap cs :=
  List.dropWhile_append_of_pos (List.all_eq_true.1 h)

theorem skipGap_cons {c : Char} (h : isGap c = false) (cs : List Char) : skipGap (c :: cs) = c :: cs := by
  simp [skipGap, h]

theorem exists_gap (cs : List Char) : ∃ gap, Gap gap ∧ cs = gap ++ skipGap cs :=
  ⟨cs.takeWhile isGap, List.all_takeWhile, List.takeWhile_append_dropWhile.symm⟩

theorem skipGap_skipGap (cs : List Char) : skipGap (skipGap cs) = skipGap cs := by
  obtain ⟨gap, hgap, hcs⟩ := exists_gap cs
  have hdropped := skipGap_append hgap (skipGap cs)
  rw [← hcs] at hdropped
  exact hdropped.symm

theorem readNode_skipGap (steps : Nat) (cs : List Char) : readNode steps (skipGap cs) = readNode steps cs := by
  cases steps with
  | zero => rfl
  | succ steps => simp only [readNode, skipGap_skipGap]

theorem readItems_skipGap (steps : Nat) (cs : List Char) : readItems steps (skipGap cs) = readItems steps cs := by
  cases steps with
  | zero => rfl
  | succ steps => simp only [readItems, readNode_skipGap]

/-! ## What starts a value -/

/-- The characters that start a word or a number. -/
def startsScalar (c : Char) : Bool :=
  c = 'n' || c = 't' || c = 'f' || c = '-' || isDigit c

theorem ScalarText.eq_cons (h : ScalarText w node) : ∃ c left, w = c :: left ∧ startsScalar c = true := by
  cases h with
  | null => exact ⟨_, _, rfl, rfl⟩
  | yes => exact ⟨_, _, rfl, rfl⟩
  | no => exact ⟨_, _, rfl, rfl⟩
  | number h =>
    obtain @⟨negative, _, _, _, _, _, hwhole, -, -, -⟩ := h
    cases negative with
    | true => exact ⟨_, _, rfl, rfl⟩
    | false =>
      obtain ⟨d, left, rfl, hd⟩ := hwhole.eq_cons
      exact ⟨d, _, rfl, by simp [startsScalar, hd]⟩

/-- What starts a word or a number is no blank, no quote and no bracket. -/
theorem ne_of_startsScalar {c d : Char} (h : startsScalar c = true) (hd : startsScalar d = false) : c ≠ d := by
  rintro rfl
  cases h.symm.trans hd

theorem isGap_of_startsScalar {c : Char} (h : startsScalar c = true) : isGap c = false := by
  simp only [isGap, Bool.or_eq_false_iff, decide_eq_false_iff_not]
  exact ⟨⟨⟨ne_of_startsScalar h rfl, ne_of_startsScalar h rfl⟩, ne_of_startsScalar h rfl⟩,
    ne_of_startsScalar h rfl⟩

/-- A value starts with a character that is no blank, and does not close an array. -/
theorem Spells.eq_cons (h : Spells w node) : ∃ c left, w = c :: left ∧ isGap c = false ∧ c ≠ ']' := by
  cases h with
  | scalar h =>
    obtain ⟨c, left, rfl, hc⟩ := h.eq_cons
    exact ⟨c, left, rfl, isGap_of_startsScalar hc, ne_of_startsScalar hc rfl⟩
  | string h =>
    cases h
    exact ⟨_, _, rfl, by decide⟩
  | array => exact ⟨_, _, rfl, by decide⟩
  | object => exact ⟨_, _, rfl, by decide⟩

theorem readNode_scalar {c : Char} (hc : startsScalar c = true) (steps : Nat) (cs : List Char) :
    readNode (steps + 1) (c :: cs) = readScalar (c :: cs) := by
  have hne : ∀ {d : Char}, startsScalar d = false → c = d → False := ne_of_startsScalar hc
  rw [readNode, skipGap_cons (isGap_of_startsScalar hc)]
  split
  · rename_i heq
    exact (hne rfl (List.cons.inj heq).1).elim
  · rename_i heq
    exact (hne rfl (List.cons.inj heq).1).elim
  · rename_i heq
    exact (hne rfl (List.cons.inj heq).1).elim
  · rfl

/-! ## What is spelled out is read -/

theorem joined_nil : joined [] = [] :=
  rfl

theorem joined_singleton (w : List Char) : joined [w] = w := by
  simp [joined]

theorem joined_cons (w w' : List Char) (texts : List (List Char)) :
    joined (w :: w' :: texts) = w ++ ',' :: joined (w' :: texts) := by
  simp [joined]

/-- Joined texts start with the first of them. -/
theorem joined_append (w : List Char) (texts : List (List Char)) (tail : List Char) :
    ∃ after, joined (w :: texts) ++ tail = w ++ after := by
  cases texts with
  | nil => exact ⟨tail, by rw [joined_singleton]⟩
  | cons w' texts => exact ⟨_, by rw [joined_cons, List.append_assoc]⟩

/-- Where items follow, an array does not end. -/
theorem skipGap_items {w : List Char} {items : List Node} (h : List.Forall₂ Padded (w :: texts) items)
    (tail : List Char) : ∃ c left, skipGap (joined (w :: texts) ++ tail) = c :: left ∧ c ≠ ']' := by
  obtain ⟨after, hafter⟩ := joined_append w texts tail
  cases h with
  | cons hpadded _ =>
    obtain @⟨before, _, blank, _, hbefore, hspells, -⟩ := hpadded
    obtain ⟨c, left, rfl, hgap, hc⟩ := hspells.eq_cons
    refine ⟨c, left ++ (blank ++ after), ?_, hc⟩
    rw [hafter, List.append_assoc, skipGap_append hbefore, List.append_assoc, List.cons_append,
      skipGap_cons hgap]

/-- A member starts with its name, which is read, and goes on with its value. -/
theorem Member.eq_append {q : Quoted} (h : Member w (q, node)) : ∃ body middle value,
    (∀ tail, skipGap (w ++ tail) = '"' :: (body ++ (middle ++ ':' :: (value ++ tail)))) ∧
    (∀ tail, readQuoted (body ++ tail) = (q, tail)) ∧ Gap middle ∧ Padded value node ∧
    value.length < w.length := by
  obtain @⟨before, _, middle, value, _, _, hbefore, hname, hmiddle, hvalue⟩ := h
  obtain @⟨texts, pieces, hpieces⟩ := hname
  refine ⟨texts.flatten ++ ['"'], middle, value, fun tail => ?_, fun tail => ?_, hmiddle, hvalue, ?_⟩
  · simp only [List.append_assoc, List.cons_append]
    rw [skipGap_append hbefore, skipGap_cons (by decide)]
  · rw [List.append_assoc, List.singleton_append, readQuoted_text hpieces]
  · simp only [List.length_append, List.length_cons]
    omega

/-- Where members follow, there is the quote of a name. -/
theorem skipGap_members {w : List Char} {members : List (Quoted × Node)}
    (h : List.Forall₂ Member (w :: texts) members) (tail : List Char) :
    ∃ left, skipGap (joined (w :: texts) ++ tail) = '"' :: left := by
  obtain ⟨after, hafter⟩ := joined_append w texts tail
  cases h with
  | @cons _ member _ _ hmember _ =>
    obtain ⟨q, node⟩ := member
    obtain ⟨body, middle, value, hstart, -⟩ := hmember.eq_append
    exact ⟨_, by rw [hafter, hstart]⟩

/-- What is spelled out in so many steps, or fewer, is read so. -/
structure Reads (steps : Nat) : Prop where
  node : ∀ {w node}, Spells w node → w.length ≤ steps → ∀ rest, Follows rest node →
    readNode steps (w ++ rest) = (node, rest)
  items : ∀ {texts items}, List.Forall₂ Padded texts items → texts ≠ [] → (joined texts).length < steps →
    ∀ rest, readItems steps (joined texts ++ ']' :: rest) = ((items, .closed), rest)
  members : ∀ {texts members cs rest}, List.Forall₂ Member texts members → texts ≠ [] →
    (joined texts).length < steps → skipGap (joined texts ++ '\x7d' :: rest) = '"' :: cs →
    readMembers steps cs = ((members, .closed), rest)

theorem follows_of_ends (h : Ends rest) (node : Node) : Follows rest node := by
  cases node <;> first | exact h | trivial

theorem ends_cons {c : Char} (hc : isDigit c = false ∧ c ≠ '.' ∧ c ≠ 'e' ∧ c ≠ 'E') (cs : List Char) :
    Ends (c :: cs) := by
  intro d hd
  rw [List.head?_cons, Option.mem_some_iff] at hd
  rwa [← hd]

/-- Blanks end a number, and what stands after them does if there are none. -/
theorem ends_gap (hgap : Gap gap) (h : Ends rest) : Ends (gap ++ rest) := by
  cases gap with
  | nil => exact h
  | cons c gap =>
    refine ends_cons ?_ _
    have hc : isGap c = true := List.all_eq_true.1 hgap c (List.mem_cons_self ..)
    simp only [isGap, Bool.or_eq_true, decide_eq_true_eq] at hc
    rcases hc with ((rfl | rfl) | rfl) | rfl <;> decide

namespace Reads

variable {steps : Nat}

/-- A value with blanks around it, of which none are left after it. -/
theorem padded (h : Reads steps) (hpadded : Padded w node) (hlen : w.length ≤ steps) (hrest : Ends rest) :
    ∃ gap, Gap gap ∧ readNode steps (w ++ rest) = (node, gap ++ rest) := by
  obtain @⟨before, w, after, _, hbefore, hspells, hafter⟩ := hpadded
  refine ⟨after, hafter, ?_⟩
  simp only [List.length_append] at hlen
  have hread := h.node hspells (by omega) (after ++ rest) (follows_of_ends (ends_gap hafter hrest) node)
  rw [← readNode_skipGap] at hread ⊢
  rw [List.append_assoc, skipGap_append hbefore, List.append_assoc]
  exact hread

theorem succ_items (h : Reads steps) {items : List Node} (hitems : List.Forall₂ Padded texts items)
    (hne : texts ≠ []) (hlen : (joined texts).length < steps + 1) (rest : List Char) :
    readItems (steps + 1) (joined texts ++ ']' :: rest) = ((items, .closed), rest) := by
  cases hitems with
  | nil => exact absurd rfl hne
  | @cons w item texts items hpadded hitems =>
    cases texts with
    | nil =>
      obtain rfl := List.forall₂_nil_left_iff.1 hitems
      rw [joined_singleton] at hlen ⊢
      obtain ⟨gap, hgap, hread⟩ := h.padded hpadded (by omega) (ends_cons (c := ']') (by decide) rest)
      rw [readItems, hread]
      simp only [skipGap_append hgap, skipGap_cons (show isGap ']' = false by decide)]
    | cons w' texts =>
      rw [joined_cons, List.length_append, List.length_cons] at hlen
      rw [joined_cons, List.append_assoc, List.cons_append]
      obtain ⟨gap, hgap, hread⟩ := h.padded hpadded (by omega)
        (ends_cons (c := ',') (by decide) (joined (w' :: texts) ++ ']' :: rest))
      have hmore := h.items hitems (List.cons_ne_nil _ _) (by omega) rest
      rw [readItems, hread]
      simp only [skipGap_append hgap, skipGap_cons (show isGap ',' = false by decide)]
      obtain ⟨c, left, hskip, hc⟩ := skipGap_items hitems (']' :: rest)
      rw [← readItems_skipGap, hskip] at hmore
      simp only [hskip]
      split
      · rename_i heq
        cases heq
      · rename_i heq
        exact absurd (List.cons.inj heq).1 hc
      · rw [hmore]

theorem succ_members (h : Reads steps) {members : List (Quoted × Node)}
    (hmembers : List.Forall₂ Member texts members) (hne : texts ≠ [])
    (hlen : (joined texts).length < steps + 1) (hskip : skipGap (joined texts ++ '\x7d' :: rest) = '"' :: cs) :
    readMembers (steps + 1) cs = ((members, .closed), rest) := by
  cases hmembers with
  | nil => exact absurd rfl hne
  | @cons w member texts members hmember hmembers =>
    obtain ⟨q, node⟩ := member
    obtain ⟨body, middle, value, hstart, hname, hmiddle, hvalue, hshorter⟩ := hmember.eq_append
    cases texts with
    | nil =>
      obtain rfl := List.forall₂_nil_left_iff.1 hmembers
      rw [joined_singleton] at hlen hskip
      rw [hstart] at hskip
      obtain rfl := (List.cons.inj hskip).2
      obtain ⟨gap, hgap, hread⟩ := h.padded hvalue (by omega) (ends_cons (c := '\x7d') (by decide) rest)
      rw [readMembers, hname]
      simp only [skipGap_append hmiddle, skipGap_cons (show isGap ':' = false by decide), hread,
        skipGap_append hgap, skipGap_cons (show isGap '\x7d' = false by decide)]
    | cons w' texts =>
      rw [joined_cons, List.length_append, List.length_cons] at hlen
      rw [joined_cons, List.append_assoc, List.cons_append, hstart] at hskip
      obtain rfl := (List.cons.inj hskip).2
      obtain ⟨gap, hgap, hread⟩ := h.padded hvalue (by omega)
        (ends_cons (c := ',') (by decide) (joined (w' :: texts) ++ '\x7d' :: rest))
      obtain ⟨left, hleft⟩ := skipGap_members hmembers ('\x7d' :: rest)
      have hmore := h.members hmembers (List.cons_ne_nil _ _) (by omega) hleft
      rw [readMembers, hname]
      simp only [skipGap_append hmiddle, skipGap_cons (show isGap ':' = false by decide), hread,
        skipGap_append hgap, skipGap_cons (show isGap ',' = false by decide), hleft, hmore]

theorem succ_node (h : Reads steps) (hspells : Spells w node) (hlen : w.length ≤ steps + 1) (rest : List Char)
    (hrest : Follows rest node) : readNode (steps + 1) (w ++ rest) = (node, rest) := by
  cases hspells with
  | scalar hscalar =>
    have hread := readScalar_text hscalar hrest
    obtain ⟨c, left, rfl, hc⟩ := hscalar.eq_cons
    rw [List.cons_append, readNode_scalar hc]
    exact hread
  | string hquoted =>
    obtain ⟨hpieces⟩ := hquoted
    rw [List.cons_append, readNode, skipGap_cons (by decide), List.append_assoc, List.singleton_append]
    simp only [readQuoted_text hpieces]
  | @array gap texts items hgap hitems =>
    simp only [arrayText, List.length_cons, List.length_append] at hlen
    simp only [arrayText, List.cons_append, List.append_assoc, List.nil_append]
    rw [readNode, skipGap_cons (by decide)]
    cases texts with
    | nil =>
      obtain rfl := List.forall₂_nil_left_iff.1 hitems
      simp only [skipGap_append hgap, joined_nil, List.nil_append,
        skipGap_cons (show isGap ']' = false by decide)]
    | cons w texts =>
      obtain ⟨c, left, hskip, hc⟩ := skipGap_items hitems (']' :: rest)
      have hread := h.items hitems (List.cons_ne_nil _ _) (by omega) rest
      rw [← readItems_skipGap, hskip] at hread
      simp only [skipGap_append hgap, hskip]
      split
      · rename_i heq
        cases heq
      · rename_i heq
        exact absurd (List.cons.inj heq).1 hc
      · rw [hread]
  | @object gap texts members hgap hmembers =>
    simp only [objectText, List.length_cons, List.length_append] at hlen
    simp only [objectText, List.cons_append, List.append_assoc, List.nil_append]
    rw [readNode, skipGap_cons (by decide)]
    cases texts with
    | nil =>
      obtain rfl := List.forall₂_nil_left_iff.1 hmembers
      simp only [skipGap_append hgap, joined_nil, List.nil_append,
        skipGap_cons (show isGap '\x7d' = false by decide)]
    | cons w texts =>
      obtain ⟨left, hskip⟩ := skipGap_members hmembers ('\x7d' :: rest)
      have hread := h.members hmembers (List.cons_ne_nil _ _) (by omega) hskip
      simp only [skipGap_append hgap, hskip, hread]

end Reads

/-- **What is spelled out is read**, if there are as many steps as characters. -/
theorem reads (steps : Nat) : Reads steps := by
  induction steps with
  | zero =>
    refine ⟨fun hspells hlen => ?_, fun _ _ hlen => absurd hlen (Nat.not_lt_zero _),
      fun _ _ hlen => absurd hlen (Nat.not_lt_zero _)⟩
    obtain ⟨c, left, rfl, -⟩ := hspells.eq_cons
    exact absurd hlen (Nat.not_succ_le_zero _)
  | succ steps ih => exact ⟨ih.succ_node, ih.succ_items, ih.succ_members⟩

/-! ## What is spelled out is walked over -/

theorem QuotedText.skip {q : Quoted} (h : QuotedText w q) : q.skip = .ok () := by
  cases h
  rfl

mutual

/-- **A value that is spelled out is well formed.** -/
theorem skip_of_spells : (node : Node) → {w : List Char} → Spells w node → node.skip = .ok ()
  | .null, _, _ => rfl
  | .bool _, _, _ => rfl
  | .number _, _, _ => rfl
  | .string _, _, h => by
    cases h with
    | scalar h => cases h
    | string h => exact h.skip
  | .array items ending, _, h => by
    cases h with
    | scalar h => cases h
    | array _ hitems => simp only [Node.skip, skipItems_of_padded items hitems, Ending.check]
  | .object members ending, _, h => by
    cases h with
    | scalar h => cases h
    | object _ hmembers => simp only [Node.skip, skipMembers_of_member members hmembers, Ending.check]
  | .torn _ _, _, h => by
    cases h with
    | scalar h => cases h
  | .broken _, _, h => by
    cases h with
    | scalar h => cases h

theorem skipItems_of_padded : (items : List Node) → {texts : List (List Char)} → List.Forall₂ Padded texts items →
    skipItems items = .ok ()
  | [], _, _ => rfl
  | item :: items, _, .cons (.mk _ h _) hitems => by
    simp only [skipItems, skip_of_spells item h, skipItems_of_padded items hitems]

theorem skipMembers_of_member : (members : List (Quoted × Node)) → {texts : List (List Char)} →
    List.Forall₂ Member texts members → skipMembers members = .ok ()
  | [], _, _ => rfl
  | (_, node) :: members, _, .cons (.mk _ hname _ (.mk _ h _)) hmembers => by
    simp only [skipMembers, hname.skip, skip_of_spells node h, skipMembers_of_member members hmembers]

end

/-! ## What is read is spelled out -/

/-- What is read in so many steps, and walked over, is spelled out. -/
structure Spelled (steps : Nat) : Prop where
  node : ∀ {cs node rest}, readNode steps cs = (node, rest) → node.skip = .ok () →
    ∃ gap w, Gap gap ∧ cs = gap ++ (w ++ rest) ∧ Spells w node
  items : ∀ {cs items ending rest}, readItems steps cs = ((items, ending), rest) → skipItems items = .ok () →
    ending.check = .ok () → ending = .closed ∧ ∃ texts, texts ≠ [] ∧ cs = joined texts ++ ']' :: rest ∧
      List.Forall₂ Padded texts items
  members : ∀ {cs members ending rest}, readMembers steps cs = ((members, ending), rest) →
    skipMembers members = .ok () → ending.check = .ok () → ending = .closed ∧ ∃ texts, texts ≠ [] ∧
      '"' :: cs = joined texts ++ '\x7d' :: rest ∧ List.Forall₂ Member texts members

theorem gap_nil : Gap [] :=
  rfl

/-- What stands before the next character that is no blank. -/
theorem eq_gap_append {tail : List Char} (h : skipGap cs = tail) : ∃ gap, Gap gap ∧ cs = gap ++ tail := by
  rw [← h]
  exact exists_gap cs

theorem fault_of_skip {q : Quoted} (h : q.skip = .ok ()) : q.fault = none := by
  unfold Quoted.skip at h
  split at h
  · assumption
  · cases h

theorem skipItems_cons {item : Node} {items : List Node} (h : skipItems (item :: items) = .ok ()) :
    item.skip = .ok () ∧ skipItems items = .ok () := by
  unfold skipItems at h
  split at h
  · cases h
  · rename_i hitem
    exact ⟨hitem, h⟩

theorem skipMembers_cons {q : Quoted} {node : Node} {members : List (Quoted × Node)}
    (h : skipMembers ((q, node) :: members) = .ok ()) :
    q.fault = none ∧ node.skip = .ok () ∧ skipMembers members = .ok () := by
  unfold skipMembers at h
  split at h
  · cases h
  · rename_i hname
    split at h
    · cases h
    · rename_i hnode
      exact ⟨fault_of_skip hname, hnode, h⟩

theorem skipItems_of_skip {items : List Node} {ending : Ending} (h : (Node.array items ending).skip = .ok ()) :
    skipItems items = .ok () ∧ ending.check = .ok () := by
  unfold Node.skip at h
  split at h
  · cases h
  · exact ⟨‹_›, h⟩

theorem skipMembers_of_skip {members : List (Quoted × Node)} {ending : Ending}
    (h : (Node.object members ending).skip = .ok ()) : skipMembers members = .ok () ∧ ending.check = .ok () := by
  unfold Node.skip at h
  split at h
  · cases h
  · exact ⟨‹_›, h⟩

/-- Blanks before members belong to the first of them. -/
theorem exists_members {members : List (Quoted × Node)} (h : List.Forall₂ Member texts members)
    (hne : texts ≠ []) (hgap : Gap gap) : ∃ w texts', joined (w :: texts') = gap ++ joined texts ∧
      List.Forall₂ Member (w :: texts') members := by
  cases h with
  | nil => exact absurd rfl hne
  | @cons w member texts members hmember hmembers =>
    obtain @⟨before, name, middle, value, q, node, hbefore, hname, hmiddle, hvalue⟩ := hmember
    have hboth : Gap (gap ++ before) := by
      rw [Gap, List.all_append, hgap, hbefore]
      rfl
    refine ⟨_, texts, ?_, .cons (.mk hboth hname hmiddle hvalue) hmembers⟩
    cases texts with
    | nil => simp only [joined_singleton, List.append_assoc]
    | cons w' texts => simp only [joined_cons, List.append_assoc]

namespace Spelled

variable {steps : Nat}

theorem succ_items (h : Spelled steps) {items : List Node} {ending : Ending}
    (hread : readItems (steps + 1) cs = ((items, ending), rest)) (hskip : skipItems items = .ok ())
    (hending : ending.check = .ok ()) : ending = .closed ∧ ∃ texts, texts ≠ [] ∧
      cs = joined texts ++ ']' :: rest ∧ List.Forall₂ Padded texts items := by
  rw [readItems] at hread
  cases hnode : readNode steps cs with
  | mk item left =>
    simp only [hnode] at hread
    split at hread
    · cases hread
      cases hending
    · rename_i tail hleft
      cases hread
      obtain ⟨gap, w, hgap, rfl, hspells⟩ := h.node hnode (skipItems_cons hskip).1
      obtain ⟨gap', hgap', rfl⟩ := eq_gap_append hleft
      refine ⟨rfl, [_], List.cons_ne_nil _ _, ?_, .cons (.mk hgap hspells hgap') .nil⟩
      simp only [joined_singleton, List.append_assoc]
    · rename_i tail hleft
      split at hread
      · cases hread
        cases hending
      · cases hread
        cases hending
      · rcases hmore : readItems steps (skipGap tail) with ⟨⟨more, ending'⟩, after⟩
        simp only [hmore] at hread
        cases hread
        obtain ⟨hitem, hitems⟩ := skipItems_cons hskip
        obtain ⟨gap, w, hgap, rfl, hspells⟩ := h.node hnode hitem
        obtain ⟨gap', hgap', rfl⟩ := eq_gap_append hleft
        rw [readItems_skipGap] at hmore
        obtain ⟨rfl, texts, hne, rfl, htexts⟩ := h.items hmore hitems hending
        cases texts with
        | nil => exact absurd rfl hne
        | cons w' texts =>
          refine ⟨rfl, _ :: w' :: texts, List.cons_ne_nil _ _, ?_, .cons (.mk hgap hspells hgap') htexts⟩
          simp only [joined_cons, List.append_assoc, List.cons_append]
    · cases hread
      cases hending

theorem succ_members (h : Spelled steps) {members : List (Quoted × Node)} {ending : Ending}
    (hread : readMembers (steps + 1) cs = ((members, ending), rest)) (hskip : skipMembers members = .ok ())
    (hending : ending.check = .ok ()) : ending = .closed ∧ ∃ texts, texts ≠ [] ∧
      '"' :: cs = joined texts ++ '\x7d' :: rest ∧ List.Forall₂ Member texts members := by
  rw [readMembers] at hread
  have hspelled := spelledOut_of_read cs
  cases hname : readQuoted cs with
  | mk name left =>
    simp only [hname] at hread hspelled
    split at hread
    · cases hread
      cases hending
    · rename_i tail hleft
      cases hnode : readNode steps tail with
      | mk value left' =>
        simp only [hnode] at hread
        -- the member that is read first, whatever follows it
        have hfirst : name.fault = none → value.skip = .ok () → ∀ {after}, skipGap left' = after →
            ∃ w, '"' :: cs = w ++ after ∧ Member w (name, value) := by
          intro hfault hvalue after hafter
          obtain ⟨texts, hpieces, hcs⟩ := hspelled hfault
          obtain ⟨middle, hmiddle, hcolon⟩ := eq_gap_append hleft
          obtain ⟨gap, w, hgap, htail, hspells⟩ := h.node hnode hvalue
          obtain ⟨gap', hgap', hleft'⟩ := eq_gap_append hafter
          obtain ⟨pieces, fault⟩ := name
          obtain rfl : fault = none := hfault
          refine ⟨_, ?_, .mk gap_nil (.mk hpieces) hmiddle (.mk hgap hspells hgap')⟩
          simp only [hcs, hcolon, htail, hleft', List.nil_append, List.append_assoc, List.cons_append]
        split at hread
        · cases hread
          cases hending
        · rename_i after hafter
          cases hread
          obtain ⟨hfault, hvalue, -⟩ := skipMembers_cons hskip
          obtain ⟨w, hcs, hmember⟩ := hfirst hfault hvalue hafter
          refine ⟨rfl, [w], List.cons_ne_nil _ _, ?_, .cons hmember .nil⟩
          rw [joined_singleton, hcs]
        · rename_i after hafter
          split at hread
          · cases hread
            cases hending
          · rename_i next hnext
            rcases hmore : readMembers steps next with ⟨⟨more, ending'⟩, last⟩
            simp only [hmore] at hread
            cases hread
            obtain ⟨hfault, hvalue, hmembers⟩ := skipMembers_cons hskip
            obtain ⟨w, hcs, hmember⟩ := hfirst hfault hvalue hafter
            obtain ⟨rfl, texts, hne, hjoined, htexts⟩ := h.members hmore hmembers hending
            obtain ⟨gap, hgap, rfl⟩ := eq_gap_append hnext
            obtain ⟨w', texts', hgapped, htexts'⟩ := exists_members htexts hne hgap
            refine ⟨rfl, w :: w' :: texts', List.cons_ne_nil _ _, ?_, .cons hmember htexts'⟩
            rw [hcs, hjoined, joined_cons, hgapped]
            simp only [List.append_assoc, List.cons_append]
          · cases hread
            cases hending
        · cases hread
          cases hending
    · cases hread
      cases hending

theorem succ_node (h : Spelled steps) (hread : readNode (steps + 1) cs = (node, rest))
    (hskip : node.skip = .ok ()) : ∃ gap w, Gap gap ∧ cs = gap ++ (w ++ rest) ∧ Spells w node := by
  obtain ⟨gap, hgap, hcs⟩ := exists_gap cs
  suffices hspells : ∃ w, skipGap cs = w ++ rest ∧ Spells w node by
    obtain ⟨w, hw, hspells⟩ := hspells
    exact ⟨gap, w, hgap, by rw [← hw, ← hcs], hspells⟩
  rw [readNode] at hread
  split at hread
  · rename_i tail htail
    rw [htail]
    cases hread
    have hfault : (readQuoted tail).1.fault = none := fault_of_skip hskip
    obtain ⟨texts, hpieces, htext⟩ := spelledOut_of_read tail hfault
    rcases htoken : readQuoted tail with ⟨⟨pieces, fault⟩, left⟩
    rw [htoken] at hfault hpieces htext
    obtain rfl : fault = none := hfault
    exact ⟨_, by simp [htext], .string (.mk hpieces)⟩
  · rename_i tail htail
    rw [htail]
    split at hread
    · cases hread
      cases hskip
    · rename_i left hclose
      cases hread
      obtain ⟨gap, hgap, rfl⟩ := eq_gap_append hclose
      exact ⟨arrayText gap [], by simp [arrayText, joined_nil], .array hgap .nil⟩
    · rename_i hend hclose
      rcases hitems : readItems steps (skipGap tail) with ⟨⟨items, ending⟩, left⟩
      simp only [hitems] at hread
      cases hread
      obtain ⟨hall, hending⟩ := skipItems_of_skip hskip
      rw [readItems_skipGap] at hitems
      obtain ⟨rfl, texts, -, rfl, htexts⟩ := h.items hitems hall hending
      exact ⟨arrayText [] texts, by simp [arrayText], .array gap_nil htexts⟩
  · rename_i tail htail
    rw [htail]
    split at hread
    · cases hread
      cases hskip
    · rename_i left hclose
      cases hread
      obtain ⟨gap, hgap, rfl⟩ := eq_gap_append hclose
      exact ⟨objectText gap [], by simp [objectText, joined_nil], .object hgap .nil⟩
    · rename_i next hnext
      rcases hmembers : readMembers steps next with ⟨⟨members, ending⟩, left⟩
      simp only [hmembers] at hread
      cases hread
      obtain ⟨hall, hending⟩ := skipMembers_of_skip hskip
      obtain ⟨rfl, texts, -, hjoined, htexts⟩ := h.members hmembers hall hending
      obtain ⟨gap, hgap, rfl⟩ := eq_gap_append hnext
      exact ⟨objectText gap texts, by simp [objectText, hjoined], .object hgap htexts⟩
    · cases hread
      cases hskip
  · obtain ⟨w, hw, hscalar⟩ := scalarText_of_read hread hskip
    exact ⟨w, hw, .scalar hscalar⟩

end Spelled

/-- **What is read and walked over is spelled out.** -/
theorem spelled (steps : Nat) : Spelled steps := by
  induction steps with
  | zero =>
    refine ⟨fun hread hskip => ?_, fun hread _ hending => ?_, fun hread _ hending => ?_⟩
    · cases hread
      cases hskip
    · cases hread
      cases hending
    · cases hread
      cases hending
  | succ steps ih => exact ⟨ih.succ_node, ih.succ_items, ih.succ_members⟩

/-! ## Whole texts -/

/-- **A text that starts with a value is read as that value**, and what follows is left. -/
theorem parse_spells {s : String} (hgap : Gap gap) (hspells : Spells w node) (hrest : Follows rest node)
    (hs : s.toList = gap ++ (w ++ rest)) : parse s = (node, rest) := by
  have hlen : w.length ≤ 2 * s.toList.length + 2 := by
    rw [hs, List.length_append, List.length_append]
    omega
  have hread := (reads (2 * s.toList.length + 2)).node hspells hlen rest hrest
  rw [parse, ← readNode_skipGap, hs, skipGap_append hgap, readNode_skipGap, ← hs]
  exact hread

/-- **A text whose first value is walked over starts with that value.** -/
theorem spells_of_parse {s : String} (h : parse s = (node, rest)) (hskip : node.skip = .ok ()) :
    ∃ gap w, Gap gap ∧ s.toList = gap ++ (w ++ rest) ∧ Spells w node :=
  (spelled _).node h hskip

end Recital.Json
