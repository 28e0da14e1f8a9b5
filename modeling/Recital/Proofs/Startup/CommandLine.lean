import Mathlib.Data.List.TakeWhile
import Recital.Startup.CommandLine

/-!
# How a command line is spelled

* `OptionText` : the arguments that give an option a value.  `NoticeText` : an argument that asks for a notice.
* `Given.Spelled` : a command line is option after option, each at most once and with a value that it accepts.
* `Given.Interrupted` : it is such options up to an argument that asks for a notice; then nothing after that counts.
* `Given.Carried`, `Given.Carried.of_read` : what options carry along holds of every command line that is read.
* `read_eq_ok_iff` : what is read of a command line is what it spells.  `read_eq_error_iff` : a notice is read where
  one is asked for.
-/

set_option autoImplicit false

namespace Recital

/-! ## Options -/

/-- The long name of an option. -/
def Switch.name : Switch → String
  | config => "config"
  | host => "host"
  | port => "port"
  | database => "database"
  | logLevel => "log-level"

/-- The letter of an option, if it has one. -/
def Switch.letter? : Switch → Option Char
  | config => some 'c'
  | host => none
  | port => some 'p'
  | database => some 'd'
  | logLevel => none

/-- An argument that is not taken for an option, so that it may follow one as its value. -/
def IsLoose (v : String) : Prop :=
  v = "-" ∨ v.toList.head? ≠ some '-'

/-- The arguments give the option the value. -/
inductive OptionText : List String → Switch → String → Prop where
  /-- The name and the value with an equals sign between them. -/
  | joined (s : Switch) (v : String) : OptionText ["--" ++ s.name ++ "=" ++ v] s v
  /-- The name, and the value as an argument of its own. -/
  | apart (s : Switch) {v : String} (hv : IsLoose v) : OptionText ["--" ++ s.name, v] s v
  /-- The letter with the value right behind it. -/
  | letter {s : Switch} {c : Char} {v : String} (hc : s.letter? = some c) (hne : v ≠ "")
      (heq : v.toList.head? ≠ some '=') : OptionText ["-" ++ String.ofList [c] ++ v] s v
  /-- The letter and the value with an equals sign between them. -/
  | letterJoined {s : Switch} {c : Char} (hc : s.letter? = some c) (v : String) :
      OptionText ["-" ++ String.ofList [c] ++ "=" ++ v] s v
  /-- The letter, and the value as an argument of its own. -/
  | letterApart {s : Switch} {c : Char} {v : String} (hc : s.letter? = some c) (hv : IsLoose v) :
      OptionText ["-" ++ String.ofList [c], v] s v

/-- The argument asks for a notice.  What stands behind a letter does not count. -/
inductive NoticeText : String → Notice → Prop where
  | help : NoticeText "--help" .help
  | version : NoticeText "--version" .version
  | helpLetter (after : String) : NoticeText ("-h" ++ after) .help
  | versionLetter (after : String) : NoticeText ("-V" ++ after) .version

/-- The arguments give further options, one after the other, each for the first time and with a value that it accepts.
Two dashes may end them. -/
inductive Given.Spelled : Given → List String → Given → Prop where
  | done (g : Given) : Spelled g [] g
  | stop (g : Given) : Spelled g ["--"] g
  | option {g g' : Given} {texts rest : List String} {s : Switch} {v : String} (htext : OptionText texts s v)
      (hnew : g.get? s = none) (haccepts : s.accepts v = true) (hrest : Spelled (g.set (some v) s) rest g') :
      Spelled g (texts ++ rest) g'

/-- The arguments give further options, as in `Given.Spelled`, up to one that asks for a notice. -/
inductive Given.Interrupted : Given → List String → Notice → Prop where
  | notice (g : Given) {a : String} {n : Notice} (h : NoticeText a n) (rest : List String) : Interrupted g (a :: rest) n
  | option {g : Given} {texts rest : List String} {s : Switch} {v : String} {n : Notice} (htext : OptionText texts s v)
      (hnew : g.get? s = none) (haccepts : s.accepts v = true) (hrest : Interrupted (g.set (some v) s) rest n) :
      Interrupted g (texts ++ rest) n

/-! ## Names and letters -/

variable {s : Switch} {name cs : List Char} {c : Char} {a v : String} {g g' : Given} {n : Notice}
  {texts rest arguments : List String}

theorem NoticeText.ne_usage (h : NoticeText a n) : n ≠ .usage := by
  cases h <;> nofun

theorem Given.Interrupted.ne_usage (h : g.Interrupted arguments n) : n ≠ .usage := by
  induction h with
  | notice _ h _ => exact h.ne_usage
  | option _ _ _ _ ih => exact ih

theorem Word.ofName?_name (s : Switch) : ofName? s.name.toList = some (.switch s) := by
  cases s <;> decide

theorem Word.ofLetter?_letter (h : s.letter? = some c) : ofLetter? c = some (.switch s) := by
  cases s <;> cases h <;> rfl

theorem name_of_ofName? (h : Word.ofName? name = some (.switch s)) : name = s.name.toList := by
  unfold Word.ofName? at h
  split at h
  all_goals cases h
  all_goals
    rename_i heq
    rw [← String.toList_ofList (l := name), heq]
    rfl

theorem letter_of_ofLetter? (h : Word.ofLetter? c = some (.switch s)) : s.letter? = some c := by
  unfold Word.ofLetter? at h
  split at h
  all_goals cases h
  all_goals rfl

theorem noticeText_of_name (ha : a.toList = '-' :: '-' :: name) (h : Word.ofName? name = some (.notice n)) :
    NoticeText a n := by
  rw [← String.toList_ofList (l := name)] at ha
  unfold Word.ofName? at h
  split at h
  all_goals cases h
  all_goals
    rename_i heq
    rw [heq] at ha
  · obtain rfl : a = "--help" := String.toList_inj.1 ha
    exact .help
  · obtain rfl : a = "--version" := String.toList_inj.1 ha
    exact .version

theorem noticeText_of_letter (ha : a.toList = '-' :: c :: cs) (h : Word.ofLetter? c = some (.notice n)) :
    NoticeText a n := by
  unfold Word.ofLetter? at h
  split at h
  all_goals cases h
  · obtain rfl : a = "-h" ++ String.ofList cs := by
      rw [← String.toList_inj, ha, String.toList_append, String.toList_ofList (l := cs)]
      rfl
    exact .helpLetter _
  · obtain rfl : a = "-V" ++ String.ofList cs := by
      rw [← String.toList_inj, ha, String.toList_append, String.toList_ofList (l := cs)]
      rfl
    exact .versionLetter _

theorem name_plain (s : Switch) : s.name.toList ≠ [] ∧ '=' ∉ s.name.toList := by
  cases s <;> decide

theorem letter_ne (h : s.letter? = some c) : c ≠ '-' := by
  cases s <;> cases h <;> decide

/-! ## Arguments -/

theorem all_ne {d : Char} (h : d ∉ cs) : ∀ c ∈ cs, decide (c ≠ d) = true := by
  intro c hc
  have hne : c ≠ d := fun heq => h (heq ▸ hc)
  exact decide_eq_true hne

theorem takeWhile_ne {d : Char} (h : d ∉ cs) (after : List Char) :
    (cs ++ d :: after).takeWhile (· ≠ d) = cs := by
  rw [List.takeWhile_append_of_pos (all_ne h)]
  simp

theorem dropWhile_ne {d : Char} (h : d ∉ cs) (after : List Char) :
    (cs ++ d :: after).dropWhile (· ≠ d) = d :: after := by
  rw [List.dropWhile_append_of_pos (all_ne h)]
  simp

theorem dropWhile_ne_nil {d : Char} (h : d ∉ cs) : cs.dropWhile (· ≠ d) = [] :=
  List.dropWhile_eq_nil_iff.2 (all_ne h)

/-- An argument of two dashes and more. -/
theorem of_dashes (ha : a.toList = '-' :: '-' :: cs) (hne : cs ≠ []) :
    Token.of a = match cs.dropWhile (· ≠ '=') with
      | [] => .long cs none
      | _ :: value => .long (cs.takeWhile (· ≠ '=')) (some value) := by
  cases cs with
  | nil => exact absurd rfl hne
  | cons c cs =>
    unfold Token.of
    rw [ha]
    rfl

theorem of_joined {value : List Char} (ha : a.toList = '-' :: '-' :: (name ++ '=' :: value)) (hname : '=' ∉ name) :
    Token.of a = .long name (some value) := by
  rw [of_dashes ha (by simp), dropWhile_ne hname, takeWhile_ne hname]

theorem of_name (ha : a.toList = '-' :: '-' :: name) (hne : name ≠ []) (hname : '=' ∉ name) :
    Token.of a = .long name none := by
  rw [of_dashes ha hne, dropWhile_ne_nil hname]

theorem of_letter (ha : a.toList = '-' :: c :: cs) (hc : c ≠ '-') : Token.of a = .short c cs := by
  unfold Token.of
  rw [ha]
  split
  · rename_i heq
    exact absurd (List.cons.inj (List.cons.inj heq).2).1 hc
  · rename_i heq
    exact absurd (List.cons.inj (List.cons.inj heq).2).1 hc
  · rename_i heq
    obtain ⟨rfl, rfl⟩ := List.cons.inj (List.cons.inj heq).2
    rfl
  · rename_i hother
    exact absurd rfl (hother c cs)

theorem of_loose (h : IsLoose v) : Token.of v = .plain v := by
  have hhead : ∀ c cs, v.toList ≠ '-' :: c :: cs := by
    intro c cs heq
    rcases h with rfl | h
    · cases heq
    · rw [heq] at h
      exact h rfl
  unfold Token.of
  split
  · rename_i heq
    exact absurd heq (hhead _ _)
  · rename_i heq
    exact absurd heq (hhead _ _)
  · rename_i heq
    exact absurd heq (hhead _ _)
  · rfl

/-- What an argument is. -/
inductive Argument : String → Token → Prop where
  | stop : Argument "--" .stop
  | name {a : String} {name : List Char} (ha : a.toList = '-' :: '-' :: name) : Argument a (.long name none)
  | joined {a : String} {name value : List Char} (ha : a.toList = '-' :: '-' :: (name ++ '=' :: value)) :
      Argument a (.long name (some value))
  | letter {a : String} {c : Char} {cs : List Char} (ha : a.toList = '-' :: c :: cs) : Argument a (.short c cs)
  | loose {v : String} (hv : IsLoose v) : Argument v (.plain v)

theorem argument_of (a : String) : Argument a (Token.of a) := by
  have hloose : IsLoose a → Argument a (Token.of a) := by
    intro h
    rw [of_loose h]
    exact .loose h
  rcases ha : a.toList with _ | ⟨d, ds⟩
  · exact hloose (.inr (by rw [ha]; nofun))
  by_cases hd : d = '-'
  · subst hd
    rcases ds with _ | ⟨e, es⟩
    · exact hloose (.inl (String.toList_inj.1 ha))
    by_cases he : e = '-'
    · subst he
      by_cases hes : es = []
      · subst hes
        obtain rfl : a = "--" := String.toList_inj.1 ha
        exact .stop
      · by_cases hmem : '=' ∈ es
        · obtain ⟨name, value, rfl, hname⟩ := List.eq_append_cons_of_mem hmem
          rw [of_joined ha hname]
          exact .joined ha
        · rw [of_name ha hes hmem]
          exact .name ha
    · rw [of_letter ha he]
      exact .letter ha
  · refine hloose (.inr ?_)
    rw [ha]
    simpa using hd

/-! ## Command lines -/

theorem give_eq_ok_iff : g.give s v = .ok g' ↔ g.get? s = none ∧ s.accepts v = true ∧ g' = g.set (some v) s := by
  unfold Given.give
  split
  · rename_i h
    simp only [reduceCtorEq, false_iff]
    rintro ⟨hnew, haccepts, -⟩
    rcases h with h | h
    · rw [hnew] at h
      cases h
    · exact h haccepts
  · rename_i h
    obtain ⟨hnew, haccepts⟩ := not_or.1 h
    simp only [Bool.not_eq_true, Option.isSome_eq_false_iff, Option.isNone_iff_eq_none] at hnew
    simp only [hnew, not_not.1 haccepts, true_and, Except.ok.injEq, eq_comm]

/-- A value that stands on its own is given to the option that waits for it. -/
theorem read_pending (hv : IsLoose v) (hnew : g.get? s = none) (haccepts : s.accepts v = true) :
    g.read (some s) (v :: rest) = (g.set (some v) s).read none rest := by
  have hgive : g.give s v = .ok (g.set (some v) s) := give_eq_ok_iff.2 ⟨hnew, haccepts, rfl⟩
  simp only [Given.read, of_loose hv, hgive]

theorem read_name (s : Switch) : g.read none (("--" ++ s.name) :: rest) = g.read (some s) rest := by
  obtain ⟨hne, hname⟩ := name_plain s
  have htoken : Token.of ("--" ++ s.name) = .long s.name.toList none :=
    of_name (by rw [String.toList_append]; rfl) hne hname
  simp only [Given.read, htoken, Word.ofName?_name, Option.isSome_none, Given.take]
  rfl

theorem read_letter (hc : s.letter? = some c) :
    g.read none (("-" ++ String.ofList [c]) :: rest) = g.read (some s) rest := by
  have htoken : Token.of ("-" ++ String.ofList [c]) = .short c [] :=
    of_letter (by simp only [String.toList_append, String.toList_ofList]; rfl) (letter_ne hc)
  simp only [Given.read, htoken, Word.ofLetter?_letter hc, Option.isSome_none, Given.take, attached]
  rfl

/-- A value is given to the option that it is attached to. -/
theorem read_attached (ha : a.toList = '-' :: c :: cs) (hc : s.letter? = some c)
    (hattached : attached cs = some v.toList) (hnew : g.get? s = none) (haccepts : s.accepts v = true) :
    g.read none (a :: rest) = (g.set (some v) s).read none rest := by
  have hgive : g.give s v = .ok (g.set (some v) s) := give_eq_ok_iff.2 ⟨hnew, haccepts, rfl⟩
  simp only [Given.read, of_letter ha (letter_ne hc), Word.ofLetter?_letter hc, Option.isSome_none, Given.take,
    hattached, String.ofList_toList, hgive, Except.map]
  rfl

theorem read_joined (hnew : g.get? s = none) (haccepts : s.accepts v = true) :
    g.read none (("--" ++ s.name ++ "=" ++ v) :: rest) = (g.set (some v) s).read none rest := by
  have hgive : g.give s v = .ok (g.set (some v) s) := give_eq_ok_iff.2 ⟨hnew, haccepts, rfl⟩
  have htoken : Token.of ("--" ++ s.name ++ "=" ++ v) = .long s.name.toList (some v.toList) :=
    of_joined (by simp only [String.toList_append, List.append_assoc]; rfl) (name_plain s).2
  simp only [Given.read, htoken, Word.ofName?_name, Option.isSome_none, Given.take, String.ofList_toList, hgive,
    Except.map]
  rfl

/-- **An option is read as it is spelled.** -/
theorem read_option (htext : OptionText texts s v) (hnew : g.get? s = none) (haccepts : s.accepts v = true) :
    g.read none (texts ++ rest) = (g.set (some v) s).read none rest := by
  cases htext with
  | joined => exact read_joined hnew haccepts
  | apart _ hv =>
    rw [List.cons_append, List.singleton_append, read_name, read_pending hv hnew haccepts]
  | @letter _ c _ hc hne heq =>
    have hattached : attached v.toList = some v.toList := by
      unfold attached
      split
      · rename_i hnil
        exact absurd (String.toList_inj.1 hnil) hne
      · rename_i hcons
        rw [hcons] at heq
        exact absurd rfl heq
      · rfl
    refine read_attached ?_ hc hattached hnew haccepts
    simp only [String.toList_append, String.toList_ofList]
    rfl
  | letterJoined hc v =>
    have hattached : attached ('=' :: v.toList) = some v.toList := rfl
    refine read_attached ?_ hc hattached hnew haccepts
    simp only [String.toList_append, String.toList_ofList, List.append_assoc]
    rfl
  | letterApart hc hv =>
    rw [List.cons_append, List.singleton_append, read_letter hc, read_pending hv hnew haccepts]

/-- **A notice is read as it is asked for.** -/
theorem read_notice (h : NoticeText a n) : g.read none (a :: rest) = .error n := by
  have hletter : ∀ c cs, a.toList = '-' :: c :: cs → c ≠ '-' → Word.ofLetter? c = some (.notice n) →
      g.read none (a :: rest) = .error n := by
    intro c cs ha hc hword
    simp only [Given.read, of_letter ha hc, hword, Option.isSome_none, Given.take]
    rfl
  cases h with
  | help => rfl
  | version => rfl
  | helpLetter after =>
    exact hletter 'h' after.toList (by rw [String.toList_append]; rfl) (by decide) rfl
  | versionLetter after =>
    exact hletter 'V' after.toList (by rw [String.toList_append]; rfl) (by decide) rfl

theorem give_eq_error (h : g.give s v = .error n) : n = .usage := by
  unfold Given.give at h
  split at h
  · exact (Except.error.inj h).symm
  · cases h

/-- What a word does that stands on its own. -/
theorem take_eq_ok {word : Option Word} {value : Option (List Char)} {pending : Option Switch}
    (h : g.take word value = .ok (g', pending)) : ∃ s, word = some (.switch s) ∧
      ((value = none ∧ g' = g ∧ pending = some s) ∨
        ∃ cs, value = some cs ∧ g.give s (String.ofList cs) = .ok g' ∧ pending = none) := by
  unfold Given.take at h
  split at h
  · rename_i s cs
    cases hgive : g.give s (String.ofList cs) with
    | error n =>
      rw [hgive] at h
      cases h
    | ok next =>
      rw [hgive] at h
      obtain ⟨rfl, rfl⟩ := Prod.mk.inj (Except.ok.inj h)
      exact ⟨s, rfl, .inr ⟨cs, rfl, hgive, rfl⟩⟩
  · rename_i s
    obtain ⟨rfl, rfl⟩ := Prod.mk.inj (Except.ok.inj h)
    exact ⟨s, rfl, .inl ⟨rfl, rfl, rfl⟩⟩
  · cases h
  · cases h

/-- A word that stands on its own is refused, or it is a notice. -/
theorem take_eq_error {word : Option Word} {value : Option (List Char)} (h : g.take word value = .error n)
    (hn : n ≠ .usage) : word = some (.notice n) := by
  unfold Given.take at h
  split at h
  · rename_i s cs
    cases hgive : g.give s (String.ofList cs) with
    | error m =>
      rw [hgive] at h
      exact absurd ((Except.error.inj h).symm.trans (give_eq_error hgive)) hn
    | ok next =>
      rw [hgive] at h
      cases h
  · cases h
  · rw [Except.error.inj h]
  · exact absurd (Except.error.inj h).symm hn

/-- The argument is an option, alone or with a value. -/
structure Means (a : String) (word : Option Word) (value : Option (List Char)) : Prop where
  bare : ∀ s, word = some (.switch s) → value = none → ∀ v, IsLoose v → OptionText [a, v] s v
  joined : ∀ s cs, word = some (.switch s) → value = some cs → OptionText [a] s (String.ofList cs)

theorem means_of_name (ha : a.toList = '-' :: '-' :: name) : Means a (Word.ofName? name) none where
  bare s hword _ v hv := by
    have hname : a = "--" ++ s.name := by
      rw [← String.toList_inj, ha, name_of_ofName? hword, String.toList_append]
      rfl
    rw [hname]
    exact .apart s hv
  joined := nofun

theorem means_of_joined {value : List Char} (ha : a.toList = '-' :: '-' :: (name ++ '=' :: value)) :
    Means a (Word.ofName? name) (some value) where
  bare := nofun
  joined s cs hword heq := by
    obtain rfl := Option.some.inj heq
    have hname : a = "--" ++ s.name ++ "=" ++ String.ofList value := by
      rw [← String.toList_inj, ha, name_of_ofName? hword]
      simp only [String.toList_append, String.toList_ofList, List.append_assoc]
      rfl
    rw [hname]
    exact .joined s _

theorem means_of_letter (ha : a.toList = '-' :: c :: cs) : Means a (Word.ofLetter? c) (attached cs) where
  bare s hword hnone v hv := by
    unfold attached at hnone
    split at hnone
    · have hletter : a = "-" ++ String.ofList [c] := by
        rw [← String.toList_inj, ha]
        simp only [String.toList_append, String.toList_ofList]
        rfl
      rw [hletter]
      exact .letterApart (letter_of_ofLetter? hword) hv
    · cases hnone
    · cases hnone
  joined s value hword hsome := by
    have hc := letter_of_ofLetter? hword
    unfold attached at hsome
    split at hsome
    · cases hsome
    · rename_i value
      obtain rfl := Option.some.inj hsome
      have hletter : a = "-" ++ String.ofList [c] ++ "=" ++ String.ofList value := by
        rw [← String.toList_inj, ha]
        simp only [String.toList_append, String.toList_ofList, List.append_assoc]
        rfl
      rw [hletter]
      exact .letterJoined hc _
    · rename_i hne heq
      obtain rfl := Option.some.inj hsome
      have hletter : a = "-" ++ String.ofList [c] ++ String.ofList cs := by
        rw [← String.toList_inj, ha]
        simp only [String.toList_append, String.toList_ofList]
        rfl
      rw [hletter]
      refine .letter hc (fun hempty => hne ?_) ?_
      · rw [← String.toList_ofList (l := cs), hempty]
        rfl
      · rw [String.toList_ofList]
        cases cs with
        | nil => nofun
        | cons d ds =>
          rw [List.head?_cons]
          rintro ⟨⟩
          exact heq ds rfl

theorem means_of_long {value : Option (List Char)} (h : Argument a (.long name value)) :
    Means a (Word.ofName? name) value := by
  cases h with
  | name ha => exact means_of_name ha
  | joined ha => exact means_of_joined ha

/-- A relation between the options so far and the rest of a command line that holds where the reading ends with a
result, and that options carry along. -/
structure Given.Carried (P : Given → List String → Prop) (r : Except Notice Given) : Prop where
  done : ∀ g, .ok g = r → P g []
  stop : ∀ g, .ok g = r → P g ["--"]
  notice : ∀ g a n rest, NoticeText a n → .error n = r → P g (a :: rest)
  option : ∀ g texts rest s v, OptionText texts s v → g.get? s = none → s.accepts v = true →
    P (g.set (some v) s) rest → P g (texts ++ rest)

namespace Given.Carried

variable {P : Given → List String → Prop} {r : Except Notice Given}

/-- The relation after an option that waits for its value. -/
def After (P : Given → List String → Prop) (g : Given) (s : Switch) (arguments : List String) : Prop :=
  ∃ v rest, arguments = v :: rest ∧ IsLoose v ∧ g.get? s = none ∧ s.accepts v = true ∧ P (g.set (some v) s) rest

/-- The relation holds of all that is read with a result, whether or not an option waits for its value. -/
def Reads (P : Given → List String → Prop) (r : Except Notice Given) (arguments : List String) : Prop :=
  (∀ g : Given, g.read none arguments = r → P g arguments) ∧
    ∀ (g : Given) s, g.read (some s) arguments = r → After P g s arguments

theorem of_take (hP : Carried P r) {word : Option Word} {value : Option (List Char)} {pending : Option Switch}
    (hmeans : Means a word value) (htake : g.take word value = .ok (g', pending)) (hread : g'.read pending rest = r)
    (ih : Reads P r rest) : P g (a :: rest) := by
  obtain ⟨s, hword, ⟨hvalue, rfl, rfl⟩ | ⟨cs, hvalue, hgive, rfl⟩⟩ := take_eq_ok htake
  · obtain ⟨v, rest, rfl, hv, hnew, haccepts, hrest⟩ := ih.2 _ _ hread
    exact hP.option _ _ _ _ _ (hmeans.bare s hword hvalue v hv) hnew haccepts hrest
  · obtain ⟨hnew, haccepts, rfl⟩ := give_eq_ok_iff.1 hgive
    exact hP.option _ _ _ _ _ (hmeans.joined s cs hword hvalue) hnew haccepts (ih.1 _ hread)

theorem of_read_cons (hP : Carried P r) (hr : .error .usage ≠ r) (ih : Reads P r rest)
    (h : g.read none (a :: rest) = r) : P g (a :: rest) := by
  have ha := argument_of a
  unfold Given.read at h
  generalize Token.of a = token at ha h
  cases token with
  | stop =>
    cases ha
    simp only [Option.isSome_none, Bool.false_eq_true, false_or] at h
    split at h
    · exact absurd h hr
    · rename_i hrest
      obtain rfl := not_not.1 hrest
      exact hP.stop g h
  | plain => exact absurd h hr
  | long name value =>
    simp only at h
    split at h
    · exact absurd h hr
    · rename_i hbare
      simp only [Option.isSome_none, Bool.false_eq_true, if_false] at h
      split at h
      · rename_i n htake
        have hword := take_eq_error htake fun hn => hr (hn ▸ h)
        -- A long name asks for a notice only if no value is attached to it.
        cases ha with
        | name ha => exact hP.notice g a n rest (noticeText_of_name ha hword) h
        | joined => exact (hbare _ _ hword rfl).elim
      · rename_i htake
        exact hP.of_take (means_of_long ha) htake h ih
  | short c cs =>
    cases ha with
    | letter ha =>
      simp only [Option.isSome_none, Bool.false_eq_true, if_false] at h
      split at h
      · rename_i n htake
        exact hP.notice g a n rest (noticeText_of_letter ha (take_eq_error htake fun hn => hr (hn ▸ h))) h
      · rename_i htake
        exact hP.of_take (means_of_letter ha) htake h ih

theorem after_of_read_cons (hr : .error .usage ≠ r) (ih : Reads P r rest) (h : g.read (some s) (a :: rest) = r) :
    After P g s (a :: rest) := by
  have ha := argument_of a
  unfold Given.read at h
  generalize Token.of a = token at ha h
  cases token with
  | stop => exact absurd h hr
  | short => exact absurd h hr
  | long =>
    simp only [Option.isSome_some] at h
    split at h
    · exact absurd h hr
    · exact absurd h hr
  | plain =>
    cases ha with
    | loose hv =>
      simp only at h
      split at h
      · rename_i n hgive
        exact absurd (give_eq_error hgive ▸ h) hr
      · rename_i next hgive
        obtain ⟨hnew, haccepts, rfl⟩ := give_eq_ok_iff.1 hgive
        exact ⟨a, rest, rfl, hv, hnew, haccepts, ih.1 _ h⟩

theorem reads (hP : Carried P r) (hr : .error .usage ≠ r) (arguments : List String) : Reads P r arguments := by
  induction arguments with
  | nil => exact ⟨fun g h => hP.done g h, fun g s h => absurd h hr⟩
  | cons a rest ih => exact ⟨fun _ => hP.of_read_cons hr ih, fun _ _ => after_of_read_cons hr ih⟩

/-- **What options carry along holds of every command line that is read with the result.** -/
theorem of_read (hP : Carried P r) (hr : .error .usage ≠ r) (h : g.read none arguments = r) : P g arguments :=
  (hP.reads hr arguments).1 g h

end Given.Carried

theorem carried_spelled (g' : Given) : Given.Carried (fun g arguments => g.Spelled arguments g') (.ok g') where
  done g h := Except.ok.inj h ▸ .done g
  stop g h := Except.ok.inj h ▸ .stop g
  notice _ _ _ _ _ h := nomatch h
  option _ _ _ _ _ htext hnew haccepts hrest := .option htext hnew haccepts hrest

theorem carried_interrupted (n : Notice) :
    Given.Carried (fun g arguments => g.Interrupted arguments n) (.error n) where
  done _ h := nomatch h
  stop _ h := nomatch h
  notice g _ _ rest htext h := .notice g (Except.error.inj h ▸ htext) rest
  option _ _ _ _ _ htext hnew haccepts hrest := .option htext hnew haccepts hrest

/-- **What is read of a command line is what it spells.** -/
theorem read_eq_ok_iff : g.read none arguments = .ok g' ↔ g.Spelled arguments g' := by
  constructor
  · exact (carried_spelled g').of_read nofun
  · intro h
    induction h with
    | done g => rfl
    | stop g => rfl
    | option htext hnew haccepts _ ih => rw [read_option htext hnew haccepts, ih]

/-- **A notice is read where one is asked for.** -/
theorem read_eq_error_iff (hn : n ≠ .usage) : g.read none arguments = .error n ↔ g.Interrupted arguments n := by
  constructor
  · exact (carried_interrupted n).of_read fun h => hn (Except.error.inj h).symm
  · intro h
    induction h with
    | notice g h rest => exact read_notice h
    | option htext hnew haccepts _ ih => rw [read_option htext hnew haccepts, ih hn]

end Recital
