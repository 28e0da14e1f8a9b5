import Recital.Proofs.Startup.Priority

/-!
# Why a start gets no arguments

Its command line asks for a notice, or else something is wrong with it or with a variable.

* `arguments_eq_notice_iff` : a notice is shown where the command line asks for one, whatever the variables are.
* `arguments_eq_usage_iff` : arguments that are neither spelled out nor ask for a notice are wrong.
-/

set_option autoImplicit false

namespace Recital

variable {g : Given} {s : Switch} {n : Notice} {arguments : List String} {environment : Environment}

theorem complete_eq_error (h : g.complete environment s = .error n) : n = .usage := by
  unfold Given.complete at h
  split at h
  · exact give_eq_error h
  · cases h

/-- Once the command line has been read, variables ask for nothing but correction. -/
theorem arguments_eq_error (hread : Given.read {} none arguments = .ok g)
    (h : Arguments.read arguments environment = .error n) : n = .usage := by
  have hbind : ∀ {g : Given} {s : Switch} {f : Given → Except Notice Arguments},
      (∀ g', f g' = .error n → n = .usage) → (g.complete environment s >>= f) = .error n → n = .usage := by
    intro g s f hf h
    cases hcomplete : g.complete environment s with
    | error m =>
      rw [hcomplete] at h
      obtain rfl := Except.error.inj h
      exact complete_eq_error hcomplete
    | ok g' =>
      rw [hcomplete] at h
      exact hf g' h
  unfold Arguments.read at h
  rw [hread] at h
  refine hbind (fun _ => hbind fun _ => hbind fun _ => hbind fun _ h => ?_) h
  cases h

/-- **A start ends with a notice if its command line asks for one**, whatever the variables are. -/
theorem arguments_eq_notice_iff (hn : n ≠ .usage) :
    Arguments.read arguments environment = .error n ↔ Given.Interrupted {} arguments n := by
  rw [← read_eq_error_iff hn]
  constructor
  · intro h
    cases hread : Given.read {} none arguments with
    | ok g => exact absurd (arguments_eq_error hread h) hn
    | error m =>
      unfold Arguments.read at h
      rw [hread] at h
      rw [Except.error.inj h]
  · intro hread
    unfold Arguments.read
    rw [hread]
    rfl

/-- **The arguments of a start are wrong if they are not spelled out or do not fit**, and ask for no notice. -/
theorem arguments_eq_usage_iff : Arguments.read arguments environment = .error .usage ↔
    (¬ ∃ line, Given.Spelled {} arguments line ∧ environment.Fits line) ∧ ¬ ∃ n, Given.Interrupted {} arguments n := by
  cases hread : Arguments.read arguments environment with
  | ok a =>
    obtain ⟨line, hline, hfits, -⟩ := arguments_eq_ok_iff.1 hread
    refine ⟨nofun, fun h => absurd ⟨line, hline, hfits⟩ h.1⟩
  | error m =>
    constructor
    · intro h
      rw [Except.error.inj h] at hread
      constructor
      · rintro ⟨line, hline, hfits⟩
        rw [arguments_eq_ok_iff.2 ⟨line, hline, hfits, rfl⟩] at hread
        cases hread
      · rintro ⟨n, hnotice⟩
        rw [(arguments_eq_notice_iff hnotice.ne_usage).2 hnotice] at hread
        exact hnotice.ne_usage (Except.error.inj hread)
    · rintro ⟨-, hnone⟩
      by_cases hm : m = .usage
      · rw [hm]
      · exact absurd ⟨m, (arguments_eq_notice_iff hm).1 hread⟩ hnone

end Recital
