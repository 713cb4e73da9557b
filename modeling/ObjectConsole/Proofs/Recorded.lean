import Mathlib.Data.List.Basic

/-!
# What happened, in order

Systems are described by their steps, and a step puts at most one thing on record. The record is all
that a statement about a run has to mention: what is on it happened at one point of the run, with
the record before that point and the record behind it (`Recorded.exists_step`).
-/

namespace ObjectConsole

variable {σ ε : Type}

/-- What comes about from a state by steps, with the record of them. -/
inductive Recorded (Step : σ → List ε → σ → Prop) (start : σ) : List ε → σ → Prop
  | refl : Recorded Step start [] start
  | step {past new : List ε} {state state' : σ} (h : Recorded Step start past state)
      (hstep : Step state new state') : Recorded Step start (past ++ new) state'

/-- Where a list grows by one element at most, an element of it is the last or was there before. -/
theorem append_eq_append_cons_cases {α : Type} {past new before after : List α} {x : α}
    (hnew : new = [] ∨ ∃ y, new = [y]) (h : past ++ new = before ++ x :: after) :
    (∃ rest, after = rest ++ new ∧ past = before ++ x :: rest) ∨
      past = before ∧ new = [x] ∧ after = [] := by
  rcases hnew with rfl | ⟨y, rfl⟩
  · rw [List.append_nil] at h
    exact .inl ⟨after, (List.append_nil after).symm, h⟩
  · rcases List.eq_nil_or_concat after with rfl | ⟨rest, _, rfl⟩
    · obtain ⟨hpast, hnew⟩ := List.append_inj' h rfl
      exact .inr ⟨hpast, hnew, rfl⟩
    · rw [List.concat_eq_append, ← List.cons_append, ← List.append_assoc] at h
      obtain ⟨hpast, hnew⟩ := List.append_inj' h rfl
      rw [List.concat_eq_append, hnew]
      exact .inl ⟨rest, rfl, hpast⟩

namespace Recorded

variable {Step : σ → List ε → σ → Prop} {start state state' : σ} {past new : List ε}

theorem single (hstep : Step state new state') : Recorded Step state new state' :=
  refl.step hstep

theorem trans (h : Recorded Step start past state) (h' : Recorded Step state new state') :
    Recorded Step start (past ++ new) state' := by
  induction h' with
  | refl => rwa [List.append_nil]
  | step _ hstep ih =>
    rw [← List.append_assoc]
    exact ih.step hstep

theorem mono {Step' : σ → List ε → σ → Prop}
    (hle : ∀ {state new state'}, Step state new state' → Step' state new state')
    (h : Recorded Step start past state) : Recorded Step' start past state := by
  induction h with
  | refl => exact .refl
  | step _ hstep ih => exact ih.step (hle hstep)

/-- Whatever is on record happened, with the rest of the record before it and behind it. -/
theorem exists_step
    (hone : ∀ {state new state'}, Step state new state' → new = [] ∨ ∃ entry, new = [entry])
    (h : Recorded Step start past state) {before after : List ε} {entry : ε}
    (hpast : past = before ++ entry :: after) :
    ∃ earlier later, Recorded Step start before earlier ∧ Step earlier [entry] later ∧
      Recorded Step later after state := by
  induction h generalizing after with
  | refl => simp at hpast
  | @step past new state state' hrun hstep ih =>
    rcases append_eq_append_cons_cases (hone hstep) hpast with ⟨rest, rfl, hrest⟩ | ⟨rfl, rfl, rfl⟩
    · obtain ⟨earlier, later, hearlier, hentry, hlater⟩ := ih hrest
      exact ⟨earlier, later, hearlier, hentry, hlater.step hstep⟩
    · exact ⟨state, state', hrun, hstep, refl⟩

end Recorded

end ObjectConsole
