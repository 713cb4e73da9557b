import Mathlib.Data.List.Induction
import Mathlib.Order.Monotone.Basic
import Mathlib.Data.Nat.Basic
import ObjectConsole.Server.Serve

/-!
# Which way the life of a server goes

The states of a server come in an order, from its start to its stop. Nothing keeps the order: a
state is stored without a look at the one before, so being told to become ready reopens a server
that drains, and being told to drain revives one that has stopped. These are the only ways back, and
the first is the only one that makes a server accept requests again (`Lifecycle.forward_iff`).

A wait for the guards is not one act but a series of looks, so that anything may be done between two
of them. Only a look that finds no guard does something. A wait as a whole is such looks with the
releases between them (`exists_acts_of_wait`), and serving is two acts and a wait
(`exists_acts_of_serve`).
-/

namespace ObjectConsole.Server

/-! ## The order of the states -/

/-- How many states come before one. -/
def Health.rank : Health → Nat
  | starting => 0
  | ready => 1
  | draining => 2
  | stopped => 3

instance : Preorder Health :=
  Preorder.lift Health.rank

instance (health health' : Health) : Decidable (health ≤ health') :=
  inferInstanceAs (Decidable (health.rank ≤ health'.rank))

theorem Health.le_stopped (health : Health) : health ≤ .stopped := by
  cases health <;> decide

namespace Lifecycle

/-! ## Acts -/

/-- What can be done to a server without being interrupted. -/
inductive Act where
  | setReady
  | beginDraining
  | takeGuard
  | releaseGuard
  /-- A wait looks at the number of guards. -/
  | look
  deriving DecidableEq, Repr

/-- The server after a look of a wait, which is the last look if there are no guards. -/
def look (lifecycle : Lifecycle) : Lifecycle :=
  if lifecycle.inFlight = 0 then lifecycle.stop else lifecycle

/-- The server after an act. -/
def perform (lifecycle : Lifecycle) : Act → Lifecycle
  | .setReady => lifecycle.setReady
  | .beginDraining => lifecycle.beginDraining
  | .takeGuard => lifecycle.takeGuard
  | .releaseGuard => lifecycle.releaseGuard
  | .look => lifecycle.look

/-- The server after some acts. -/
def after (lifecycle : Lifecycle) (acts : List Act) : Lifecycle :=
  acts.foldl perform lifecycle

@[simp] theorem after_nil (lifecycle : Lifecycle) : lifecycle.after [] = lifecycle := rfl

@[simp] theorem after_cons (lifecycle : Lifecycle) (act : Act) (acts : List Act) :
    lifecycle.after (act :: acts) = (lifecycle.perform act).after acts := rfl

theorem after_append (lifecycle : Lifecycle) (acts acts' : List Act) :
    lifecycle.after (acts ++ acts') = (lifecycle.after acts).after acts' :=
  List.foldl_append

/-- An act that a server in this state was not to be told of any more. -/
def Act.Late (health : Health) : Act → Prop
  | setReady => health = .draining ∨ health = .stopped
  | beginDraining => health = .stopped
  | _ => False

/-! ## One act -/

/-- The late acts are those that lead back. -/
theorem health_le_perform_iff {lifecycle : Lifecycle} {act : Act} :
    lifecycle.health ≤ (lifecycle.perform act).health ↔ ¬act.Late lifecycle.health := by
  obtain ⟨health, inFlight⟩ := lifecycle
  cases act with
  | setReady | beginDraining =>
    simp only [perform, setReady, beginDraining, Act.Late]
    cases health <;> decide
  | takeGuard | releaseGuard => exact iff_of_true le_rfl id
  | look =>
    refine iff_of_true ?_ id
    rw [perform, look]
    split
    · exact Health.le_stopped health
    · exact le_rfl

theorem accepting_perform_iff {lifecycle : Lifecycle} {act : Act} (h : ¬lifecycle.Accepting) :
    (lifecycle.perform act).Accepting ↔ act = .setReady := by
  cases act with
  | setReady => exact iff_of_true (.inr rfl) rfl
  | beginDraining => exact iff_of_false (by simp [perform, beginDraining, Accepting]) nofun
  | takeGuard | releaseGuard => exact iff_of_false h nofun
  | look =>
    refine iff_of_false ?_ nofun
    rw [perform, look]
    split
    · simp [stop, Accepting]
    · exact h

/-! ## Many acts -/

/-- What each act keeps is kept from any moment to any later one. -/
theorem forall_later_iff {R : Lifecycle → Lifecycle → Prop} (hrefl : ∀ a, R a a)
    (htrans : ∀ {a b c}, R a b → R b c → R a c) {lifecycle : Lifecycle} {acts : List Act} :
    (∀ before between rest, acts = before ++ between ++ rest →
        R (lifecycle.after before) (lifecycle.after (before ++ between))) ↔
      ∀ before act rest, acts = before ++ act :: rest →
        R (lifecycle.after before) ((lifecycle.after before).perform act) := by
  constructor
  · intro h before act rest hacts
    have hlater := h before [act] rest (by rw [hacts, List.append_assoc, List.singleton_append])
    rwa [after_append] at hlater
  · intro h before between
    induction between using List.reverseRecOn with
    | nil =>
      intro rest _
      rw [List.append_nil]
      exact hrefl _
    | append_singleton between act ih =>
      intro rest hacts
      have hbetween := ih (act :: rest) (by rw [hacts]; simp)
      have hact := h (before ++ between) act rest (by rw [hacts]; simp)
      rw [← List.append_assoc, after_append]
      exact htrans hbetween hact

/-- **Which way the life of a server goes.** It never goes back exactly if the server is not told to
become ready while it drains or has stopped, and not told to drain once it has stopped. Having
ceased to accept requests, it does not accept them again exactly if it is not told to become ready
by then. -/
theorem forward_iff (lifecycle : Lifecycle) (acts : List Act) :
    ((∀ before between rest, acts = before ++ between ++ rest →
        (lifecycle.after before).health ≤ (lifecycle.after (before ++ between)).health) ↔
      ∀ before act rest, acts = before ++ act :: rest →
        ¬act.Late (lifecycle.after before).health) ∧
    ((∀ before between rest, acts = before ++ between ++ rest →
        ¬(lifecycle.after before).Accepting → ¬(lifecycle.after (before ++ between)).Accepting) ↔
      ∀ before rest, acts = before ++ .setReady :: rest → (lifecycle.after before).Accepting) := by
  constructor
  · rw [forall_later_iff (R := fun a b ↦ a.health ≤ b.health) (fun _ ↦ le_rfl) le_trans]
    simp only [health_le_perform_iff]
  · rw [forall_later_iff (R := fun a b ↦ ¬a.Accepting → ¬b.Accepting) (fun _ h ↦ h)
      (fun hab hbc h ↦ hbc (hab h))]
    constructor
    · intro h before rest hacts
      by_contra hclosed
      exact h before .setReady rest hacts hclosed ((accepting_perform_iff hclosed).mpr rfl)
    · intro h before act rest hacts hclosed hopen
      cases (accepting_perform_iff hclosed).mp hopen
      exact hclosed (h before rest hacts)

/-- A server that drains is told to become ready. -/
theorem reopened_of_setReady :
    let drains : Lifecycle := after {} [.beginDraining]
    let reopened : Lifecycle := after {} ([.beginDraining] ++ [.setReady])
    drains.health = .draining ∧ reopened.health = .ready ∧ ¬drains.health ≤ reopened.health ∧
      ¬drains.Accepting ∧ reopened.Accepting := by
  decide

/-! ## Waiting and serving -/

/-- The acts of a wait. -/
def Act.OfWait : Act → Prop
  | releaseGuard | look => True
  | _ => False

theorem Act.ofWait_replicate_append {acts : List Act} (h : ∀ act ∈ acts, act.OfWait)
    (count : Nat) : ∀ act ∈ List.replicate count .releaseGuard ++ acts, act.OfWait := by
  intro act hact
  rcases List.mem_append.mp hact with hrelease | hact
  · rw [List.eq_of_mem_replicate hrelease]
    trivial
  · exact h act hact

theorem after_replicate_releaseGuard (lifecycle : Lifecycle) (count : Nat) :
    lifecycle.after (.replicate count .releaseGuard) =
      { lifecycle with inFlight := lifecycle.inFlight - count } := by
  induction count generalizing lifecycle with
  | zero => rfl
  | succ count ih =>
    rw [List.replicate_succ, after_cons, ih, perform, releaseGuard, Nat.sub_sub, Nat.add_comm 1]

/-- The rest of a wait is looks and releases, on any schedule on which guards only go. -/
theorem exists_acts_of_waitFrom {guards : Nat → Nat} (hguards : Antitone guards)
    (lifecycle : Lifecycle) (timeout elapsed : Nat) :
    ∃ acts, (∀ act ∈ acts, act.OfWait) ∧
      after { lifecycle with inFlight := guards elapsed } acts =
        afterWait { lifecycle with inFlight := guards (waitFrom guards timeout elapsed).elapsed }
          (waitFrom guards timeout elapsed) := by
  fun_induction waitFrom guards timeout elapsed with
  | case1 elapsed hnone =>
    refine ⟨[.look], by simp [Act.OfWait], ?_⟩
    rw [after_cons, perform, look, if_pos hnone]
    rfl
  | case2 elapsed hsome hlate => exact ⟨[], by simp, rfl⟩
  | case3 elapsed hsome hearly ih =>
    obtain ⟨acts, hacts, hafter⟩ := ih
    have hless : guards (elapsed + pollInterval) ≤ guards elapsed :=
      hguards (Nat.le_add_right elapsed pollInterval)
    let released := guards elapsed - guards (elapsed + pollInterval)
    refine ⟨.look :: (.replicate released .releaseGuard ++ acts), ?_, ?_⟩
    · exact List.forall_mem_cons.mpr ⟨trivial, Act.ofWait_replicate_append hacts released⟩
    · rw [after_cons, perform, look, if_neg hsome, after_append, after_replicate_releaseGuard,
        Nat.sub_sub_self hless]
      exact hafter

end Lifecycle

theorem Timeline.antitone_guardsAhead (timeline : Timeline) : Antitone timeline.guardsAhead := by
  intro ahead ahead' hle
  refine Nat.sub_le_sub_left ?_ _
  rw [← List.countP_eq_length_filter, ← List.countP_eq_length_filter]
  refine List.countP_mono_left fun release _ hrelease ↦ ?_
  have hdue : release < timeline.clock + ahead := of_decide_eq_true hrelease
  exact decide_eq_true (by omega)

/-- A wait is looks and releases, after those that were due when it began. -/
theorem exists_acts_of_wait (timeline : Timeline) (timeout : Nat) :
    ∃ acts, (∀ act ∈ acts, act.OfWait) ∧
      (timeline.waitForDrain timeout).2.lifecycle = timeline.lifecycle.after acts := by
  obtain ⟨acts, hacts, hafter⟩ :=
    Lifecycle.exists_acts_of_waitFrom timeline.antitone_guardsAhead timeline.lifecycle timeout 0
  let due := (timeline.releases.filter (· < timeline.clock + 0)).length
  refine ⟨.replicate due .releaseGuard ++ acts,
    Lifecycle.Act.ofWait_replicate_append hacts due, ?_⟩
  rw [Lifecycle.after_append, Lifecycle.after_replicate_releaseGuard]
  exact hafter.symm

theorem exists_acts_of_serve {drainTimeout : Nat} {lifecycle lifecycle' : Lifecycle}
    (h : serve true drainTimeout lifecycle = .ok lifecycle') :
    ∃ acts, (∀ act ∈ acts, act.OfWait) ∧
      lifecycle' = lifecycle.after (.setReady :: .beginDraining :: acts) := by
  cases h
  obtain ⟨acts, hacts, hafter⟩ :=
    Lifecycle.exists_acts_of_waitFrom (antitone_const (c := lifecycle.inFlight))
      lifecycle.setReady.beginDraining drainTimeout 0
  exact ⟨acts, hacts, hafter.symm⟩

end ObjectConsole.Server
