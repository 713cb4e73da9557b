import ObjectConsole.Proofs.Console.Effect
import ObjectConsole.Proofs.Recorded
import ObjectConsole.Proofs.Server.Lifecycle

/-!
# Draining while requests come in

A handler does four things for a request: it reads whether the server accepts requests, takes a
guard, has the console reply, and releases the guard. Undisturbed they make up one answer
(`Traffic.exists_recorded_of_askConsole`), but handlers work side by side, and a server may begin to
drain, and wait for the guards, between any two of these steps.

The guards are counted right, so a wait that finds none may trust that no handler holds one
(`Traffic.known_of_recorded`). It may not trust that none will: between its reading and its guard a
handler is nowhere counted. If the server began to drain in just that moment, the handler goes on,
and takes its guard and runs its request on a server that has drained. These are all the handlers
that do (`Traffic.active_after_drained_iff`).
-/

namespace ObjectConsole.Server

/-! ## Handlers and steps -/

/-- How far a handler has come with its request. -/
inductive Stage where
  /-- It has read that the server accepts requests. -/
  | admitted
  /-- It holds a guard. -/
  | guarded
  /-- The console has replied, and it still holds the guard. -/
  | served
  | left
  deriving DecidableEq, Repr

namespace Stage

/-- How many steps of a handler are behind it. -/
def rank : Stage → Nat
  | admitted => 0
  | guarded => 1
  | served => 2
  | left => 3

/-- Whether a handler holds a guard. -/
def holds : Stage → Bool
  | guarded | served => true
  | admitted | left => false

end Stage

/-- A handler and the request it was called with. -/
structure Handler where
  moment : Moment
  path : String
  query : Option String
  stage : Stage := .admitted

/-- A server, its handlers in the order of admission, and whether a wait has found no guards. -/
structure Traffic where
  state : State := {}
  handlers : List Handler := []
  found : Bool := false

/-- What is recorded of the traffic. Handlers go by their place. -/
inductive Event where
  | admitted (k : Nat)
  | guarded (k : Nat)
  | ran (k : Nat)
  | released (k : Nat)
  | beganDraining
  | foundNone
  | drained
  deriving DecidableEq, Repr

/-- What a handler does without being interrupted, once it is admitted. -/
inductive Handler.Move (console : Console) (handler : Handler) (k : Nat) (state : State) :
    Stage → Event → Stage → State → Prop
  | guard : Move console handler k state .admitted (.guarded k) .guarded
      { state with lifecycle := state.lifecycle.takeGuard }
  | run : Move console handler k state .guarded (.ran k) .served
      { state with
        world := (console.handle handler.moment handler.path handler.query state.world).2
        jobs := state.jobs + 1 }
  | release : Move console handler k state .served (.released k) .left
      { state with lifecycle := state.lifecycle.releaseGuard }

namespace Traffic

/-- The traffic when a handler has come further and the state has changed. -/
def advance (traffic : Traffic) (k : Nat) (handler : Handler) (stage : Stage) (state : State) :
    Traffic :=
  { traffic with state, handlers := traffic.handlers.set k { handler with stage } }

/-- One step of the traffic, with what is recorded of it. A wait looks at the guards, and returns at
some time after it found none; a look that finds some changes nothing. -/
inductive Does (console : Console) (traffic : Traffic) : List Event → Traffic → Prop
  | enter (moment : Moment) (path : String) (query : Option String)
      (haccepting : traffic.state.lifecycle.Accepting) :
      Does console traffic [.admitted traffic.handlers.length]
        { traffic with handlers := traffic.handlers ++ [{ moment, path, query }] }
  | refuse (haccepting : ¬traffic.state.lifecycle.Accepting) : Does console traffic [] traffic
  | move {k : Nat} {handler : Handler} {event : Event} {stage : Stage} {state : State}
      (hhandler : traffic.handlers[k]? = some handler)
      (hmove : handler.Move console k traffic.state handler.stage event stage state) :
      Does console traffic [event] (traffic.advance k handler stage state)
  | beginDraining : Does console traffic [.beganDraining]
      { traffic with
        state := { traffic.state with lifecycle := traffic.state.lifecycle.beginDraining } }
  | look (hsome : traffic.state.lifecycle.inFlight ≠ 0) : Does console traffic [] traffic
  | find (hnone : traffic.state.lifecycle.inFlight = 0) :
      Does console traffic [.foundNone] { traffic with found := true }
  | drain (hfound : traffic.found = true) : Does console traffic [.drained]
      { traffic with state := { traffic.state with lifecycle := traffic.state.lifecycle.stop } }

/-- How far a handler has come. -/
def stage? (traffic : Traffic) (k : Nat) : Option Stage :=
  traffic.handlers[k]?.map Handler.stage

variable {console : Console} {start traffic traffic' : Traffic} {events past : List Event}

theorem stage?_advance {k : Nat} {handler : Handler} (h : traffic.handlers[k]? = some handler)
    (stage : Stage) (state : State) (j : Nat) :
    (traffic.advance k handler stage state).stage? j =
      if j = k then some stage else traffic.stage? j := by
  obtain ⟨hlt, -⟩ := List.getElem?_eq_some_iff.mp h
  rw [stage?, advance, stage?, List.getElem?_set]
  split_ifs with hk hj
  · rfl
  · exact absurd hk.symm hj
  · exact absurd ‹j = k›.symm hk
  · rfl

theorem getElem?_advance_self {k : Nat} {handler : Handler}
    (h : traffic.handlers[k]? = some handler)
    (stage : Stage) (state : State) :
    (traffic.advance k handler stage state).handlers[k]? = some { handler with stage } := by
  obtain ⟨hlt, -⟩ := List.getElem?_eq_some_iff.mp h
  rw [advance, List.getElem?_set_self hlt]

theorem stage?_enter (handler : Handler) (k : Nat) :
    { traffic with handlers := traffic.handlers ++ [handler] }.stage? k =
      if k = traffic.handlers.length then some handler.stage else traffic.stage? k := by
  rw [stage?, stage?, List.getElem?_append]
  split_ifs with hlt hk hk
  · exact absurd hlt (Nat.not_lt_of_le (Nat.le_of_eq hk.symm))
  · rfl
  · rw [hk, Nat.sub_self]
    rfl
  · have hle : traffic.handlers.length + 1 ≤ k := by omega
    rw [List.getElem?_eq_none (by simpa using by omega), List.getElem?_eq_none (by omega)]

theorem stage?_eq_none_iff {k : Nat} : traffic.stage? k = none ↔ traffic.handlers.length ≤ k := by
  rw [stage?, Option.map_eq_none_iff, List.getElem?_eq_none_iff]

end Traffic

/-! ## One step -/

namespace Handler.Move

variable {console : Console} {handler : Handler} {k : Nat} {state state' : State}
  {stage stage' : Stage} {event : Event}

theorem rank_eq (h : handler.Move console k state stage event stage' state') :
    stage'.rank = stage.rank + 1 := by
  cases h <;> rfl

theorem health_eq (h : handler.Move console k state stage event stage' state') :
    state'.lifecycle.health = state.lifecycle.health := by
  cases h <;> rfl

/-- The guards are taken and released as the handler comes to hold one and ceases to. -/
theorem inFlight_eq (h : handler.Move console k state stage event stage' state')
    (hheld : (if stage.holds = true then 1 else 0) ≤ state.lifecycle.inFlight) :
    state'.lifecycle.inFlight = state.lifecycle.inFlight - (if stage.holds = true then 1 else 0) +
      if stage'.holds = true then 1 else 0 := by
  cases h with
  | guard => rfl
  | run => exact (Nat.sub_add_cancel hheld).symm
  | release => rfl

theorem event_eq_guarded_iff (h : handler.Move console k state stage event stage' state')
    {j : Nat} :
    event = .guarded j ↔ j = k ∧ stage = .admitted := by
  cases h <;> simp [eq_comm]

theorem of_ran {j : Nat} (h : handler.Move console k state stage (.ran j) stage' state') :
    j = k ∧ stage = .guarded := by
  cases h with
  | run => exact ⟨rfl, rfl⟩

theorem event_mem (h : handler.Move console k state stage event stage' state') :
    event ∈ [.guarded k, .ran k, .released k] := by
  cases h <;> simp

end Handler.Move

namespace Traffic

variable {console : Console} {start traffic traffic' : Traffic} {events past : List Event}

namespace Does

section Moves

variable {k : Nat} {handler : Handler} (hhandler : traffic.handlers[k]? = some handler)
include hhandler

theorem guard (hstage : handler.stage = .admitted) : Does console traffic [.guarded k]
    (traffic.advance k handler .guarded
      { traffic.state with lifecycle := traffic.state.lifecycle.takeGuard }) := by
  refine .move hhandler ?_
  rw [hstage]
  exact .guard

theorem run (hstage : handler.stage = .guarded) : Does console traffic [.ran k]
    (traffic.advance k handler .served
      { traffic.state with
        world := (console.handle handler.moment handler.path handler.query traffic.state.world).2
        jobs := traffic.state.jobs + 1 }) := by
  refine .move hhandler ?_
  rw [hstage]
  exact .run

theorem release (hstage : handler.stage = .served) : Does console traffic [.released k]
    (traffic.advance k handler .left
      { traffic.state with lifecycle := traffic.state.lifecycle.releaseGuard }) := by
  refine .move hhandler ?_
  rw [hstage]
  exact .release

end Moves

theorem events_eq (h : Does console traffic events traffic') :
    events = [] ∨ ∃ event, events = [event] := by
  cases h <;> simp

/-- Nothing that is done here makes a server accept requests again. -/
theorem not_accepting (h : Does console traffic events traffic')
    (hclosed : ¬traffic.state.lifecycle.Accepting) : ¬traffic'.state.lifecycle.Accepting := by
  cases h with
  | enter moment path query haccepting => exact absurd haccepting hclosed
  | refuse haccepting => exact haccepting
  | move hhandler hmove =>
    rw [Lifecycle.Accepting] at hclosed ⊢
    rwa [advance, hmove.health_eq]
  | beginDraining => simp [Lifecycle.beginDraining, Lifecycle.Accepting]
  | look hsome => exact hclosed
  | find hnone => exact hclosed
  | drain hfound => simp [Lifecycle.stop, Lifecycle.Accepting]

theorem not_accepting_of_beganDraining (h : Does console traffic events traffic')
    (hdraining : .beganDraining ∈ events) : ¬traffic'.state.lifecycle.Accepting := by
  cases h with
  | beginDraining => simp [Lifecycle.beginDraining, Lifecycle.Accepting]
  | move hhandler hmove =>
    have hevent := hmove.event_mem
    rw [← List.mem_singleton.mp hdraining] at hevent
    simp at hevent
  | enter | find | drain => simp at hdraining
  | refuse | look => cases hdraining

/-- A handler is where it was or further on, unless it has just been admitted. -/
theorem exists_stage? (h : Does console traffic events traffic') {k : Nat} {stage : Stage}
    (hstage : traffic'.stage? k = some stage) :
    (.admitted k ∈ events ∧ stage = .admitted) ∨
      ∃ before, traffic.stage? k = some before ∧ before.rank ≤ stage.rank := by
  cases h with
  | enter moment path query haccepting =>
    rw [stage?_enter] at hstage
    split_ifs at hstage with hk
    · cases hstage
      exact .inl ⟨by rw [hk]; exact List.mem_singleton_self _, rfl⟩
    · exact .inr ⟨stage, hstage, le_rfl⟩
  | @move j handler event after state hhandler hmove =>
    rw [stage?_advance hhandler] at hstage
    refine .inr ?_
    split_ifs at hstage with hk
    · cases hstage
      refine ⟨handler.stage, by rw [stage?, hk, hhandler]; rfl, ?_⟩
      rw [hmove.rank_eq]
      exact Nat.le_succ _
    · exact ⟨stage, hstage, le_rfl⟩
  | refuse | look | find | beginDraining | drain => exact .inr ⟨stage, hstage, le_rfl⟩

theorem admitted_notMem (h : Does console traffic events traffic')
    (hclosed : ¬traffic.state.lifecycle.Accepting) (k : Nat) : .admitted k ∉ events := by
  cases h with
  | enter moment path query haccepting => exact absurd haccepting hclosed
  | move hhandler hmove =>
    intro hadmitted
    have hevent := hmove.event_mem
    rw [← List.mem_singleton.mp hadmitted] at hevent
    simp at hevent
  | refuse | look => exact List.not_mem_nil
  | find | beginDraining | drain => simp

/-- What a handler is recorded to do it does from the stage before. -/
theorem stage?_of_guarded {k : Nat} (h : Does console traffic [.guarded k] traffic') :
    traffic.stage? k = some .admitted := by
  cases h with
  | @move j handler event stage state hhandler hmove =>
    obtain ⟨rfl, hstage⟩ := hmove.event_eq_guarded_iff.mp rfl
    rw [stage?, hhandler, Option.map_some, hstage]

theorem stage?_of_ran {k : Nat} (h : Does console traffic [.ran k] traffic') :
    traffic.stage? k = some .guarded := by
  cases h with
  | @move j handler event stage state hhandler hmove =>
    obtain ⟨rfl, hstage⟩ := hmove.of_ran
    rw [stage?, hhandler, Option.map_some, hstage]

/-- A wait finds no guards only if there are none, and nothing changes by that. -/
theorem of_foundNone (h : Does console traffic [.foundNone] traffic') :
    traffic.state.lifecycle.inFlight = 0 ∧ traffic' = { traffic with found := true } := by
  cases h with
  | find hnone => exact ⟨hnone, rfl⟩
  | move hhandler hmove => simpa using hmove.event_mem

end Does

/-! ## What is known of the handlers -/

/-- The guards are those of the handlers, and the record tells which handlers there are and which of
them have come to their guard. -/
structure Known (past : List Event) (traffic : Traffic) : Prop where
  inFlight_eq : traffic.state.lifecycle.inFlight =
    traffic.handlers.countP fun handler ↦ handler.stage.holds
  admitted_iff : ∀ k, .admitted k ∈ past ↔ (traffic.stage? k).isSome
  guarded_iff : ∀ k, .guarded k ∈ past ↔ ∃ stage ∈ traffic.stage? k, stage ≠ .admitted

namespace Known

theorem enter (h : Known past traffic) (moment : Moment) (path : String) (query : Option String) :
    Known (past ++ [.admitted traffic.handlers.length])
      { traffic with handlers := traffic.handlers ++ [{ moment, path, query }] } where
  inFlight_eq := by
    rw [List.countP_append]
    exact h.inFlight_eq
  admitted_iff k := by
    rw [stage?_enter, List.mem_append, h.admitted_iff]
    split_ifs with hk <;> simp [hk]
  guarded_iff k := by
    rw [stage?_enter, List.mem_append, h.guarded_iff]
    split_ifs with hk
    · have hnone := stage?_eq_none_iff.mpr (Nat.le_of_eq hk.symm)
      simp [hnone]
    · simp

theorem advance {k : Nat} {handler : Handler} {event : Event} {stage : Stage} {state : State}
    (h : Known past traffic) (hhandler : traffic.handlers[k]? = some handler)
    (hmove : handler.Move console k traffic.state handler.stage event stage state) :
    Known (past ++ [event]) (traffic.advance k handler stage state) where
  inFlight_eq := by
    -- the handler that moves was counted once at most, and is counted again if it holds a guard now
    obtain ⟨hlt, rfl⟩ := List.getElem?_eq_some_iff.mp hhandler
    rw [Traffic.advance, List.countP_set hlt, ← h.inFlight_eq]
    refine hmove.inFlight_eq ?_
    have hle := List.boole_getElem_le_countP (p := fun handler : Handler ↦ handler.stage.holds) hlt
    rw [h.inFlight_eq]
    exact hle
  admitted_iff j := by
    have hne : Event.admitted j ≠ event := by
      rintro rfl
      simpa using hmove.event_mem
    rw [stage?_advance hhandler, List.mem_append, h.admitted_iff]
    split_ifs with hj
    · simp [stage?, hj, hhandler]
    · simp [hne]
  guarded_iff j := by
    have hstage : traffic.stage? k = some handler.stage := by rw [stage?, hhandler]; rfl
    have hevent : Event.guarded j ∈ [event] ↔ j = k ∧ handler.stage = .admitted := by
      rw [List.mem_singleton, eq_comm]
      exact hmove.event_eq_guarded_iff
    have hmoved : stage ≠ .admitted := by
      rintro rfl
      exact absurd hmove.rank_eq.symm (Nat.succ_ne_zero _)
    rw [stage?_advance hhandler, List.mem_append, h.guarded_iff, hevent]
    split_ifs with hj
    · refine iff_of_true ?_ ⟨stage, rfl, hmoved⟩
      by_cases hbefore : handler.stage = .admitted
      · exact .inr ⟨hj, hbefore⟩
      · exact .inl ⟨handler.stage, hj ▸ hstage, hbefore⟩
    · simp [hj]

end Known

theorem known_of_recorded (hempty : start.handlers = [])
    (hnone : start.state.lifecycle.inFlight = 0)
    (h : Recorded (Does console) start past traffic) : Known past traffic := by
  -- only entering and moving touch the handlers or the guards, and both are on record
  induction h with
  | refl =>
    refine ⟨by rw [hnone, hempty]; rfl, fun k ↦ ?_, fun k ↦ ?_⟩
    · simp [stage?, hempty]
    · simp [stage?, hempty]
  | step _ hdoes ih =>
    cases hdoes with
    | enter moment path query haccepting => exact ih.enter moment path query
    | move hhandler hmove => exact ih.advance hhandler hmove
    | refuse | look => rw [List.append_nil]; exact ih
    | find | beginDraining | drain =>
      refine ⟨ih.inFlight_eq, fun k ↦ ?_, fun k ↦ ?_⟩
      · rw [List.mem_append, ih.admitted_iff]
        simp [stage?]
      · rw [List.mem_append, ih.guarded_iff]
        simp [stage?]

/-! ## A closed server -/

theorem not_accepting_of_recorded (h : Recorded (Does console) traffic past traffic')
    (hclosed : ¬traffic.state.lifecycle.Accepting) : ¬traffic'.state.lifecycle.Accepting := by
  induction h with
  | refl => exact hclosed
  | step _ hdoes ih => exact hdoes.not_accepting ih

theorem admitted_notMem_of_recorded (h : Recorded (Does console) traffic past traffic')
    (hclosed : ¬traffic.state.lifecycle.Accepting) (k : Nat) : .admitted k ∉ past := by
  induction h with
  | refl => exact List.not_mem_nil
  | step hrun hdoes ih =>
    rw [List.mem_append, not_or]
    exact ⟨ih, hdoes.admitted_notMem (not_accepting_of_recorded hrun hclosed) k⟩

/-- A server that does not accept requests gets no new handlers, and those it has never go back. -/
theorem exists_stage?_of_recorded (h : Recorded (Does console) traffic past traffic')
    (hclosed : ¬traffic.state.lifecycle.Accepting) {k : Nat} {stage : Stage}
    (hstage : traffic'.stage? k = some stage) :
    ∃ before, traffic.stage? k = some before ∧ before.rank ≤ stage.rank := by
  induction h generalizing stage with
  | refl => exact ⟨stage, hstage, le_rfl⟩
  | step hrun hdoes ih =>
    rcases hdoes.exists_stage? hstage with ⟨hadmitted, -⟩ | ⟨middle, hmiddle, hle⟩
    · exact absurd hadmitted (hdoes.admitted_notMem (not_accepting_of_recorded hrun hclosed) k)
    · obtain ⟨before, hbefore, hle'⟩ := ih hmiddle
      exact ⟨before, hbefore, hle'.trans hle⟩

/-- A handler that takes a guard or runs its request after some point of a run, or holds a guard at
the end of it. -/
def Active (after : List Event) (traffic : Traffic) (k : Nat) : Prop :=
  .guarded k ∈ after ∨ .ran k ∈ after ∨ ∃ stage ∈ traffic.stage? k, stage.holds = true

/-- When no handler holds a guard any more, only those between their check and their guard become
active. -/
theorem stage?_of_active (h : Recorded (Does console) traffic past traffic')
    (hclosed : ¬traffic.state.lifecycle.Accepting)
    (hfree : ∀ k, ∀ stage ∈ traffic.stage? k, stage.holds = false) {k : Nat}
    (hactive : Active past traffic' k) : traffic.stage? k = some .admitted := by
  -- whatever a handler does now, it had not come further than that before
  have hbefore {state : Traffic} {stage : Stage} {earlier : List Event}
      (hrun : Recorded (Does console) traffic earlier state) (hstage : state.stage? k = some stage)
      (hrank : stage.rank ≤ 2) : traffic.stage? k = some .admitted := by
    obtain ⟨before, hbefore, hle⟩ := exists_stage?_of_recorded hrun hclosed hstage
    have hholds := hfree k before hbefore
    cases before with
    | admitted => exact hbefore
    | guarded | served => cases hholds
    | left => exact absurd (hle.trans hrank) (by decide)
  rcases hactive with hguarded | hran | ⟨stage, hstage, hholds⟩
  · obtain ⟨earlier, later, rfl⟩ := List.append_of_mem hguarded
    obtain ⟨middle, _, hrun, hdoes, -⟩ := h.exists_step Does.events_eq rfl
    exact hbefore hrun hdoes.stage?_of_guarded (by decide)
  · obtain ⟨earlier, later, rfl⟩ := List.append_of_mem hran
    obtain ⟨middle, _, hrun, hdoes, -⟩ := h.exists_step Does.events_eq rfl
    exact hbefore hrun hdoes.stage?_of_ran (by decide)
  · refine hbefore h hstage ?_
    cases stage with
    | guarded | served => decide
    | admitted | left => cases hholds

/-! ## Whole answers and looks -/

/-- An answer is what a handler does when it is not disturbed. -/
theorem exists_recorded_of_askConsole {moment : Moment} {request : HttpRequest} {path : String}
    {query : Option String} (hreads : request.Reads)
    (haccepting : traffic.state.lifecycle.Accepting) :
    let k := traffic.handlers.length
    ∃ traffic', Recorded (Does console) traffic [.admitted k, .guarded k, .ran k, .released k]
        traffic' ∧
      traffic'.state = (askConsole console moment request path query traffic.state).2 := by
  intro k
  have hadmitted : Recorded (Does console) traffic [.admitted k] _ :=
    .single (.enter moment path query haccepting)
  have hguarded := hadmitted.step (.guard (List.getElem?_concat_length ..) rfl)
  have hran := hguarded.step (.run (getElem?_advance_self (List.getElem?_concat_length ..) _ _) rfl)
  have hreleased := hran.step (.release (getElem?_advance_self
    (getElem?_advance_self (List.getElem?_concat_length ..) _ _) _ _) rfl)
  refine ⟨_, hreleased, ?_⟩
  rw [askConsole, if_neg (not_not.mpr hreads), if_neg (not_not.mpr haccepting)]
  rfl

/-- A look that ends a wait is one that finds no guards, and the return upon it. -/
theorem exists_recorded_of_look (hnone : traffic.state.lifecycle.inFlight = 0) :
    ∃ traffic', Recorded (Does console) traffic [.foundNone, .drained] traffic' ∧
      traffic'.state.lifecycle = traffic.state.lifecycle.look := by
  have hfound : Recorded (Does console) traffic [.foundNone] _ := .single (.find hnone)
  refine ⟨_, hfound.step (.drain rfl), ?_⟩
  rw [Lifecycle.look, if_pos hnone]

/-! ## Draining -/

/-- A handler that was admitted before the server began to drain, and has not come to its guard. -/
def Slips (before : List Event) (k : Nat) : Prop :=
  .guarded k ∉ before ∧
    ∃ early late, before = early ++ .beganDraining :: late ∧ .admitted k ∈ early

theorem not_accepting_of_draining (h : Recorded (Does console) start past traffic)
    {early late : List Event} (hpast : past = early ++ .beganDraining :: late) :
    ¬traffic.state.lifecycle.Accepting ∧ ∀ k, .admitted k ∉ late := by
  obtain ⟨earlier, later, -, hdoes, hrun⟩ := h.exists_step Does.events_eq hpast
  have hclosed := hdoes.not_accepting_of_beganDraining (List.mem_singleton_self _)
  exact ⟨not_accepting_of_recorded hrun hclosed, admitted_notMem_of_recorded hrun hclosed⟩

theorem slips_iff (hempty : start.handlers = []) (hnone : start.state.lifecycle.inFlight = 0)
    (h : Recorded (Does console) start past traffic) (hdraining : .beganDraining ∈ past) {k : Nat} :
    Slips past k ↔ traffic.stage? k = some .admitted := by
  have hknown := known_of_recorded hempty hnone h
  rw [Slips, hknown.guarded_iff]
  constructor
  · rintro ⟨hguarded, early, late, rfl, hadmitted⟩
    have hsome := (hknown.admitted_iff k).mp (List.mem_append_left _ hadmitted)
    obtain ⟨stage, hstage⟩ := Option.isSome_iff_exists.mp hsome
    rw [hstage, Option.some.injEq]
    by_contra hne
    exact hguarded ⟨stage, hstage, hne⟩
  · intro hstage
    obtain ⟨early, late, hpast⟩ := List.append_of_mem hdraining
    have hadmitted : .admitted k ∈ past := (hknown.admitted_iff k).mpr (by rw [hstage]; rfl)
    refine ⟨?_, early, late, hpast, ?_⟩
    · rw [hstage]
      rintro ⟨stage, ⟨⟩, hne⟩
      exact hne rfl
    · rw [hpast, List.mem_append, List.mem_cons] at hadmitted
      rcases hadmitted with hearly | hdraining | hlate
      · exact hearly
      · cases hdraining
      · exact absurd hlate ((not_accepting_of_draining h hpast).2 k)

/-- A handler between its check and its guard can go on when a wait has returned, and its request is
run. -/
theorem exists_recorded_of_admitted (hfound : traffic.found = true) {k : Nat} {handler : Handler}
    (hhandler : traffic.handlers[k]? = some handler) (hstage : handler.stage = .admitted) :
    ∃ traffic', Recorded (Does console) traffic [.drained, .guarded k, .ran k] traffic' ∧
      traffic'.state.lifecycle = traffic.state.lifecycle.stop.takeGuard ∧
      traffic'.state.world =
        (console.handle handler.moment handler.path handler.query traffic.state.world).2 := by
  have hdrained : Recorded (Does console) traffic [.drained] _ := .single (.drain hfound)
  have hguarded := hdrained.step (.guard hhandler hstage)
  have hran := hguarded.step (.run (getElem?_advance_self hhandler _ _) rfl)
  exact ⟨_, hran, rfl, rfl⟩

/-- **Who is active on a server that has drained.** A wait that finds no guards after the server has
begun to drain is right about that: no handler holds one. Once it has returned, a handler holds a
guard, takes one, or runs its request, exactly if it may have slipped through: it was admitted
before the server began to drain, and had not taken its guard when the wait looked. -/
theorem active_after_drained_iff (hempty : start.handlers = [])
    (hnone : start.state.lifecycle.inFlight = 0) {before : List Event}
    (h : Recorded (Does console) start before traffic) (hdraining : .beganDraining ∈ before)
    {found : Traffic} (hfound : Does console traffic [.foundNone] found) :
    (∀ handler ∈ found.handlers, handler.stage.holds = false) ∧
      ∀ k, (∃ between after traffic',
          Recorded (Does console) found (between ++ .drained :: after) traffic' ∧
            Active after traffic' k) ↔
        Slips before k := by
  obtain ⟨hzero, rfl⟩ := hfound.of_foundNone
  have hhandlers : ∀ handler ∈ traffic.handlers, handler.stage.holds = false := by
    have hcount := (known_of_recorded hempty hnone h).inFlight_eq
    rw [hzero, eq_comm, List.countP_eq_zero] at hcount
    simpa using hcount
  obtain ⟨early, late, hpast⟩ := List.append_of_mem hdraining
  have hclosed := (not_accepting_of_draining h hpast).1
  refine ⟨hhandlers, fun k ↦ ?_⟩
  rw [slips_iff hempty hnone h hdraining]
  constructor
  · rintro ⟨between, after, traffic', hrun, hactive⟩
    have hfree : ∀ k, ∀ stage ∈ traffic.stage? k, stage.holds = false := by
      intro k stage hstage
      obtain ⟨handler, hhandler, rfl⟩ := Option.map_eq_some_iff.mp hstage
      exact hhandlers handler (List.mem_of_getElem? hhandler)
    have hlater {event : Event} (hmem : event ∈ after) : event ∈ between ++ .drained :: after :=
      List.mem_append_right _ (List.mem_cons_of_mem _ hmem)
    exact stage?_of_active hrun hclosed hfree (hactive.imp hlater (Or.imp_left hlater))
  · intro hstage
    obtain ⟨handler, hhandler, hadmitted⟩ := Option.map_eq_some_iff.mp hstage
    have hfound : { traffic with found := true }.found = true := rfl
    obtain ⟨traffic', hrun, -⟩ := exists_recorded_of_admitted hfound hhandler hadmitted
    exact ⟨[], [.guarded k, .ran k], traffic', hrun, .inl List.mem_cons_self⟩

/-- A server that is ready. -/
def opened : Traffic where
  state := { lifecycle := { health := .ready } }

/-- A server that drains while a handler is between its check and its guard. -/
def slipping : Traffic where
  state := { lifecycle := { health := .draining } }
  handlers := [{ moment := ⟨5, 0, ⟨0, none⟩⟩, path := "/T/f", query := some "call" }]

theorem recorded_slipping (console : Console) :
    Recorded (Does console) opened [.admitted 0, .beganDraining] slipping := by
  have hadmitted : Recorded (Does console) opened [.admitted 0] _ :=
    .single (.enter ⟨5, 0, ⟨0, none⟩⟩ "/T/f" (some "call") (by decide))
  exact hadmitted.step .beginDraining

/-- The handler that has not come to its guard is the one to become active, and no other. -/
theorem active_after_drained_iff_slipping :
    let console := Console.returning (.bool true)
    ∀ k, (∃ between after traffic', Recorded (Does console) { slipping with found := true }
        (between ++ .drained :: after) traffic' ∧ Active after traffic' k) ↔
      Slips [.admitted 0, .beganDraining] k := by
  intro console
  have hfound : Does console slipping [.foundNone] { slipping with found := true } := .find rfl
  exact (active_after_drained_iff rfl rfl (recorded_slipping console) (by simp) hfound).2

/-- It runs its request on a server that has drained, and the value it returns is registered. -/
theorem active_after_drained :
    let console := Console.returning (.bool true)
    Recorded (Does console) opened [.admitted 0, .beganDraining] slipping ∧
      Does console slipping [.foundNone] { slipping with found := true } ∧
      ∃ traffic', Recorded (Does console) { slipping with found := true }
          [.drained, .guarded 0, .ran 0] traffic' ∧
        Active [.guarded 0, .ran 0] traffic' 0 ∧
        traffic'.state.lifecycle = { health := .stopped, inFlight := 1 } ∧
        traffic'.state.world.registry.find? (console.identifier 0) = some (.bool true) := by
  intro console
  have hfound : { slipping with found := true }.found = true := rfl
  have hhandler : { slipping with found := true }.handlers[0]? = some _ := rfl
  obtain ⟨traffic', hrun, hlifecycle, hworld⟩ := exists_recorded_of_admitted hfound hhandler rfl
  refine ⟨recorded_slipping console, .find rfl, traffic', hrun, .inl (by simp), ?_, ?_⟩
  · rw [hlifecycle]
    rfl
  · rw [hworld]
    decide +kernel

end Traffic

end ObjectConsole.Server
