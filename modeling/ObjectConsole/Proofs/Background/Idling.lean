import ObjectConsole.Proofs.Background.Discipline

/-!
# When a worker is idle

At any one time, the loop of a worker takes branches that are ready, in any order (`Turn`). It is
idle when none is ready: nothing waits, the next tick is not due, and nobody told it to stop
(`idle_iff`). It gets there whichever branches it takes, since each turn leaves less to do
(`length_add_pending_le`). Settling is one way to get there (`idle_settle`).
-/

namespace ObjectConsole.Background

variable {τ σ : Type} {hooks : Hooks τ σ} {now : Nat} {worker worker' : Worker τ} {world : σ}
  {state state' : Worker τ × σ} {past new : List (Event τ)}

/-- Whether the tick hook was called. -/
def Event.isTicked : Event τ → Bool
  | ticked => true
  | _ => false

/-! ## Branches that are not ready -/

namespace Worker

theorem runNext?_eq_none_iff : worker.runNext? hooks world = none ↔
    (worker.loop = .running → worker.waiting = []) := by
  rw [Option.eq_none_iff_forall_ne_some]
  constructor
  · intro h hloop
    by_contra hsome
    obtain ⟨task, rest, hwaiting⟩ := List.exists_cons_of_ne_nil hsome
    exact h _ (runNext?_eq_some_iff.mpr ⟨hloop, task, rest, hwaiting, rfl⟩)
  · intro h state hstate
    obtain ⟨hloop, task, rest, hwaiting, -⟩ := runNext?_eq_some_iff.mp hstate
    rw [h hloop] at hwaiting
    cases hwaiting

theorem tick?_eq_none_iff : worker.tick? hooks now world = none ↔
    (worker.loop = .running → now < worker.dueAt worker.ticks) := by
  rw [Option.eq_none_iff_forall_ne_some]
  constructor
  · exact fun h hloop ↦ Nat.lt_of_not_le fun hdue ↦ h _ (tick?_eq_some_iff.mpr ⟨hloop, hdue, rfl⟩)
  · intro h state hstate
    obtain ⟨hloop, hdue, -⟩ := tick?_eq_some_iff.mp hstate
    exact Nat.not_lt.mpr hdue (h hloop)

theorem heed?_eq_none_iff : worker.heed? hooks world = none ↔
    (worker.loop = .running → worker.signalled = false) := by
  simp [heed?]

theorem drain?_eq_none_iff : worker.drain? hooks world = none ↔
    (worker.loop = .running → worker.waiting = [] → worker.closed = false) := by
  cases hclosed : worker.closed <;> simp [drain?, hclosed]

end Worker

/-! ## Turns of the loop -/

/-- The loop takes a branch that is ready at a time. -/
inductive Turn (hooks : Hooks τ σ) (now : Nat) (state : Worker τ × σ) :
    List (Event τ) → Worker τ × σ → Prop
  | run {task : τ} {state' : Worker τ × σ} (hhead : state.1.waiting.head? = some task)
      (h : state.1.runNext? hooks state.2 = some state') : Turn hooks now state [.ran task] state'
  | tick {state' : Worker τ × σ} (h : state.1.tick? hooks now state.2 = some state') :
      Turn hooks now state [.ticked] state'
  | heed {state' : Worker τ × σ} (h : state.1.heed? hooks state.2 = some state') :
      Turn hooks now state [.shutDown] state'
  | drain {state' : Worker τ × σ} (h : state.1.drain? hooks state.2 = some state') :
      Turn hooks now state [.shutDown] state'

/-- No branch of the loop is ready. -/
def Idle (hooks : Hooks τ σ) (now : Nat) (state : Worker τ × σ) : Prop :=
  ∀ new state', ¬Turn hooks now state new state'

theorem Turn.step (h : Turn hooks now state new state') : Step hooks state new state' := by
  cases h with
  | run hhead h => exact .run hhead h
  | tick h => exact .tick h
  | heed h => exact .heed h
  | drain h => exact .drain h

theorem idle_iff_eq_none : Idle hooks now state ↔
    state.1.runNext? hooks state.2 = none ∧ state.1.tick? hooks now state.2 = none ∧
      state.1.heed? hooks state.2 = none ∧ state.1.drain? hooks state.2 = none := by
  constructor
  · intro hidle
    refine ⟨?_, ?_, ?_, ?_⟩ <;> refine Option.eq_none_iff_forall_ne_some.mpr fun state' h ↦ ?_
    · obtain ⟨-, task, rest, hwaiting, -⟩ := Worker.runNext?_eq_some_iff.mp h
      exact hidle _ _ (.run (by rw [hwaiting, List.head?_cons]) h)
    · exact hidle _ _ (.tick h)
    · exact hidle _ _ (.heed h)
    · exact hidle _ _ (.drain h)
  · rintro ⟨hrun, htick, hheed, hdrain⟩ new state' hturn
    cases hturn with
    | run _ h => exact Option.some_ne_none _ (h.symm.trans hrun)
    | tick h => exact Option.some_ne_none _ (h.symm.trans htick)
    | heed h => exact Option.some_ne_none _ (h.symm.trans hheed)
    | drain h => exact Option.some_ne_none _ (h.symm.trans hdrain)

theorem idle_iff : Idle hooks now state ↔ (state.1.loop = .running →
    state.1.waiting = [] ∧ now < state.1.dueAt state.1.ticks ∧ state.1.signalled = false ∧
      state.1.closed = false) := by
  rw [idle_iff_eq_none, Worker.runNext?_eq_none_iff, Worker.tick?_eq_none_iff,
    Worker.heed?_eq_none_iff, Worker.drain?_eq_none_iff]
  constructor
  · rintro ⟨hrun, htick, hheed, hdrain⟩ hloop
    exact ⟨hrun hloop, htick hloop, hheed hloop, hdrain hloop (hrun hloop)⟩
  · exact fun h ↦ ⟨fun hloop ↦ (h hloop).1, fun hloop ↦ (h hloop).2.1,
      fun hloop ↦ (h hloop).2.2.1, fun hloop _ ↦ (h hloop).2.2.2⟩

theorem idle_start {interval origin : Nat} (hinterval : 0 < interval) :
    Idle hooks origin (.start interval origin, world) := by
  refine idle_iff.mpr fun _ ↦ ⟨rfl, ?_, rfl, rfl⟩
  change origin < origin + (0 + 1) * interval
  rw [Nat.zero_add, Nat.one_mul]
  exact Nat.lt_add_of_pos_right hinterval

theorem idle_of_loop_ne (hloop : state.1.loop ≠ .running) : Idle hooks now state :=
  idle_iff.mpr fun hrunning ↦ absurd hrunning hloop

/-! ## Due ticks -/

namespace Worker

/-- How many ticks are due by a time, from the start. -/
def dueBy (now : Nat) (worker : Worker τ) : Nat :=
  (now - worker.origin) / worker.interval

/-- A tick is due when there are more due ticks than its number. -/
theorem dueAt_le_iff (hinterval : 0 < worker.interval) {number : Nat} :
    worker.dueAt number ≤ now ↔ number < worker.dueBy now := by
  rw [dueAt, dueBy, ← Nat.succ_le_iff, Nat.le_div_iff_mul_le hinterval, Nat.succ_eq_add_one]
  have hpos : 0 < (number + 1) * worker.interval := Nat.mul_pos number.succ_pos hinterval
  omega

theorem dueBy_le_dueBy {now' : Nat} (hle : now ≤ now') (worker : Worker τ) :
    worker.dueBy now ≤ worker.dueBy now' :=
  Nat.div_le_div_right (Nat.sub_le_sub_right hle _)

/-- A bound on the turns that the loop can take at a time, the last of which is its end. -/
def pending (now : Nat) (worker : Worker τ) : Nat :=
  if worker.loop = .running then worker.waiting.length + (worker.dueBy now - worker.ticks) + 1
  else 0

theorem loop_finish_ne (hooks : Hooks τ σ) (worker : Worker τ) (world : σ) :
    (worker.finish hooks world).1.loop ≠ .running := by
  rw [finish]
  split <;> exact Loop.noConfusion

end Worker

/-! ## What a turn does to the worker -/

/-- The turns of a worker without its world. Any hook may panic. -/
inductive Advances (now : Nat) (worker : Worker τ) : List (Event τ) → Worker τ → Prop
  | run {task : τ} {rest : List τ} (hloop : worker.loop = .running)
      (hwaiting : worker.waiting = task :: rest) :
      Advances now worker [.ran task] { worker with waiting := rest }
  | tick (hloop : worker.loop = .running) (hdue : worker.dueAt worker.ticks ≤ now) :
      Advances now worker [.ticked] { worker with ticks := worker.ticks + 1 }
  | finish (hloop : worker.loop = .running)
      (htold : worker.signalled = true ∨ worker.closed = true) :
      Advances now worker [.shutDown] (worker.ended .finished)
  | crash {event : Event τ} (hloop : worker.loop = .running)
      (hdue : event.isTicked → worker.dueAt worker.ticks ≤ now) :
      Advances now worker [event] (worker.ended .crashed)

theorem Advances.of_finish (hooks : Hooks τ σ) (world : σ) (hloop : worker.loop = .running)
    (htold : worker.signalled = true ∨ worker.closed = true) :
    Advances now worker [.shutDown] (worker.finish hooks world).1 := by
  rw [Worker.finish]
  cases hooks.shutdown world with
  | none => exact .crash hloop Bool.noConfusion
  | some world => exact .finish hloop htold

theorem Turn.advances (h : Turn hooks now state new state') :
    Advances now state.1 new state'.1 := by
  cases h with
  | run hhead h =>
    obtain ⟨hloop, task, rest, hwaiting, rfl⟩ := Worker.runNext?_eq_some_iff.mp h
    rw [hwaiting, List.head?_cons, Option.some.injEq] at hhead
    subst hhead
    cases hooks.run task state.2 with
    | none => exact .crash hloop Bool.noConfusion
    | some world => exact .run hloop hwaiting
  | tick h =>
    obtain ⟨hloop, hdue, rfl⟩ := Worker.tick?_eq_some_iff.mp h
    cases hooks.tick state.2 with
    | none => exact .crash hloop fun _ ↦ hdue
    | some world => exact .tick hloop hdue
  | heed h =>
    obtain ⟨hloop, hsignalled, rfl⟩ := Worker.heed?_eq_some_iff.mp h
    exact .of_finish hooks state.2 hloop (.inl hsignalled)
  | drain h =>
    obtain ⟨hloop, hclosed, -, rfl⟩ := Worker.drain?_eq_some_iff.mp h
    exact .of_finish hooks state.2 hloop (.inr hclosed)

namespace Advances

variable (h : Advances now worker new worker')
include h

theorem times_eq : worker'.interval = worker.interval ∧ worker'.origin = worker.origin := by
  cases h <;> exact ⟨rfl, rfl⟩

theorem length_eq : new.length = 1 := by
  cases h <;> rfl

theorem pending_lt (hinterval : 0 < worker.interval) :
    worker'.pending now < worker.pending now := by
  cases h with
  | @run task rest hloop hwaiting =>
    calc
      _ = rest.length + (worker.dueBy now - worker.ticks) + 1 := if_pos hloop
      _ < worker.pending now := by
        rw [Worker.pending, if_pos hloop, hwaiting, List.length_cons]
        omega
  | tick hloop hdue =>
    have hlt := (Worker.dueAt_le_iff hinterval).mp hdue
    calc
      _ = worker.waiting.length + (worker.dueBy now - (worker.ticks + 1)) + 1 := if_pos hloop
      _ < worker.pending now := by
        rw [Worker.pending, if_pos hloop]
        omega
  | finish hloop _ | crash hloop _ =>
    calc
      _ = 0 := if_neg nofun
      _ < worker.pending now := by
        rw [Worker.pending, if_pos hloop]
        exact Nat.succ_pos _

end Advances

theorem times_eq_of_recorded (h : Recorded (Turn hooks now) state new state') :
    state'.1.interval = state.1.interval ∧ state'.1.origin = state.1.origin := by
  induction h with
  | refl => exact ⟨rfl, rfl⟩
  | step _ hturn ih =>
    obtain ⟨hinterval, horigin⟩ := hturn.advances.times_eq
    exact ⟨hinterval.trans ih.1, horigin.trans ih.2⟩

/-- A loop can only turn so often, whichever branches it takes. -/
theorem length_add_pending_le (hinterval : 0 < state.1.interval)
    (h : Recorded (Turn hooks now) state new state') :
    new.length + state'.1.pending now ≤ state.1.pending now := by
  induction h with
  | refl => rw [List.length_nil, Nat.zero_add]
  | step hturns hturn ih =>
    rw [← (times_eq_of_recorded hturns).1] at hinterval
    have hlt := hturn.advances.pending_lt hinterval
    rw [List.length_append, hturn.advances.length_eq]
    omega

/-! ## The run that does all it can -/

theorem exists_recorded_runWaiting (hooks : Hooks τ σ) (now bound : Nat) (worker : Worker τ)
    (world : σ) :
    ∃ new, Recorded (Turn hooks now) (worker, world) new
      (worker.runWaiting hooks bound world) := by
  induction bound generalizing worker world with
  | zero => exact ⟨[], .refl⟩
  | succ bound ih =>
    rw [Worker.runWaiting]
    cases hrun : worker.runNext? hooks world with
    | none => exact ⟨[], .refl⟩
    | some state =>
      obtain ⟨-, task, rest, hwaiting, -⟩ := Worker.runNext?_eq_some_iff.mp hrun
      have hhead : worker.waiting.head? = some task := by rw [hwaiting, List.head?_cons]
      obtain ⟨new, hnew⟩ := ih state.1 state.2
      exact ⟨_, (Recorded.single (.run hhead hrun)).trans hnew⟩

theorem exists_recorded_catchUp (hooks : Hooks τ σ) (now bound : Nat) (worker : Worker τ)
    (world : σ) :
    ∃ new, Recorded (Turn hooks now) (worker, world) new
      (worker.catchUp hooks now bound world) := by
  induction bound generalizing worker world with
  | zero => exact ⟨[], .refl⟩
  | succ bound ih =>
    rw [Worker.catchUp]
    cases htick : worker.tick? hooks now world with
    | none => exact ⟨[], .refl⟩
    | some state =>
      obtain ⟨new, hnew⟩ := ih state.1 state.2
      exact ⟨_, (Recorded.single (.tick htick)).trans hnew⟩

/-- Settling takes turns like any other run. -/
theorem exists_recorded_settle (hooks : Hooks τ σ) (now : Nat) (worker : Worker τ) (world : σ) :
    ∃ new, Recorded (Turn hooks now) (worker, world) new (worker.settle hooks now world) := by
  obtain ⟨ran, hran⟩ := exists_recorded_runWaiting hooks now worker.waiting.length worker world
  rw [Worker.settle]
  generalize worker.runWaiting hooks worker.waiting.length world = afterRuns at hran ⊢
  obtain ⟨ticks, hticks⟩ := exists_recorded_catchUp hooks now
    ((now - worker.origin) / worker.interval) afterRuns.1 afterRuns.2
  generalize afterRuns.1.catchUp hooks now _ afterRuns.2 = afterTicks at hticks ⊢
  have hboth := hran.trans hticks
  cases hheed : afterTicks.1.heed? hooks afterTicks.2 with
  | some state => exact ⟨_, hboth.step (.heed hheed)⟩
  | none =>
    cases hdrain : afterTicks.1.drain? hooks afterTicks.2 with
    | some state => exact ⟨_, hboth.step (.drain hdrain)⟩
    | none => exact ⟨_, hboth⟩

/-- Nothing waits behind as many runs as there were tasks. -/
theorem runNext?_runWaiting (hooks : Hooks τ σ) {bound : Nat}
    (hbound : worker.waiting.length ≤ bound) (world : σ) :
    let ran := worker.runWaiting hooks bound world
    ran.1.runNext? hooks ran.2 = none := by
  induction bound generalizing worker world with
  | zero =>
    exact Worker.runNext?_eq_none_iff.mpr fun _ ↦
      List.eq_nil_of_length_eq_zero (Nat.le_zero.mp hbound)
  | succ bound ih =>
    rw [Worker.runWaiting]
    cases hrun : worker.runNext? hooks world with
    | none => exact hrun
    | some state =>
      refine ih ?_ state.2
      obtain ⟨-, task, rest, hwaiting, rfl⟩ := Worker.runNext?_eq_some_iff.mp hrun
      rw [hwaiting, List.length_cons] at hbound
      cases hooks.run task world with
      | none => exact Nat.zero_le _
      | some world => exact Nat.le_of_succ_le_succ hbound

/-- No tick is due behind as many ticks as there were. -/
theorem tick?_catchUp (hooks : Hooks τ σ) {bound : Nat} (hinterval : 0 < worker.interval)
    (hbound : worker.loop = .running → worker.dueBy now ≤ worker.ticks + bound) (world : σ) :
    let ticked := worker.catchUp hooks now bound world
    ticked.1.tick? hooks now ticked.2 = none := by
  induction bound generalizing worker world with
  | zero =>
    refine Worker.tick?_eq_none_iff.mpr fun hloop ↦ Nat.lt_of_not_le fun hdue ↦ ?_
    exact Nat.not_lt.mpr (hbound hloop) ((Worker.dueAt_le_iff hinterval).mp hdue)
  | succ bound ih =>
    rw [Worker.catchUp]
    cases htick : worker.tick? hooks now world with
    | none => exact htick
    | some state =>
      have hturn : Turn hooks now (worker, world) [.ticked] state := .tick htick
      rw [← hturn.advances.times_eq.1] at hinterval
      refine ih hinterval ?_ state.2
      obtain ⟨hrunning, -, rfl⟩ := Worker.tick?_eq_some_iff.mp htick
      cases hooks.tick world with
      | none => exact nofun
      | some world =>
        exact fun _ ↦ (hbound hrunning).trans_eq (Nat.add_right_comm worker.ticks bound 1)

/-- Ticks do not bring any tasks. -/
theorem runNext?_catchUp (hooks : Hooks τ σ) (now bound : Nat)
    (h : worker.runNext? hooks world = none) :
    let ticked := worker.catchUp hooks now bound world
    ticked.1.runNext? hooks ticked.2 = none := by
  induction bound generalizing worker world with
  | zero => exact h
  | succ bound ih =>
    rw [Worker.catchUp]
    cases htick : worker.tick? hooks now world with
    | none => exact h
    | some state =>
      refine ih (Worker.runNext?_eq_none_iff.mpr fun _ ↦ ?_)
      obtain ⟨hrunning, -, rfl⟩ := Worker.tick?_eq_some_iff.mp htick
      have hwaiting : worker.waiting = [] := Worker.runNext?_eq_none_iff.mp h hrunning
      cases hooks.tick world with
      | none => rfl
      | some world => exact hwaiting

/-- Settling leaves a worker idle. -/
theorem idle_settle (hinterval : 0 < worker.interval) :
    Idle hooks now (worker.settle hooks now world) := by
  obtain ⟨ran, hran⟩ := exists_recorded_runWaiting hooks now worker.waiting.length worker world
  have hnext := runNext?_runWaiting hooks (Nat.le_refl worker.waiting.length) world
  rw [Worker.settle]
  generalize worker.runWaiting hooks worker.waiting.length world = afterRuns at hran hnext ⊢
  obtain ⟨hsame, horigin⟩ := times_eq_of_recorded hran
  have hdue : afterRuns.1.dueBy now = (now - worker.origin) / worker.interval := by
    rw [Worker.dueBy, hsame, horigin]
  rw [← hsame] at hinterval
  have htick := tick?_catchUp hooks hinterval
    (fun _ ↦ hdue.trans_le (Nat.le_add_left _ afterRuns.1.ticks)) afterRuns.2
  replace hnext := runNext?_catchUp hooks now ((now - worker.origin) / worker.interval) hnext
  generalize afterRuns.1.catchUp hooks now _ afterRuns.2 = afterTicks at htick hnext ⊢
  cases hheed : afterTicks.1.heed? hooks afterTicks.2 with
  | some state =>
    obtain ⟨-, -, rfl⟩ := Worker.heed?_eq_some_iff.mp hheed
    exact idle_of_loop_ne (Worker.loop_finish_ne _ _ _)
  | none =>
    cases hdrain : afterTicks.1.drain? hooks afterTicks.2 with
    | some state =>
      obtain ⟨-, -, -, rfl⟩ := Worker.drain?_eq_some_iff.mp hdrain
      exact idle_of_loop_ne (Worker.loop_finish_ne _ _ _)
    | none => exact idle_iff_eq_none.mpr ⟨hnext, htick, hheed, hdrain⟩

end ObjectConsole.Background
