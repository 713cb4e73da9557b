import ObjectConsole.Background.Sweeper
import ObjectConsole.Proofs.Recorded
import Mathlib.Data.List.Infix
import Mathlib.Data.Option.Basic
import Mathlib.Tactic.SplitIfs

/-!
# The discipline of a worker

A worker is driven from two sides. Outside, tasks are submitted and the worker is told to stop;
inside, the loop takes any branch that is ready. Nothing is said about who comes next (`Step`), so
whatever holds of every run holds of every schedule. The record shows what was begun: a hook takes
one step, and what happens outside while it runs is put before or after it.

Two ways lead out of the loop, and tasks may still wait at both: the signal is heeded at any time,
and the closed queue once it is empty. The order of tasks survives this because a queue only loses
its front to the loop, and all of it at once to the end.
-/

namespace ObjectConsole.Background

variable {τ σ : Type}

/-- Hooks that never panic. -/
structure Hooks.Total (hooks : Hooks τ σ) : Prop where
  run (task : τ) (world : σ) : (hooks.run task world).isSome
  tick (world : σ) : (hooks.tick world).isSome
  shutdown (world : σ) : (hooks.shutdown world).isSome

/-- What goes on record: the answers to submissions, the hooks that are called, and the return of a
call that stopped the worker. -/
inductive Event (τ : Type) where
  | accepted (task : τ)
  | refused (task : τ) (why : Refusal)
  | ran (task : τ)
  | ticked
  | shutDown
  | stopped

/-- The task that was accepted. -/
def Event.accepted? : Event τ → Option τ
  | accepted task => some task
  | _ => none

/-- The task that was run. -/
def Event.ran? : Event τ → Option τ
  | ran task => some task
  | _ => none

/-- Whether the last hook was called. -/
def Event.isShutDown : Event τ → Bool
  | shutDown => true
  | _ => false

variable {hooks : Hooks τ σ} {worker worker' : Worker τ} {world world' : σ}

/-- A worker and its world take a step. The world may also change by itself. -/
inductive Step (hooks : Hooks τ σ) : Worker τ × σ → List (Event τ) → Worker τ × σ → Prop
  | accept {worker worker' : Worker τ} {world : σ} {task : τ} (hroom : worker.HasRoom)
      (h : worker.submit task = .ok worker') :
      Step hooks (worker, world) [.accepted task] (worker', world)
  | refuse {worker : Worker τ} {world : σ} {task : τ} {why : Refusal}
      (h : worker.submit task = .error why) :
      Step hooks (worker, world) [.refused task why] (worker, world)
  | run {worker : Worker τ} {world : σ} {task : τ} {state : Worker τ × σ}
      (hhead : worker.waiting.head? = some task) (h : worker.runNext? hooks world = some state) :
      Step hooks (worker, world) [.ran task] state
  | tick {worker : Worker τ} {world : σ} {now : Nat} {state : Worker τ × σ}
      (h : worker.tick? hooks now world = some state) : Step hooks (worker, world) [.ticked] state
  | heed {worker : Worker τ} {world : σ} {state : Worker τ × σ}
      (h : worker.heed? hooks world = some state) : Step hooks (worker, world) [.shutDown] state
  | drain {worker : Worker τ} {world : σ} {state : Worker τ × σ}
      (h : worker.drain? hooks world = some state) : Step hooks (worker, world) [.shutDown] state
  | signal {worker : Worker τ} {world : σ} : Step hooks (worker, world) [] (worker.signal, world)
  | close {worker : Worker τ} {world : σ} : Step hooks (worker, world) [] (worker.close, world)
  | stopped {worker : Worker τ} {world : σ} (hsignalled : worker.signalled = true)
      (hclosed : worker.closed = true) (hloop : worker.loop ≠ .running) :
      Step hooks (worker, world) [.stopped] (worker, world)
  | elsewhere {worker : Worker τ} {world world' : σ} :
      Step hooks (worker, world) [] (worker, world')

theorem sweeper_total (now : UInt64) : (sweeper now).Total :=
  ⟨fun _ _ ↦ rfl, fun _ ↦ rfl, fun _ ↦ rfl⟩

theorem recorder_total : (recorder false).Total :=
  ⟨fun _ _ ↦ rfl, fun _ ↦ rfl, fun _ ↦ rfl⟩

/-! ## What a step does to the worker -/

namespace Worker

theorem submit_eq_ok_iff {task : τ} : worker.submit task = .ok worker' ↔
    worker.closed = false ∧ worker.loop = .running ∧
      worker' = { worker with waiting := worker.waiting ++ [task] } := by
  rw [submit]
  split_ifs with hclosed
  · simp [hclosed]
  · cases hloop : worker.loop <;> simp [hclosed, eq_comm]

theorem runNext?_eq_some_iff {state : Worker τ × σ} : worker.runNext? hooks world = some state ↔
    worker.loop = .running ∧ ∃ task rest, worker.waiting = task :: rest ∧
      state = (hooks.run task world).elim (worker.ended .crashed, world)
        ({ worker with waiting := rest }, ·) := by
  rw [runNext?.eq_def]
  split
  · next task rest hloop hwaiting =>
    cases hrun : hooks.run task world <;> simp [hloop, hwaiting, hrun, eq_comm]
  · next hnone =>
    refine iff_of_false nofun ?_
    rintro ⟨hloop, task, rest, hwaiting, -⟩
    exact hnone task rest hloop hwaiting

theorem tick?_eq_some_iff {now : Nat} {state : Worker τ × σ} :
    worker.tick? hooks now world = some state ↔
      worker.loop = .running ∧ worker.dueAt worker.ticks ≤ now ∧
        state = (hooks.tick world).elim (worker.ended .crashed, world)
          ({ worker with ticks := worker.ticks + 1 }, ·) := by
  rw [tick?]
  split_ifs with hready
  · cases htick : hooks.tick world <;> simp [hready, eq_comm]
  · exact iff_of_false nofun fun h ↦ hready ⟨h.1, h.2.1⟩

theorem heed?_eq_some_iff {state : Worker τ × σ} : worker.heed? hooks world = some state ↔
    worker.loop = .running ∧ worker.signalled = true ∧ state = worker.finish hooks world := by
  rw [heed?, Option.ite_none_right_eq_some, and_assoc, Option.some.injEq, eq_comm (a := state)]

theorem drain?_eq_some_iff {state : Worker τ × σ} : worker.drain? hooks world = some state ↔
    worker.loop = .running ∧ worker.closed = true ∧ worker.waiting = [] ∧
      state = worker.finish hooks world := by
  rw [drain?, Option.ite_none_right_eq_some, and_assoc, and_assoc, Option.some.injEq,
    eq_comm (a := state)]

end Worker

/-- The steps of a worker whose hooks do not panic, without its world. -/
inductive Moves : Worker τ → List (Event τ) → Worker τ → Prop
  | accept {worker : Worker τ} (task : τ) (hloop : worker.loop = .running) :
      Moves worker [.accepted task] { worker with waiting := worker.waiting ++ [task] }
  | refuse {worker : Worker τ} (task : τ) {why : Refusal}
      (hclosed : worker.closed = true → why = .notRunning) :
      Moves worker [.refused task why] worker
  | run {worker : Worker τ} {task : τ} {rest : List τ} (hloop : worker.loop = .running)
      (hwaiting : worker.waiting = task :: rest) :
      Moves worker [.ran task] { worker with waiting := rest }
  | tick {worker : Worker τ} (hloop : worker.loop = .running) :
      Moves worker [.ticked] { worker with ticks := worker.ticks + 1 }
  | finish {worker : Worker τ} (hloop : worker.loop = .running) :
      Moves worker [.shutDown] (worker.ended .finished)
  | signal {worker : Worker τ} : Moves worker [] worker.signal
  | close {worker : Worker τ} : Moves worker [] worker.close
  | stopped {worker : Worker τ} (hsignalled : worker.signalled = true)
      (hclosed : worker.closed = true) (hloop : worker.loop ≠ .running) :
      Moves worker [.stopped] worker
  | elsewhere {worker : Worker τ} : Moves worker [] worker

theorem Worker.exists_finish_eq (htotal : hooks.Total) (worker : Worker τ) (world : σ) :
    ∃ world', worker.finish hooks world = (worker.ended .finished, world') := by
  obtain ⟨world', hworld⟩ := Option.isSome_iff_exists.mp (htotal.shutdown world)
  exact ⟨world', by rw [finish, hworld]⟩

theorem Step.moves (htotal : hooks.Total) {state state' : Worker τ × σ} {new : List (Event τ)}
    (h : Step hooks state new state') : Moves state.1 new state'.1 := by
  cases h with
  | accept _ h =>
    obtain ⟨-, hloop, rfl⟩ := Worker.submit_eq_ok_iff.mp h
    exact .accept _ hloop
  | @refuse worker world task why h =>
    refine .refuse task fun hclosed ↦ ?_
    rw [Worker.submit, if_pos hclosed] at h
    cases h
    rfl
  | @run worker world task state hhead h =>
    obtain ⟨hloop, task', rest, hwaiting, rfl⟩ := Worker.runNext?_eq_some_iff.mp h
    rw [hwaiting, List.head?_cons, Option.some.injEq] at hhead
    subst hhead
    obtain ⟨world', hrun⟩ := Option.isSome_iff_exists.mp (htotal.run task' world)
    rw [hrun]
    exact .run hloop hwaiting
  | @tick worker world now state h =>
    obtain ⟨hloop, -, rfl⟩ := Worker.tick?_eq_some_iff.mp h
    obtain ⟨world', htick⟩ := Option.isSome_iff_exists.mp (htotal.tick world)
    rw [htick]
    exact .tick hloop
  | @heed worker world state h =>
    obtain ⟨hloop, -, rfl⟩ := Worker.heed?_eq_some_iff.mp h
    obtain ⟨world', hfinish⟩ := worker.exists_finish_eq htotal world
    rw [hfinish]
    exact .finish hloop
  | @drain worker world state h =>
    obtain ⟨hloop, -, -, rfl⟩ := Worker.drain?_eq_some_iff.mp h
    obtain ⟨world', hfinish⟩ := worker.exists_finish_eq htotal world
    rw [hfinish]
    exact .finish hloop
  | signal => exact .signal
  | close => exact .close
  | stopped hsignalled hclosed hloop => exact .stopped hsignalled hclosed hloop
  | elsewhere => exact .elsewhere

/-- At most one thing happens in a step. -/
theorem Step.eq_nil_or {state state' : Worker τ × σ} {new : List (Event τ)}
    (h : Step hooks state new state') : new = [] ∨ ∃ event, new = [event] := by
  cases h <;> first | exact .inl rfl | exact .inr ⟨_, rfl⟩

/-! ## In the order of submission -/

/-- What a record says about the worker it leads to. -/
structure Orderly (past : List (Event τ)) (worker : Worker τ) : Prop where
  loop_ne_crashed : worker.loop ≠ .crashed
  accepted_eq : worker.loop = .running →
    past.filterMap Event.accepted? = past.filterMap Event.ran? ++ worker.waiting
  ran_prefix : past.filterMap Event.ran? <+: past.filterMap Event.accepted?
  countP_isShutDown : past.countP Event.isShutDown = if worker.loop = .running then 0 else 1

variable {past new : List (Event τ)}

theorem Orderly.start {interval : Nat} (hinterval : 0 < interval) (now : Nat) :
    Orderly [] (Worker.start interval now : Worker τ) := by
  have hloop : (Worker.start interval now : Worker τ).loop = .running :=
    if_neg (Nat.ne_of_gt hinterval)
  refine ⟨?_, fun _ ↦ rfl, List.prefix_rfl, ?_⟩
  · rw [hloop]
    exact nofun
  · rw [if_pos hloop]
    rfl

theorem Orderly.moves (h : Orderly past worker) (hmoves : Moves worker new worker') :
    Orderly (past ++ new) worker' := by
  obtain ⟨hcrashed, haccepted, hinitial, hcount⟩ := h
  cases hmoves with
  | accept task hloop =>
    have hran := haccepted hloop
    refine ⟨hcrashed, fun _ ↦ ?_, ?_, ?_⟩
    · simp [List.filterMap_cons, Event.accepted?, Event.ran?, hran]
    · simp [List.filterMap_cons, Event.accepted?, Event.ran?, hran]
    · simpa [Event.isShutDown] using hcount
  | run hloop hwaiting =>
    have hran := haccepted hloop
    rw [hwaiting] at hran
    refine ⟨hcrashed, fun _ ↦ ?_, ?_, ?_⟩
    · simp [List.filterMap_cons, Event.accepted?, Event.ran?, hran]
    · simp [List.filterMap_cons, Event.accepted?, Event.ran?, hran]
    · simpa [Event.isShutDown] using hcount
  | finish hloop =>
    refine ⟨nofun, nofun, ?_, ?_⟩
    · simpa [List.filterMap_cons, Event.accepted?, Event.ran?] using hinitial
    · rw [if_pos hloop] at hcount
      rw [List.countP_append, hcount]
      rfl
  | refuse _ _ | tick _ | stopped _ _ _ =>
    refine ⟨hcrashed, fun hloop ↦ ?_, ?_, ?_⟩
    · simpa [List.filterMap_cons, Event.accepted?, Event.ran?] using haccepted hloop
    · simpa [List.filterMap_cons, Event.accepted?, Event.ran?] using hinitial
    · simpa [Event.isShutDown] using hcount
  | signal | close | elsewhere =>
    rw [List.append_nil]
    exact ⟨hcrashed, haccepted, hinitial, hcount⟩

/-! ## Behind the end -/

/-- The events of a worker that does nothing any more. -/
def Event.Idle (event : Event τ) : Prop :=
  (∃ task why, event = .refused task why) ∨ event = .stopped

/-- A worker whose loop is over does nothing any more. -/
theorem Moves.idle (h : Moves worker new worker') (hloop : worker.loop = .finished) :
    worker'.loop = .finished ∧ ∀ event ∈ new, event.Idle := by
  cases h with
  | accept _ hrunning | run hrunning _ | tick hrunning | finish hrunning =>
    rw [hloop] at hrunning
    cases hrunning
  | refuse task _ => exact ⟨hloop, by simp [Event.Idle]⟩
  | stopped _ _ _ => exact ⟨hloop, by simp [Event.Idle]⟩
  | signal | close | elsewhere => exact ⟨hloop, nofun⟩

/-- A call to stop is over: the loop has ended, was told to, and can be told no more. -/
structure Worker.Stopped (worker : Worker τ) : Prop where
  loop : worker.loop = .finished
  signalled : worker.signalled = true
  closed : worker.closed = true

theorem Worker.Stopped.submit_eq (h : worker.Stopped) (task : τ) :
    worker.submit task = .error .notRunning :=
  if_pos h.closed

theorem Worker.Stopped.requestStop_eq (h : worker.Stopped) : worker.requestStop = worker := by
  obtain ⟨interval, origin, ticks, waiting, loop, signalled, closed⟩ := worker
  obtain ⟨-, rfl, rfl⟩ := h
  rfl

/-- Whatever is done to a stopped worker leaves it as it is. -/
theorem Moves.eq_of_stopped (h : Moves worker new worker') (hstopped : worker.Stopped) :
    worker' = worker ∧ ∀ event ∈ new, (∃ task, event = .refused task .notRunning) ∨
      event = .stopped := by
  cases h with
  | accept _ hrunning | run hrunning _ | tick hrunning | finish hrunning =>
    rw [hstopped.loop] at hrunning
    cases hrunning
  | refuse task hwhy => exact ⟨rfl, by simp [hwhy hstopped.closed]⟩
  | stopped _ _ _ => exact ⟨rfl, by simp⟩
  | signal =>
    refine ⟨?_, nofun⟩
    rw [Worker.signal, ← hstopped.signalled]
  | close =>
    refine ⟨?_, nofun⟩
    rw [Worker.close, ← hstopped.closed]
  | elsewhere => exact ⟨rfl, nofun⟩

theorem Moves.loop_of_shutDown (h : Moves worker [.shutDown] worker') :
    worker'.loop = .finished := by
  cases h
  rfl

theorem Moves.stopped_of_stopped (h : Moves worker [.stopped] worker')
    (hcrashed : worker.loop ≠ .crashed) : worker' = worker ∧ worker.Stopped := by
  cases h with
  | stopped hsignalled hclosed hloop =>
    refine ⟨rfl, ?_, hsignalled, hclosed⟩
    cases hended : worker.loop with
    | running => exact absurd hended hloop
    | finished => rfl
    | crashed => exact absurd hended hcrashed

section Runs

variable {state state' : Worker τ × σ}

theorem Orderly.of_recorded (htotal : hooks.Total) {interval : Nat} (hinterval : 0 < interval)
    {now : Nat} (hrun : Recorded (Step hooks) (.start interval now, world) past state) :
    Orderly past state.1 := by
  induction hrun with
  | refl => exact .start hinterval now
  | step _ hstep ih => exact ih.moves (hstep.moves htotal)

theorem Orderly.shutDown_mem (h : Orderly past worker) (hloop : worker.loop = .finished) :
    .shutDown ∈ past := by
  have hpos : 0 < past.countP Event.isShutDown := by
    rw [h.countP_isShutDown, hloop]
    decide
  obtain ⟨event, hmem, hevent⟩ := List.countP_pos_iff.mp hpos
  cases event <;> cases hevent
  exact hmem

theorem idle_of_recorded (htotal : hooks.Total) (hloop : state.1.loop = .finished)
    (hrun : Recorded (Step hooks) state new state') :
    state'.1.loop = .finished ∧ ∀ event ∈ new, event.Idle := by
  induction hrun with
  | refl => exact ⟨hloop, nofun⟩
  | step _ hstep ih =>
    obtain ⟨hloop', hidle⟩ := (hstep.moves htotal).idle ih.1
    refine ⟨hloop', fun event hmem ↦ ?_⟩
    exact (List.mem_append.mp hmem).elim (ih.2 event) (hidle event)

theorem eq_of_recorded_of_stopped (htotal : hooks.Total) (hstopped : state.1.Stopped)
    (hrun : Recorded (Step hooks) state new state') :
    state'.1 = state.1 ∧ ∀ event ∈ new, (∃ task, event = .refused task .notRunning) ∨
      event = .stopped := by
  induction hrun with
  | refl => exact ⟨rfl, nofun⟩
  | step _ hstep ih =>
    obtain ⟨heq, hnew⟩ := (hstep.moves htotal).eq_of_stopped (ih.1 ▸ hstopped)
    refine ⟨heq.trans ih.1, fun event hmem ↦ ?_⟩
    exact (List.mem_append.mp hmem).elim (ih.2 event) (hnew event)

/-- A worker that was told to stop can always end its loop, and then the call returns. -/
theorem exists_recorded_stopped (htotal : hooks.Total) (hsignalled : worker.signalled = true)
    (hclosed : worker.closed = true) :
    ∃ new state', Recorded (Step hooks) (worker, world) new state' ∧ .stopped ∈ new := by
  by_cases hloop : worker.loop = .running
  · have hheed : worker.heed? hooks world = some (worker.finish hooks world) :=
      if_pos ⟨hloop, hsignalled⟩
    obtain ⟨world', hfinish⟩ := worker.exists_finish_eq htotal world
    rw [hfinish] at hheed
    have hstopped : Step hooks (worker.ended .finished, world') [.stopped]
        (worker.ended .finished, world') := .stopped hsignalled hclosed Loop.noConfusion
    exact ⟨_, _, (Recorded.single (.heed hheed)).step hstopped, by simp⟩
  · exact ⟨_, _, .single (.stopped hsignalled hclosed hloop), List.mem_singleton_self _⟩

end Runs

/-! ## The discipline -/

/-- **A worker runs what was submitted, in order, and ends once.** Of hooks that never panic and any
schedule of a worker with an interval:

* the tasks that were run are the first of those that were accepted;
* the last hook was called once if the loop has ended, and not before; behind it no task is accepted
  or run and nothing ticks;
* when a call to stop has returned, the last hook had been called; behind that there are only
  refusals and further calls that return at once. Every submission is refused, and to stop the
  worker again changes nothing;
* a worker that was told to stop can get there from wherever it is. -/
theorem run_in_order {hooks : Hooks τ σ} (htotal : hooks.Total) {interval : Nat}
    (hinterval : 0 < interval) {now : Nat} {world world' : σ} {past : List (Event τ)}
    {worker : Worker τ}
    (h : Recorded (Step hooks) (.start interval now, world) past (worker, world')) :
    past.filterMap Event.ran? <+: past.filterMap Event.accepted? ∧
    past.countP Event.isShutDown = (if worker.loop = .running then 0 else 1) ∧
    (∀ before after, past = before ++ .shutDown :: after → ∀ event ∈ after, event.Idle) ∧
    (∀ before after, past = before ++ .stopped :: after →
      .shutDown ∈ before ∧
      (∀ event ∈ after, (∃ task, event = .refused task .notRunning) ∨ event = .stopped) ∧
      (∀ task, worker.submit task = .error .notRunning) ∧ worker.requestStop = worker) ∧
    (worker.signalled = true → worker.closed = true →
      ∃ new state', Recorded (Step hooks) (worker, world') new state' ∧ .stopped ∈ new) := by
  have horderly := Orderly.of_recorded htotal hinterval h
  refine ⟨horderly.ran_prefix, horderly.countP_isShutDown, ?_, ?_,
    fun hsignalled hclosed ↦ exists_recorded_stopped htotal hsignalled hclosed⟩
  · intro before after hpast
    obtain ⟨earlier, later, -, hended, hlater⟩ := h.exists_step Step.eq_nil_or hpast
    exact (idle_of_recorded htotal (hended.moves htotal).loop_of_shutDown hlater).2
  · intro before after hpast
    obtain ⟨earlier, later, hearlier, hreturned, hlater⟩ := h.exists_step Step.eq_nil_or hpast
    have hbefore := Orderly.of_recorded htotal hinterval hearlier
    obtain ⟨heq, hstopped⟩ := (hreturned.moves htotal).stopped_of_stopped hbefore.loop_ne_crashed
    have hshutDown := hbefore.shutDown_mem hstopped.loop
    rw [← heq] at hstopped
    obtain ⟨heq, hafter⟩ := eq_of_recorded_of_stopped htotal hstopped hlater
    rw [← heq] at hstopped
    exact ⟨hshutDown, hafter, hstopped.submit_eq, hstopped.requestStop_eq⟩

/-- Two tasks are submitted, and one is run before a tick and the end. -/
theorem run_in_order_recorder :
    (recorder false).Total ∧ 0 < 10 ∧ ∃ past worker world,
      Recorded (Step (recorder false)) (.start 10 0, []) past (worker, world) ∧
      past.filterMap Event.accepted? = ["a", "b"] ∧ past.filterMap Event.ran? = ["a"] ∧
      past.filterMap Event.ran? <+: past.filterMap Event.accepted? ∧
      past.countP Event.isShutDown = 1 ∧ ∀ task, worker.submit task = .error .notRunning := by
  have hfirst : Step (recorder false) (.start 10 0, []) [.accepted "a"]
      (⟨10, 0, 0, ["a"], .running, false, false⟩, []) := .accept (by decide) rfl
  have hsecond : Step (recorder false) (⟨10, 0, 0, ["a"], .running, false, false⟩, [])
      [.accepted "b"] (⟨10, 0, 0, ["a", "b"], .running, false, false⟩, []) :=
    .accept (by decide) rfl
  have hrun : Step (recorder false) (⟨10, 0, 0, ["a", "b"], .running, false, false⟩, [])
      [.ran "a"] (⟨10, 0, 0, ["b"], .running, false, false⟩, ["run:a"]) := .run rfl rfl
  have htick : Step (recorder false) (⟨10, 0, 0, ["b"], .running, false, false⟩, ["run:a"])
      [.ticked] (⟨10, 0, 1, ["b"], .running, false, false⟩, ["run:a"]) :=
    .tick (rfl : Worker.tick? _ 10 _ _ = _)
  have hheed : Step (recorder false) (⟨10, 0, 1, ["b"], .running, true, true⟩, ["run:a"])
      [.shutDown] (⟨10, 0, 1, [], .finished, true, true⟩, ["run:a"]) := .heed rfl
  have hstopped : Step (recorder false) (⟨10, 0, 1, [], .finished, true, true⟩, ["run:a"])
      [.stopped] (⟨10, 0, 1, [], .finished, true, true⟩, ["run:a"]) := .stopped rfl rfl nofun
  have h := (((Recorded.single hfirst).step hsecond).step hrun).step htick
  have h := (((h.step .signal).step .close).step hheed).step hstopped
  obtain ⟨hinitial, hcount, -, hreturned, -⟩ := run_in_order recorder_total (by decide) h
  obtain ⟨-, -, hsubmit, -⟩ :=
    hreturned [.accepted "a", .accepted "b", .ran "a", .ticked, .shutDown] [] rfl
  exact ⟨recorder_total, by decide, _, _, _, h, rfl, rfl, hinitial, hcount, hsubmit⟩

end ObjectConsole.Background
