import ObjectConsole.Proofs.Background.Idling

/-!
# Ticks and the time that has passed

A worker is left alone. Some time passes or a task is submitted, and then its loop turns until the
worker is idle (`Course`). Late ticks and waiting tasks come in any order, and a single stretch of
time may make many ticks due, but none of this shows in their number: when the worker is idle, it
has ticked once for each interval that has passed (`ticks_by_elapsed_time`).

The ticks on record were due, and they are those that the worker has counted (`OnTime`). That it is
idle gives the other half, as its next tick is not due. This takes a worker that is still there: a
hook that panics ends it, and the time behind that brings no ticks (`ticks_lost_after_panic`).
-/

namespace ObjectConsole.Background

variable {τ σ : Type} {hooks : Hooks τ σ} {now : Nat} {worker worker' : Worker τ} {world : σ}
  {state state' : Worker τ × σ} {past new : List (Event τ)}

/-! ## Being left alone -/

/-- What happens to a worker that is not told to stop. -/
inductive Act (τ : Type) where
  | advance (time : Nat)
  | submit (task : τ)

/-- How much time passes. -/
def Act.time : Act τ → Nat
  | advance time => time
  | submit _ => 0

/-- How much time passes in all. -/
def elapsed : List (Act τ) → Nat
  | [] => 0
  | act :: acts => act.time + elapsed acts

/-- An act upon a worker, with the answer to a submission. A submission that finds no room waits for
it, and is no act yet. -/
inductive Act.Does : Act τ → Worker τ → List (Event τ) → Worker τ → Prop
  | advance {time : Nat} {worker : Worker τ} : Does (.advance time) worker [] worker
  | accept {task : τ} {worker worker' : Worker τ} (hroom : worker.HasRoom)
      (h : worker.submit task = .ok worker') : Does (.submit task) worker [.accepted task] worker'
  | refuse {task : τ} {worker : Worker τ} {why : Refusal} (h : worker.submit task = .error why) :
      Does (.submit task) worker [.refused task why] worker

/-- What becomes of a worker that is left alone from its start and after each act, until it is idle.
The world may also change by itself. -/
inductive Course (hooks : Hooks τ σ) (interval origin : Nat) (world : σ) :
    List (Act τ) → List (Event τ) → Worker τ × σ → Prop
  | start {turns : List (Event τ)} {state : Worker τ × σ}
      (hturns : Recorded (Turn hooks origin) (.start interval origin, world) turns state)
      (hidle : Idle hooks origin state) : Course hooks interval origin world [] turns state
  | act {acts : List (Act τ)} {act : Act τ} {past new turns : List (Event τ)}
      {before after : Worker τ} {earlier later : σ} {state : Worker τ × σ}
      (h : Course hooks interval origin world acts past (before, earlier))
      (hact : act.Does before new after)
      (hturns : Recorded (Turn hooks (origin + elapsed (acts ++ [act]))) (after, later) turns state)
      (hidle : Idle hooks (origin + elapsed (acts ++ [act])) state) :
      Course hooks interval origin world (acts ++ [act]) (past ++ new ++ turns) state

theorem elapsed_append_singleton (acts : List (Act τ)) (act : Act τ) :
    elapsed (acts ++ [act]) = elapsed acts + act.time := by
  induction acts with
  | nil => exact Nat.add_comm act.time 0
  | cons first acts ih => rw [List.cons_append, elapsed, elapsed, ih, Nat.add_assoc]

/-- A worker that is idle has room for a task. -/
theorem Act.exists_does (act : Act τ) (hidle : Idle hooks now state) :
    ∃ new after, act.Does state.1 new after := by
  cases act with
  | advance time => exact ⟨_, _, .advance⟩
  | submit task =>
    cases hsubmit : state.1.submit task with
    | error why => exact ⟨_, _, .refuse hsubmit⟩
    | ok after =>
      obtain ⟨-, hloop, -⟩ := Worker.submit_eq_ok_iff.mp hsubmit
      have hroom : state.1.HasRoom := by
        rw [Worker.HasRoom, (idle_iff.mp hidle hloop).1, List.length_nil]
        decide
      exact ⟨_, _, .accept hroom hsubmit⟩

theorem Act.Does.recorded {act : Act τ} (h : act.Does worker new worker') (world : σ) :
    Recorded (Step hooks) (worker, world) new (worker', world) := by
  cases h with
  | advance => exact .refl
  | accept hroom h => exact .single (.accept hroom h)
  | refuse h => exact .single (.refuse h)

theorem Act.Does.times_eq {act : Act τ} (h : act.Does worker new worker') :
    worker'.interval = worker.interval ∧ worker'.origin = worker.origin := by
  cases h with
  | accept _ h =>
    obtain ⟨-, -, rfl⟩ := Worker.submit_eq_ok_iff.mp h
    exact ⟨rfl, rfl⟩
  | advance | refuse _ => exact ⟨rfl, rfl⟩

namespace Course

variable {interval origin : Nat} {acts : List (Act τ)}

theorem idle (h : Course hooks interval origin world acts past state) :
    Idle hooks (origin + elapsed acts) state := by
  cases h with
  | start _ hidle => exact hidle
  | act _ _ _ hidle => exact hidle

/-- A worker that is left alone keeps the discipline. -/
theorem recorded (h : Course hooks interval origin world acts past state) :
    Recorded (Step hooks) (.start interval origin, world) past state := by
  induction h with
  | start hturns _ => exact hturns.mono Turn.step
  | @act acts act past new turns before after earlier later state _ hact hturns _ ih =>
    -- between an act and the turns behind it, the world changes by itself
    have helsewhere : Step hooks (after, earlier) [] (after, later) := .elsewhere
    have hacted := (ih.trans (hact.recorded earlier)).step helsewhere
    rw [List.append_nil] at hacted
    exact hacted.trans (hturns.mono Turn.step)

theorem times_eq (h : Course hooks interval origin world acts past state) :
    state.1.interval = interval ∧ state.1.origin = origin := by
  induction h with
  | start hturns _ => exact times_eq_of_recorded hturns
  | act _ hact hturns _ ih =>
    obtain ⟨hinterval, horigin⟩ := times_eq_of_recorded hturns
    obtain ⟨hinterval', horigin'⟩ := hact.times_eq
    exact ⟨hinterval.trans (hinterval'.trans ih.1), horigin.trans (horigin'.trans ih.2)⟩

/-- Whatever happened, something may happen next. -/
theorem exists_act (hinterval : 0 < interval) (act : Act τ)
    (h : Course hooks interval origin world acts past state) :
    ∃ new state', Course hooks interval origin world (acts ++ [act]) (past ++ new) state' := by
  obtain ⟨answer, after, hact⟩ := act.exists_does h.idle
  have hafter : 0 < after.interval := by rwa [hact.times_eq.1, h.times_eq.1]
  obtain ⟨turns, hturns⟩ :=
    exists_recorded_settle hooks (origin + elapsed (acts ++ [act])) after state.2
  have hcourse := h.act hact hturns (idle_settle hafter)
  rw [List.append_assoc] at hcourse
  exact ⟨_, _, hcourse⟩

end Course

theorem exists_course (hooks : Hooks τ σ) {interval : Nat} (hinterval : 0 < interval) (origin : Nat)
    (world : σ) (acts : List (Act τ)) :
    ∃ past state, Course hooks interval origin world acts past state := by
  induction acts using List.reverseRecOn with
  | nil =>
    obtain ⟨turns, hturns⟩ := exists_recorded_settle hooks origin (.start interval origin) world
    exact ⟨_, _, .start hturns (idle_settle hinterval)⟩
  | append_singleton acts act ih =>
    obtain ⟨past, state, h⟩ := ih
    obtain ⟨new, state', h'⟩ := h.exists_act hinterval act
    exact ⟨_, _, h'⟩

/-! ## On time -/

/-- What a record and a time say about a worker that nobody told to stop: its ticks were due, and it
has counted them. -/
structure OnTime (now : Nat) (past : List (Event τ)) (worker : Worker τ) : Prop where
  signalled_eq : worker.signalled = false
  closed_eq : worker.closed = false
  loop_ne_finished : worker.loop ≠ .finished
  countP_eq : worker.loop = .running → past.countP Event.isTicked = worker.ticks
  countP_le : past.countP Event.isTicked ≤ worker.dueBy now

namespace OnTime

theorem start (interval origin : Nat) :
    OnTime origin [] (Worker.start interval origin : Worker τ) where
  signalled_eq := rfl
  closed_eq := rfl
  loop_ne_finished := by
    rw [Worker.start]
    split_ifs <;> exact nofun
  countP_eq _ := rfl
  countP_le := Nat.zero_le _

variable (h : OnTime now past worker)
include h

theorem later {now' : Nat} (hle : now ≤ now') : OnTime now' past worker :=
  { h with countP_le := h.countP_le.trans (Worker.dueBy_le_dueBy hle worker) }

/-- Tasks come and go without ticking. -/
theorem of_not_isTicked {event : Event τ} (hevent : event.isTicked = false) (waiting : List τ) :
    OnTime now (past ++ [event]) { worker with waiting } := by
  have hcount : (past ++ [event]).countP Event.isTicked = past.countP Event.isTicked := by
    rw [List.countP_append, List.countP_singleton, hevent]
    rfl
  exact { h with
    countP_eq := fun hloop ↦ hcount.trans (h.countP_eq hloop)
    countP_le := hcount.trans_le h.countP_le }

theorem does {act : Act τ} (hact : act.Does worker new worker') :
    OnTime now (past ++ new) worker' := by
  cases hact with
  | advance => rwa [List.append_nil]
  | accept _ hsubmit =>
    obtain ⟨-, -, rfl⟩ := Worker.submit_eq_ok_iff.mp hsubmit
    exact h.of_not_isTicked rfl _
  | refuse _ => exact h.of_not_isTicked rfl worker.waiting

/-- A tick that is due is on time. -/
theorem countP_append_le (hinterval : 0 < worker.interval) (hloop : worker.loop = .running)
    {event : Event τ} (hdue : event.isTicked → worker.dueAt worker.ticks ≤ now) :
    (past ++ [event]).countP Event.isTicked ≤ worker.dueBy now := by
  rw [List.countP_append, List.countP_singleton]
  split_ifs with hticked
  · rw [h.countP_eq hloop]
    exact (Worker.dueAt_le_iff hinterval).mp (hdue hticked)
  · exact h.countP_le

theorem advances (hinterval : 0 < worker.interval) (hadvances : Advances now worker new worker') :
    OnTime now (past ++ new) worker' := by
  cases hadvances with
  | run hloop hwaiting => exact h.of_not_isTicked rfl _
  | tick hloop hdue =>
    have hcount : (past ++ [Event.ticked]).countP Event.isTicked = worker.ticks + 1 := by
      rw [List.countP_append, h.countP_eq hloop]
      rfl
    exact ⟨h.signalled_eq, h.closed_eq, h.loop_ne_finished, fun _ ↦ hcount,
      h.countP_append_le hinterval hloop fun _ ↦ hdue⟩
  | finish _ htold =>
    -- nobody told it to stop
    rw [h.signalled_eq, h.closed_eq] at htold
    exact htold.elim nofun nofun
  | crash hloop hdue =>
    exact ⟨h.signalled_eq, h.closed_eq, nofun, nofun, h.countP_append_le hinterval hloop hdue⟩

/-- A worker that is idle and has not crashed has made all ticks that were due. -/
theorem countP_eq_dueBy (hinterval : 0 < worker.interval) (hidle : Idle hooks now (worker, world))
    (hcrashed : worker.loop ≠ .crashed) : past.countP Event.isTicked = worker.dueBy now := by
  have hloop : worker.loop = .running := by
    cases hloop : worker.loop with
    | running => rfl
    | finished => exact absurd hloop h.loop_ne_finished
    | crashed => exact absurd hloop hcrashed
  obtain ⟨-, hnotDue, -⟩ := idle_iff.mp hidle hloop
  refine Nat.le_antisymm h.countP_le (Nat.le_of_not_lt fun hlt ↦ ?_)
  rw [h.countP_eq hloop] at hlt
  exact Nat.not_le.mpr hnotDue ((Worker.dueAt_le_iff hinterval).mpr hlt)

omit h in
/-- Ticks stay on time while the loop turns. -/
theorem recorded (hinterval : 0 < state.1.interval) (h : OnTime now past state.1)
    (hturns : Recorded (Turn hooks now) state new state') : OnTime now (past ++ new) state'.1 := by
  induction hturns with
  | refl => rwa [List.append_nil]
  | step hturns hturn ih =>
    rw [← (times_eq_of_recorded hturns).1] at hinterval
    rw [← List.append_assoc]
    exact ih.advances hinterval hturn.advances

end OnTime

theorem Course.onTime {interval origin : Nat} {acts : List (Act τ)} (hinterval : 0 < interval)
    (h : Course hooks interval origin world acts past state) :
    OnTime (origin + elapsed acts) past state.1 := by
  induction h with
  | start hturns _ => exact (OnTime.start interval origin).recorded hinterval hturns
  | @act acts act past new turns before after earlier later state h hact hturns _ ih =>
    have hle : origin + elapsed acts ≤ origin + elapsed (acts ++ [act]) := by
      rw [elapsed_append_singleton, ← Nat.add_assoc]
      exact Nat.le_add_right _ _
    have hafter : 0 < after.interval := by rwa [hact.times_eq.1, h.times_eq.1]
    exact ((ih.later hle).does hact).recorded hafter hturns

/-! ## Ticks by elapsed time -/

/-- **Ticks go by the time that has passed.** A worker with an interval is left alone while time
passes and tasks are submitted, in any order and in steps of any length.

* Whatever branches its loop takes, it can turn only so often at a time. So it always becomes idle,
  and more may happen.
* It is idle at its start, without any tick.
* It has never ticked more often than intervals have passed, and it has ticked exactly as often
  unless a hook has panicked.
* It has not crashed if no hook can panic. -/
theorem ticks_by_elapsed_time (hooks : Hooks τ σ) {interval : Nat} (hinterval : 0 < interval)
    (origin : Nat) (world : σ) (acts : List (Act τ)) :
    (∀ now new (state state' : Worker τ × σ), state.1.interval = interval →
      Recorded (Turn hooks now) state new state' → new.length ≤ state.1.pending now) ∧
    (∃ past state, Course hooks interval origin world acts past state) ∧
    Idle hooks origin (.start interval origin, world) ∧
    ∀ past state, Course hooks interval origin world acts past state →
      past.countP Event.isTicked ≤ elapsed acts / interval ∧
      (state.1.loop ≠ .crashed → past.countP Event.isTicked = elapsed acts / interval) ∧
      (hooks.Total → state.1.loop ≠ .crashed) := by
  refine ⟨fun now new state state' hstate hturns ↦ ?_,
    exists_course hooks hinterval origin world acts, idle_start hinterval, fun past state h ↦ ?_⟩
  · rw [← hstate] at hinterval
    exact (Nat.le_add_right _ _).trans (length_add_pending_le hinterval hturns)
  · have honTime := h.onTime hinterval
    have hdueBy : state.1.dueBy (origin + elapsed acts) = elapsed acts / interval := by
      rw [Worker.dueBy, h.times_eq.1, h.times_eq.2, Nat.add_sub_cancel_left]
    have hstate : 0 < state.1.interval := by rwa [h.times_eq.1]
    rw [← hdueBy]
    exact ⟨honTime.countP_le, honTime.countP_eq_dueBy hstate h.idle,
      fun htotal ↦ (Orderly.of_recorded htotal hinterval h.recorded).loop_ne_crashed⟩

/-- Two ticks are late when the worker gets to them, and a task is submitted in between. -/
theorem ticks_by_elapsed_time_late :
    let acts : List (Act String) := [.advance 45, .submit "a", .advance 5, .advance 12]
    0 < 20 ∧ elapsed acts = 62 ∧ ∃ past state, Course (recorder false) 20 0 [] acts past state ∧
      past.countP Event.isTicked = 3 := by
  intro acts
  have hinterval : 0 < 20 := by decide
  obtain ⟨-, ⟨past, state, h⟩, -, hticks⟩ :=
    ticks_by_elapsed_time (recorder false) hinterval 0 [] acts
  obtain ⟨-, hcount, hcrashed⟩ := hticks past state h
  exact ⟨hinterval, rfl, past, state, h, (hcount (hcrashed recorder_total)).trans (by decide)⟩

/-- A task panics before two intervals have passed, and there are no ticks. -/
theorem ticks_lost_after_panic :
    let acts : List (Act String) := [.submit "panic", .advance 20]
    elapsed acts / 10 = 2 ∧ ∃ past state, Course (recorder true) 10 0 [] acts past state ∧
      past.countP Event.isTicked = 0 := by
  intro acts
  have hstart : Course (recorder true) 10 0 [] [] [] (.start 10 0, []) :=
    .start .refl (idle_start (by decide))
  have hsubmit : (Act.submit "panic").Does (.start 10 0) [.accepted "panic"]
      ⟨10, 0, 0, ["panic"], .running, false, false⟩ := .accept (by decide) rfl
  have hrun : Turn (recorder true) 0 (⟨10, 0, 0, ["panic"], .running, false, false⟩, [])
      [.ran "panic"] (⟨10, 0, 0, [], .crashed, false, false⟩, []) := .run rfl rfl
  have hpanicked := hstart.act hsubmit (.single hrun) (idle_of_loop_ne Loop.noConfusion)
  have hpassed : Course (recorder true) 10 0 [] acts [.accepted "panic", .ran "panic"]
      (⟨10, 0, 0, [], .crashed, false, false⟩, []) :=
    hpanicked.act .advance .refl (idle_of_loop_ne Loop.noConfusion)
  exact ⟨by decide, _, _, hpassed, rfl⟩

end ObjectConsole.Background
