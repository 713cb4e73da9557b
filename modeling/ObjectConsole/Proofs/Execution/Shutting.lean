import ObjectConsole.Proofs.Execution.Handover

/-!
# A queue that was shut

A queue is shut by closing it, by dropping it, or because its driver comes back. It then takes no
more calls, and its gate never opens again. Not every call is refused for that: the designated
thread does not go through the queue, and it stays the designated thread whatever becomes of the
queue. So two things decide what becomes of a call, the gate and the owner, and the record of a
meeting names neither callers nor drivers. A `History` does. It is a sequence of acts
(`Meeting.Act`), which are the steps of a meeting and the calls that run in place. Histories and
meetings have the same records (`History.reaches`, `Reaches.exists_history`).

The owner is read off a history, as the last thread that drove the queue (`History.owner_eq`), and
so is the gate (`History.gate_ne_of_shut`). With both, a call that comes later is either run in
place or refused (`Act.of_called`).
-/

namespace ObjectConsole.Execution

/-! ## What is told of a queue -/

/-- A way to shut a queue. -/
inductive Shutting where
  | closed
  | dropped
  /-- The thread that drove the queue has come back. -/
  | returned
  deriving DecidableEq, Repr

/-- What became of a call when it was made. -/
inductive Reception where
  /-- It was run in place. -/
  | inPlace (verdict : Verdict)
  /-- The queue took it. -/
  | queued (number : Nat)
  /-- The queue did not take it. -/
  | refused (verdict : Verdict)

/-- One thing that happened. -/
inductive Entry where
  | drove (thread : Thread)
  | shut (how : Shutting)
  | called (caller : Thread) (call : Call) (reception : Reception)
  /-- Anything else that is on the record of the meeting. -/
  | recorded (event : Event)

namespace Entry

/-- What stands on the record of the meeting. -/
@[simp] def event? : Entry → Option Event
  | called _ call (.queued number) => some (.queued number call)
  | called _ call (.refused verdict) => some (.refused call verdict)
  | recorded event => some event
  | _ => none

/-- The thread that began to drive the queue. -/
@[simp] def driver? : Entry → Option Thread
  | drove thread => some thread
  | _ => none

theorem filterMap_event?_map (events : List Event) :
    (events.map recorded).filterMap event? = events := by
  rw [List.filterMap_map]
  exact (List.filterMap_some : events.filterMap some = events)

theorem filterMap_driver?_map (events : List Event) :
    (events.map recorded).filterMap driver? = [] :=
  List.filterMap_eq_nil_iff.mpr (by simp)

end Entry

/-- The last thread that drove the queue. -/
def designated? (log : List Entry) : Option Thread :=
  (log.filterMap Entry.driver?).getLast?

namespace Meeting

variable {meeting meeting' : Meeting} {log entries : List Entry}

/-- What is done at a queue without being interrupted, with what is told of it. -/
inductive Act (meeting : Meeting) : List Entry → Meeting → Prop
  -- calls
  | inPlace {caller : Thread} (uptime : Nat) (call : Call)
      (hcaller : meeting.queue.RunsInPlace caller) :
      Act meeting
        [.called caller call
          (.inPlace (call.runGuarded (Delegate.context caller uptime) meeting.heap).1)]
        { meeting with
          heap := (call.runGuarded (Delegate.context caller uptime) meeting.heap).2 }
  | send {caller : Thread} {call : Call} {number : Nat} {sent : CallQueue}
      (hcaller : ¬meeting.queue.RunsInPlace caller)
      (hsend : meeting.queue.send? call = some (number, sent)) :
      Act meeting [.called caller call (.queued number)]
        { meeting with queue := sent, callers := meeting.callers ++ [.waiting] }
  | refuse {caller : Thread} {call : Call} (hcaller : ¬meeting.queue.RunsInPlace caller)
      (hsend : meeting.queue.send? call = none) :
      Act meeting [.called caller call (.refused refusal)] meeting
  -- the queue
  | drive (thread : Thread) (hduties : meeting.duties = []) :
      Act meeting [.drove thread] { meeting with queue := meeting.queue.claim thread }
  | close : Act meeting [.shut .closed] { meeting with queue := meeting.queue.close }
  | drop (hduties : meeting.duties = []) :
      Act meeting [.shut .dropped]
        { meeting with
          queue := { meeting.queue with gate := .dropped, waiting := [] }
          duties := meeting.queue.waiting.map fun job ↦ .discard (some job.1) }
  -- the driver takes the queue along when it comes back, and by then no call waits in it
  | comeBack (hduties : meeting.duties = []) (hwaiting : meeting.queue.waiting = []) :
      Act meeting [.shut .returned]
        { meeting with queue := { meeting.queue with gate := .dropped, waiting := [] } }
  -- everything else
  | proceed {events : List Event} {meeting' : Meeting} (hstep : meeting.Step events meeting')
      (howner : meeting'.queue.owner = meeting.queue.owner)
      (hgate : meeting'.queue.gate = meeting.queue.gate)
      (hcalls : ∀ event ∈ events, (∀ number call, event ≠ .queued number call) ∧
        ∀ call verdict, event ≠ .refused call verdict) :
      Act meeting (events.map .recorded) meeting'

/-- The histories of a new queue. -/
inductive History : List Entry → Meeting → Prop
  | start (heap : Heap) : History [] { heap := heap }
  | act {log entries : List Entry} {meeting meeting' : Meeting} (h : History log meeting)
      (hact : meeting.Act entries meeting') : History (log ++ entries) meeting'

/-! ## Histories and records -/

theorem Step.exists_act {events : List Event} (h : meeting.Step events meeting') :
    ∃ entries, meeting.Act entries meeting' ∧ entries.filterMap Entry.event? = events := by
  have hproceed (howner : meeting'.queue.owner = meeting.queue.owner)
      (hgate : meeting'.queue.gate = meeting.queue.gate)
      (hcalls : ∀ event ∈ events, (∀ number call, event ≠ .queued number call) ∧
        ∀ call verdict, event ≠ .refused call verdict) :
      ∃ entries, meeting.Act entries meeting' ∧ entries.filterMap Entry.event? = events :=
    ⟨_, .proceed h howner hgate hcalls, Entry.filterMap_event?_map events⟩
  cases h with
  | send hcaller hsend => exact ⟨_, .send hcaller hsend, rfl⟩
  | refuse hcaller hsend => exact ⟨_, .refuse hcaller hsend, rfl⟩
  | claim thread hduties => exact ⟨_, .drive thread hduties, rfl⟩
  | close => exact ⟨_, .close, rfl⟩
  | drop hduties => exact ⟨_, .drop hduties, rfl⟩
  | take hduties howner htake =>
    obtain ⟨waiting, -, rfl⟩ := Affinity.take?_eq_some_iff.mp htake
    exact hproceed rfl rfl (by simp)
  | _ => exact hproceed (by simp) (by simp) (by simp)

/-- An act is a run of the meeting. A call in place is something that happens elsewhere. -/
theorem Act.run (h : meeting.Act entries meeting') :
    Run meeting (entries.filterMap Entry.event?) meeting' := by
  have hsingle {events : List Event} (hstep : meeting.Step events meeting') :
      Run meeting events meeting' := Run.refl.step hstep
  cases h with
  | inPlace uptime call hcaller => exact hsingle (.elsewhere _)
  | send hcaller hsend => exact hsingle (.send hcaller hsend)
  | refuse hcaller hsend => exact hsingle (.refuse hcaller hsend)
  | drive thread hduties => exact hsingle (.claim thread hduties)
  | close => exact hsingle .close
  | drop hduties => exact hsingle (.drop hduties)
  | comeBack hduties hwaiting =>
    have hdrop : meeting.Step [] _ := .drop hduties
    rw [hwaiting, List.map_nil, ← hduties] at hdrop
    exact hsingle hdrop
  | proceed hstep howner hgate hcalls =>
    rw [Entry.filterMap_event?_map]
    exact hsingle hstep

theorem History.reaches (h : History log meeting) :
    Reaches (log.filterMap Entry.event?) meeting := by
  induction h with
  | start heap => exact ⟨heap, .refl⟩
  | act _ hact ih =>
    obtain ⟨heap, hrun⟩ := ih
    rw [List.filterMap_append]
    exact ⟨heap, hrun.trans hact.run⟩

theorem Reaches.exists_history {past : List Event} (h : Reaches past meeting) :
    ∃ log, History log meeting ∧ log.filterMap Entry.event? = past := by
  obtain ⟨heap, hrun⟩ := h
  induction hrun with
  | refl => exact ⟨[], .start heap, rfl⟩
  | step _ hstep ih =>
    obtain ⟨log, hlog, rfl⟩ := ih
    obtain ⟨entries, hact, rfl⟩ := hstep.exists_act
    exact ⟨log ++ entries, hlog.act hact, List.filterMap_append⟩

theorem Act.entries_eq (h : meeting.Act entries meeting') :
    entries = [] ∨ ∃ entry, entries = [entry] := by
  cases h with
  | proceed hstep howner hgate hcalls =>
    rcases hstep.events_eq with rfl | ⟨event, rfl⟩
    · exact .inl rfl
    · exact .inr ⟨_, rfl⟩
  | _ => exact .inr ⟨_, rfl⟩

/-- Whatever is told in a history happened, with the rest of the history before it and behind it. -/
theorem History.exists_act (h : History log meeting) {before after : List Entry} {entry : Entry}
    (hlog : log = before ++ entry :: after) :
    ∃ earlier later, History before earlier ∧ earlier.Act [entry] later := by
  induction h generalizing after with
  | start heap => simp at hlog
  | @act log entries earlier later hearlier hact ih =>
    rcases append_eq_append_cons_cases hact.entries_eq hlog with ⟨_, -, hbefore⟩ | ⟨rfl, rfl, -⟩
    · exact ih hbefore
    · exact ⟨earlier, later, hearlier, hact⟩

theorem History.exists_called_of_queued (h : History log meeting) {number : Nat} {call : Call}
    (hmem : .queued number call ∈ log.filterMap Entry.event?) :
    ∃ caller, .called caller call (.queued number) ∈ log := by
  obtain ⟨entry, hentry, hevent⟩ := List.mem_filterMap.mp hmem
  obtain ⟨before, after, hlog⟩ := List.append_of_mem hentry
  obtain ⟨earlier, later, -, hact⟩ := h.exists_act hlog
  generalize hentries : [entry] = entries at hact
  cases hact with
  | send hcaller hsend =>
    cases hentries
    cases hevent
    exact ⟨_, hentry⟩
  | proceed hstep howner hgate hcalls =>
    obtain ⟨event, hmem, rfl⟩ := List.mem_map.mp (hentries ▸ List.mem_singleton_self entry)
    cases hevent
    exact absurd rfl ((hcalls _ hmem).1 number call)
  | _ => cases hentries; cases hevent

/-! ## The owner and the gate -/

theorem History.owner_eq (h : History log meeting) : meeting.queue.owner = designated? log := by
  induction h with
  | start heap => rfl
  | act _ hact ih =>
    rw [designated?] at ih ⊢
    rw [List.filterMap_append]
    cases hact with
    | drive thread hduties => exact List.getLast?_concat.symm
    | proceed hstep howner hgate hcalls =>
      rw [howner, Entry.filterMap_driver?_map, List.append_nil, ih]
    | send hcaller hsend =>
      obtain ⟨-, -, rfl⟩ := Affinity.send?_eq_some_iff.mp hsend
      rw [List.filterMap_cons_none rfl, List.filterMap_nil, List.append_nil, ← ih]
    | close =>
      rw [List.filterMap_cons_none rfl, List.filterMap_nil, List.append_nil, ← ih, Affinity.close]
      split <;> rfl
    | _ => rw [List.filterMap_cons_none rfl, List.filterMap_nil, List.append_nil, ← ih]

theorem gate_close_ne (queue : CallQueue) : queue.close.gate ≠ .accepting := by
  rw [Affinity.close]
  split <;> simp_all

theorem Act.gate_ne (h : meeting.Act entries meeting') (hgate : meeting.queue.gate ≠ .accepting) :
    meeting'.queue.gate ≠ .accepting := by
  cases h with
  | send hcaller hsend => exact absurd (Affinity.send?_eq_some_iff.mp hsend).1 hgate
  | close => exact gate_close_ne meeting.queue
  | drop hduties | comeBack hduties hwaiting => exact nofun
  | proceed hstep howner hsame hcalls => rwa [hsame]
  | _ => exact hgate

theorem Act.gate_ne_of_shut (h : meeting.Act entries meeting') {how : Shutting}
    (hmem : .shut how ∈ entries) : meeting'.queue.gate ≠ .accepting := by
  cases h with
  | close => exact gate_close_ne meeting.queue
  | drop hduties | comeBack hduties hwaiting => exact nofun
  | proceed hstep howner hgate hcalls =>
    obtain ⟨event, -, hevent⟩ := List.mem_map.mp hmem
    cases hevent
  | _ => cases List.mem_singleton.mp hmem

theorem History.gate_ne_of_shut (h : History log meeting) {how : Shutting}
    (hmem : .shut how ∈ log) : meeting.queue.gate ≠ .accepting := by
  induction h with
  | start heap => cases hmem
  | act _ hact ih =>
    rcases List.mem_append.mp hmem with hearlier | hnow
    · exact hact.gate_ne (ih hearlier)
    · exact hact.gate_ne_of_shut hnow

/-! ## Calls to a queue that was shut -/

/-- Once the gate does not accept, only the owner's calls run. -/
theorem Act.of_called {caller : Thread} {call : Call} {reception : Reception}
    (h : meeting.Act [.called caller call reception] meeting')
    (hgate : meeting.queue.gate ≠ .accepting) :
    meeting.queue.owner ≠ some caller ∧ reception = .refused refusal ∨
      meeting.queue.owner = some caller ∧ ∃ uptime heap,
        reception = .inPlace (call.runGuarded (Delegate.context caller uptime) heap).1 := by
  generalize hentries : [Entry.called caller call reception] = entries at h
  cases h with
  | inPlace uptime call hcaller =>
    cases hentries
    exact .inr ⟨hcaller, uptime, meeting.heap, rfl⟩
  | send hcaller hsend => exact absurd (Affinity.send?_eq_some_iff.mp hsend).1 hgate
  | refuse hcaller hsend =>
    cases hentries
    exact .inl ⟨hcaller, rfl⟩
  | proceed hstep howner hsame hcalls =>
    obtain ⟨event, -, hevent⟩ := List.mem_map.mp (hentries ▸ List.mem_singleton_self _)
    cases hevent
  | _ => cases hentries

variable {before after : List Entry} {how : Shutting}

theorem History.of_called_after (h : History log meeting)
    (hlog : log = before ++ .shut how :: after) {between rest : List Entry} {caller : Thread}
    {call : Call} {reception : Reception}
    (hafter : after = between ++ .called caller call reception :: rest) :
    designated? (before ++ .shut how :: between) ≠ some caller ∧ reception = .refused refusal ∨
      designated? (before ++ .shut how :: between) = some caller ∧ ∃ uptime heap,
        reception = .inPlace (call.runGuarded (Delegate.context caller uptime) heap).1 := by
  rw [hafter, ← List.cons_append, ← List.append_assoc] at hlog
  obtain ⟨earlier, later, hearlier, hact⟩ := h.exists_act hlog
  have hgate := hearlier.gate_ne_of_shut (List.mem_append_right before List.mem_cons_self)
  rw [← hearlier.owner_eq]
  exact hact.of_called hgate

/-- What the queue runs, it took before it was shut. -/
theorem History.exists_called_of_ran (h : History log meeting)
    (hlog : log = before ++ .shut how :: after) {number : Nat} {call : Call} {context : Context}
    {heap : Heap} (hran : .recorded (.ran number call context heap) ∈ log) :
    ∃ caller, .called caller call (.queued number) ∈ before := by
  have hrecord : Event.ran number call context heap ∈ log.filterMap Entry.event? :=
    List.mem_filterMap.mpr ⟨_, hran, rfl⟩
  have hqueued := (worked_and_met_of_reaches h.reaches).1.ran_prefix_queued.subset
    (Event.mem_ran_iff.mpr ⟨context, heap, hrecord⟩)
  obtain ⟨caller, hmem⟩ := h.exists_called_of_queued (Event.mem_queued_iff.mp hqueued)
  refine ⟨caller, ?_⟩
  rw [hlog, List.mem_append, List.mem_cons] at hmem
  rcases hmem with hbefore | hnow | hlater
  · exact hbefore
  · cases hnow
  · obtain ⟨between, rest, hafter⟩ := List.append_of_mem hlater
    rcases h.of_called_after hlog hafter with ⟨-, hreception⟩ | ⟨-, _, _, hreception⟩
    · cases hreception
    · cases hreception

/-- **A queue that was shut refuses all threads but one.** Once the queue is closed or dropped or
its driver has come back, each call from another thread than the designated one is answered as
unavailable and never run: what the queue still runs it took before. The designated thread is the
last that drove the queue, before or after it was shut, and its calls run in place. -/
theorem refused_of_shut (h : History log meeting) (hlog : log = before ++ .shut how :: after) :
    (∀ between caller call reception rest,
      after = between ++ .called caller call reception :: rest →
      designated? (before ++ .shut how :: between) ≠ some caller ∧
          reception = .refused (.error (.unavailable .shutDown)) ∨
        designated? (before ++ .shut how :: between) = some caller ∧ ∃ uptime heap,
          reception = .inPlace (call.runGuarded (Delegate.context caller uptime) heap).1) ∧
    (∀ number call context heap, .recorded (.ran number call context heap) ∈ log →
      ∃ caller, .called caller call (.queued number) ∈ before) ∧
    ∀ thread caller uptime work heap, Delegate.call (.designated thread meeting.queue) caller uptime
        work heap =
      if designated? log = some caller then
        ((work.runGuarded (Delegate.context caller uptime) heap).1,
          .designated thread meeting.queue,
          (work.runGuarded (Delegate.context caller uptime) heap).2)
      else (.error (.unavailable .shutDown), .designated thread meeting.queue, heap) := by
  refine ⟨fun between caller call reception rest hafter ↦ h.of_called_after hlog hafter,
    fun number call context heap hran ↦ h.exists_called_of_ran hlog hran, ?_⟩
  intro thread caller uptime work heap
  have hgate := @History.gate_ne_of_shut _ _ h how (by rw [hlog]; simp)
  have hplace : meeting.queue.RunsInPlace caller ↔ designated? log = some caller := by
    rw [← h.owner_eq]
    exact Iff.rfl
  simp only [Delegate.call, hplace, Delegate.exchange_of_not_accepting hgate]

/-- A queue is closed with one call in it, and the caller comes again. -/
theorem refused_of_shut_closed :
    let driver : Thread := ⟨1, some "worker"⟩
    let other : Thread := ⟨2, none⟩
    let work : Call := .body fun _ heap ↦ (.returned .null, heap)
    ∃ meeting, History [.drove driver, .called other work (.queued 0), .shut .closed,
        .called other work (.refused refusal)] meeting ∧
      ∀ uptime heap, Delegate.call (.designated driver meeting.queue) other uptime work heap =
        (.error (.unavailable .shutDown), .designated driver meeting.queue, heap) := by
  intro driver other work
  have hother : ¬(Affinity.claim ∅ driver : CallQueue).RunsInPlace other := by decide
  have hdriven : History [.drove driver] { queue := Affinity.claim ∅ driver } :=
    (History.start ∅).act (.drive driver rfl)
  have hsent := hdriven.act
    (.send hother (show Affinity.send? _ work = some (0, _) from rfl))
  have hrefused := (hsent.act .close).act (@Act.refuse _ other work hother rfl)
  refine ⟨_, hrefused, fun uptime heap ↦ ?_⟩
  have hcalls := (@refused_of_shut _ _ [.drove driver, .called other work (.queued 0)] _ .closed
    hrefused rfl).2.2 driver other uptime work heap
  rwa [if_neg (by decide)] at hcalls

/-- The thread that drove the queue has its call run in place, however the queue was shut. -/
theorem inPlace_after_shut :
    let driver : Thread := ⟨1, some "worker"⟩
    let work : Call := .body fun _ heap ↦ (.returned .null, heap)
    let runs (how : Shutting) : Prop := ∃ meeting,
      History [.drove driver, .shut how, .called driver work (.inPlace (.ok .null))] meeting ∧
        Delegate.call (.designated driver meeting.queue) driver 0 work ∅ =
          (.ok .null, .designated driver meeting.queue, ∅)
    runs .closed ∧ runs .dropped ∧ runs .returned := by
  intro driver work runs
  have hdriven : History [.drove driver] { queue := Affinity.claim ∅ driver } :=
    (History.start ∅).act (.drive driver rfl)
  have hruns {how : Shutting} {meeting : Meeting} (h : History [.drove driver, .shut how] meeting)
      (howner : meeting.queue.RunsInPlace driver) : runs how := by
    refine ⟨_, h.act (.inPlace 0 work howner), ?_⟩
    rw [Delegate.call, if_pos howner]
    rfl
  refine ⟨?_, ?_, ?_⟩
  · exact hruns (hdriven.act .close) rfl
  · exact hruns (hdriven.act (.drop rfl)) rfl
  · exact hruns (hdriven.act (.comeBack rfl rfl)) rfl

end Meeting

end ObjectConsole.Execution
