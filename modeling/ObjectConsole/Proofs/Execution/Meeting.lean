import ObjectConsole.Proofs.Execution.Delegation
import Mathlib.Data.List.Basic

/-!
# Callers and the thread at the queue, step by step

`Affinity` has one operation for everything that is done to a queue, and `Delegate.exchange` makes
one caller's turn of them. Threads are finer than that. An outcome is stored first and its permit
given afterwards, a caller takes the permit first and the outcome afterwards, and between any two of
these steps all others may act. A `Meeting` is the state of such a run, and a `Meeting.Step` is what
one thread does without being interrupted. A caller that waits for room in the queue has not sent
yet.

The thread at the queue is described by its `duties`, what it has begun and must finish before it
looks at the queue again. A job stays in its hands until it is discarded, also after it was run;
what keeps a job from answering twice is that running it takes its rendezvous away.

Nothing is lost by the finer steps: the operations of `Affinity` are made of them
(`Rendezvous.fulfil_eq`, `Rendezvous.collect?_eq`, `Meeting.exists_run_drop`), and an exchange is a
run of them, undisturbed (`Meeting.exists_run_exchange`).
-/

namespace ObjectConsole

open Store Execution

namespace Store.Cells

variable {α : Type}

theorem put_put (cells : Cells α) (cell : Nat) (content content' : α) :
    (cells.put cell content).put cell content' = cells.put cell content' := by
  rw [put, put, put, Array.setIfInBounds_setIfInBounds]

end Store.Cells

/-! ## What happens at a rendezvous -/

namespace Execution.Rendezvous

variable {ρ : Type}

/-- Stores an outcome. -/
def store (rendezvous : Rendezvous ρ) (outcome : ρ) : Rendezvous ρ :=
  { rendezvous with outcome := some outcome }

/-- Gives a permit. -/
def release (rendezvous : Rendezvous ρ) : Rendezvous ρ :=
  { rendezvous with permits := rendezvous.permits + 1 }

/-- Takes a permit, if there is one. -/
def acquire? (rendezvous : Rendezvous ρ) : Option (Rendezvous ρ) :=
  if rendezvous.permits = 0 then none
  else some { rendezvous with permits := rendezvous.permits - 1 }

/-- The rendezvous once its outcome was taken. -/
def emptied (rendezvous : Rendezvous ρ) : Rendezvous ρ :=
  { rendezvous with outcome := none }

theorem fulfil_eq (rendezvous : Rendezvous ρ) (outcome : ρ) :
    rendezvous.fulfil outcome = (rendezvous.store outcome).release :=
  rfl

theorem collect?_eq (rendezvous : Rendezvous ρ) :
    rendezvous.collect? =
      rendezvous.acquire?.map fun acquired ↦ (acquired.outcome, acquired.emptied) := by
  rw [collect?, acquire?]
  split <;> rfl

end Execution.Rendezvous

namespace Execution.Affinity

variable {γ ρ : Type}

/-- The queue with one rendezvous changed. -/
def change (affinity : Affinity γ ρ) (number : Nat) (f : Rendezvous ρ → Rendezvous ρ) :
    Affinity γ ρ :=
  match affinity.rendezvous.get? number with
  | some rendezvous =>
    { affinity with rendezvous := affinity.rendezvous.put number (f rendezvous) }
  | none => affinity

section

variable (affinity : Affinity γ ρ) (number : Nat) (f g : Rendezvous ρ → Rendezvous ρ)

@[simp] theorem owner_change : (affinity.change number f).owner = affinity.owner := by
  rw [change]
  split <;> rfl

@[simp] theorem gate_change : (affinity.change number f).gate = affinity.gate := by
  rw [change]
  split <;> rfl

@[simp] theorem waiting_change : (affinity.change number f).waiting = affinity.waiting := by
  rw [change]
  split <;> rfl

@[simp] theorem size_change :
    (affinity.change number f).rendezvous.size = affinity.rendezvous.size := by
  rw [change]
  split
  · exact Cells.size_put _ _ _
  · rfl

theorem get?_change (other : Nat) :
    (affinity.change number f).rendezvous.get? other =
      if other = number then (affinity.rendezvous.get? number).map f
      else affinity.rendezvous.get? other := by
  rw [change]
  cases h : affinity.rendezvous.get? number with
  | none =>
    by_cases hother : other = number
    · rw [if_pos hother, hother]
      exact h
    · rw [if_neg hother]
  | some rendezvous =>
    have hlt : number < affinity.rendezvous.size := by
      rw [← Nat.not_le, ← Cells.get?_eq_none_iff, h]
      exact Option.some_ne_none _
    simp only [Cells.get?_put, hlt, and_true, Option.map_some]

theorem change_change :
    (affinity.change number f).change number g = affinity.change number fun rendezvous ↦
      g (f rendezvous) := by
  cases h : affinity.rendezvous.get? number with
  | none => simp only [change, h]
  | some rendezvous =>
    have hlt : number < affinity.rendezvous.size := by
      rw [← Nat.not_le, ← Cells.get?_eq_none_iff, h]
      exact Option.some_ne_none _
    simp only [change, h, Cells.get?_put, hlt, and_self, if_true, Cells.put_put]

theorem fulfil_eq_change (outcome : ρ) :
    affinity.fulfil number outcome =
      (affinity.change number fun rendezvous ↦ rendezvous.store outcome).change number
        Rendezvous.release := by
  rw [change_change]
  rfl

/-- A fulfilment changes the rendezvous alone, whatever else there is in the queue. -/
theorem exists_fulfil_eq (rendezvous : Cells (Rendezvous ρ)) (outcome : ρ) :
    ∃ rendezvous' : Cells (Rendezvous ρ), ∀ owner gate (waiting : List (Nat × γ)),
      (⟨owner, gate, waiting, rendezvous⟩ : Affinity γ ρ).fulfil number outcome =
        ⟨owner, gate, waiting, rendezvous'⟩ := by
  cases h : rendezvous.get? number with
  | none => exact ⟨rendezvous, fun owner gate waiting ↦ by simp only [fulfil, h]⟩
  | some cell =>
    exact ⟨rendezvous.put number (cell.fulfil outcome), fun owner gate waiting ↦ by
      simp only [fulfil, h]⟩

end

theorem send?_eq_some_iff {affinity sent : Affinity γ ρ} {number : Nat} {call : γ} :
    affinity.send? call = some (number, sent) ↔
      affinity.gate = .accepting ∧ number = affinity.rendezvous.size ∧ sent = { affinity with
        waiting := affinity.waiting ++ [(affinity.rendezvous.size, call)]
        rendezvous := affinity.rendezvous.create {} } := by
  rw [send?]
  cases affinity.gate <;> simp [eq_comm]

theorem take?_eq_some_iff {affinity rest : Affinity γ ρ} {job : Nat × γ} :
    affinity.take? = some (job, rest) ↔
      ∃ waiting, affinity.waiting = job :: waiting ∧
        rest = { affinity with waiting := waiting } := by
  rw [take?]
  split <;> simp_all [eq_comm]

@[simp] theorem waiting_close (affinity : Affinity γ ρ) :
    affinity.close.waiting = affinity.waiting := by
  rw [close]
  split <;> rfl

@[simp] theorem rendezvous_close (affinity : Affinity γ ρ) :
    affinity.close.rendezvous = affinity.rendezvous := by
  rw [close]
  split <;> rfl

@[simp] theorem gate_close_eq_dropped_iff (affinity : Affinity γ ρ) :
    affinity.close.gate = .dropped ↔ affinity.gate = .dropped := by
  rw [close]
  split <;> simp_all

theorem exists_of_collect?_eq_some {affinity collected : Affinity γ ρ} {number : Nat}
    {outcome : Option ρ} (h : affinity.collect? number = some (outcome, collected)) :
    ∃ rendezvous acquired, affinity.rendezvous.get? number = some rendezvous ∧
      rendezvous.acquire? = some acquired ∧ acquired.outcome = outcome ∧
      collected = (affinity.change number fun _ ↦ acquired).change number Rendezvous.emptied := by
  rw [collect?] at h
  cases hget : affinity.rendezvous.get? number with
  | none => rw [hget] at h; cases h
  | some rendezvous =>
    rw [hget, Option.bind_some, Rendezvous.collect?_eq] at h
    cases hacquire : rendezvous.acquire? with
    | none => rw [hacquire] at h; cases h
    | some acquired =>
      rw [hacquire] at h
      cases h
      exact ⟨rendezvous, acquired, rfl, hacquire, rfl, by rw [change_change, change, hget]⟩

end Execution.Affinity

namespace Execution

/-! ## All who take part -/

/-- Where a caller is whose call the queue has taken. -/
inductive Phase where
  /-- It waits for a permit. -/
  | waiting
  /-- It has the permit and is about to take the outcome. -/
  | admitted
  /-- It has come back. -/
  | returned
  deriving DecidableEq, Repr

/-- One thing that the thread at the queue still has to do. -/
inductive Duty where
  /-- Run a call, whose job is in its hands. -/
  | run (number : Nat) (call : Call)
  /-- Store an outcome at a rendezvous. -/
  | store (number : Nat) (verdict : Verdict)
  /-- Give the permit of a rendezvous. -/
  | release (number : Nat)
  /-- Let go of a job, which answers for itself if it still has its rendezvous. -/
  | discard (rendezvous : Option Nat)

/-- A queue, the heap that calls run on, the duties of the thread at the queue, and the callers
whose calls the queue has taken. A caller has the number of its rendezvous. -/
structure Meeting where
  queue : CallQueue := ∅
  heap : Heap := ∅
  duties : List Duty := []
  callers : List Phase := []

/-- What is put on record about a meeting. -/
inductive Event where
  | queued (number : Nat) (call : Call)
  | refused (call : Call) (verdict : Verdict)
  | ran (number : Nat) (call : Call) (context : Context) (heap : Heap)
  | stored (number : Nat) (verdict : Verdict)
  | released (number : Nat)
  | returned (number : Nat) (verdict : Verdict)

/-- The verdict of a caller that finds its rendezvous without an outcome. -/
def missing : Verdict := .error (.unavailable .noOutcome)

/-- The verdict on a call that was discarded instead of being run. -/
def discarded : Verdict := .error (.unavailable .dropped)

/-- The verdict on a call that the queue does not take. -/
def refusal : Verdict := .error (.unavailable .shutDown)

namespace Meeting

/-- What one thread does without being interrupted, and what is put on record about it. Of the
queue's own steps, `drop` comes between two jobs, because whoever has a job in its hands has the
queue too. -/
inductive Step (meeting : Meeting) : List Event → Meeting → Prop
  -- callers
  | send {caller : Thread} {call : Call} {number : Nat} {sent : CallQueue}
      (hcaller : ¬meeting.queue.RunsInPlace caller)
      (hsend : meeting.queue.send? call = some (number, sent)) :
      Step meeting [.queued number call]
        { meeting with queue := sent, callers := meeting.callers ++ [.waiting] }
  -- the job stays with its caller, who lets go of it: nobody ever waits at its rendezvous
  | refuse {caller : Thread} {call : Call} (hcaller : ¬meeting.queue.RunsInPlace caller)
      (hsend : meeting.queue.send? call = none) :
      Step meeting [.refused call refusal] meeting
  | wake {number : Nat} {rendezvous : Rendezvous Verdict}
      (hphase : meeting.callers[number]? = some .waiting)
      (hget : meeting.queue.rendezvous.get? number = some rendezvous)
      (hacquire : rendezvous.acquire? = none) : Step meeting [] meeting
  | acquire {number : Nat} {rendezvous acquired : Rendezvous Verdict}
      (hphase : meeting.callers[number]? = some .waiting)
      (hget : meeting.queue.rendezvous.get? number = some rendezvous)
      (hacquire : rendezvous.acquire? = some acquired) :
      Step meeting []
        { meeting with
          queue := meeting.queue.change number fun _ ↦ acquired
          callers := meeting.callers.set number .admitted }
  | collect {number : Nat} {rendezvous : Rendezvous Verdict}
      (hphase : meeting.callers[number]? = some .admitted)
      (hget : meeting.queue.rendezvous.get? number = some rendezvous) :
      Step meeting [.returned number (rendezvous.outcome.getD missing)]
        { meeting with
          queue := meeting.queue.change number Rendezvous.emptied
          callers := meeting.callers.set number .returned }
  -- the thread at the queue
  | claim (thread : Thread) (hduties : meeting.duties = []) :
      Step meeting [] { meeting with queue := meeting.queue.claim thread }
  | take {thread : Thread} {job : Nat × Call} {rest : CallQueue} (hduties : meeting.duties = [])
      (howner : meeting.queue.owner = some thread)
      (htake : meeting.queue.take? = some (job, rest)) :
      Step meeting [] { meeting with queue := rest, duties := [.run job.1 job.2] }
  | run {thread : Thread} (uptime : Nat) {number : Nat} {call : Call} {duties : List Duty}
      (hduties : meeting.duties = .run number call :: duties)
      (howner : meeting.queue.owner = some thread) :
      Step meeting [.ran number call (Delegate.context thread uptime) meeting.heap]
        { meeting with
          heap := (call.runGuarded (Delegate.context thread uptime) meeting.heap).2
          duties :=
            .store number (call.runGuarded (Delegate.context thread uptime) meeting.heap).1 ::
              .discard none :: duties }
  | store {number : Nat} {verdict : Verdict} {duties : List Duty}
      (hduties : meeting.duties = .store number verdict :: duties) :
      Step meeting [.stored number verdict]
        { meeting with
          queue := meeting.queue.change number fun rendezvous ↦ rendezvous.store verdict
          duties := .release number :: duties }
  | release {number : Nat} {duties : List Duty}
      (hduties : meeting.duties = .release number :: duties) :
      Step meeting [.released number]
        { meeting with
          queue := meeting.queue.change number Rendezvous.release
          duties := duties }
  | answer {number : Nat} {duties : List Duty}
      (hduties : meeting.duties = .discard (some number) :: duties) :
      Step meeting [] { meeting with duties := .store number discarded :: duties }
  | letGo {duties : List Duty} (hduties : meeting.duties = .discard none :: duties) :
      Step meeting [] { meeting with duties := duties }
  -- the queue, and everything else
  | close : Step meeting [] { meeting with queue := meeting.queue.close }
  | drop (hduties : meeting.duties = []) :
      Step meeting []
        { meeting with
          queue := { meeting.queue with gate := .dropped, waiting := [] }
          duties := meeting.queue.waiting.map fun job ↦ .discard (some job.1) }
  | elsewhere (heap : Heap) : Step meeting [] { meeting with heap := heap }

/-- Steps in a row, and what they put on record, oldest event first. -/
inductive Run (start : Meeting) : List Event → Meeting → Prop
  | refl : Run start [] start
  | step {past events : List Event} {meeting meeting' : Meeting} (h : Run start past meeting)
      (hstep : meeting.Step events meeting') : Run start (past ++ events) meeting'

/-- The meetings that come about at a new queue, with their record. -/
def Reaches (past : List Event) (meeting : Meeting) : Prop :=
  ∃ heap, Run { heap := heap } past meeting

variable {meeting meeting' meeting'' : Meeting} {past events : List Event}

theorem Run.trans (h : Run meeting past meeting') (h' : Run meeting' events meeting'') :
    Run meeting (past ++ events) meeting'' := by
  induction h' with
  | refl => rwa [List.append_nil]
  | step _ hstep ih =>
    rw [← List.append_assoc]
    exact ih.step hstep

/-! ## The operations of a queue as runs -/

/-- Storing an outcome and giving its permit fulfils a rendezvous. -/
theorem exists_run_fulfil (queue : CallQueue) (heap : Heap) (number : Nat) (verdict : Verdict)
    (duties : List Duty) (callers : List Phase) :
    ∃ events, Run ⟨queue, heap, .store number verdict :: duties, callers⟩ events
      ⟨queue.fulfil number verdict, heap, duties, callers⟩ := by
  have hstored : Run ⟨queue, heap, .store number verdict :: duties, callers⟩ _ _ :=
    Run.refl.step (.store rfl)
  rw [Affinity.fulfil_eq_change]
  exact ⟨_, hstored.step (.release rfl)⟩

/-- The thread at the queue, when it is not disturbed, runs what is waiting. -/
theorem exists_run_runAll (thread : Thread) (uptime : Nat) (gate : Gate) (callers : List Phase)
    (waiting : List (Nat × Call)) (rendezvous : Cells (Rendezvous Verdict)) (heap : Heap) :
    let ran := Affinity.runAll (Call.runGuarded (Delegate.context thread uptime)) waiting
      ⟨some thread, gate, [], rendezvous⟩ heap
    ∃ events, Run ⟨⟨some thread, gate, waiting, rendezvous⟩, heap, [], callers⟩ events
      ⟨ran.1, ran.2, [], callers⟩ := by
  induction waiting generalizing rendezvous heap with
  | nil => exact ⟨[], .refl⟩
  | cons job rest ih =>
    -- the first job is taken, run, answered and let go
    let result := job.2.runGuarded (Delegate.context thread uptime) heap
    obtain ⟨rendezvous', hfulfil⟩ := Affinity.exists_fulfil_eq (γ := Call) job.1 rendezvous result.1
    have htaken : Run ⟨⟨some thread, gate, job :: rest, rendezvous⟩, heap, [], callers⟩ _
        ⟨⟨some thread, gate, rest, rendezvous⟩, heap, [.run job.1 job.2], callers⟩ :=
      Run.refl.step (.take rfl rfl rfl)
    have hran : Run _ _ ⟨⟨some thread, gate, rest, rendezvous⟩, result.2,
        [.store job.1 result.1, .discard none], callers⟩ :=
      htaken.step (.run uptime rfl rfl)
    obtain ⟨answered, hanswered⟩ : ∃ answered, Run _ answered
        ⟨⟨some thread, gate, rest, rendezvous'⟩, result.2, [.discard none], callers⟩ := by
      rw [← hfulfil]
      exact exists_run_fulfil _ _ _ _ _ _
    have hdone := (hran.trans hanswered).step (.letGo rfl)
    obtain ⟨events, hrest⟩ := ih rendezvous' result.2
    have hran : Affinity.runAll (Call.runGuarded (Delegate.context thread uptime)) (job :: rest)
        ⟨some thread, gate, [], rendezvous⟩ heap =
          Affinity.runAll (Call.runGuarded (Delegate.context thread uptime)) rest
            ⟨some thread, gate, [], rendezvous'⟩ result.2 := by
      rw [Affinity.runAll, hfulfil]
    rw [hran]
    exact ⟨_, hdone.trans hrest⟩

/-- A queue that goes away answers what is waiting. -/
theorem exists_run_drop (queue : CallQueue) (heap : Heap) (callers : List Phase) :
    ∃ events, Run ⟨queue, heap, [], callers⟩ events ⟨queue.drop discarded, heap, [], callers⟩ := by
  have hanswers : ∀ (waiting : List (Nat × Call)) (dropped : CallQueue), ∃ events,
      Run ⟨dropped, heap, waiting.map fun job ↦ .discard (some job.1), callers⟩ events
        ⟨waiting.foldl (fun state job ↦ state.fulfil job.1 discarded) dropped, heap, [],
          callers⟩ := by
    intro waiting
    induction waiting with
    | nil => exact fun dropped ↦ ⟨[], .refl⟩
    | cons job rest ih =>
      intro dropped
      have hanswer : Run ⟨dropped, heap, (job :: rest).map fun job ↦ .discard (some job.1), callers⟩
          _ ⟨dropped, heap, .store job.1 discarded :: rest.map fun job ↦ .discard (some job.1),
            callers⟩ :=
        Run.refl.step (.answer rfl)
      obtain ⟨answered, hanswered⟩ := exists_run_fulfil dropped heap job.1 discarded
        (rest.map fun job ↦ .discard (some job.1)) callers
      obtain ⟨events, hrest⟩ := ih (dropped.fulfil job.1 discarded)
      exact ⟨_, (hanswer.trans hanswered).trans hrest⟩
  have hdropped : Run ⟨queue, heap, [], callers⟩ _ _ := Run.refl.step (.drop rfl)
  obtain ⟨events, hanswered⟩ :=
    hanswers queue.waiting { queue with gate := .dropped, waiting := [] }
  exact ⟨_, hdropped.trans hanswered⟩

/-- Every accepted caller has a rendezvous. -/
theorem Run.length_callers (h : Run meeting past meeting')
    (hlength : meeting.callers.length = meeting.queue.rendezvous.size) :
    meeting'.callers.length = meeting'.queue.rendezvous.size := by
  induction h with
  | refl => exact hlength
  | step _ hstep ih =>
    cases hstep with
    | send hcaller hsend =>
      obtain ⟨-, -, rfl⟩ := Affinity.send?_eq_some_iff.mp hsend
      simpa using ih
    | take hduties howner htake =>
      obtain ⟨waiting, -, rfl⟩ := Affinity.take?_eq_some_iff.mp htake
      exact ih
    | _ => simpa [Affinity.claim] using ih

/-- **An exchange is a run.** What `Delegate.exchange` does with a call is one of the ways in which
a meeting can go on from there: the caller sends its call or is refused, the thread at the queue
runs all that is waiting, and the caller comes back with its verdict. -/
theorem exists_run_exchange (hduties : meeting.duties = [])
    (hlength : meeting.callers.length = meeting.queue.rendezvous.size) {caller : Thread}
    (hcaller : ¬meeting.queue.RunsInPlace caller) (thread : Thread) (uptime : Nat) (call : Call) :
    let exchanged := Delegate.exchange meeting.queue thread uptime call meeting.heap
    ∃ events meeting', Run meeting events meeting' ∧
      meeting'.queue = exchanged.2.1 ∧ meeting'.heap = exchanged.2.2 ∧ meeting'.duties = [] ∧
      (.refused call exchanged.1 ∈ events ∨
        .returned meeting.queue.rendezvous.size exchanged.1 ∈ events) := by
  intro exchanged
  obtain ⟨⟨owner, gate, waiting, rendezvous⟩, heap, duties, callers⟩ := meeting
  subst hduties
  by_cases hgate : gate = .accepting
  · subst hgate
    let jobs := waiting ++ [(rendezvous.size, call)]
    have hsent : Run ⟨⟨owner, .accepting, waiting, rendezvous⟩, heap, [], callers⟩ _
        ⟨⟨owner, .accepting, jobs, rendezvous.create {}⟩, heap, [], callers ++ [.waiting]⟩ :=
      Run.refl.step (.send hcaller rfl)
    have hclaimed := hsent.step (.claim thread rfl)
    obtain ⟨served, hserved⟩ := exists_run_runAll thread uptime .accepting (callers ++ [.waiting])
      jobs (rendezvous.create {}) heap
    let queue : CallQueue := ⟨owner, .accepting, waiting, rendezvous⟩
    obtain ⟨collected, hcollected, hheap, hexchanged⟩ :=
      Delegate.exchange_of_accepting (show queue.gate = .accepting from rfl) thread uptime call heap
    obtain ⟨cell, acquired, hget, hacquire, houtcome, rfl⟩ :=
      Affinity.exists_of_collect?_eq_some hcollected
    replace hlength : callers.length = rendezvous.size := hlength
    have hphase : (callers ++ [Phase.waiting])[rendezvous.size]? = some .waiting := by
      rw [← hlength, List.getElem?_concat_length]
    have hadmitted :
        ((callers ++ [Phase.waiting]).set rendezvous.size .admitted)[rendezvous.size]? =
          some .admitted := by
      rw [List.getElem?_set_self (by simp [hlength])]
    have hacquired := (hclaimed.trans hserved).step (.acquire hphase hget hacquire)
    have hreturned := hacquired.step (@Step.collect _ _ acquired hadmitted (by
      rw [Affinity.get?_change, if_pos rfl]
      exact congrArg (Option.map fun _ ↦ acquired) hget))
    rw [houtcome] at hreturned
    rw [show exchanged = _ from hexchanged]
    exact ⟨_, _, hreturned, rfl, hheap, rfl, .inr (by simp)⟩
  · have hsend : (⟨owner, gate, waiting, rendezvous⟩ : CallQueue).send? call = none := by
      cases gate with
      | accepting => exact absurd rfl hgate
      | closed | dropped => rfl
    have hexchanged : exchanged = (refusal, ⟨owner, gate, waiting, rendezvous⟩, heap) :=
      Delegate.exchange_of_not_accepting hgate thread uptime call heap
    rw [hexchanged]
    exact ⟨_, _, Run.refl.step (.refuse hcaller hsend), rfl, rfl, rfl, .inl (by simp)⟩

end Meeting

end Execution

end ObjectConsole
