import ObjectConsole.Execution.Delegate

/-!
# Where delegated calls run

A delegate either refuses a call or brings it to the place where it runs, and there it is guarded:
`arrival?` tells the context and the heap that a call meets, and `verdict_call` that the verdict is
that of the guarded run. A queue may hold other calls, which the designated thread runs before. They
change the heap that the call meets, but they cannot answer in its place: it is the last in the
queue, and what is left at its rendezvous last is what its caller picks up.
-/

namespace ObjectConsole

open Store Execution

/-! ## A queue with one more call -/

namespace Execution.Affinity

variable {γ ρ σ : Type}

theorem size_fulfil (affinity : Affinity γ ρ) (number : Nat) (outcome : ρ) :
    (affinity.fulfil number outcome).rendezvous.size = affinity.rendezvous.size := by
  rw [fulfil]
  cases affinity.rendezvous.get? number with
  | none => rfl
  | some rendezvous => exact Cells.size_put _ _ _

/-- An outcome that was left is picked up, whatever was left before. -/
theorem collect?_fulfil {affinity : Affinity γ ρ} {number : Nat}
    (h : number < affinity.rendezvous.size) (outcome : ρ) :
    ∃ collected, (affinity.fulfil number outcome).collect? number =
      some (some outcome, collected) := by
  obtain ⟨rendezvous, hget⟩ := Option.ne_none_iff_exists'.mp
    (mt Cells.get?_eq_none_iff.mp (Nat.not_le.mpr h))
  have hput : (affinity.rendezvous.put number (rendezvous.fulfil outcome)).get? number =
      some (rendezvous.fulfil outcome) := by
    rw [Cells.get?_put, if_pos ⟨rfl, h⟩]
  rw [fulfil, hget, collect?, hput]
  exact ⟨_, rfl⟩

theorem size_runAll (run : γ → σ → ρ × σ) (jobs : List (Nat × γ)) (affinity : Affinity γ ρ)
    (world : σ) :
    (runAll run jobs affinity world).1.rendezvous.size = affinity.rendezvous.size := by
  induction jobs generalizing affinity world with
  | nil => rfl
  | cons job jobs ih => rw [runAll, ih, size_fulfil]

theorem waiting_fulfil (affinity : Affinity γ ρ) (number : Nat) (outcome : ρ) :
    (affinity.fulfil number outcome).waiting = affinity.waiting := by
  rw [fulfil]
  cases affinity.rendezvous.get? number <;> rfl

theorem waiting_runAll (run : γ → σ → ρ × σ) (jobs : List (Nat × γ)) (affinity : Affinity γ ρ)
    (world : σ) : (runAll run jobs affinity world).1.waiting = affinity.waiting := by
  induction jobs generalizing affinity world with
  | nil => rfl
  | cons job jobs ih => rw [runAll, ih, waiting_fulfil]

theorem waiting_of_collect? {affinity after : Affinity γ ρ} {number : Nat} {outcome : Option ρ}
    (h : affinity.collect? number = some (outcome, after)) : after.waiting = affinity.waiting := by
  rw [collect?] at h
  split at h <;> cases h
  rfl

theorem runAll_append_singleton (run : γ → σ → ρ × σ) (jobs : List (Nat × γ)) (last : Nat × γ)
    (affinity : Affinity γ ρ) (world : σ) :
    runAll run (jobs ++ [last]) affinity world =
      ((runAll run jobs affinity world).1.fulfil last.1
          (run last.2 (runAll run jobs affinity world).2).1,
        (run last.2 (runAll run jobs affinity world).2).2) := by
  induction jobs generalizing affinity world with
  | nil => rfl
  | cons job jobs ih => rw [List.cons_append, runAll, ih, runAll]

/-- The world that waiting calls leave behind does not depend on the queue they wait in. -/
theorem world_runAll (run : γ → σ → ρ × σ) (jobs : List (Nat × γ))
    (affinity other : Affinity γ ρ) (world : σ) :
    (runAll run jobs affinity world).2 = (runAll run jobs other world).2 := by
  induction jobs generalizing affinity other world with
  | nil => rfl
  | cons job jobs ih => rw [runAll, runAll, ih]

end Execution.Affinity

/-! ## Delegates -/

namespace Delegate

/-- The context and the heap that a call meets where it runs; nothing when it is refused. Before a
call that goes through a queue, the designated thread runs those that are waiting. -/
def arrival? (delegate : Delegate) (caller : Thread) (uptime : Nat) (heap : Heap) :
    Option (Context × Heap) :=
  match delegate with
  | inline => some (context caller uptime, heap)
  | designated thread queue =>
    if queue.RunsInPlace caller then some (context caller uptime, heap)
    else if queue.gate = .accepting then
      some (context thread uptime,
        (queue.runPending thread (Call.runGuarded (context thread uptime)) heap).2.2)
    else none

/-- A call that the queue takes runs last, in the context of the designated thread, and its caller
comes back with its own verdict. What is then left is the queue after all calls, without it. -/
theorem exchange_of_accepting {queue : CallQueue} (h : queue.gate = .accepting) (thread : Thread)
    (uptime : Nat) (call : Call) (heap : Heap) :
    let run := Call.runGuarded (context thread uptime)
    let ran := Affinity.runAll run (queue.waiting ++ [(queue.rendezvous.size, call)])
      ⟨some thread, .accepting, [], queue.rendezvous.create {}⟩ heap
    let result := run call (queue.runPending thread run heap).2.2
    ∃ after, ran.1.collect? queue.rendezvous.size = some (some result.1, after) ∧
      ran.2 = result.2 ∧ exchange queue thread uptime call heap = (result.1, after, result.2) := by
  intro run ran result
  let sent : CallQueue := { queue with
    waiting := queue.waiting ++ [(queue.rendezvous.size, call)]
    rendezvous := queue.rendezvous.create {} }
  have hsent : queue.send? call = some (queue.rendezvous.size, sent) := by
    simp only [Affinity.send?, h, sent]
  have hpending : (sent.runPending thread run heap).2 = ran := by
    rw [Affinity.runPending, Affinity.claim, h]
  -- the others run first, and meet the same heaps as in a queue without the call
  let others := Affinity.runAll run queue.waiting
    ⟨some thread, .accepting, [], queue.rendezvous.create {}⟩ heap
  have hheap : others.2 = (queue.runPending thread run heap).2.2 := Affinity.world_runAll _ _ _ _ _
  obtain ⟨hqueue, hworld⟩ : ran.1 = others.1.fulfil queue.rendezvous.size result.1 ∧
      ran.2 = result.2 := by
    simp only [ran, result, Affinity.runAll_append_singleton, ← hheap, others, and_self]
  -- the rendezvous of the call was created when it was sent, and is still there
  have hnumber : queue.rendezvous.size < others.1.rendezvous.size := by
    rw [Affinity.size_runAll]
    exact (Cells.size_create _ _).symm ▸ Nat.lt_succ_self _
  obtain ⟨after, hafter⟩ := Affinity.collect?_fulfil hnumber result.1
  rw [← hqueue] at hafter
  refine ⟨after, hafter, hworld, ?_⟩
  rw [exchange, hsent]
  simp only [run] at hpending
  simp only [hpending, hafter, hworld]

theorem exchange_of_not_accepting {queue : CallQueue} (h : queue.gate ≠ .accepting)
    (thread : Thread) (uptime : Nat) (call : Call) (heap : Heap) :
    exchange queue thread uptime call heap = (.error (.unavailable .shutDown), queue, heap) := by
  have hsend : queue.send? call = none := by
    rw [Affinity.send?]
    split
    · next haccepting => exact absurd haccepting h
    all_goals rfl
  rw [exchange, hsend]

/-- **A delegated call is refused, or it is guarded where it runs.** -/
theorem call_eq (delegate : Delegate) (caller : Thread) (uptime : Nat) (work : Call)
    (heap : Heap) :
    ∃ after, delegate.call caller uptime work heap =
      match delegate.arrival? caller uptime heap with
      | none => (.error (.unavailable .shutDown), after, heap)
      | some (context, before) =>
        ((work.runGuarded context before).1, after, (work.runGuarded context before).2) := by
  cases delegate with
  | inline => exact ⟨inline, rfl⟩
  | designated thread queue =>
    rw [call, arrival?]
    by_cases hplace : queue.RunsInPlace caller
    · exact ⟨designated thread queue, by rw [if_pos hplace, if_pos hplace]⟩
    · rw [if_neg hplace, if_neg hplace]
      by_cases hgate : queue.gate = .accepting
      · obtain ⟨after, -, -, hexchange⟩ := exchange_of_accepting hgate thread uptime work heap
        refine ⟨designated thread after, ?_⟩
        rw [hexchange, if_pos hgate]
      · refine ⟨designated thread queue, ?_⟩
        rw [exchange_of_not_accepting hgate, if_neg hgate]

/-! ## What a call leaves behind -/

/-- No call waits to be run. -/
def Idle : Delegate → Prop
  | inline => True
  | designated _ queue => queue.waiting = []

/-- A call leaves its delegate as it was, or the calls that waited were run with it. -/
theorem call_eq_or_idle (delegate : Delegate) (caller : Thread) (uptime : Nat) (work : Call)
    (heap : Heap) :
    (delegate.call caller uptime work heap).2.1 = delegate ∨
      (delegate.call caller uptime work heap).2.1.Idle := by
  cases delegate with
  | inline => exact .inl rfl
  | designated thread queue =>
    rw [call]
    by_cases hplace : queue.RunsInPlace caller
    · exact .inl (by rw [if_pos hplace])
    · rw [if_neg hplace]
      by_cases hgate : queue.gate = .accepting
      · obtain ⟨after, hafter, -, hexchange⟩ := exchange_of_accepting hgate thread uptime work heap
        rw [hexchange]
        exact .inr ((Affinity.waiting_of_collect? hafter).trans (Affinity.waiting_runAll _ _ _ _))
      · exact .inl (by rw [exchange_of_not_accepting hgate])

theorem Idle.call {delegate : Delegate} (h : delegate.Idle) (caller : Thread) (uptime : Nat)
    (work : Call) (heap : Heap) : (delegate.call caller uptime work heap).2.1.Idle := by
  rcases delegate.call_eq_or_idle caller uptime work heap with heq | hidle
  · rwa [heq]
  · exact hidle

/-- Where no call waits, a call meets the heap that its caller left. -/
theorem Idle.heap_eq_of_arrival? {delegate : Delegate} (h : delegate.Idle) {caller : Thread}
    {uptime : Nat} {heap before : Heap} {context : Context}
    (harrival : delegate.arrival? caller uptime heap = some (context, before)) :
    before = heap := by
  cases delegate with
  | inline => cases harrival; rfl
  | designated thread queue =>
    have hwaiting : queue.waiting = [] := h
    rw [arrival?] at harrival
    split at harrival
    · cases harrival; rfl
    · split at harrival <;> cases harrival
      rw [Affinity.runPending, hwaiting]
      rfl

end Delegate

end ObjectConsole
