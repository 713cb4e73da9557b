import ObjectConsole.Execution.Affinity

/-!
# Delegates

A delegate decides where a call runs: in place, on the thread that asks, or on a designated thread
by way of a queue. Whatever it decides, the caller comes back with a verdict.
-/

namespace ObjectConsole

open Execution

/-- The queue that delegated calls go through. -/
abbrev CallQueue := Affinity Call Verdict

/-- Where calls run: in place, or on `thread`, which drives `queue` for as long as there is one. -/
inductive Delegate where
  | inline
  | designated (thread : Thread) (queue : CallQueue)

namespace Delegate

/-- The queue of a designated thread that has begun to drive it. -/
def driven (thread : Thread) : Delegate :=
  designated thread (Affinity.claim ∅ thread)

/-- A queue that was dropped before its first call. -/
def gone (thread : Thread) : Delegate :=
  designated thread (Affinity.drop ∅ (.error (.unavailable .dropped)))

/-- The context of calls that run on a thread. -/
def context (thread : Thread) (uptime : Nat) : Context :=
  ⟨thread.name, uptime⟩

/-- A caller on another thread sends a call, the designated thread runs it, and the caller collects
the outcome. -/
def exchange (queue : CallQueue) (thread : Thread) (uptime : Nat) (call : Call) (heap : Heap) :
    Verdict × CallQueue × Heap :=
  match queue.send? call with
  | none => (.error (.unavailable .shutDown), queue, heap)
  | some (number, sent) =>
    let ran := sent.runPending thread (Call.runGuarded (context thread uptime)) heap
    match ran.2.1.collect? number with
    | some (some verdict, collected) => (verdict, collected, ran.2.2)
    | some (none, collected) => (.error (.unavailable .noOutcome), collected, ran.2.2)
    | none => (.error (.unavailable .noOutcome), ran.2.1, ran.2.2)

/-- Delegates a call from a thread. -/
def call (delegate : Delegate) (caller : Thread) (uptime : Nat) (work : Call) (heap : Heap) :
    Verdict × Delegate × Heap :=
  match delegate with
  | inline =>
    let result := work.runGuarded (context caller uptime) heap
    (result.1, inline, result.2)
  | designated thread queue =>
    if queue.RunsInPlace caller then
      let result := work.runGuarded (context caller uptime) heap
      (result.1, designated thread queue, result.2)
    else
      let result := exchange queue thread uptime work heap
      (result.1, designated thread result.2.1, result.2.2)

end Delegate

end ObjectConsole
