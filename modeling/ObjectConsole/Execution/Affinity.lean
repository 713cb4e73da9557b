import ObjectConsole.Execution.Call
import ObjectConsole.Store.Cells

/-!
# Calls with an affinity to one thread

Some operations may only run on one designated thread. Every other thread sends its call to a queue
and waits at a rendezvous of its own until the outcome is there; the designated thread takes calls
from the queue in the order they came, runs them and leaves each outcome at the rendezvous. Whoever
drives the queue becomes the designated thread, and its own calls run in place.

The state of this exchange is a value, and each operation below is one indivisible step of one
thread, so that any run of any number of threads is a sequence of them. A caller's wait is a step
that may fail and be tried again (`collect?`): what it waits for is the permit at its rendezvous,
and being woken without one changes nothing. Loops are made of the steps: `runPending` is the
designated thread emptying the queue.
-/

namespace ObjectConsole.Execution

open Store

/-! ## Meeting one caller -/

/-- A one-time handing-over of an outcome: the outcome, and the permits to pick it up. -/
structure Rendezvous (ρ : Type) where
  outcome : Option ρ := none
  permits : Nat := 0
  deriving DecidableEq, Repr

namespace Rendezvous

variable {ρ : Type}

/-- Leaves an outcome and one permit. -/
def fulfil (rendezvous : Rendezvous ρ) (outcome : ρ) : Rendezvous ρ :=
  ⟨some outcome, rendezvous.permits + 1⟩

/-- Takes a permit and the outcome, whatever is there; nothing while there is no permit. -/
def collect? (rendezvous : Rendezvous ρ) : Option (Option ρ × Rendezvous ρ) :=
  if rendezvous.permits = 0 then none
  else some (rendezvous.outcome, ⟨none, rendezvous.permits - 1⟩)

end Rendezvous

/-! ## The queue -/

/-- Whether a queue takes calls: `closed` refuses new ones and keeps those it has, `dropped` has
none left. -/
inductive Gate where
  | accepting
  | closed
  | dropped
  deriving DecidableEq, Repr

/-- A queue of calls `γ` with outcomes `ρ`, and the rendezvous of every call ever sent, which also
number the calls. -/
structure Affinity (γ ρ : Type) where
  owner : Option Thread := none
  gate : Gate := .accepting
  waiting : List (Nat × γ) := []
  rendezvous : Cells (Rendezvous ρ) := ∅

namespace Affinity

variable {γ ρ σ : Type}

instance : EmptyCollection (Affinity γ ρ) := ⟨{}⟩

/-- Whether calls of a thread run in place. -/
def RunsInPlace (affinity : Affinity γ ρ) (thread : Thread) : Prop :=
  affinity.owner = some thread

instance (affinity : Affinity γ ρ) (thread : Thread) : Decidable (affinity.RunsInPlace thread) :=
  inferInstanceAs (Decidable (_ = _))

/-- A caller sends a call. The result is the number of its rendezvous; nothing when the queue
refuses. -/
def send? (affinity : Affinity γ ρ) (call : γ) : Option (Nat × Affinity γ ρ) :=
  match affinity.gate with
  | .accepting =>
    let number := affinity.rendezvous.size
    some (number, { affinity with
      waiting := affinity.waiting ++ [(number, call)]
      rendezvous := affinity.rendezvous.create {} })
  | .closed | .dropped => none

/-- A thread becomes the designated one. -/
def claim (affinity : Affinity γ ρ) (thread : Thread) : Affinity γ ρ :=
  { affinity with owner := some thread }

/-- The designated thread takes the oldest call in its hands. -/
def take? (affinity : Affinity γ ρ) : Option ((Nat × γ) × Affinity γ ρ) :=
  match affinity.waiting with
  | [] => none
  | job :: rest => some (job, { affinity with waiting := rest })

/-- Leaves the outcome of a call at its rendezvous. -/
def fulfil (affinity : Affinity γ ρ) (number : Nat) (outcome : ρ) : Affinity γ ρ :=
  match affinity.rendezvous.get? number with
  | some rendezvous =>
    { affinity with rendezvous := affinity.rendezvous.put number (rendezvous.fulfil outcome) }
  | none => affinity

/-- A caller looks for its outcome: nothing while it has to go on waiting. -/
def collect? (affinity : Affinity γ ρ) (number : Nat) : Option (Option ρ × Affinity γ ρ) :=
  match (affinity.rendezvous.get? number).bind Rendezvous.collect? with
  | some (outcome, rendezvous) =>
    some (outcome, { affinity with rendezvous := affinity.rendezvous.put number rendezvous })
  | none => none

/-- The queue refuses further calls. -/
def close (affinity : Affinity γ ρ) : Affinity γ ρ :=
  match affinity.gate with
  | .accepting => { affinity with gate := .closed }
  | .closed | .dropped => affinity

/-- The queue goes away. Each call still in it is answered with `outcome` instead of being run. -/
def drop (affinity : Affinity γ ρ) (outcome : ρ) : Affinity γ ρ :=
  affinity.waiting.foldl (fun state job ↦ state.fulfil job.1 outcome)
    { affinity with gate := .dropped, waiting := [] }

/-! ## Driving the queue -/

/-- Runs the given calls in order and leaves their outcomes. -/
def runAll (run : γ → σ → ρ × σ) : List (Nat × γ) → Affinity γ ρ → σ → Affinity γ ρ × σ
  | [], affinity, world => (affinity, world)
  | job :: rest, affinity, world =>
    let result := run job.2 world
    runAll run rest (affinity.fulfil job.1 result.1) result.2

/-- A thread becomes the designated one and runs what is waiting. The result begins with the number
of calls run. Calls that a running call makes run in place and so never come into the queue. -/
def runPending (affinity : Affinity γ ρ) (thread : Thread) (run : γ → σ → ρ × σ) (world : σ) :
    Nat × Affinity γ ρ × σ :=
  let jobs := affinity.waiting
  (jobs.length, runAll run jobs { affinity.claim thread with waiting := [] } world)

end Affinity

end ObjectConsole.Execution
