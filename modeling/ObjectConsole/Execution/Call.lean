import ObjectConsole.Operation.Outcome

/-!
# Calls

A call is the work that a delegate is asked to do: the body of one operation with its operands, or
the same request made once more from inside. Whoever runs a call guards it: a failure is handed on
with its causes, and a panic becomes a failure too, so that it never tears down the thread it
happens on. The other way for a call to end without a value is not to run at all.
-/

namespace ObjectConsole

/-- A thread. Threads are told apart by number; a name is for show. -/
structure Thread where
  number : Nat
  name : Option String
  deriving DecidableEq, Repr

/-- Why a call was not run. -/
inductive Unavailable where
  | shutDown
  | dropped
  | noOutcome
  deriving DecidableEq, Repr

/-- The wording of a reason. -/
def Unavailable.reason : Unavailable → String
  | shutDown => "designated context has shut down"
  | dropped => "designated context dropped the call"
  | noOutcome => "outcome missing after signal"

/-- Why a delegated call has no value. -/
inductive DelegationError where
  | raised (failure : Failure)
  | unavailable (why : Unavailable)
  deriving DecidableEq, Repr

/-- The wording of an error. A raised failure speaks for itself. -/
def DelegationError.message : DelegationError → String
  | raised failure => failure.message
  | unavailable why => "execution context unavailable: " ++ why.reason

/-- What a delegated call comes back with. -/
abbrev Verdict := Except DelegationError Value

/-- The text that a panic is reported with. -/
def Panic.message : Panic → String
  | text message => message
  | wordless => "non-string panic payload"

/-- The verdict on a call that was run. -/
def Outcome.guard : Outcome → Verdict
  | returned v => .ok v
  | failed failure => .error (.raised failure)
  | panicked panic => .error (.raised ⟨"operation panicked: " ++ panic.message, []⟩)

/-- A verdict passed on as the outcome of the call that asked for it. -/
def Outcome.ofVerdict : Verdict → Outcome
  | .ok v => returned v
  | .error (.raised failure) => failed failure
  | .error (.unavailable why) => failed ⟨(DelegationError.unavailable why).message, []⟩

/-- Work for a delegate. -/
inductive Call where
  /-- A body with its operands. -/
  | body (run : Context → Heap → Outcome × Heap)
  /-- A call that delegates another one and passes its verdict on. -/
  | nested (inner : Call)

namespace Call

/-- Runs a call where it is. A nested call asks from the thread that runs its caller, and there
every delegate runs calls in place. -/
def run (context : Context) : Call → Heap → Outcome × Heap
  | body work, heap => work context heap
  | nested inner, heap =>
    let result := inner.run context heap
    (Outcome.ofVerdict result.1.guard, result.2)

/-- Runs a call and guards it. -/
def runGuarded (context : Context) (call : Call) (heap : Heap) : Verdict × Heap :=
  let result := call.run context heap
  (result.1.guard, result.2)

end Call

end ObjectConsole
