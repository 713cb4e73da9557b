import ObjectConsole.Value.Heap

/-!
# Outcomes

Running the body of an operation ends in one of three ways: it returns a value, fails with a chain
of causes, or panics. A body sees the context it runs in, its receiver, its arguments and the heap,
and nothing else. In particular it cannot reach the registry: what a request does there is decided
outside of bodies.
-/

namespace ObjectConsole

/-- A failure: its message, and the messages of its causes down to the root. -/
structure Failure where
  message : String
  causes : List String := []
  deriving DecidableEq, Repr

namespace Failure

/-- The messages of a failure, outermost first. -/
def chain (failure : Failure) : List String :=
  failure.message :: failure.causes

/-- All messages in one line. -/
def text (failure : Failure) : String :=
  ": ".intercalate failure.chain

end Failure

/-- How a body ends. -/
inductive Outcome where
  | returned (v : Value)
  | failed (failure : Failure)
  | panicked (panic : Panic)
  deriving DecidableEq, Repr

namespace Outcome

/-- A result as an outcome. -/
def ofExcept : Except Failure Value → Outcome
  | .ok v => returned v
  | .error failure => failed failure

end Outcome

/-- What a body can observe apart from its operands: the name of the thread it runs on, if it has
one, and the milliseconds since the catalog was made. -/
structure Context where
  thread : Option String
  uptime : Nat
  deriving DecidableEq, Repr

/-- The body of an operation, run with an optional receiver and the arguments. -/
abbrev Body := Context → Option Value → List Value → Heap → Outcome × Heap

namespace Body

/-- A body that computes its result and leaves the heap alone. -/
def computing (f : Context → Option Value → List Value → Except Failure Value) : Body :=
  fun context receiver arguments heap ↦ (Outcome.ofExcept (f context receiver arguments), heap)

/-- A body that never sees a receiver. -/
def withoutReceiver (body : Body) : Body :=
  fun context _ arguments heap ↦ body context none arguments heap

/-- A body that fails when there is no receiver. -/
def withReceiver (body : Body) : Body :=
  fun context receiver arguments heap ↦
    match receiver with
    | none => (.failed ⟨"instance operation called without a receiver", []⟩, heap)
    | some v => body context (some v) arguments heap

end Body

/-! ## Operands -/

/-- The argument at a position. -/
def argument (arguments : List Value) (index : Nat) : Except Failure Value :=
  match arguments[index]? with
  | some v => .ok v
  | none => .error ⟨"missing argument #" ++ toString index, []⟩

/-- The counter that is the receiver. -/
def counterReceiver (receiver : Value) : Except Failure CounterRef :=
  match receiver.counter? with
  | some ref => .ok ref
  | none =>
    .error ⟨"receiver of type " ++ receiver.typeName ++ " is not a " ++ counterTypeName, []⟩

end ObjectConsole
