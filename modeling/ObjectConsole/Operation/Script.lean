import ObjectConsole.Operation.Catalog

/-!
# Scripted bodies

Bodies given by data, for catalogs that are read rather than programmed. Each either ends in a fixed
way or reports on what it was called with.
-/

namespace ObjectConsole

open Number

/-- A body given by data. -/
inductive Script where
  /-- Returns the same value on every call. -/
  | constant (v : Value)
  /-- Fails. -/
  | fail (failure : Failure)
  /-- Panics. -/
  | panic (panic : Panic)
  /-- Returns the argument at a position. -/
  | argument (index : Nat)
  /-- Returns the receiver, or null. -/
  | receiver
  /-- Returns a new array of the arguments. -/
  | arguments
  /-- Returns the type names of the arguments, joined by commas. -/
  | argumentTypes
  /-- Returns the sum of the arguments, around the ends of the widest range. -/
  | sum
  /-- Adds the first argument to the receiver, a counter. -/
  | addToReceiver
  /-- Returns the name of the thread, or null. -/
  | threadName
  deriving DecidableEq, Repr

namespace Script

/-- The sum of integers from a position on. -/
def sumFrom : Nat → Word .w64 → List Value → Except Failure (Word .w64)
  | _, total, [] => .ok total
  | index, total, v :: rest =>
    match v.integer? with
    | some n => sumFrom (index + 1) (Word.wrap .w64 (total.val + n)) rest
    | none => .error ⟨"argument #" ++ toString index ++ " is not an integer", []⟩

/-- The counter and the summand of `addToReceiver`. The receiver's presence is checked before the
argument, and its type after it. -/
def counterAndDelta (receiver : Option Value) (arguments : List Value) :
    Except Failure (CounterRef × Word .w32) := do
  let some this := receiver | throw ⟨"no receiver", []⟩
  let delta ← ObjectConsole.argument arguments 0
  let some delta := delta.word? .w32 | throw ⟨"not an i32", []⟩
  let counter ← counterReceiver this
  return (counter, delta)

/-- The body of a script. -/
def body : Script → Body
  | constant v => .computing fun _ _ _ ↦ .ok v
  | fail failure => .computing fun _ _ _ ↦ .error failure
  | panic p => fun _ _ _ heap ↦ (.panicked p, heap)
  | argument index => .computing fun _ _ arguments ↦ ObjectConsole.argument arguments index
  | receiver => .computing fun _ receiver _ ↦ .ok (receiver.getD .null)
  | arguments => fun _ _ arguments heap ↦
    let new := heap.newArray arguments
    (.returned (.array new.1), new.2)
  | argumentTypes => .computing fun _ _ arguments ↦
    .ok (.text (",".intercalate (arguments.map Value.typeName)))
  | sum => .computing fun _ _ arguments ↦ (sumFrom 0 default arguments).map (.int .w64)
  | addToReceiver => fun _ receiver arguments heap ↦
    match counterAndDelta receiver arguments with
    | .error failure => (.failed failure, heap)
    | .ok (counter, delta) =>
      let sum := heap.addToCounter counter delta
      (.returned (.int .w32 sum.1), sum.2)
  | threadName => .computing fun context _ _ ↦ .ok (Value.ofOption .text context.thread)

end Script

end ObjectConsole
