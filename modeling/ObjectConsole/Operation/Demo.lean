import ObjectConsole.Operation.Catalog
import ObjectConsole.Text.Cut

/-!
# The demonstration catalog

Two types to try the console on. `System` has static operations of every shape: on texts, numbers
and arrays, failing ones and ones without a result. `Counter` is the type of the objects that
`System.new_counter` makes.
-/

namespace ObjectConsole.Demo

open Number Text

/-! ## Arguments -/

/-- The argument at a position, as a 32-bit integer. -/
def intArgument (arguments : List Value) (index : Nat) : Except Failure (Word .w32) := do
  let v ← argument arguments index
  match v.word? .w32 with
  | some n => return n
  | none => throw ⟨"argument #" ++ toString index ++ " is not an int", []⟩

/-- The argument at a position, as a text that may be absent. -/
def textArgument (arguments : List Value) (index : Nat) : Except Failure (Option String) := do
  let v ← argument arguments index
  if v.isNull then return none
  match v.text? with
  | some s => return some s
  | none => throw ⟨"argument #" ++ toString index ++ " is not a string", []⟩

/-- The argument at a position, as an array. -/
def arrayArgument (arguments : List Value) (index : Nat) : Except Failure ArrayRef := do
  let v ← argument arguments index
  match v.array? with
  | some ref => return ref
  | none => throw ⟨"argument #" ++ toString index ++ " is not an array", []⟩

/-! ## Operations of `System` -/

/-- The time since the catalog was made. -/
def uptimeMillis : Body :=
  .computing fun context _ _ ↦
    match Word.ofInt? .w64 context.uptime with
    | some n => .ok (.int .w64 n)
    | none => .error ⟨Word.Fault.tooLarge.message, []⟩

/-- The name of the thread, or null. -/
def threadName : Body :=
  .computing fun context _ _ ↦ .ok (Value.ofOption .text context.thread)

/-- A new counter. -/
def newCounter : Body := fun _ _ arguments heap ↦
  match intArgument arguments 0 with
  | .error failure => (.failed failure, heap)
  | .ok start =>
    let new := heap.newCounter start
    (.returned (.object (.counter new.1)), new.2)

/-- Two texts in a row; an absent one counts as `null`. -/
def concat : Body :=
  .computing fun _ _ arguments ↦ do
    let left ← textArgument arguments 0
    let right ← textArgument arguments 1
    return .text (left.getD "null" ++ right.getD "null")

/-- The pieces of a text between occurrences of a separator, as a new array. -/
def split : Body := fun _ _ arguments heap ↦
  let operands : Except Failure (String × String) := do
    let text ← textArgument arguments 0
    let separator ← textArgument arguments 1
    return (text.getD "", separator.getD "")
  match operands with
  | .error failure => (.failed failure, heap)
  | .ok (text, separator) =>
    if separator = "" then (.failed ⟨"separator must not be empty", []⟩, heap)
    else
      let new := heap.newArray
        ((pieces separator.toList text.toList).map fun piece ↦ .text (String.ofList piece))
      (.returned (.array new.1), new.2)

/-- The greatest length of a range. -/
def maxRange : Nat := 10000

/-- The integers from zero up to a bound, as a new array. -/
def range : Body := fun _ _ arguments heap ↦
  match intArgument arguments 0 with
  | .error failure => (.failed failure, heap)
  | .ok bound =>
    if (maxRange : Int) < bound.val then
      (.failed
        ⟨"range length " ++ String.ofList bound.text ++ " exceeds " ++ toString maxRange, []⟩,
        heap)
    else
      let new := heap.newArray
        ((List.range bound.val.toNat).map fun (k : Nat) ↦ .int .w32 (Word.wrap .w32 k))
      (.returned (.array new.1), new.2)

/-- The array, the index and the element of `arraySet`. The index must not be negative, which is
checked before the element is looked at. -/
def arraySetOperands (arguments : List Value) : Except Failure (ArrayRef × Nat × Value) := do
  let ref ← arrayArgument arguments 0
  let index ← intArgument arguments 1
  if index.val < 0 then throw ⟨Word.Fault.tooSmall.message, []⟩
  let v ← argument arguments 2
  return (ref, index.val.toNat, v)

/-- Replaces an element of an array, which is the result. -/
def arraySet : Body := fun _ _ arguments heap ↦
  match arraySetOperands arguments with
  | .error failure => (.failed failure, heap)
  | .ok (ref, index, v) =>
    match heap.setElement? ref index v with
    | some heap' => (.returned (.array ref), heap')
    | none =>
      (.failed ⟨"index " ++ toString index ++ " out of bounds for length " ++
        toString (heap.length ref), []⟩, heap)

/-- Fails with the given message. -/
def fail : Body :=
  .computing fun _ _ arguments ↦ do
    let message ← textArgument arguments 0
    throw ⟨message.getD "failed", []⟩

/-- Returns nothing. -/
def nothing : Body :=
  .computing fun _ _ _ ↦ .ok .null

/-- The version of the console. -/
def version : Body :=
  .computing fun _ _ _ ↦ .ok (.text "0.1.0")

/-- The type of operations without a receiver. -/
def systemType : TypeEntry :=
  let entry : TypeEntry := { name := "System" }
  ((entry.static "uptime_millis" [] "long" uptimeMillis)
    |>.static "thread_name" [] "string" threadName
    |>.static "new_counter" ["int"] counterTypeName newCounter
    |>.static "concat" ["string", "string"] "string" concat
    |>.static "split" ["string", "string"] "array" split
    |>.static "range" ["int"] "array" range
    |>.static "array_set" ["array", "int", "int"] "array" arraySet
    |>.static "array_set" ["array", "int", "array"] "array" arraySet
    |>.static "array_set" ["array", "int", counterTypeName] "array" arraySet
    |>.static "fail" ["string"] "void" fail
    |>.static "nothing" [] "void" nothing
    |>.withField ⟨"version", true, "string", version⟩)

/-! ## Operations of `Counter` -/

/-- A change of the receiver, a counter, by an amount read once the receiver is known. -/
def counterOperation (amount : List Value → Except Failure (Word .w32)) : Body :=
  fun _ receiver arguments heap ↦
    let operands : Except Failure (CounterRef × Word .w32) := do
      let counter ← counterReceiver (receiver.getD .null)
      let delta ← amount arguments
      return (counter, delta)
    match operands with
    | .error failure => (.failed failure, heap)
    | .ok (counter, delta) =>
      let sum := heap.addToCounter counter delta
      (.returned (.int .w32 sum.1), sum.2)

/-- Adds one. -/
def increment : Body :=
  counterOperation fun _ ↦ .ok (Word.wrap .w32 1)

/-- Adds the argument. -/
def add : Body :=
  counterOperation fun arguments ↦ intArgument arguments 0

/-- The total of the receiver, a counter. -/
def get : Body := fun _ receiver _ heap ↦
  match counterReceiver (receiver.getD .null) with
  | .error failure => (.failed failure, heap)
  | .ok counter => (.returned (.int .w32 (heap.total counter)), heap)

/-- The total of the receiver, which may be missing. -/
def value : Body := fun context receiver arguments heap ↦
  match receiver with
  | none => (.failed ⟨"instance field read without a receiver", []⟩, heap)
  | some _ => get context receiver arguments heap

/-- The type of counters. -/
def counterType : TypeEntry :=
  let entry : TypeEntry := { name := counterTypeName }
  ((entry.instanceOp "increment" [] "int" increment)
    |>.instanceOp "add" ["int"] "int" add
    |>.instanceOp "get" [] "int" get
    |>.withField ⟨"value", false, "int", value⟩)

/-- The demonstration catalog. -/
def catalog : Catalog :=
  Catalog.ofTypes [systemType, counterType]

end ObjectConsole.Demo
