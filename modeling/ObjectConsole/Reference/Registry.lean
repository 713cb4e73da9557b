import ObjectConsole.Reference.Token
import ObjectConsole.Store.Table
import ObjectConsole.Value.Basic

/-!
# The registry

The registry keeps values alive between requests, in two namespaces. A value is first added under an
identifier, and the entry remembers when; a sweep drops the entries that have grown older than
`lifetime`. Promotion binds the value of a live entry to a name as well, and names stay until they
are bound anew. Nothing else connects the two tables.

Each operation is made of steps that touch one table or the name counter once (`find?`, `bind`,
`drawName`), so that a run of several clients is an interleaving of these steps.
-/

namespace ObjectConsole

open Store Text

/-- A value kept under an identifier, and the clock reading at which it was added. -/
structure Entry where
  createdAt : UInt64
  value : Value
  deriving DecidableEq, Repr

/-- The values kept under identifiers and names, and the counter behind automatic names. -/
structure Registry where
  ephemeral : Table Uuid Entry := ∅
  persistent : Table String Value := ∅
  nextName : UInt64 := 0

/-- A token whose value is not there. -/
structure NoSuchObject where
  token : Token
  deriving DecidableEq, Repr

/-- The wording of the error. -/
def NoSuchObject.message (e : NoSuchObject) : String :=
  "no such object: " ++ e.token.text

namespace Registry

instance : EmptyCollection Registry := ⟨{}⟩

instance : Inhabited Registry := ⟨∅⟩

/-- How many milliseconds an entry outlives its addition. -/
def lifetime : UInt64 := 600000

/-! ## Reading -/

/-- The value under an identifier. -/
def find? (registry : Registry) (id : Uuid) : Option Value :=
  (registry.ephemeral.get? id).map Entry.value

/-- The value under a name. -/
def named? (registry : Registry) (name : String) : Option Value :=
  registry.persistent.get? name

/-- The value that a token refers to. -/
def resolve (registry : Registry) (token : Token) : Except NoSuchObject Value :=
  let found := match token with
    | .ephemeral id => registry.find? id
    | .persistent name => registry.named? name
  found.elim (.error ⟨token⟩) .ok

/-! ## Writing -/

/-- Adds a value under an identifier. -/
def add (registry : Registry) (now : UInt64) (id : Uuid) (v : Value) : Registry :=
  { registry with ephemeral := registry.ephemeral.insert id ⟨now, v⟩ }

/-- Binds a name to a value. -/
def bind (registry : Registry) (name : String) (v : Value) : Registry :=
  { registry with persistent := registry.persistent.insert name v }

/-- Binds a name to the value under an identifier. -/
def promote (registry : Registry) (id : Uuid) (name : String) : Except NoSuchObject Registry :=
  match registry.find? id with
  | some v => .ok (registry.bind name v)
  | none => .error ⟨.ephemeral id⟩

/-- The automatic name of a number. -/
def autoName (n : UInt64) : String :=
  "o" ++ String.ofList (Decimal.ofNat n.toNat)

/-- The next automatic name. The counter goes around at the end of its range. -/
def drawName (registry : Registry) : String × Registry :=
  (autoName registry.nextName, { registry with nextName := registry.nextName + 1 })

/-- The next automatic name that is not bound, when at most `bound` names are: among one more
draws than that, one is free. -/
def drawFreeName : Nat → Registry → String × Registry
  | 0, registry => registry.drawName
  | bound + 1, registry =>
    let drawn := registry.drawName
    if (drawn.2.named? drawn.1).isSome then drawFreeName bound drawn.2 else drawn

/-- Binds a free automatic name to the value under an identifier. -/
def promoteAuto (registry : Registry) (id : Uuid) : Except NoSuchObject (String × Registry) :=
  match registry.find? id with
  | some v =>
    let drawn := registry.drawFreeName registry.persistent.size
    .ok (drawn.1, drawn.2.bind drawn.1 v)
  | none => .error ⟨.ephemeral id⟩

/-- The age of an entry, in words. A clock that went back makes no entry old. -/
def age (now : UInt64) (entry : Entry) : UInt64 :=
  if entry.createdAt ≤ now then now - entry.createdAt else 0

/-- Whether an entry is kept by a sweep. -/
def Fresh (now : UInt64) (entry : Entry) : Prop :=
  age now entry ≤ lifetime

instance (now : UInt64) (entry : Entry) : Decidable (Fresh now entry) :=
  inferInstanceAs (Decidable (_ ≤ _))

/-- Drops the entries that are no longer fresh, and counts them. -/
def sweep (registry : Registry) (now : UInt64) : Nat × Registry :=
  let kept := registry.ephemeral.filter fun row ↦ Fresh now row.2
  (registry.ephemeral.size - kept.size, { registry with ephemeral := kept })

/-! ## Description -/

/-- The description of a registry: its sizes and the lifetime of entries. -/
def description (registry : Registry) : String :=
  "ObjectRegistry \x7b ephemeral: " ++ String.ofList (Decimal.ofNat registry.ephemeral.size) ++
    ", persistent: " ++ String.ofList (Decimal.ofNat registry.persistent.size) ++
    ", ttl_ms: " ++ String.ofList (Decimal.ofNat lifetime.toNat) ++ ", .. \x7d"

end Registry

end ObjectConsole
