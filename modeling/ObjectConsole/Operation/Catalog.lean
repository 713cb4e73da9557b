import ObjectConsole.Operation.Outcome
import ObjectConsole.Text.Escaping

/-!
# The catalog

The catalog lists the types that the console knows, each with its operations and fields in the order
of their declaration. Operations may share a name: a request selects the first that has exactly the
parameter types it gives. Registering a type replaces an earlier one of the same name as a whole.
-/

namespace ObjectConsole

open Text

/-- A declared operation. -/
structure Operation where
  name : String
  isStatic : Bool
  parameters : List String
  result : String
  body : Body

/-- A declared field. Its body is run without arguments. -/
structure Field where
  name : String
  isStatic : Bool
  type : String
  body : Body

/-- A type with its operations and fields. -/
structure TypeEntry where
  name : String
  operations : List Operation := []
  fields : List Field := []

/-- The mark in front of a static member. -/
def staticMark (isStatic : Bool) : String :=
  if isStatic then "static " else ""

namespace Operation

/-- An operation as it is shown to users. -/
def signature (operation : Operation) (typeName : String) : String :=
  staticMark operation.isStatic ++ operation.result ++ " " ++ typeName ++ "." ++ operation.name ++
    "(" ++ ", ".intercalate operation.parameters ++ ")"

/-- Whether a request for a name with parameter types means this operation. -/
def Matches (operation : Operation) (name : String) (parameters : List String) : Prop :=
  operation.name = name ∧ operation.parameters = parameters

instance (operation : Operation) (name : String) (parameters : List String) :
    Decidable (operation.Matches name parameters) :=
  inferInstanceAs (Decidable (_ ∧ _))

/-- Runs an operation. -/
def invoke (operation : Operation) (context : Context) (receiver : Option Value)
    (arguments : List Value) (heap : Heap) : Outcome × Heap :=
  operation.body context receiver arguments heap

end Operation

namespace Field

/-- A field as it is shown to users. -/
def signature (field : Field) (typeName : String) : String :=
  staticMark field.isStatic ++ field.type ++ " " ++ typeName ++ "." ++ field.name

/-- Reads a field. -/
def read (field : Field) (context : Context) (receiver : Option Value) (heap : Heap) :
    Outcome × Heap :=
  field.body context receiver [] heap

end Field

namespace TypeEntry

/-! ## Building a type -/

/-- The type with one more operation. -/
def withOperation (entry : TypeEntry) (operation : Operation) : TypeEntry :=
  { entry with operations := entry.operations ++ [operation] }

/-- The type with one more operation that has no receiver. -/
def static (entry : TypeEntry) (name : String) (parameters : List String) (result : String)
    (body : Body) : TypeEntry :=
  entry.withOperation ⟨name, true, parameters, result, body.withoutReceiver⟩

/-- The type with one more operation on a receiver. -/
def instanceOp (entry : TypeEntry) (name : String) (parameters : List String) (result : String)
    (body : Body) : TypeEntry :=
  entry.withOperation ⟨name, false, parameters, result, body.withReceiver⟩

/-- The type with one more field. -/
def withField (entry : TypeEntry) (field : Field) : TypeEntry :=
  { entry with fields := entry.fields ++ [field] }

/-! ## Selection -/

/-- The first operation with a name and parameter types. -/
def findOperation? (entry : TypeEntry) (name : String) (parameters : List String) :
    Option Operation :=
  entry.operations.find? fun operation ↦ operation.Matches name parameters

/-- The first field with a name. -/
def findField? (entry : TypeEntry) (name : String) : Option Field :=
  entry.fields.find? fun field ↦ field.name = name

/-! ## Description -/

/-- The description of a truth value. -/
private def boolText (b : Bool) : String :=
  if b then "true" else "false"

/-- The description of an operation. -/
def operationDescription (entry : TypeEntry) (operation : Operation) : String :=
  "OperationEntry(OperationDescriptor \x7b declaring_type: " ++ Quoted.text entry.name ++
    ", name: " ++ Quoted.text operation.name ++ ", is_static: " ++ boolText operation.isStatic ++
    ", parameter_types: [" ++ ", ".intercalate (operation.parameters.map Quoted.text) ++
    "], return_type: " ++ Quoted.text operation.result ++ " \x7d)"

/-- The description of a field. -/
def fieldDescription (entry : TypeEntry) (field : Field) : String :=
  "FieldEntry(FieldDescriptor \x7b declaring_type: " ++ Quoted.text entry.name ++
    ", name: " ++ Quoted.text field.name ++ ", is_static: " ++ boolText field.isStatic ++
    ", type_name: " ++ Quoted.text field.type ++ " \x7d)"

/-- The description of a type. -/
def description (entry : TypeEntry) : String :=
  "TypeEntry \x7b name: " ++ Quoted.text entry.name ++ ", operations: [" ++
    ", ".intercalate (entry.operations.map entry.operationDescription) ++ "], fields: [" ++
    ", ".intercalate (entry.fields.map entry.fieldDescription) ++ "] \x7d"

end TypeEntry

/-- The types that the console knows. -/
structure Catalog where
  entries : List TypeEntry := []

namespace Catalog

instance : EmptyCollection Catalog := ⟨{}⟩

/-- The type of a name. -/
def lookup? (catalog : Catalog) (typeName : String) : Option TypeEntry :=
  catalog.entries.find? fun entry ↦ entry.name = typeName

/-- The catalog with a type registered, in place of an earlier one of the same name. -/
def register (catalog : Catalog) (entry : TypeEntry) : Catalog where
  entries := (catalog.entries.filter fun other ↦ other.name ≠ entry.name) ++ [entry]

/-- The catalog of types registered in order. -/
def ofTypes (entries : List TypeEntry) : Catalog :=
  entries.foldl register ∅

/-- The number of types. -/
def size (catalog : Catalog) : Nat :=
  catalog.entries.length

/-- The names of the types, in the order of their characters. -/
def typeNames (catalog : Catalog) : List String :=
  (catalog.entries.map TypeEntry.name).mergeSort fun a b ↦ decide (a ≤ b)

theorem lookup?_register (catalog : Catalog) (entry : TypeEntry) (typeName : String) :
    (catalog.register entry).lookup? typeName =
      if typeName = entry.name then some entry else catalog.lookup? typeName := by
  unfold lookup? register
  rw [List.find?_append]
  by_cases h : typeName = entry.name
  · subst h
    have : (catalog.entries.filter fun other ↦ other.name ≠ entry.name).find?
        (fun other ↦ other.name = entry.name) = none := by
      simp [List.find?_eq_none]
    rw [this]
    simp
  · have : (catalog.entries.filter fun other ↦ other.name ≠ entry.name).find?
        (fun other ↦ other.name = typeName) =
        catalog.entries.find? fun other ↦ other.name = typeName := by
      rw [List.find?_filter]
      congr 1
      funext other
      by_cases ho : other.name = typeName <;> simp [ho, h]
    rw [this]
    simp [h, Ne.symm h]

end Catalog

end ObjectConsole
