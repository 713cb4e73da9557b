import ObjectConsole.Text.Cut
import ObjectConsole.Text.Percent
import ObjectConsole.Text.Escaping

/-!
# Invocations

A call is written as an address: `/Type/operation` and a query of parameters. A parameter is a type,
which also selects among operations of one name, and perhaps a text; the reserved type `this` gives
the receiver instead. The query is read piece by piece and never fails. Only the path can be
malformed.
-/

namespace ObjectConsole

open Text

/-- Why a path names no member of a type. -/
inductive PathReason where
  | noTypeName
  | emptyName
  | noField
  deriving DecidableEq, Repr

/-- The wording of a reason. -/
def PathReason.message : PathReason → String
  | noTypeName => "type name is missing for operation"
  | emptyName => "empty type or operation name"
  | noField => "expected /<Type>/<field>"

/-- A path that names no member of a type. -/
structure MalformedPath where
  path : String
  reason : PathReason
  deriving DecidableEq, Repr

/-- The wording of the error. -/
def MalformedPath.message (e : MalformedPath) : String :=
  "malformed request " ++ Quoted.text e.path ++ ": " ++ e.reason.message

/-! ## Queries -/

namespace Query

/-- The key of a piece and the text behind `=`, if there is one. -/
def pair (piece : List Char) : String × Option String :=
  match cut? '=' piece with
  | some (key, text) =>
    (String.ofList (Percent.decodeChars key), some (String.ofList (Percent.decodeChars text)))
  | none => (String.ofList (Percent.decodeChars piece), none)

/-- The keys of a query with their texts, in order. Empty pieces count for nothing. -/
def pairs (query : List Char) : List (String × Option String) :=
  ((query.splitOn '&').filter (· ≠ [])).map pair

/-- The key of the receiver. -/
def receiverKey : String := "this"

/-- The text of the last receiver key. -/
def receiver (pairs : List (String × Option String)) : Option String :=
  ((pairs.filter fun p ↦ p.1 = receiverKey).getLast?).bind Prod.snd

/-- The pairs of all other keys. -/
def parameters (pairs : List (String × Option String)) : List (String × Option String) :=
  pairs.filter fun p ↦ p.1 ≠ receiverKey

end Query

/-! ## Requests for an operation -/

/-- A parameter: the type it is declared with, and its text. -/
structure Parameter where
  type : String
  text : Option String
  deriving DecidableEq, Repr

/-- A request for an operation. -/
structure Invocation where
  targetType : String
  operation : String
  receiver : Option String
  parameters : List Parameter
  deriving DecidableEq, Repr

namespace Invocation

/-- The type and the operation that a path names. -/
def target (path : List Char) : Except PathReason (List Char × List Char) :=
  match cut? '/' (dropSlashes path) with
  | none => .error .noTypeName
  | some (typeName, operation) =>
    if typeName = [] ∨ operation = [] then .error .emptyName else .ok (typeName, operation)

/-- Reads a request from a path and a query. -/
def ofAddress (path query : String) : Except MalformedPath Invocation :=
  match target path.toList with
  | .error reason => .error ⟨path, reason⟩
  | .ok (typeName, operation) =>
    let pairs := Query.pairs query.toList
    .ok {
      targetType := String.ofList typeName
      operation := String.ofList operation
      receiver := Query.receiver pairs
      parameters := (Query.parameters pairs).map fun p ↦ ⟨p.1, p.2⟩ }

/-- Reads a request from one line: the path, and behind the first `?` the query. -/
def parse (line : String) : Except MalformedPath Invocation :=
  match cut? '?' line.toList with
  | some (path, query) => ofAddress (String.ofList path) (String.ofList query)
  | none => ofAddress line ""

/-- The types that a request gives its parameters. -/
def parameterTypes (invocation : Invocation) : List String :=
  invocation.parameters.map Parameter.type

end Invocation

end ObjectConsole
