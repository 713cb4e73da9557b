import ObjectConsole.Reference.Registry
import ObjectConsole.Value.Primitive

/-!
# Coercion

The texts of a request become values by the types they are declared with. A primitive type reads its
text, a string type takes it as it is, with null for none, and every other type takes a reference.
Only the last looks at the registry, and whether a text is malformed never depends on it.
-/

namespace ObjectConsole

open Text

namespace Coercion

/-- Why a text does not fit a type. -/
inductive Reason where
  | missingValue
  | missingReference
  | primitive (fault : Primitive.Fault)
  | token (reason : Token.Reason)
  deriving DecidableEq, Repr

/-- The wording of a reason. -/
def Reason.message : Reason → String
  | missingValue => "missing value"
  | missingReference => "missing reference"
  | primitive fault => fault.message
  | token reason => reason.message

/-- Why a text gives no value. -/
inductive Error where
  | valueFormat (typeName : String) (text : Option String) (reason : Reason)
  | noSuchObject (error : NoSuchObject)
  deriving DecidableEq, Repr

/-- The wording of an error. -/
def Error.message : Error → String
  | valueFormat typeName text reason =>
    "invalid " ++ typeName ++ " value " ++ Quoted.optional text ++ ": " ++ reason.message
  | noSuchObject error => error.message

/-- The value that a text refers to. -/
def reference (registry : Registry) (text : Option String) (typeName : String) :
    Except Error Value :=
  match text with
  | none => .error (.valueFormat typeName none .missingReference)
  | some s =>
    match Token.parse s with
    | .error e => .error (.valueFormat typeName (some s) (.token e.reason))
    | .ok token => (registry.resolve token).mapError .noSuchObject

/-- The value of an argument's text under a declared type. -/
def argument (registry : Registry) (text : Option String) (typeName : String) :
    Except Error Value :=
  match Primitive.ofTypeName? typeName with
  | some kind =>
    match text with
    | none => .error (.valueFormat typeName none .missingValue)
    | some s =>
      (kind.read s).mapError fun fault ↦ .valueFormat typeName (some s) (.primitive fault)
  | none =>
    if isStringType typeName then .ok (Value.ofOption .text text)
    else reference registry text typeName

/-- The receiver that a text refers to. Receivers are references whatever the type is called. -/
def receiver (registry : Registry) (text : Option String) (typeName : String) :
    Except Error Value :=
  reference registry text typeName

end Coercion

end ObjectConsole
