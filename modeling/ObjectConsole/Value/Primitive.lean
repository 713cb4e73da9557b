import ObjectConsole.Value.Basic

/-!
# Primitive types

The types whose values are read from text alone. Each goes by one or two names, and a name that
belongs to none of them is either a string type or the type of objects.
-/

namespace ObjectConsole

open Number

/-- A primitive type. -/
inductive Primitive where
  | bool
  | char
  | int (width : Width)
  | single
  | double
  deriving DecidableEq, Repr

namespace Primitive

/-- The primitive type of a name. -/
def ofTypeName? (name : String) : Option Primitive :=
  if name = "bool" ∨ name = "boolean" then some bool
  else if name = "char" then some char
  else if name = "i8" ∨ name = "byte" then some (int .w8)
  else if name = "i16" ∨ name = "short" then some (int .w16)
  else if name = "i32" ∨ name = "int" then some (int .w32)
  else if name = "i64" ∨ name = "long" then some (int .w64)
  else if name = "f32" ∨ name = "float" then some single
  else if name = "f64" ∨ name = "double" then some double
  else none

/-- Why a text is no value of a primitive type. -/
inductive Fault where
  | notBool
  | notOneCharacter
  | notInteger (fault : Word.Fault)
  | notFloating (fault : Floating.Fault)
  deriving DecidableEq, Repr

/-- The wording of a fault. -/
def Fault.message : Fault → String
  | notBool => "provided string was not `true` or `false`"
  | notOneCharacter => "expected exactly one character"
  | notInteger fault => fault.message
  | notFloating fault => fault.message

/-- Reads a value of a primitive type. -/
def read (kind : Primitive) (text : String) : Except Fault Value :=
  match kind with
  | bool =>
    if text = "true" then .ok (.bool true)
    else if text = "false" then .ok (.bool false)
    else .error .notBool
  | char =>
    match text.toList with
    | [c] => .ok (.char c)
    | _ => .error .notOneCharacter
  | int width =>
    match Word.read width text.toList with
    | .ok n => .ok (.int width n)
    | .error fault => .error (.notInteger fault)
  | single =>
    match Floating.read .single text.toList with
    | .ok x => .ok (.single x)
    | .error fault => .error (.notFloating fault)
  | double =>
    match Floating.read .double text.toList with
    | .ok x => .ok (.double x)
    | .error fault => .error (.notFloating fault)

end Primitive

/-- Whether a type name stands for text. -/
def isStringType (name : String) : Bool :=
  name = "string" || name = "str" || name = "String"

end ObjectConsole
