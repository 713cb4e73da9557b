import ObjectConsole.Number.FloatText
import ObjectConsole.Number.Word

/-!
# Values

What operations take and return, and what the registry keeps. A value is plain data throughout:
arrays and counters, whose contents change, are given by the number of the cell that holds them, so
equality of values is identity where identity matters.
-/

namespace ObjectConsole

open Number

/-- The cell of an array. -/
structure ArrayRef where
  cell : Nat
  deriving DecidableEq, Repr

/-- The cell of a counter. -/
structure CounterRef where
  cell : Nat
  deriving DecidableEq, Repr

/-- A panic: the text it carries, if it carries one. -/
inductive Panic where
  | text (message : String)
  | wordless
  deriving DecidableEq, Repr

/-- What an object shows when asked for its text. -/
inductive Display where
  | shows (text : String)
  | panics (message : String)
  deriving DecidableEq, Repr

/-- An object. Counters are the console's own; of any other object the console sees its type name
and its display. -/
inductive Object where
  | counter (ref : CounterRef)
  | foreign (typeName : String) (display : Display)
  deriving DecidableEq, Repr

/-- A value. -/
inductive Value where
  | null
  | bool (b : Bool)
  | char (c : Char)
  | int (width : Width) (n : Word width)
  | single (x : Floating)
  | double (x : Floating)
  | text (s : String)
  | array (ref : ArrayRef)
  | object (o : Object)
  deriving DecidableEq, Repr

/-- The type name of counters. -/
def counterTypeName : String := "Counter"

/-- The type name of an object. -/
def Object.typeName : Object → String
  | counter _ => counterTypeName
  | foreign typeName _ => typeName

/-- The type name of words of a width. -/
def Number.Width.typeName : Width → String
  | .w8 => "i8"
  | .w16 => "i16"
  | .w32 => "i32"
  | .w64 => "i64"

namespace Value

/-- The type names of the values that are neither null nor objects. -/
def builtinTypeNames : List String :=
  ["bool", "char", "i8", "i16", "i32", "i64", "f32", "f64", "string", "array"]

/-- The type name of a value. -/
def typeName : Value → String
  | null => "null"
  | bool _ => "bool"
  | char _ => "char"
  | int width _ => width.typeName
  | single _ => "f32"
  | double _ => "f64"
  | text _ => "string"
  | array _ => "array"
  | object o => o.typeName

theorem typeName_mem_builtin_or (v : Value) :
    v = null ∨ (∃ o, v = object o) ∨ v.typeName ∈ builtinTypeNames := by
  cases v with
  | int width _ => cases width <;> simp [typeName, Width.typeName, builtinTypeNames]
  | _ => simp [typeName, builtinTypeNames]

/-- Whether a value is null. -/
def isNull : Value → Bool
  | null => true
  | _ => false

/-- The truth value held. -/
def bool? : Value → Option Bool
  | bool b => some b
  | _ => none

/-- The integer held, whatever its width. -/
def integer? : Value → Option Int
  | int _ n => some n.val
  | _ => none

/-- The integer held, as a word of the given width if it fits. -/
def word? (width : Width) (v : Value) : Option (Word width) :=
  v.integer?.bind (Word.ofInt? width)

/-- The text held. -/
def text? : Value → Option String
  | text s => some s
  | _ => none

/-- The array held. -/
def array? : Value → Option ArrayRef
  | array ref => some ref
  | _ => none

/-- The counter held. -/
def counter? : Value → Option CounterRef
  | object (.counter ref) => some ref
  | _ => none

/-- A value that may be missing: null when it is. -/
def ofOption {α : Type} (f : α → Value) : Option α → Value
  | none => null
  | some a => f a

end Value

end ObjectConsole
