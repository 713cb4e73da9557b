import ObjectConsole.Text.Escaping
import ObjectConsole.Value.Heap

/-!
# Showing values

A description names the kind of a value and shows its content so that nothing can be mistaken: text
is quoted, floating-point numbers keep their point, and an array tells its length alone, since its
elements might lead back to it.

A rendered value is markup: text is escaped, and each element of an array stands in a span of its
own. Arrays may contain themselves, so rendering keeps the path of the arrays it has entered and not
yet left, and writes `[...]` for one of them, as it does for an array inside thirty-two others. That
second bound is the argument on which the recursion ends. An object's display may panic, and then so
does rendering.
-/

namespace ObjectConsole.Value

open Number Text

/-! ## Descriptions -/

/-- The name of a width in descriptions. -/
def widthName : Width → String
  | .w8 => "I8"
  | .w16 => "I16"
  | .w32 => "I32"
  | .w64 => "I64"

/-- The description of a value; objects have none. -/
def description? (heap : Heap) : Value → Option String
  | null => some "Null"
  | bool b => some ("Bool(" ++ (if b then "true" else "false") ++ ")")
  | char c => some ("Char(" ++ Quoted.char c ++ ")")
  | int width n => some (widthName width ++ "(" ++ String.ofList n.text ++ ")")
  | single x => some ("F32(" ++ String.ofList (x.description .single) ++ ")")
  | double x => some ("F64(" ++ String.ofList (x.description .double) ++ ")")
  | text s => some ("Str(" ++ Quoted.text s ++ ")")
  | array ref =>
    some ("Array(ArrayRef \x7b len: " ++ String.ofList (Decimal.ofNat (heap.length ref)) ++
      ", .. \x7d)")
  | object _ => none

/-! ## Renderings -/

/-- The number of arrays a rendered value may be nested in. -/
def maxDepth : Nat := 32

/-- What stands for an array that is not entered. -/
def truncated : String := "[...]"

/-- The text of an object, or of the panic in its place. -/
def display (heap : Heap) : Object → Except String String
  | .counter ref => .ok ("Counter(" ++ String.ofList (heap.total ref).text ++ ")")
  | .foreign _ (.shows shown) => .ok shown
  | .foreign _ (.panics message) => .error message

/-- Rendering under way: what is written so far, and the arrays that have been entered and not yet
left, the innermost first. -/
structure Progress where
  written : String
  path : List ArrayRef

/-- A stretch of rendering, which may end in the panic of a display. -/
abbrev RenderM := StateT Progress (Except String)

/-- Writes a text behind what is written. -/
def write (s : String) : RenderM Unit :=
  modify fun progress ↦ { progress with written := progress.written ++ s }

/-- Enters an array. -/
def enter (ref : ArrayRef) : RenderM Unit :=
  modify fun progress ↦ { progress with path := ref :: progress.path }

/-- Leaves the innermost array. -/
def leave : RenderM Unit :=
  modify fun progress ↦ { progress with path := progress.path.tail }

/-- Renders an element in a span of its own, behind a comma unless it is the first. -/
def writeElement (element : RenderM Unit) (index : Nat) : RenderM Unit := do
  if 0 < index then write ", "
  write "<span class=\"array-element\">"
  element
  write "</span>"

/-- Renders a value behind what is written, entering at most `room` arrays that stand in each
other. -/
def renderInto (heap : Heap) : Nat → Value → RenderM Unit
  | _, null => write "null"
  | _, bool b => write (if b then "true" else "false")
  | _, char c => write (Html.escape (String.ofList [c]))
  | _, int _ n => write (String.ofList n.text)
  | _, single x => write (String.ofList (x.text .single))
  | _, double x => write (String.ofList (x.text .double))
  | _, text s => write (Html.escape s)
  | _, object o => do write (Html.escape (← display heap o))
  | 0, array _ => write truncated
  | room + 1, array ref => do
    if ref ∈ (← get).path then write truncated
    else
      enter ref
      write "["
      (heap.elements ref).zipIdx.forM fun (v, index) ↦ writeElement (renderInto heap room v) index
      write "]"
      leave

/-- Renders a value, or panics with the text of a display that did. -/
def render (heap : Heap) (v : Value) : Except String String :=
  return (← (renderInto heap maxDepth v).run ⟨"", []⟩).2.written

end ObjectConsole.Value
