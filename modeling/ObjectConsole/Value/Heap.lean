import ObjectConsole.Store.Cells
import ObjectConsole.Value.Basic

/-!
# The heap

Everything that changes behind a value: the elements of arrays and the totals of counters. An array
keeps the length it was created with, because the only write replaces one element.
-/

namespace ObjectConsole

open Number Store

/-- The contents of arrays and counters. -/
structure Heap where
  arrays : Cells (List Value) := ∅
  counters : Cells (Word .w32) := ∅
  deriving DecidableEq, Repr

namespace Heap

instance : EmptyCollection Heap := ⟨{}⟩

instance : Inhabited Heap := ⟨∅⟩

/-! ## Arrays -/

/-- A new array. -/
def newArray (heap : Heap) (elements : List Value) : ArrayRef × Heap :=
  (⟨heap.arrays.size⟩, { heap with arrays := heap.arrays.create elements })

/-- The elements of an array, as they are now. -/
def elements (heap : Heap) (ref : ArrayRef) : List Value :=
  (heap.arrays.get? ref.cell).getD []

/-- The number of elements of an array. -/
def length (heap : Heap) (ref : ArrayRef) : Nat :=
  (heap.elements ref).length

/-- One element of an array. -/
def element? (heap : Heap) (ref : ArrayRef) (index : Nat) : Option Value :=
  (heap.elements ref)[index]?

/-- Replaces one element of an array; nothing when the index is past the end. -/
def setElement? (heap : Heap) (ref : ArrayRef) (index : Nat) (v : Value) : Option Heap :=
  if index < heap.length ref then
    some { heap with arrays := heap.arrays.put ref.cell ((heap.elements ref).set index v) }
  else none

theorem elements_newArray (heap : Heap) (elements : List Value) (ref : ArrayRef) :
    (heap.newArray elements).2.elements ref =
      if ref = (heap.newArray elements).1 then elements else heap.elements ref := by
  simp only [newArray, Heap.elements, Cells.get?_create]
  by_cases h : ref.cell = heap.arrays.size
  · have : ref = ⟨heap.arrays.size⟩ := by cases ref; cases h; rfl
    simp [this]
  · have : ref ≠ ⟨heap.arrays.size⟩ := fun e ↦ h (by rw [e])
    simp [h, this]

theorem elements_setElement? {heap heap' : Heap} {ref : ArrayRef} {index : Nat} {v : Value}
    (h : heap.setElement? ref index v = some heap') (other : ArrayRef) :
    heap'.elements other =
      if other = ref then (heap.elements ref).set index v else heap.elements other := by
  unfold setElement? at h
  split at h
  · next hlt =>
    cases h
    have hbound : ref.cell < heap.arrays.size := by
      apply Nat.lt_of_not_le
      intro hle
      simp [length, elements, Cells.get?_eq_none_iff.2 hle] at hlt
    simp only [elements, Cells.get?_put]
    by_cases ho : other = ref
    · simp [ho, hbound]
    · have : other.cell ≠ ref.cell := fun e ↦ ho (by cases other; cases ref; cases e; rfl)
      simp [ho, this]
  · cases h

/-! ## Counters -/

/-- A new counter. -/
def newCounter (heap : Heap) (total : Word .w32) : CounterRef × Heap :=
  (⟨heap.counters.size⟩, { heap with counters := heap.counters.create total })

/-- The total of a counter. -/
def total (heap : Heap) (ref : CounterRef) : Word .w32 :=
  (heap.counters.get? ref.cell).getD default

/-- Adds to a counter, around the ends of its range. The result is the new total. -/
def addToCounter (heap : Heap) (ref : CounterRef) (delta : Word .w32) : Word .w32 × Heap :=
  let sum := Word.wrap .w32 ((heap.total ref).val + delta.val)
  (sum, { heap with counters := heap.counters.put ref.cell sum })

end Heap

end ObjectConsole
