/-!
# Shared cells

Mutable contents are kept in cells that are created once, never destroyed and known by their
number. Whoever holds the number shares the cell: a write through one holder is seen by all, and two
holders share exactly when their numbers agree. A number that was never given out holds nothing, so
that reading is total and a write to it is lost.
-/

namespace ObjectConsole.Store

/-- Cells numbered in the order of their creation. -/
structure Cells (α : Type) where
  contents : Array α := #[]
  deriving DecidableEq, Repr

namespace Cells

variable {α : Type}

instance : EmptyCollection (Cells α) := ⟨{}⟩

instance : Inhabited (Cells α) := ⟨∅⟩

/-- The number of cells created so far, which is also the number of the next one. -/
def size (cells : Cells α) : Nat :=
  cells.contents.size

/-- The content of a cell. -/
def get? (cells : Cells α) (cell : Nat) : Option α :=
  cells.contents[cell]?

/-- One more cell. Its number is `cells.size`. -/
def create (cells : Cells α) (content : α) : Cells α :=
  ⟨cells.contents.push content⟩

/-- The cells with one content replaced. -/
def put (cells : Cells α) (cell : Nat) (content : α) : Cells α :=
  ⟨cells.contents.setIfInBounds cell content⟩

@[simp] theorem size_create (cells : Cells α) (content : α) :
    (cells.create content).size = cells.size + 1 := by
  simp [size, create]

@[simp] theorem size_put (cells : Cells α) (cell : Nat) (content : α) :
    (cells.put cell content).size = cells.size := by
  simp [size, put]

theorem get?_eq_none_iff {cells : Cells α} {cell : Nat} :
    cells.get? cell = none ↔ cells.size ≤ cell := by
  simp [get?, size]

theorem get?_create (cells : Cells α) (content : α) (cell : Nat) :
    (cells.create content).get? cell =
      if cell = cells.size then some content else cells.get? cell :=
  Array.getElem?_push

theorem get?_put (cells : Cells α) (written cell : Nat) (content : α) :
    (cells.put written content).get? cell =
      if cell = written ∧ written < cells.size then some content else cells.get? cell := by
  simp only [get?, put, size, Array.getElem?_setIfInBounds]
  grind

end Cells

end ObjectConsole.Store
