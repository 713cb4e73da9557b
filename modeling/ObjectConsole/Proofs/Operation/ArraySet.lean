import ObjectConsole.Operation.Demo

/-!
# Writing to arrays

There is one way to change an array, which is to replace an element that is there (`Heap.set`). It
is the same in place and through the demonstration operation `array_set`, and what it leaves behind
is said here by one equation for the elements, `Heap.element?_set`: a write concerns one index of
one array, and a write past the end concerns nothing at all.

`Demo.SetsElement` is the exact condition under which `array_set` writes. There is no third ending
beside the write and a failure that leaves the heap as it is (`Demo.arraySet_cases`).
-/

namespace ObjectConsole

open Number Store

namespace Heap

variable (heap : Heap)

/-- Replaces one element of an array, and tells whether there was one to replace. -/
def set (ref : ArrayRef) (index : Nat) (v : Value) : Bool × Heap :=
  match heap.setElement? ref index v with
  | some heap' => (true, heap')
  | none => (false, heap)

theorem set_of_lt {ref : ArrayRef} {index : Nat} (h : index < heap.length ref) (v : Value) :
    ∃ heap', heap.setElement? ref index v = some heap' ∧ heap.set ref index v = (true, heap') := by
  rw [set, setElement?, if_pos h]
  exact ⟨_, rfl, rfl⟩

theorem set_of_not_lt {ref : ArrayRef} {index : Nat} (h : ¬index < heap.length ref) (v : Value) :
    heap.setElement? ref index v = none ∧ heap.set ref index v = (false, heap) := by
  rw [set, setElement?, if_neg h]
  exact ⟨rfl, rfl⟩

/-- A write tells that it was one exactly if its index is one of the array. -/
theorem fst_set_iff {ref : ArrayRef} {index : Nat} {v : Value} :
    (heap.set ref index v).1 = true ↔ index < heap.length ref := by
  by_cases h : index < heap.length ref
  · obtain ⟨heap', -, hset⟩ := heap.set_of_lt h v
    rw [hset]
    exact iff_of_true rfl h
  · rw [(heap.set_of_not_lt h v).2]
    exact iff_of_false Bool.false_ne_true h

theorem elements_set (ref : ArrayRef) (index : Nat) (v : Value) (other : ArrayRef) :
    (heap.set ref index v).2.elements other =
      if other = ref then (heap.elements ref).set index v else heap.elements other := by
  by_cases h : index < heap.length ref
  · obtain ⟨heap', hset?, hset⟩ := heap.set_of_lt h v
    rw [hset]
    exact elements_setElement? hset? other
  · rw [(heap.set_of_not_lt h v).2, List.set_eq_of_length_le (Nat.le_of_not_lt h)]
    split
    · next hother => rw [hother]
    · rfl

/-- **What a write changes.** The one element that is written, if it is there, and nothing else. -/
theorem element?_set (ref : ArrayRef) (index : Nat) (v : Value) (other : ArrayRef) (j : Nat) :
    (heap.set ref index v).2.element? other j =
      if other = ref ∧ j = index ∧ index < heap.length ref then some v
      else heap.element? other j := by
  rw [element?, elements_set]
  by_cases hother : other = ref
  · subst hother
    rw [if_pos rfl, List.getElem?_set, element?, length]
    by_cases hj : j = index
    · subst hj
      by_cases h : j < (heap.elements other).length
      · rw [if_pos rfl, if_pos h, if_pos ⟨rfl, rfl, h⟩]
      · rw [if_pos rfl, if_neg h, if_neg (fun hall ↦ h hall.2.2),
          List.getElem?_eq_none (Nat.le_of_not_lt h)]
    · rw [if_neg (Ne.symm hj), if_neg (fun h ↦ hj h.2.1)]
  · rw [if_neg hother, if_neg (fun h ↦ hother h.1)]
    rfl

theorem length_set (ref : ArrayRef) (index : Nat) (v : Value) (other : ArrayRef) :
    (heap.set ref index v).2.length other = heap.length other := by
  rw [length, elements_set, length]
  split
  · next hother => rw [hother, List.length_set]
  · rfl

theorem size_arrays_set (ref : ArrayRef) (index : Nat) (v : Value) :
    (heap.set ref index v).2.arrays.size = heap.arrays.size := by
  rw [set, setElement?]
  split
  · next heap' h =>
    split at h <;> cases h
    exact Cells.size_put _ _ _
  · rfl

/-- A new array has the elements it was made of, and every other array has those it had. -/
theorem element?_newArray (elements : List Value) (ref : ArrayRef) (j : Nat) :
    (heap.newArray elements).2.element? ref j =
      if ref = ⟨heap.arrays.size⟩ then elements[j]? else heap.element? ref j := by
  rw [element?, elements_newArray]
  change (if ref = ⟨heap.arrays.size⟩ then elements else heap.elements ref)[j]? = _
  split <;> rfl

end Heap

namespace Demo

/-! ## The operation -/

/-- Arguments that make `array_set` write: an array, an index of it, and what it is to hold. -/
structure SetsElement (heap : Heap) (arguments : List Value) (ref : ArrayRef) (index : Nat)
    (v : Value) : Prop where
  array_eq : arguments[0]? = some (.array ref)
  index_eq : ∃ n, intArgument arguments 1 = .ok n ∧ n.val = index
  element_eq : arguments[2]? = some v
  index_lt : index < heap.length ref

variable {arguments : List Value} {ref : ArrayRef} {index : Nat} {v : Value}

theorem argument_eq_ok_iff {position : Nat} :
    argument arguments position = .ok v ↔ arguments[position]? = some v := by
  rw [argument]
  cases arguments[position]? <;> simp

theorem arrayArgument_eq_ok_iff {position : Nat} :
    arrayArgument arguments position = .ok ref ↔ arguments[position]? = some (.array ref) := by
  rw [← argument_eq_ok_iff, arrayArgument]
  cases argument arguments position with
  | error failure => exact ⟨nofun, nofun⟩
  | ok given =>
    simp only [bind, Except.bind, Except.ok.injEq]
    cases given <;> simp [Value.array?, pure, Except.pure, throw, throwThe, MonadExceptOf.throw]

theorem arraySetOperands_eq_ok_iff :
    arraySetOperands arguments = .ok (ref, index, v) ↔
      arguments[0]? = some (.array ref) ∧
      (∃ n, intArgument arguments 1 = .ok n ∧ n.val = index) ∧ arguments[2]? = some v := by
  rw [← arrayArgument_eq_ok_iff, ← argument_eq_ok_iff, arraySetOperands]
  cases arrayArgument arguments 0 with
  | error failure => exact ⟨nofun, nofun⟩
  | ok array =>
    cases intArgument arguments 1 with
    | error failure => exact ⟨nofun, fun ⟨_, ⟨_, h, _⟩, _⟩ ↦ nomatch h⟩
    | ok n =>
      simp only [bind, Except.bind, Except.ok.injEq, exists_eq_left']
      -- a number that is not negative is the index, and a negative one is no index
      by_cases hn : n.val < 0
      · rw [if_pos hn]
        exact ⟨nofun, fun ⟨_, hindex, _⟩ ↦ by omega⟩
      · rw [if_neg hn]
        cases argument arguments 2 with
        | error failure => exact ⟨nofun, nofun⟩
        | ok element =>
          simp only [pure, Except.pure, Except.ok.injEq, Prod.mk.injEq]
          have hindex : n.val.toNat = index ↔ n.val = index := by omega
          rw [hindex]

/-- **`array_set` writes, or it fails and leaves the heap alone.** Which of the two depends on
`SetsElement` and on nothing else, and the array that was written to is what it returns. -/
theorem arraySet_cases (context : Context) (receiver : Option Value) (arguments : List Value)
    (heap : Heap) :
    (∃ ref index v, SetsElement heap arguments ref index v ∧
      arraySet context receiver arguments heap =
        (.returned (.array ref), (heap.set ref index v).2)) ∨
    (∀ ref index v, ¬SetsElement heap arguments ref index v) ∧
      ∃ failure, arraySet context receiver arguments heap = (.failed failure, heap) := by
  rw [arraySet]
  cases hoperands : arraySetOperands arguments with
  | error failure =>
    refine .inr ⟨fun ref index v h ↦ ?_, failure, rfl⟩
    have hok := arraySetOperands_eq_ok_iff.mpr ⟨h.array_eq, h.index_eq, h.element_eq⟩
    rw [hoperands] at hok
    cases hok
  | ok operands =>
    obtain ⟨ref, index, v⟩ := operands
    obtain ⟨harray, hindex, helement⟩ := arraySetOperands_eq_ok_iff.mp hoperands
    simp only
    by_cases hlt : index < heap.length ref
    · obtain ⟨heap', hset?, hset⟩ := heap.set_of_lt hlt v
      rw [hset?]
      exact .inl ⟨ref, index, v, ⟨harray, hindex, helement, hlt⟩, by rw [hset]⟩
    · rw [(heap.set_of_not_lt hlt v).1]
      refine .inr ⟨fun ref' index' v' h ↦ ?_, _, rfl⟩
      have hok := arraySetOperands_eq_ok_iff.mpr ⟨h.array_eq, h.index_eq, h.element_eq⟩
      rw [hoperands] at hok
      cases hok
      exact hlt h.index_lt

theorem exists_of_arraySet_returned {context : Context} {receiver : Option Value}
    {heap heap' : Heap} {result : Value}
    (h : arraySet context receiver arguments heap = (.returned result, heap')) :
    ∃ ref index v, SetsElement heap arguments ref index v ∧ result = .array ref ∧
      heap' = (heap.set ref index v).2 := by
  rcases arraySet_cases context receiver arguments heap with
    ⟨ref, index, v, hsets, hset⟩ | ⟨-, failure, hfailed⟩
  · cases h.symm.trans hset
    exact ⟨ref, index, v, hsets, rfl, rfl⟩
  · cases h.symm.trans hfailed

theorem heap_eq_of_arraySet_failed {context : Context} {receiver : Option Value}
    {heap heap' : Heap} {failure : Failure}
    (h : arraySet context receiver arguments heap = (.failed failure, heap')) : heap' = heap := by
  rcases arraySet_cases context receiver arguments heap with
    ⟨ref, index, v, hsets, hset⟩ | ⟨-, failure', hfailed⟩
  · cases h.symm.trans hset
  · cases h.symm.trans hfailed
    rfl

end Demo

end ObjectConsole
