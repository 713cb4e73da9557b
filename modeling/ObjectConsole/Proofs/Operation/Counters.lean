import ObjectConsole.Operation.Demo
import ObjectConsole.Proofs.Execution.Delegation
import Mathlib.Tactic.SplitIfs

/-!
# What the demonstration operations do to counters

A counter is changed by the operations of its own type and by nothing else: the operations of
`System` create counters and arrays and write to arrays, and whatever they do, each counter that is
there holds what it held (`Heap.KeepsCounters`).

Additions go around the ends of the range, and it does not matter whether they do so one by one or
at the end (`Word.wrap_add`).
-/

namespace ObjectConsole

open Number Store

/-! ## Words -/

namespace Number.Word

theorem wrap_val {w : Width} (n : Word w) : wrap w n.val = n := by
  obtain ⟨n, hlow, hhigh⟩ := n
  have hbmod : n.bmod (2 * w.half) = n :=
    Int.bmod_eq_of_le (by push_cast; omega) (by push_cast; omega)
  simp only [wrap, hbmod]

theorem wrap_val_add_zero {w : Width} (n : Word w) : wrap w (n.val + 0) = n := by
  rw [Int.add_zero, wrap_val]

/-- A sum goes around the ends of the range once, whether or not its first summand did before. -/
theorem wrap_add (w : Width) (m n : Int) : wrap w ((wrap w m).val + n) = wrap w (m + n) := by
  simp only [wrap, Int.bmod_add_bmod]

end Number.Word

/-! ## Counters that stay -/

namespace Heap

variable {heap heap' heap'' : Heap}

/-- Every counter that is there holds what it held. -/
def KeepsCounters (heap heap' : Heap) : Prop :=
  ∀ cell total, heap.counters.get? cell = some total → heap'.counters.get? cell = some total

theorem KeepsCounters.refl (heap : Heap) : heap.KeepsCounters heap :=
  fun _ _ ↦ id

theorem KeepsCounters.trans (h : heap.KeepsCounters heap') (h' : heap'.KeepsCounters heap'') :
    heap.KeepsCounters heap'' :=
  fun cell total hget ↦ h' cell total (h cell total hget)

/-- A new counter takes a cell that none had. -/
theorem keepsCounters_newCounter (heap : Heap) (start : Word .w32) :
    heap.KeepsCounters (heap.newCounter start).2 := by
  intro cell total hget
  have hne : cell ≠ heap.counters.size := by
    rintro rfl
    rw [Cells.get?_eq_none_iff.mpr (Nat.le_refl _)] at hget
    cases hget
  rw [newCounter, Cells.get?_create, if_neg hne]
  exact hget

theorem keepsCounters_setElement? {ref : ArrayRef} {index : Nat} {v : Value}
    (h : heap.setElement? ref index v = some heap') : heap.KeepsCounters heap' := by
  rw [setElement?] at h
  split_ifs at h
  cases h
  exact .refl _

theorem get?_addToCounter (heap : Heap) (counter : CounterRef) (delta : Word .w32) (cell : Nat) :
    (heap.addToCounter counter delta).2.counters.get? cell =
      if cell = counter.cell ∧ counter.cell < heap.counters.size then
        some (heap.addToCounter counter delta).1
      else heap.counters.get? cell :=
  Cells.get?_put _ _ _ _

theorem get?_addToCounter_self {counter : CounterRef} {total : Word .w32}
    (h : heap.counters.get? counter.cell = some total) (delta : Word .w32) :
    (heap.addToCounter counter delta).1 = Word.wrap .w32 (total.val + delta.val) ∧
      (heap.addToCounter counter delta).2.counters.get? counter.cell =
        some (Word.wrap .w32 (total.val + delta.val)) := by
  have hlt : counter.cell < heap.counters.size := by
    apply Nat.lt_of_not_le
    intro hle
    rw [Cells.get?_eq_none_iff.mpr hle] at h
    cases h
  have hsum : (heap.addToCounter counter delta).1 = Word.wrap .w32 (total.val + delta.val) := by
    rw [addToCounter, Heap.total, h, Option.getD_some]
  rw [get?_addToCounter, if_pos ⟨rfl, hlt⟩, hsum]
  exact ⟨rfl, rfl⟩

end Heap

/-! ## Calls that wait -/

namespace Delegate

open Execution

variable {delegate : Delegate}

/-- The calls that wait leave every counter as it is. -/
def KeepsCounters : Delegate → Prop
  | inline => True
  | designated _ queue => ∀ job ∈ queue.waiting, ∀ context (heap : Heap),
      heap.KeepsCounters (job.2.runGuarded context heap).2

theorem Idle.keepsCounters (h : delegate.Idle) : delegate.KeepsCounters := by
  cases delegate with
  | inline => trivial
  | designated thread queue =>
    have hwaiting : queue.waiting = [] := h
    intro job hmem
    rw [hwaiting] at hmem
    cases hmem

theorem keepsCounters_runAll {jobs : List (Nat × Call)} {context : Context}
    (h : ∀ job ∈ jobs, ∀ heap : Heap, heap.KeepsCounters (job.2.runGuarded context heap).2)
    (queue : CallQueue) (heap : Heap) :
    heap.KeepsCounters (Affinity.runAll (Call.runGuarded context) jobs queue heap).2 := by
  induction jobs generalizing queue heap with
  | nil => exact .refl heap
  | cons job jobs ih =>
    have hjobs := List.forall_mem_cons.mp h
    exact (hjobs.1 heap).trans (ih hjobs.2 _ _)

/-- A call finds the counters as its caller left them. -/
theorem KeepsCounters.of_arrival? (h : delegate.KeepsCounters) {caller : Thread} {uptime : Nat}
    {heap before : Heap} {context : Context}
    (harrival : delegate.arrival? caller uptime heap = some (context, before)) :
    heap.KeepsCounters before := by
  cases delegate with
  | inline => cases harrival; exact .refl heap
  | designated thread queue =>
    rw [arrival?] at harrival
    split at harrival
    · cases harrival; exact .refl heap
    · split at harrival <;> cases harrival
      exact keepsCounters_runAll (fun job hmem ↦ h job hmem _) _ _

/-- Once the calls that waited were run, none waits. -/
theorem KeepsCounters.call (h : delegate.KeepsCounters) (caller : Thread) (uptime : Nat)
    (work : Call) (heap : Heap) : (delegate.call caller uptime work heap).2.1.KeepsCounters := by
  rcases delegate.call_eq_or_idle caller uptime work heap with heq | hidle
  · rwa [heq]
  · exact hidle.keepsCounters

end Delegate

/-! ## Bodies -/

/-- A body that leaves every counter as it is. -/
def Body.KeepsCounters (body : Body) : Prop :=
  ∀ context receiver arguments (heap : Heap),
    heap.KeepsCounters (body context receiver arguments heap).2

namespace Demo

theorem keepsCounters_computing
    (f : Context → Option Value → List Value → Except Failure Value) :
    (Body.computing f).KeepsCounters :=
  fun _ _ _ heap ↦ .refl heap

theorem keepsCounters_newCounter : newCounter.KeepsCounters := by
  intro context receiver arguments heap
  rw [newCounter]
  split
  · exact .refl _
  · exact heap.keepsCounters_newCounter _

theorem keepsCounters_split : split.KeepsCounters := by
  intro context receiver arguments heap
  unfold Demo.split
  dsimp only
  split
  · exact .refl _
  · split_ifs <;> exact .refl _

theorem keepsCounters_range : range.KeepsCounters := by
  intro context receiver arguments heap
  rw [range]
  split
  · exact .refl _
  · split_ifs <;> exact .refl _

theorem keepsCounters_arraySet : arraySet.KeepsCounters := by
  intro context receiver arguments heap
  rw [arraySet]
  split
  · exact .refl _
  · split
    · next hset => exact Heap.keepsCounters_setElement? hset
    · exact .refl _

/-- An operation of `Counter` changes nothing if its receiver is no counter. -/
theorem keepsCounters_counterOperation {v : Value} (h : v.counter? = none)
    (amount : List Value → Except Failure (Word .w32)) (context : Context) (arguments : List Value)
    (heap : Heap) :
    heap.KeepsCounters (counterOperation amount context (some v) arguments heap).2 := by
  simp only [counterOperation, Option.getD_some, counterReceiver, h]
  exact .refl heap

theorem keepsCounters_get : get.KeepsCounters := by
  intro context receiver arguments heap
  rw [get]
  split <;> exact .refl heap

theorem keepsCounters_value : value.KeepsCounters := by
  intro context receiver arguments heap
  cases receiver with
  | none => exact .refl heap
  | some v => exact keepsCounters_get context (some v) arguments heap

/-- No operation of `System` changes a counter. -/
theorem keepsCounters_of_systemType {operation : Operation}
    (hmem : operation ∈ systemType.operations) : operation.body.KeepsCounters := by
  have hstatic {body : Body} (h : body.KeepsCounters) : body.withoutReceiver.KeepsCounters :=
    fun context _ ↦ h context none
  simp only [systemType, TypeEntry.static, TypeEntry.withOperation, TypeEntry.withField,
    List.nil_append, List.cons_append, List.mem_cons, List.not_mem_nil, or_false] at hmem
  rcases hmem with rfl | rfl | rfl | rfl | rfl | rfl | rfl | rfl | rfl | rfl | rfl <;> dsimp only
  · rw [uptimeMillis]
    exact hstatic (keepsCounters_computing _)
  · exact hstatic (keepsCounters_computing _)
  · exact hstatic keepsCounters_newCounter
  · exact hstatic (keepsCounters_computing _)
  · exact hstatic keepsCounters_split
  · exact hstatic keepsCounters_range
  iterate 3 exact hstatic keepsCounters_arraySet
  · exact hstatic (keepsCounters_computing _)
  · exact hstatic (keepsCounters_computing _)

end Demo

end ObjectConsole
