import ObjectConsole.Operation.Demo
import ObjectConsole.Proofs.Reference.Coercion
import Mathlib.Data.List.Forall2
import Mathlib.Tactic.SplitIfs

/-!
# What the demonstration operations fail of

The bodies of the demonstration catalog check their operands, as any body has to that can be called
from anywhere: whether an argument is there, whether it is an integer or a text, whether there is a
receiver. These checks are for callers that make mistakes, and their failures are the `Misuse`s. An
operation that is called with values that fit its declared types fails of none of them. What it may
still fail of is a `Refusal`, a matter of what the values are: which integer, which text, which
object.

One operation has to be told apart. `fail` repeats the text that it is given, whatever it says.
-/

namespace ObjectConsole.Demo

open Number

/-! ## Failures -/

/-- The failures of calls with wrong operands. -/
def Misuse (failure : Failure) : Prop :=
  (∃ index : Nat, failure.message = "missing argument #" ++ toString index) ∨
  (∃ index : Nat, failure.message = "argument #" ++ toString index ++ " is not an int") ∨
  (∃ index : Nat, failure.message = "argument #" ++ toString index ++ " is not a string") ∨
  failure.message = "instance operation called without a receiver"

/-- The failures of calls whose operands have the right types. A reference may be to any value, so
what it refers to is only seen by the body. -/
inductive Refusal : Failure → Prop
  | word (fault : Word.Fault) : Refusal ⟨fault.message, []⟩
  | separator : Refusal ⟨"separator must not be empty", []⟩
  | length (bound : Word .w32) :
    Refusal ⟨"range length " ++ String.ofList bound.text ++ " exceeds " ++ toString maxRange, []⟩
  | notArray (index : Nat) : Refusal ⟨"argument #" ++ toString index ++ " is not an array", []⟩
  | bounds (index length : Nat) :
    Refusal ⟨"index " ++ toString index ++ " out of bounds for length " ++ toString length, []⟩
  | notCounter (typeName : String) :
    Refusal ⟨"receiver of type " ++ typeName ++ " is not a " ++ counterTypeName, []⟩
  | withoutText : Refusal ⟨"failed", []⟩

theorem Misuse.begins {failure : Failure} (h : Misuse failure) :
    failure.message.toList.take 3 = "mis".toList ∨ failure.message.toList.take 3 = "ins".toList ∨
      failure.message.toList.take 3 = "arg".toList ∧
        failure.message.toList.getLast? ≠ some 'y' := by
  rcases h with ⟨index, h⟩ | ⟨index, h⟩ | ⟨index, h⟩ | h
  · rw [h]; simp
  · rw [h]; simp [List.getLast?_cons, List.getLast?_append]
  · rw [h]; simp [List.getLast?_cons, List.getLast?_append]
  · rw [h]; simp

/-- A refusal is told from a misuse by how it begins and ends. -/
theorem Refusal.not_misuse {failure : Failure} (h : Refusal failure) : ¬Misuse failure := by
  intro hmisuse
  have hbegins := hmisuse.begins
  cases h with
  | word fault => cases fault <;> simp [Word.Fault.message] at hbegins
  | separator => simp at hbegins
  | length bound => simp at hbegins
  | notArray index => simp [List.getLast?_cons, List.getLast?_append] at hbegins
  | bounds index length => simp at hbegins
  | notCounter typeName => simp at hbegins
  | withoutText => simp at hbegins

/-! ## Operands that fit -/

/-- A list of values that fit a list of declared types. -/
def FitAll (registry : Registry) (types : List String) (arguments : List Value) : Prop :=
  List.Forall₂ (fun type v ↦ ∃ text, Coercion.Fits registry type text v) types arguments

namespace FitAll

variable {registry : Registry} {types : List String} {arguments : List Value}

theorem exists_fits (h : FitAll registry types arguments) {index : Nat} {type : String}
    (htype : types[index]? = some type) :
    ∃ v text, arguments[index]? = some v ∧ Coercion.Fits registry type text v := by
  rw [FitAll, List.forall₂_iff_get] at h
  obtain ⟨hlength, hfits⟩ := h
  obtain ⟨hlt, rfl⟩ := List.getElem?_eq_some_iff.mp htype
  have hlt' : index < arguments.length := hlength ▸ hlt
  obtain ⟨text, hfit⟩ := hfits index hlt hlt'
  exact ⟨arguments[index], text, List.getElem?_eq_getElem hlt', hfit⟩

theorem exists_argument (h : FitAll registry types arguments) (index : Nat) {type : String}
    (htype : types[index]? = some type) : ∃ v, argument arguments index = .ok v := by
  obtain ⟨v, text, hget, -⟩ := h.exists_fits htype
  exact ⟨v, by rw [argument, hget]⟩

theorem exists_intArgument (h : FitAll registry types arguments) (index : Nat)
    (htype : types[index]? = some "int") : ∃ n, intArgument arguments index = .ok n := by
  obtain ⟨v, text, hget, hfit⟩ := h.exists_fits htype
  have hint : Primitive.ofTypeName? "int" = some (.int .w32) := by decide
  cases hfit with
  | primitive hkind htext hread hholds =>
    rw [hint] at hkind
    cases hkind
    obtain ⟨n, rfl⟩ := hholds
    have hword : (Value.int .w32 n).word? .w32 = some n := Word.ofInt?_eq_some_iff.mpr rfl
    refine ⟨n, ?_⟩
    rw [intArgument, argument, hget]
    simp only [bind, Except.bind, hword]
    rfl
  | string hkind | reference hkind => rw [hint] at hkind; cases hkind

theorem exists_textArgument (h : FitAll registry types arguments) (index : Nat)
    (htype : types[index]? = some "string") :
    ∃ text, arguments[index]? = some (Value.ofOption .text text) ∧
      textArgument arguments index = .ok text := by
  obtain ⟨v, text, hget, hfit⟩ := h.exists_fits htype
  have hnone : Primitive.ofTypeName? "string" = none := by decide
  cases hfit with
  | primitive hkind => rw [hnone] at hkind; cases hkind
  | reference hkind hstring => cases hstring
  | string hkind hstring hvalue =>
    refine ⟨text, ?_, ?_⟩
    · rcases hvalue with ⟨s, rfl, rfl⟩ | ⟨rfl, rfl⟩ <;> exact hget
    · rw [textArgument, argument, hget]
      rcases hvalue with ⟨s, rfl, rfl⟩ | ⟨rfl, rfl⟩ <;> rfl

end FitAll

/-! ## Bodies -/

section Bodies

variable {context : Context} {receiver : Option Value} {arguments : List Value} {heap : Heap}
  {failure : Failure}

theorem refusal_of_uptimeMillis
    (h : (uptimeMillis context receiver arguments heap).1 = .failed failure) : Refusal failure := by
  rw [uptimeMillis, Body.computing] at h
  cases hword : Word.ofInt? .w64 context.uptime with
  | some n => simp only [hword] at h; cases h
  | none => simp only [hword] at h; cases h; exact .word .tooLarge

theorem newCounter_ne_failed (hint : ∃ n, intArgument arguments 0 = .ok n) :
    (newCounter context receiver arguments heap).1 ≠ .failed failure := by
  obtain ⟨n, hn⟩ := hint
  rw [newCounter, hn]
  exact Outcome.noConfusion

theorem concat_ne_failed {left right : Option String} (hleft : textArgument arguments 0 = .ok left)
    (hright : textArgument arguments 1 = .ok right) :
    (concat context receiver arguments heap).1 ≠ .failed failure := by
  rw [concat, Body.computing, hleft]
  simp only [bind, Except.bind, hright]
  exact Outcome.noConfusion

theorem refusal_of_split {text separator : Option String}
    (htext : textArgument arguments 0 = .ok text)
    (hseparator : textArgument arguments 1 = .ok separator)
    (h : (split context receiver arguments heap).1 = .failed failure) : Refusal failure := by
  rw [split, htext] at h
  simp only [bind, Except.bind, hseparator, pure, Except.pure] at h
  split_ifs at h
  cases h
  exact .separator

theorem refusal_of_range (hint : ∃ n, intArgument arguments 0 = .ok n)
    (h : (range context receiver arguments heap).1 = .failed failure) : Refusal failure := by
  obtain ⟨bound, hbound⟩ := hint
  rw [range, hbound] at h
  simp only at h
  split_ifs at h
  cases h
  exact .length bound

theorem refusal_of_arraySetOperands {array element : Value} {index : Word .w32}
    (harray : argument arguments 0 = .ok array) (hindex : intArgument arguments 1 = .ok index)
    (helement : argument arguments 2 = .ok element)
    (h : arraySetOperands arguments = .error failure) : Refusal failure := by
  rw [arraySetOperands, arrayArgument, harray] at h
  simp only [bind, Except.bind, hindex, helement] at h
  cases harrayRef : array.array? with
  | none =>
    simp only [harrayRef] at h
    cases h
    exact .notArray 0
  | some ref =>
    simp only [harrayRef, pure, Except.pure] at h
    split_ifs at h
    cases h
    exact .word .tooSmall

/-- Whatever type the element is declared with, it only has to be there. -/
theorem refusal_of_arraySet {registry : Registry} {elementType : String}
    (hfits : FitAll registry ["array", "int", elementType] arguments)
    (h : (arraySet context receiver arguments heap).1 = .failed failure) : Refusal failure := by
  obtain ⟨array, harray⟩ := hfits.exists_argument 0 rfl
  obtain ⟨index, hindex⟩ := hfits.exists_intArgument 1 rfl
  obtain ⟨element, helement⟩ := hfits.exists_argument 2 rfl
  rw [arraySet] at h
  cases hoperands : arraySetOperands arguments with
  | error failure' =>
    rw [hoperands] at h
    cases h
    exact refusal_of_arraySetOperands harray hindex helement hoperands
  | ok operands =>
    rw [hoperands] at h
    simp only at h
    split at h
    · cases h
    · cases h
      exact .bounds _ _

theorem failed_of_fail {text : Option String} (htext : textArgument arguments 0 = .ok text)
    (h : (fail context receiver arguments heap).1 = .failed failure) :
    failure = ⟨text.getD "failed", []⟩ := by
  rw [fail, Body.computing, htext] at h
  cases h
  rfl

theorem refusal_of_counterReceiver (h : counterReceiver (receiver.getD .null) = .error failure) :
    Refusal failure := by
  rw [counterReceiver] at h
  split at h
  · cases h
  · cases h
    exact .notCounter _

theorem refusal_of_counterOperation {amount : List Value → Except Failure (Word .w32)}
    (hamount : ∃ n, amount arguments = .ok n)
    (h : (counterOperation amount context receiver arguments heap).1 = .failed failure) :
    Refusal failure := by
  obtain ⟨n, hn⟩ := hamount
  rw [counterOperation] at h
  cases hcounter : counterReceiver (receiver.getD .null) with
  | error failure' =>
    simp only [hcounter, bind, Except.bind] at h
    cases h
    exact refusal_of_counterReceiver hcounter
  | ok counter =>
    simp only [hcounter, hn, bind, Except.bind, pure, Except.pure] at h
    cases h

theorem refusal_of_get (h : (get context receiver arguments heap).1 = .failed failure) :
    Refusal failure := by
  rw [get] at h
  cases hcounter : counterReceiver (receiver.getD .null) with
  | error failure' =>
    rw [hcounter] at h
    cases h
    exact refusal_of_counterReceiver hcounter
  | ok counter => rw [hcounter] at h; cases h

end Bodies

/-! ## Operations -/

theorem refusal_or_repeats_of_systemType {operation : Operation} {registry : Registry}
    {context : Context} {receiver : Option Value} {arguments : List Value} {heap : Heap}
    {failure : Failure} (hmem : operation ∈ systemType.operations)
    (hfits : FitAll registry operation.parameters arguments)
    (h : (operation.body context receiver arguments heap).1 = .failed failure) :
    Refusal failure ∨ operation.name = "fail" ∧ arguments = [.text failure.message] := by
  simp only [systemType, TypeEntry.static, TypeEntry.withOperation, TypeEntry.withField,
    List.nil_append, List.cons_append, List.mem_cons, List.not_mem_nil, or_false] at hmem
  rcases hmem with rfl | rfl | rfl | rfl | rfl | rfl | rfl | rfl | rfl | rfl | rfl
  · replace h : (uptimeMillis context none arguments heap).1 = .failed failure := h
    exact .inl (refusal_of_uptimeMillis h)
  · cases h
  · have hint := hfits.exists_intArgument 0 rfl
    replace h : (newCounter context none arguments heap).1 = .failed failure := h
    exact absurd h (newCounter_ne_failed hint)
  · obtain ⟨left, -, hleft⟩ := hfits.exists_textArgument 0 rfl
    obtain ⟨right, -, hright⟩ := hfits.exists_textArgument 1 rfl
    replace h : (concat context none arguments heap).1 = .failed failure := h
    exact absurd h (concat_ne_failed hleft hright)
  · obtain ⟨text, -, htext⟩ := hfits.exists_textArgument 0 rfl
    obtain ⟨separator, -, hseparator⟩ := hfits.exists_textArgument 1 rfl
    replace h : (split context none arguments heap).1 = .failed failure := h
    exact .inl (refusal_of_split htext hseparator h)
  · have hint := hfits.exists_intArgument 0 rfl
    replace h : (range context none arguments heap).1 = .failed failure := h
    exact .inl (refusal_of_range hint h)
  iterate 3
    · replace h : (arraySet context none arguments heap).1 = .failed failure := h
      exact .inl (refusal_of_arraySet hfits h)
  · obtain ⟨text, hget, htext⟩ := hfits.exists_textArgument 0 rfl
    replace h : (fail context none arguments heap).1 = .failed failure := h
    obtain rfl := failed_of_fail htext h
    obtain ⟨v, rest, -, hrest, rfl⟩ := List.forall₂_cons_left_iff.mp hfits
    obtain rfl := List.forall₂_nil_left_iff.mp hrest
    cases text with
    | none => exact .inl .withoutText
    | some s => exact .inr ⟨rfl, congrArg (fun v ↦ [v]) (Option.some.inj hget)⟩
  · cases h

theorem isStatic_of_mem_counterType {operation : Operation}
    (hmem : operation ∈ counterType.operations) : operation.isStatic = false := by
  simp only [counterType, TypeEntry.instanceOp, TypeEntry.withOperation, TypeEntry.withField,
    List.nil_append, List.cons_append, List.mem_cons, List.not_mem_nil, or_false] at hmem
  rcases hmem with rfl | rfl | rfl <;> rfl

theorem refusal_of_counterType {operation : Operation} {registry : Registry} {context : Context}
    {receiver : Value} {arguments : List Value} {heap : Heap} {failure : Failure}
    (hmem : operation ∈ counterType.operations)
    (hfits : FitAll registry operation.parameters arguments)
    (h : (operation.body context (some receiver) arguments heap).1 = .failed failure) :
    Refusal failure := by
  simp only [counterType, TypeEntry.instanceOp, TypeEntry.withOperation, TypeEntry.withField,
    List.nil_append, List.cons_append, List.mem_cons, List.not_mem_nil, or_false] at hmem
  rcases hmem with rfl | rfl | rfl
  · replace h : (increment context (some receiver) arguments heap).1 = .failed failure := h
    exact refusal_of_counterOperation ⟨_, rfl⟩ h
  · replace h : (add context (some receiver) arguments heap).1 = .failed failure := h
    exact refusal_of_counterOperation (hfits.exists_intArgument 0 rfl) h
  · replace h : (get context (some receiver) arguments heap).1 = .failed failure := h
    exact refusal_of_get h

end ObjectConsole.Demo
