import ObjectConsole.Proofs.Number.WordText
import ObjectConsole.Reference.Coercion
import ObjectConsole.Value.Description

/-!
# Integer arguments

An argument of an integer type is the number that its text spells, if the type can hold it, and is
malformed otherwise: texts are neither cut off nor rounded, nor taken around the ends of the range.
What is shown of an integer spells it, so a shown integer can be sent back as an argument, also of a
narrower or of a wider type, and is then the same integer or none.
-/

namespace ObjectConsole

open Number

/-- The names of the type of words of a width. -/
def Number.Width.names : Width → List String
  | .w8 => ["i8", "byte"]
  | .w16 => ["i16", "short"]
  | .w32 => ["i32", "int"]
  | .w64 => ["i64", "long"]

namespace Coercion

variable {registry : Registry} {w : Width} {typeName : String}

theorem ofTypeName?_of_mem_names (h : typeName ∈ w.names) :
    Primitive.ofTypeName? typeName = some (.int w) := by
  cases w <;> simp only [Width.names, List.mem_cons, List.not_mem_nil, or_false] at h <;>
    rcases h with rfl | rfl <;> decide

/-- The error of a text that is no argument of an integer type. -/
def notInteger (typeName text : String) (fault : Word.Fault) : Error :=
  .valueFormat typeName (some text) (.primitive (.notInteger fault))

/-- A text becomes an argument of an integer type as it is read. -/
theorem argument_int_eq (h : typeName ∈ w.names) (text : String) :
    argument registry (some text) typeName =
      match Word.read w text.toList with
      | .ok n => .ok (.int w n)
      | .error fault => .error (notInteger typeName text fault) := by
  rw [argument, ofTypeName?_of_mem_names h]
  simp only [Primitive.read]
  cases Word.read w text.toList <;> rfl

theorem argument_int_of_spells (h : typeName ∈ w.names) {text : String} {n : Int}
    (hspells : Word.Spells text.toList n) :
    argument registry (some text) typeName =
      if hn : w.Holds n then .ok (.int w ⟨n, hn⟩)
      else .error (notInteger typeName text (if n < 0 then .tooSmall else .tooLarge)) := by
  rw [argument_int_eq h, Word.read_of_spells hspells]
  by_cases hn : w.Holds n
  · rw [dif_pos hn, dif_pos hn]
  · rw [dif_neg hn, dif_neg hn]

theorem argument_int_eq_ok_iff (h : typeName ∈ w.names) {text : String} {v : Value} :
    argument registry (some text) typeName = .ok v ↔
      ∃ n, Word.Spells text.toList n ∧ ∃ hn : w.Holds n, v = .int w ⟨n, hn⟩ := by
  constructor
  · intro hargument
    rw [argument_int_eq h] at hargument
    cases hread : Word.read w text.toList with
    | error fault => rw [hread] at hargument; cases hargument
    | ok n =>
      rw [hread] at hargument
      cases hargument
      exact ⟨n.val, Word.read_eq_ok_iff.mp hread, n.holds, rfl⟩
  · rintro ⟨n, hspells, hn, rfl⟩
    rw [argument_int_of_spells h hspells, dif_pos hn]

/-- Whatever an integer type does not take is malformed, and the error repeats the text. -/
theorem argument_int_eq_ok_or (h : typeName ∈ w.names) (text : String) :
    (∃ n, argument registry (some text) typeName = .ok (.int w n)) ∨
      ∃ fault, argument registry (some text) typeName =
        .error (notInteger typeName text fault) := by
  rw [argument_int_eq h]
  cases Word.read w text.toList with
  | ok n => exact .inl ⟨n, rfl⟩
  | error fault => exact .inr ⟨fault, rfl⟩

theorem render_int (heap : Heap) (n : Word w) :
    (Value.int w n).render heap = .ok (String.ofList n.text) := by
  have hwritten : (Value.int w n).render heap = .ok ("" ++ String.ofList n.text) := rfl
  rw [hwritten, String.empty_append]

/-- **Integer arguments are read exactly.** Under any name of an integer type:

* a text gives a value exactly if it spells a number that the type can hold, in digits behind a sign
  or none, and the value is that number;
* every other text is malformed;
* what is shown of an integer of any width gives the same integer, if the type can hold it, and is
  too small or too large otherwise. -/
theorem integers_read_exactly (h : typeName ∈ w.names) :
    (∀ text v, argument registry (some text) typeName = .ok v ↔
      ∃ n, Word.Spells text.toList n ∧ ∃ hn : w.Holds n, v = .int w ⟨n, hn⟩) ∧
    (∀ text, (¬∃ n, Word.Spells text.toList n ∧ w.Holds n) →
      ∃ fault, argument registry (some text) typeName = .error
        (.valueFormat typeName (some text) (.primitive (.notInteger fault)))) ∧
    ∀ heap (shownWidth : Width) (n : Word shownWidth), ∃ shown,
      (Value.int shownWidth n).render heap = .ok shown ∧
      argument registry (some shown) typeName =
        if hn : w.Holds n.val then .ok (.int w ⟨n.val, hn⟩)
        else .error (.valueFormat typeName (some shown)
          (.primitive (.notInteger (if n.val < 0 then .tooSmall else .tooLarge)))) := by
  refine ⟨fun text v ↦ argument_int_eq_ok_iff h, fun text hnone ↦ ?_, fun heap shownWidth n ↦ ?_⟩
  · rcases argument_int_eq_ok_or h text with ⟨n, hok⟩ | herror
    · obtain ⟨n, hspells, hn, -⟩ := (argument_int_eq_ok_iff h).mp hok
      exact absurd ⟨n, hspells, hn⟩ hnone
    · exact herror
  · have hspells : Word.Spells (String.ofList n.text).toList n.val := by
      rw [String.toList_ofList]
      exact n.spells_text
    exact ⟨String.ofList n.text, render_int heap n, argument_int_of_spells h hspells⟩

/-- A minus sign reaches one further than none, leading zeros do not count, and one number further
is malformed. -/
theorem integers_read_exactly_byte :
    "byte" ∈ Width.w8.names ∧
      argument ∅ (some "-000128") "byte" = .ok (.int .w8 ⟨-128, by decide⟩) ∧
      ∃ fault, argument ∅ (some "128") "byte" = .error
        (.valueFormat "byte" (some "128") (.primitive (.notInteger fault))) := by
  have hname : "byte" ∈ Width.w8.names := by decide
  have hdigits : Word.Digits "000128".toList :=
    ⟨by decide, List.all_eq_true.mp (by decide)⟩
  obtain ⟨hok, hmalformed, -⟩ := @integers_read_exactly ∅ .w8 "byte" hname
  refine ⟨hname, ?_, hmalformed "128" ?_⟩
  · exact (hok _ _).mpr ⟨-128, .minus hdigits, by decide, rfl⟩
  · rintro ⟨n, hspells, hholds⟩
    cases hspells with
    | unsigned hdigits => exact absurd hholds (by decide)

end Coercion

end ObjectConsole
