import ObjectConsole.Reference.Coercion
import Mathlib.Tactic.SplitIfs

/-!
# What a text is coerced to

`Coercion.argument` computes a value or an error. `Coercion.Fits` says, without computing, what it
is for a value to be the value of a text under a declared type: a primitive type reads the text to a
value of its own variant, a string type takes the text as it is, and any other type takes the live
value that the text refers to. The two agree (`argument_eq_ok_iff`), so whatever a body relies on
can be read off `Fits`.
-/

namespace ObjectConsole

/-- The values of a primitive type are those of one variant. -/
def Primitive.Holds (v : Value) : Primitive → Prop
  | bool => ∃ b, v = .bool b
  | char => ∃ c, v = .char c
  | int width => ∃ n, v = .int width n
  | single => ∃ x, v = .single x
  | double => ∃ x, v = .double x

theorem Primitive.holds_of_read {kind : Primitive} {text : String} {v : Value}
    (h : kind.read text = .ok v) : kind.Holds v := by
  rw [read.eq_def] at h
  cases kind with
  | bool =>
    simp only at h
    split_ifs at h <;> cases h <;> exact ⟨_, rfl⟩
  | char | int width | single | double =>
    simp only at h
    split at h <;> cases h
    exact ⟨_, rfl⟩

namespace Coercion

/-- A value is the live one that a text refers to. -/
def RefersTo (registry : Registry) (text : Option String) (v : Value) : Prop :=
  ∃ s token, text = some s ∧ Token.parse s = .ok token ∧ registry.resolve token = .ok v

/-- A value is the value of a text under a declared type. -/
inductive Fits (registry : Registry) (typeName : String) (text : Option String) (v : Value) : Prop
  | primitive {kind : Primitive} {s : String} (hkind : Primitive.ofTypeName? typeName = some kind)
      (htext : text = some s) (hread : kind.read s = .ok v) (hholds : kind.Holds v)
  | string (hkind : Primitive.ofTypeName? typeName = none) (hstring : isStringType typeName = true)
      (hvalue : (∃ s, text = some s ∧ v = .text s) ∨ text = none ∧ v = .null)
  | reference (hkind : Primitive.ofTypeName? typeName = none)
      (hstring : isStringType typeName = false) (hrefers : RefersTo registry text v)

variable {registry : Registry} {typeName : String} {text : Option String} {v : Value}

theorem reference_eq_ok_iff :
    reference registry text typeName = .ok v ↔ RefersTo registry text v := by
  rw [reference.eq_def]
  cases text with
  | none => exact ⟨nofun, fun ⟨_, _, h, _⟩ ↦ nomatch h⟩
  | some s =>
    simp only
    cases htoken : Token.parse s with
    | error e =>
      refine ⟨nofun, ?_⟩
      rintro ⟨_, token, hs, hparse, -⟩
      cases hs
      rw [htoken] at hparse
      cases hparse
    | ok token =>
      simp only
      constructor
      · intro h
        cases hresolve : registry.resolve token with
        | error e => rw [hresolve] at h; cases h
        | ok v' =>
          rw [hresolve] at h
          cases h
          exact ⟨s, token, rfl, htoken, hresolve⟩
      · rintro ⟨_, token', hs, hparse, hresolve⟩
        cases hs
        cases htoken.symm.trans hparse
        rw [hresolve]
        rfl

/-- **Coercion is exact.** A text is coerced to a value exactly if that value fits the declared
type. -/
theorem argument_eq_ok_iff :
    argument registry text typeName = .ok v ↔ Fits registry typeName text v := by
  rw [argument.eq_def]
  constructor
  · intro h
    cases hkind : Primitive.ofTypeName? typeName with
    | some kind =>
      rw [hkind] at h
      cases text with
      | none => cases h
      | some s =>
        cases hread : kind.read s with
        | error fault => simp only [hread] at h; cases h
        | ok v' =>
          simp only [hread] at h
          cases h
          exact .primitive hkind rfl hread (Primitive.holds_of_read hread)
    | none =>
      rw [hkind] at h
      simp only at h
      split_ifs at h with hstring
      · refine .string hkind hstring ?_
        cases text <;> cases h
        · exact .inr ⟨rfl, rfl⟩
        · exact .inl ⟨_, rfl, rfl⟩
      · exact .reference hkind (Bool.eq_false_iff.mpr hstring) (reference_eq_ok_iff.mp h)
  · intro h
    cases h with
    | primitive hkind htext hread hholds => simp only [hkind, htext, hread, Except.mapError]
    | string hkind hstring hvalue =>
      simp only [hkind, hstring]
      rcases hvalue with ⟨s, rfl, rfl⟩ | ⟨rfl, rfl⟩ <;> rfl
    | reference hkind hstring hrefers =>
      simp only [hkind, hstring]
      exact reference_eq_ok_iff.mpr hrefers

end Coercion

end ObjectConsole
