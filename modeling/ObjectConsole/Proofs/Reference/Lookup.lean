import ObjectConsole.Proofs.Reference.Coercion
import ObjectConsole.Proofs.Reference.Spelling

/-!
# Malformed or missing

A text that is no value of its declared type fails in one of two ways, which requests answer apart:
it is malformed, or it names an object that is not there. Only a reference can be missing, and only
the registry knows. So reading a reference is done in two steps that do not look at each other's
data (`Coercion.reference_eq`): the text is read as a token without the registry, and the token is
looked up without the text. All that is malformed is found at the first step, hence it is malformed
over every registry; all that is missing is found at the second, hence it is well-formed.

The types whose texts are no references are listed (`Coercion.literalNames`). Their values never
depend on the registry. A receiver is read as a reference under any name, also under one of these.
-/

namespace ObjectConsole

open Text

/-! ## Entries -/

namespace Registry

variable {registry : Registry} {token : Token} {v : Value}

/-- A value is kept for a token in the table of its namespace. -/
inductive Keeps (registry : Registry) : Token → Value → Prop
  | ephemeral {id : Uuid} {entry : Entry} (h : registry.ephemeral.get? id = some entry) :
      Keeps registry (.ephemeral id) entry.value
  | persistent {name : String} {v : Value} (h : registry.persistent.get? name = some v) :
      Keeps registry (.persistent name) v

/-- There is an entry for a token. -/
def HasEntry (registry : Registry) (token : Token) : Prop :=
  ∃ v, registry.Keeps token v

theorem resolve_eq_ok_iff : registry.resolve token = .ok v ↔ registry.Keeps token v := by
  constructor
  · intro h
    rcases token with id | name
    · obtain ⟨clock, hget⟩ := find?_eq_some_iff.mp (resolve_ephemeral_eq_ok_iff.mp h)
      exact .ephemeral hget
    · exact .persistent (resolve_persistent_eq_ok_iff.mp h)
  · rintro (h | h)
    · exact resolve_ephemeral_eq_ok_iff.mpr (find?_eq_some_iff.mpr ⟨_, h⟩)
    · exact resolve_persistent_eq_ok_iff.mpr h

theorem eq_of_resolve_eq_error {e : NoSuchObject} (h : registry.resolve token = .error e) :
    e = ⟨token⟩ := by
  rcases token with id | name <;> simp only [resolve] at h
  · rcases hfound : registry.find? id with _ | v <;> rw [hfound] at h <;> cases h
    rfl
  · rcases hfound : registry.named? name with _ | v <;> rw [hfound] at h <;> cases h
    rfl

/-- Only what has no entry is missing, and the error names it. -/
theorem resolve_eq_error_iff {e : NoSuchObject} :
    registry.resolve token = .error e ↔ ¬registry.HasEntry token ∧ e = ⟨token⟩ := by
  constructor
  · intro h
    refine ⟨?_, eq_of_resolve_eq_error h⟩
    rintro ⟨v, hkeeps⟩
    rw [resolve_eq_ok_iff.mpr hkeeps] at h
    cases h
  · rintro ⟨hnone, rfl⟩
    rcases hresolve : registry.resolve token with e | v
    · rw [eq_of_resolve_eq_error hresolve]
    · exact absurd ⟨v, resolve_eq_ok_iff.mp hresolve⟩ hnone

end Registry

/-- A token is written canonically: an identifier in groups of lower-case digits, and a name as it
is. -/
inductive Token.Canonical : Token → String → Prop
  | ephemeral {id : Uuid} {written : List Char}
      (h : Uuid.Grouped written (id.digits.map Hex.lower)) :
      Canonical (.ephemeral id) ("[" ++ String.ofList written ++ "]")
  | persistent (name : String) : Canonical (.persistent name) ("$" ++ name)

theorem Token.canonical_text : ∀ token : Token, token.Canonical token.text
  | .ephemeral id => .ephemeral id.grouped_chars
  | .persistent name => .persistent name

/-! ## References -/

namespace Coercion

variable {registry registry' : Registry} {text given : Option String} {typeName name : String}

/-- The token that a text is as a reference, or why it is none. -/
def token? (text : Option String) : Except Reason Token :=
  match text with
  | none => .error .missingReference
  | some s => (Token.parse s).mapError fun e ↦ .token e.reason

theorem token?_eq_ok_iff {token : Token} :
    token? text = .ok token ↔ ∃ s, text = some s ∧ Token.Spells s token := by
  simp only [← Token.parse_eq_ok_iff]
  rcases text with _ | s
  · exact iff_of_false nofun (by rintro ⟨_, ⟨⟩, -⟩)
  · rw [token?]
    rcases hparse : Token.parse s with e | found <;> simp [Except.mapError, hparse]

/-- A reference is read without the registry and looked up without its text. -/
theorem reference_eq (registry : Registry) (text : Option String) (typeName : String) :
    reference registry text typeName =
      match token? text with
      | .error reason => .error (.valueFormat typeName text reason)
      | .ok token => (registry.resolve token).mapError .noSuchObject := by
  rcases text with _ | s
  · rfl
  · rw [reference, token?]
    rcases Token.parse s with e | token <;> rfl

/-- What is malformed as a reference is read so without the registry. -/
theorem reference_eq_valueFormat_iff {reason : Reason} :
    reference registry text typeName = .error (.valueFormat name given reason) ↔
      name = typeName ∧ given = text ∧ token? text = .error reason := by
  rw [reference_eq]
  rcases token? text with found | token
  · simp [eq_comm]
  · refine iff_of_false ?_ (by rintro ⟨-, -, ⟨⟩⟩)
    simp only
    rcases registry.resolve token with e | v <;> exact nofun

theorem reference_eq_noSuchObject_iff {e : NoSuchObject} :
    reference registry text typeName = .error (.noSuchObject e) ↔
      ∃ token, token? text = .ok token ∧ registry.resolve token = .error e := by
  rw [reference_eq]
  rcases token? text with found | token
  · exact iff_of_false nofun (by rintro ⟨_, ⟨⟩, -⟩)
  · simp only [Except.ok.injEq, exists_eq_left']
    rcases registry.resolve token with e | v <;> simp [Except.mapError]

/-- What comes of a text that is taken for a reference. -/
structure LooksUp (registry : Registry) (text : Option String) (outcome : Except Error Value) :
    Prop where
  ok_iff : ∀ v, outcome = .ok v ↔
    ∃ s token, text = some s ∧ Token.Spells s token ∧ registry.Keeps token v
  missing_iff : ∀ e, outcome = .error (.noSuchObject e) ↔
    ∃ s token, text = some s ∧ Token.Spells s token ∧ ¬registry.HasEntry token ∧ e = ⟨token⟩
  message_eq : ∀ e, outcome = .error (.noSuchObject e) →
    ∃ written, e.token.Canonical written ∧
      (Error.noSuchObject e).message = "no such object: " ++ written

theorem looksUp_reference (registry : Registry) (text : Option String) (typeName : String) :
    LooksUp registry text (reference registry text typeName) where
  ok_iff v := by
    simp only [reference_eq_ok_iff, RefersTo, Token.parse_eq_ok_iff, Registry.resolve_eq_ok_iff]
  missing_iff e := by
    rw [reference_eq_noSuchObject_iff]
    simp only [token?_eq_ok_iff, Registry.resolve_eq_error_iff]
    constructor
    · rintro ⟨token, ⟨s, htext, hspells⟩, hnone, he⟩
      exact ⟨s, token, htext, hspells, hnone, he⟩
    · rintro ⟨s, token, htext, hspells, hnone, he⟩
      exact ⟨token, ⟨s, htext, hspells⟩, hnone, he⟩
  message_eq e _ := ⟨e.token.text, e.token.canonical_text, rfl⟩

/-! ## Arguments -/

/-- The names of the types whose texts are no references: those of the primitive types and those of
the type of texts. -/
def literalNames : List String :=
  ["bool", "boolean", "char", "i8", "byte", "i16", "short", "i32", "int", "i64", "long", "f32",
    "float", "f64", "double", "string", "str", "String"]

theorem mem_literalNames_iff :
    typeName ∈ literalNames ↔
      Primitive.ofTypeName? typeName ≠ none ∨ isStringType typeName = true := by
  constructor
  · intro h
    have hall : (literalNames.all fun name ↦
      (Primitive.ofTypeName? name ≠ none ∨ isStringType name = true)) = true := by decide
    exact of_decide_eq_true (List.all_eq_true.mp hall typeName h)
  · intro h
    by_contra hother
    simp only [literalNames, List.mem_cons, List.not_mem_nil, or_false, not_or] at hother
    simp [Primitive.ofTypeName?, isStringType, hother] at h

theorem argument_eq_reference (h : typeName ∉ literalNames) :
    argument registry text typeName = reference registry text typeName := by
  rw [mem_literalNames_iff, not_or, not_not] at h
  simp only [argument, h.1, if_neg h.2]

theorem argument_of_mem_literalNames (h : typeName ∈ literalNames) :
    argument registry text typeName = argument registry' text typeName ∧
      ∀ e, argument registry text typeName ≠ .error (.noSuchObject e) := by
  rw [mem_literalNames_iff] at h
  simp only [argument]
  rcases hkind : Primitive.ofTypeName? typeName with _ | kind
  · have hstring : isStringType typeName = true := h.resolve_left (not_not_intro hkind)
    rw [if_pos hstring, if_pos hstring]
    exact ⟨rfl, nofun⟩
  · refine ⟨rfl, fun e ↦ ?_⟩
    rcases text with _ | s
    · exact nofun
    · simp only
      rcases kind.read s with fault | v <;> exact nofun

/-- **What is malformed does not depend on what is kept, and what is missing depends on nothing
else.**

* An argument or a receiver is malformed over one registry, with a type, a text and a reason in its
  message, exactly if it is so over any other.
* Under the name of a primitive type or of the type of texts, an argument comes to the same over all
  registries, and never names a missing object.
* Under any other name, an argument is the value that is kept for the token that its text spells. If
  there is a token but nothing is kept for it, then that token is missing, and the error shows it as
  tokens are written.
* A receiver is looked up in this way under every name. -/
theorem malformed_over_any_registry (text : Option String) (typeName : String) :
    (∀ registry registry' name given reason,
      (argument registry text typeName = .error (.valueFormat name given reason) ↔
        argument registry' text typeName = .error (.valueFormat name given reason)) ∧
      (receiver registry text typeName = .error (.valueFormat name given reason) ↔
        receiver registry' text typeName = .error (.valueFormat name given reason))) ∧
    (typeName ∈ literalNames → ∀ registry registry',
      argument registry text typeName = argument registry' text typeName ∧
        ∀ e, argument registry text typeName ≠ .error (.noSuchObject e)) ∧
    (typeName ∉ literalNames → ∀ registry,
      LooksUp registry text (argument registry text typeName)) ∧
    ∀ registry, LooksUp registry text (receiver registry text typeName) := by
  have hreference (registry registry' : Registry) (name : String) (given : Option String)
      (reason : Reason) :
      reference registry text typeName = .error (.valueFormat name given reason) ↔
        reference registry' text typeName = .error (.valueFormat name given reason) := by
    rw [reference_eq_valueFormat_iff, reference_eq_valueFormat_iff]
  refine ⟨?_, ?_, ?_, fun registry ↦ looksUp_reference registry text typeName⟩
  · intro registry registry' name given reason
    refine ⟨?_, hreference registry registry' name given reason⟩
    by_cases h : typeName ∈ literalNames
    · rw [(argument_of_mem_literalNames h).1]
    · rw [argument_eq_reference h, argument_eq_reference h]
      exact hreference registry registry' name given reason
  · intro h registry registry'
    exact argument_of_mem_literalNames h
  · intro h registry
    rw [argument_eq_reference h]
    exact looksUp_reference registry text typeName

/-- A spelling of an identifier is malformed as a number. As an object it is missing as long as
there is no entry, and that also as a receiver of a type with the name of numbers. -/
theorem malformed_over_any_registry_missing :
    "int" ∈ literalNames ∧ "Counter" ∉ literalNames ∧
      (∀ registry e, argument registry (some "[0000000000000000000000000000000A]") "int" ≠
        .error (.noSuchObject e)) ∧
      argument ∅ (some "[0000000000000000000000000000000A]") "Counter" =
        .error (.noSuchObject ⟨.ephemeral (Uuid.ofNat 10)⟩) ∧
      receiver ∅ (some "[0000000000000000000000000000000A]") "int" =
        .error (.noSuchObject ⟨.ephemeral (Uuid.ofNat 10)⟩) := by
  have hint : "int" ∈ literalNames := by decide
  have hcounter : "Counter" ∉ literalNames := by decide
  have hspells : Token.Spells "[0000000000000000000000000000000A]" (.ephemeral (Uuid.ofNat 10)) :=
    Token.parse_eq_ok_iff.mp (by decide +kernel)
  have hnone : ¬(∅ : Registry).HasEntry (.ephemeral (Uuid.ofNat 10)) := by
    rintro ⟨v, ⟨hentry⟩⟩
    cases hentry
  obtain ⟨-, hliteral, -, hreceiver⟩ :=
    malformed_over_any_registry (some "[0000000000000000000000000000000A]") "int"
  obtain ⟨-, -, hobject, -⟩ :=
    malformed_over_any_registry (some "[0000000000000000000000000000000A]") "Counter"
  refine ⟨hint, hcounter, fun registry e ↦ (hliteral hint registry ∅).2 e, ?_, ?_⟩
  · exact ((hobject hcounter ∅).missing_iff _).mpr ⟨_, _, rfl, hspells, hnone, rfl⟩
  · exact ((hreceiver ∅).missing_iff _).mpr ⟨_, _, rfl, hspells, hnone, rfl⟩

end Coercion

end ObjectConsole
