import ObjectConsole.Proofs.Reference.History
import ObjectConsole.Reference.Coercion

/-!
# Two namespaces

What a text resolves to depends on one of the two tables of a registry, and the first character of
the text says on which. Reading is told that much by the token that comes out of it
(`Token.head?_of_parse`), so a name may spell an identifier, brackets and all, and still nothing
under an identifier is found by it.

Two registries are compared text by text (`Registry.Alike`): a text comes to the same in both, as a
token, as a receiver and as an argument of any declared type. It is enough that they agree on the
token that the text reads as (`Registry.alike_of_resolve`). Everything else says which registries
agree on which tokens: those with the same entries, those with the same names, those before and
after an operation, and those at the end of two histories that differ only in what they name
(`Clocked.Agrees.run_of_filter_eq`).
-/

namespace ObjectConsole

namespace Token

/-- The character that the tokens of a namespace begin with. -/
def mark : Token → Char
  | ephemeral _ => '['
  | persistent _ => '$'

/-- The mark of a text decides what kind of token it is read as. -/
theorem head?_of_parse {text : String} {token : Token} (h : parse text = .ok token) :
    text.toList.head? = some token.mark := by
  rw [parse] at h
  cases hread : read text.toList with
  | error reason => rw [hread] at h; cases h
  | ok found =>
    rw [hread] at h
    cases h
    rw [read.eq_def] at hread
    split at hread
    · next rest htext =>
      rw [htext]
      cases hid : readEphemeral ('[' :: rest) with
      | error reason => rw [hid] at hread; cases hread
      | ok id => rw [hid] at hread; cases hread; rfl
    · cases hread
    · next name _ htext => rw [htext]; cases hread; rfl
    · cases hread

theorem exists_eq_ephemeral {text : String} {token : Token} (hmark : text.toList.head? = some '[')
    (h : parse text = .ok token) : ∃ id, token = ephemeral id := by
  have hhead := Option.some.inj (hmark.symm.trans (head?_of_parse h))
  cases token with
  | ephemeral id => exact ⟨id, rfl⟩
  | persistent name => simp [mark] at hhead

theorem exists_eq_persistent {text : String} {token : Token} (hmark : text.toList.head? = some '$')
    (h : parse text = .ok token) : ∃ name, token = persistent name := by
  have hhead := Option.some.inj (hmark.symm.trans (head?_of_parse h))
  cases token with
  | ephemeral id => simp [mark] at hhead
  | persistent name => exact ⟨name, rfl⟩

theorem parse_of_head?_ne {text : String} (hbracket : text.toList.head? ≠ some '[')
    (hdollar : text.toList.head? ≠ some '$') : parse text = .error ⟨text, .noOpening⟩ := by
  rw [parse, read.eq_def]
  split
  · next rest htext => exact absurd (by rw [htext]; rfl) hbracket
  · next htext => exact absurd (by rw [htext]; rfl) hdollar
  · next name _ htext => exact absurd (by rw [htext]; rfl) hdollar
  · rfl

end Token

namespace Registry

/-! ## Resolving texts -/

/-- Why a text resolves to nothing. -/
inductive Unresolved where
  | malformed (error : Token.Malformed)
  | missing (error : NoSuchObject)
  deriving DecidableEq, Repr

/-- The value that a text resolves to: it is read as a token, and the token is looked up. -/
def resolveText (registry : Registry) (text : String) : Except Unresolved Value :=
  match Token.parse text with
  | .error e => .error (.malformed e)
  | .ok token => (registry.resolve token).mapError .missing

/-- A text that comes to the same in two registries, wherever it is given. -/
structure Alike (registry registry' : Registry) (text : String) : Prop where
  resolveText_eq : registry.resolveText text = registry'.resolveText text
  receiver_eq : ∀ typeName, Coercion.receiver registry (some text) typeName =
    Coercion.receiver registry' (some text) typeName
  argument_eq : ∀ typeName, Coercion.argument registry (some text) typeName =
    Coercion.argument registry' (some text) typeName

/-- A text that is malformed, wherever it is given. -/
structure Refuses (registry : Registry) (text : String) (reason : Token.Reason) : Prop where
  resolveText_eq : registry.resolveText text = .error (.malformed ⟨text, reason⟩)
  receiver_eq : ∀ typeName, Coercion.receiver registry (some text) typeName =
    .error (.valueFormat typeName (some text) (.token reason))
  argument_eq : ∀ typeName, Primitive.ofTypeName? typeName = none →
    isStringType typeName = false → Coercion.argument registry (some text) typeName =
      .error (.valueFormat typeName (some text) (.token reason))

variable {registry registry' : Registry} {text : String}

/-- Of the registry, only what the text's token resolves to matters. -/
theorem alike_of_resolve (h : ∀ token, Token.parse text = .ok token →
    registry.resolve token = registry'.resolve token) : registry.Alike registry' text := by
  have hreference (typeName : String) : Coercion.reference registry (some text) typeName =
      Coercion.reference registry' (some text) typeName := by
    simp only [Coercion.reference]
    cases htoken : Token.parse text with
    | error e => rfl
    | ok token => simp only [h token htoken]
  refine ⟨?_, hreference, ?_⟩
  · rw [resolveText, resolveText]
    cases htoken : Token.parse text with
    | error e => rfl
    | ok token => simp only [h token htoken]
  · intro typeName
    rw [Coercion.argument, Coercion.argument, hreference]

theorem refuses_of_parse {reason : Token.Reason}
    (h : Token.parse text = .error ⟨text, reason⟩) (registry : Registry) :
    registry.Refuses text reason := by
  have hreference (typeName : String) : Coercion.reference registry (some text) typeName =
      .error (.valueFormat typeName (some text) (.token reason)) := by
    simp only [Coercion.reference, h]
  refine ⟨?_, hreference, ?_⟩
  · simp only [resolveText, h]
  · intro typeName hkind hstring
    simp only [Coercion.argument, hkind, hstring]
    exact hreference typeName

/-! ## Which table is asked -/

theorem alike_of_find? (hmark : text.toList.head? = some '[')
    (h : ∀ id, Token.parse text = .ok (.ephemeral id) → registry.find? id = registry'.find? id) :
    registry.Alike registry' text := by
  refine alike_of_resolve fun token htoken ↦ ?_
  obtain ⟨id, rfl⟩ := Token.exists_eq_ephemeral hmark htoken
  simp only [resolve, h id htoken]

theorem alike_of_named? (hmark : text.toList.head? = some '$')
    (h : ∀ name, registry.named? name = registry'.named? name) : registry.Alike registry' text := by
  refine alike_of_resolve fun token htoken ↦ ?_
  obtain ⟨name, rfl⟩ := Token.exists_eq_persistent hmark htoken
  simp only [resolve, h name]

theorem Binds.alike {promoted : Registry} {name : String} {v : Value}
    (h : registry.Binds promoted name v) (hmark : text.toList.head? = some '[') :
    registry.Alike promoted text :=
  alike_of_find? hmark fun id _ ↦ by rw [find?, find?, h.ephemeral_eq]

theorem alike_add (hmark : text.toList.head? = some '[') {id : Uuid}
    (hother : Token.parse text ≠ .ok (.ephemeral id)) (now : UInt64) (v : Value) :
    registry.Alike (registry.add now id v) text := by
  refine alike_of_find? hmark fun other htoken ↦ ?_
  have hne : other ≠ id := by
    rintro rfl
    exact hother htoken
  rw [find?, find?, get?_add, if_neg hne]

/-! ## Whole histories -/

/-- Whether an action binds a name. -/
def Action.isPromotion : Action → Bool
  | promote .. | promoteAuto _ => true
  | _ => false

namespace Clocked

/-- Two registries with the same entries, on clocks that show the same. -/
structure Agrees (state state' : Clocked) : Prop where
  clock_eq : state.clock = state'.clock
  ephemeral_eq : state.registry.ephemeral = state'.registry.ephemeral

variable {state state' : Clocked} {action : Action}

theorem Agrees.trans {state'' : Clocked} (h : state.Agrees state') (h' : state'.Agrees state'') :
    state.Agrees state'' :=
  ⟨h.clock_eq.trans h'.clock_eq, h.ephemeral_eq.trans h'.ephemeral_eq⟩

theorem Agrees.symm (h : state.Agrees state') : state'.Agrees state :=
  ⟨h.clock_eq.symm, h.ephemeral_eq.symm⟩

theorem agrees_perform_of_isPromotion (state : Clocked) (h : action.isPromotion = true) :
    (state.perform action).2.Agrees state := by
  refine ⟨?_, ephemeral_perform ?_ ?_⟩
  · cases action with
    | promote id name =>
      rw [perform]
      split <;> rfl
    | promoteAuto id =>
      rw [perform]
      split <;> rfl
    | _ => cases h
  · rintro id v rfl
    cases h
  · rintro rfl
    cases h

/-- No action lets a name decide what becomes of the entries. -/
theorem Agrees.perform (h : state.Agrees state') (action : Action) :
    (state.perform action).2.Agrees (state'.perform action).2 := by
  -- a promotion may fail on one side only, but on neither does it touch the entries
  by_cases hpromotion : action.isPromotion = true
  · exact (agrees_perform_of_isPromotion state hpromotion).trans
      (h.trans (agrees_perform_of_isPromotion state' hpromotion).symm)
  · obtain ⟨hclock, hephemeral⟩ := h
    cases action with
    | setClock now => exact ⟨rfl, hephemeral⟩
    | get id => exact ⟨hclock, hephemeral⟩
    | getNamed name => exact ⟨hclock, hephemeral⟩
    | promote id name => exact absurd rfl hpromotion
    | promoteAuto id => exact absurd rfl hpromotion
    | add drawn v =>
      refine ⟨hclock, ?_⟩
      simp only [Clocked.perform, add, hclock, hephemeral]
    | sweep =>
      refine ⟨hclock, ?_⟩
      simp only [Clocked.perform, Registry.sweep, hclock, hephemeral]

/-- Promotions can be left out of a history without a trace among the entries. -/
theorem Agrees.run_filter (h : state.Agrees state') (actions : List Action) :
    (state.run actions).2.Agrees
      (state'.run (actions.filter fun action ↦ !action.isPromotion)).2 := by
  induction actions generalizing state state' with
  | nil => exact h
  | cons action actions ih =>
    rw [List.filter_cons]
    cases hpromotion : action.isPromotion with
    | true => exact ih ((agrees_perform_of_isPromotion state hpromotion).trans h)
    | false => exact ih (h.perform action)

/-- Two histories that differ only in their promotions end with the same entries. -/
theorem Agrees.run_of_filter_eq (h : state.Agrees state') {actions actions' : List Action}
    (hfilter : actions.filter (fun action ↦ !action.isPromotion) =
      actions'.filter fun action ↦ !action.isPromotion) :
    (state.run actions).2.Agrees (state'.run actions').2 := by
  have hself : state.Agrees state := ⟨rfl, rfl⟩
  have hright := h.symm.run_filter actions'
  rw [← hfilter] at hright
  exact (hself.run_filter actions).trans hright.symm

theorem named?_run {actions : List Action} (h : ∀ action ∈ actions, action.isPromotion = false)
    (name : String) : (state.run actions).2.registry.named? name = state.registry.named? name := by
  induction actions generalizing state with
  | nil => rfl
  | cons action actions ih =>
    rw [List.forall_mem_cons] at h
    have hperform : (state.perform action).2.registry.persistent = state.registry.persistent := by
      refine persistent_perform fun id name hpromotes ↦ ?_
      rcases hpromotes.action_eq with haction | haction <;>
      · have haction : action = _ := haction
        rw [haction] at h
        exact absurd h.1 nofun
    rw [run, ih h.2, named?, named?, hperform]

end Clocked

/-! ## Both namespaces -/

/-- **The two namespaces never interfere.** What a text comes to, wherever it is given:

* A text that begins with a bracket comes to the same in registries with the same entries, whatever
  is bound to names. Promoting leaves it alone, adding does so unless the text is the token of the
  new identifier, and from the same entries and at the same time, two histories that differ only in
  their promotions end alike for it.
* A text that begins with a dollar sign comes to the same in registries with the same names,
  whatever the entries are. Adding and sweeping leave it alone, and so does any history without
  promotions.
* Any other text is malformed in every registry. -/
theorem namespaces_apart (registry registry' : Registry) (text : String) :
    (text.toList.head? = some '[' →
      ((∀ id, registry.find? id = registry'.find? id) → registry.Alike registry' text) ∧
      (∀ id name promoted, registry.promote id name = .ok promoted →
        registry.Alike promoted text) ∧
      (∀ id name promoted, registry.promoteAuto id = .ok (name, promoted) →
        registry.Alike promoted text) ∧
      (∀ now id v, Token.parse text ≠ .ok (.ephemeral id) →
        registry.Alike (registry.add now id v) text) ∧
      (registry.ephemeral = registry'.ephemeral → ∀ clock (actions actions' : List Action),
        actions.filter (fun action ↦ !action.isPromotion) =
          actions'.filter (fun action ↦ !action.isPromotion) →
        (Clocked.run ⟨clock, registry⟩ actions).2.registry.Alike
          (Clocked.run ⟨clock, registry'⟩ actions').2.registry text)) ∧
    (text.toList.head? = some '$' →
      ((∀ name, registry.named? name = registry'.named? name) → registry.Alike registry' text) ∧
      (∀ now id v, registry.Alike (registry.add now id v) text) ∧
      (∀ now, registry.Alike (registry.sweep now).2 text) ∧
      (∀ clock (actions : List Action), (∀ action ∈ actions, action.isPromotion = false) →
        registry.Alike (Clocked.run ⟨clock, registry⟩ actions).2.registry text)) ∧
    (text.toList.head? ≠ some '[' → text.toList.head? ≠ some '$' →
      registry.Refuses text .noOpening ∧ registry'.Refuses text .noOpening) := by
  refine ⟨?_, ?_, ?_⟩
  · intro hmark
    refine ⟨fun h ↦ alike_of_find? hmark fun id _ ↦ h id, ?_, ?_, ?_, ?_⟩
    · intro id name promoted hpromote
      obtain ⟨-, v, -, hbinds⟩ := binds_of_promote hpromote
      exact hbinds.alike hmark
    · intro id name promoted hpromote
      obtain ⟨v, -, hbinds⟩ := binds_of_promoteAuto hpromote
      exact hbinds.alike hmark
    · intro now id v hother
      exact alike_add hmark hother now v
    · intro hephemeral clock actions actions' hfilter
      have hstart : Clocked.Agrees ⟨clock, registry⟩ ⟨clock, registry'⟩ := ⟨rfl, hephemeral⟩
      have hagrees := hstart.run_of_filter_eq hfilter
      exact alike_of_find? hmark fun id _ ↦ by rw [find?, find?, hagrees.ephemeral_eq]
  · intro hmark
    refine ⟨alike_of_named? hmark, ?_, ?_, ?_⟩
    · intro now id v
      exact alike_of_named? hmark fun _ ↦ rfl
    · intro now
      exact alike_of_named? hmark fun _ ↦ rfl
    · intro clock actions hactions
      have hnamed := @Clocked.named?_run ⟨clock, registry⟩ actions hactions
      exact alike_of_named? hmark fun name ↦ (hnamed name).symm
  · intro hbracket hdollar
    have hparse := Token.parse_of_head?_ne hbracket hdollar
    exact ⟨refuses_of_parse hparse registry, refuses_of_parse hparse registry'⟩

/-- A name may spell the token of an entry, and is a name all the same. -/
example : ((∅ : Registry).add 0 .nil (.bool true)).resolveText
      ("$" ++ (Token.ephemeral .nil).text) =
    .error (.missing ⟨.persistent (Token.ephemeral .nil).text⟩) := by
  decide

end Registry

end ObjectConsole
