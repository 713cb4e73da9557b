import ObjectConsole.Console.Handle
import ObjectConsole.Proofs.Reference.Registry
import ObjectConsole.Proofs.Reference.Token

/-!
# How tokens are spelled

There are two readers of tokens, one for any and one for the temporary ones, which a request for a
name asks for. Both accept exactly what the grammar says (`Token.Spells`): a nonempty name behind
its mark, or a spelling of an identifier in brackets. What is done with an accepted text depends on
the token only, so that the text it is written as would do as well.
-/

namespace ObjectConsole

open Text

/-! ## Spellings -/

namespace Token

/-- A text spells a token. -/
inductive Spells : String → Token → Prop
  | ephemeral {inside : String} {id : Uuid} (h : Uuid.Spells inside.toList id) :
      Spells ("[" ++ inside ++ "]") (ephemeral id)
  | persistent {name : String} (h : name ≠ "") : Spells ("$" ++ name) (persistent name)

/-- The marks tell names from identifiers, and behind them both are written without loss. -/
theorem text_injective : Function.Injective text := by
  intro token other h
  rw [← String.toList_inj] at h
  cases token <;> cases other <;>
    simp only [toList_text_ephemeral, toList_text_persistent, List.cons.injEq,
      List.append_cancel_right_eq, String.toList_inj] at h
  · rw [Uuid.text_injective (congrArg String.ofList h.2)]
  · exact absurd h.1 (by decide)
  · exact absurd h.1 (by decide)
  · rw [h.2]

variable {s : String} {id : Uuid}

theorem readEphemeral_eq_ok_iff {s : List Char} :
    readEphemeral s = .ok id ↔ ∃ inside, s = '[' :: inside ++ [']'] ∧ Uuid.Spells inside id := by
  simp only [← Uuid.parse?_eq_some_iff]
  constructor
  · intro h
    rw [readEphemeral.eq_def] at h
    split at h
    · next rest =>
      split_ifs at h with hlast
      obtain ⟨inside, rfl⟩ := List.getLast?_eq_some_iff.mp hlast
      rw [List.dropLast_concat] at h
      cases hinside : Uuid.parse? inside with
      | none => rw [hinside] at h; cases h
      | some other =>
        rw [hinside] at h
        cases h
        exact ⟨inside, rfl, hinside⟩
    · cases h
  · rintro ⟨inside, rfl, hinside⟩
    rw [List.cons_append, readEphemeral, if_pos List.getLast?_concat, List.dropLast_concat,
      hinside]
    rfl

theorem parseEphemeral_eq_ok_iff : parseEphemeral s = .ok id ↔ Spells s (ephemeral id) := by
  have hread : parseEphemeral s = .ok id ↔ readEphemeral s.toList = .ok id := by
    rw [parseEphemeral]
    cases readEphemeral s.toList <;> simp [Except.mapError]
  rw [hread, readEphemeral_eq_ok_iff]
  constructor
  · rintro ⟨inside, hs, hinside⟩
    have htext : s = "[" ++ String.ofList inside ++ "]" := by
      rw [← String.toList_inj, hs]
      simp
    rw [htext]
    exact .ephemeral (by rwa [String.toList_ofList])
  · rintro ⟨hinside⟩
    exact ⟨_, by simp, hinside⟩

/-- Behind an opening bracket, a text is read as both readers read it. -/
theorem parse_of_head? (h : s.toList.head? = some '[') :
    parse s = (parseEphemeral s).map ephemeral := by
  obtain ⟨rest, hs⟩ := List.head?_eq_some_iff.mp h
  rw [parse, parseEphemeral, hs, read]
  cases readEphemeral ('[' :: rest) <;> rfl

theorem Spells.head? {token : Token} (h : Spells s token) :
    s.toList.head? = some (match token with | .ephemeral _ => '[' | .persistent _ => '$') := by
  cases h <;> simp

/-- **Reading accepts exactly the spellings.** -/
theorem parse_eq_ok_iff {token : Token} : parse s = .ok token ↔ Spells s token := by
  by_cases hbracket : s.toList.head? = some '['
  · rw [parse_of_head? hbracket]
    cases token with
    | ephemeral id =>
      rw [← parseEphemeral_eq_ok_iff]
      cases parseEphemeral s <;> simp [Except.map]
    | persistent name =>
      refine iff_of_false ?_ fun h ↦ ?_
      · cases parseEphemeral s <;> exact nofun
      · cases hbracket.symm.trans h.head?
  · constructor
    · intro h
      rw [parse] at h
      have hread : read s.toList = .ok token := by
        cases hread : read s.toList with
        | error reason => rw [hread] at h; cases h
        | ok other => rw [hread] at h; cases h; rfl
      rw [read.eq_def] at hread
      split at hread
      · next hs => exact absurd (hs ▸ rfl) hbracket
      · cases hread
      · next name hname hs =>
        cases hread
        have htext : s = "$" ++ String.ofList name := by
          rw [← String.toList_inj, hs]
          simp
        rw [htext]
        refine .persistent fun hempty ↦ hname ?_
        simpa using hempty
      · cases hread
    · intro h
      cases h with
      | ephemeral => exact absurd (by simp) hbracket
      | persistent hname => exact parse_text_persistent hname

end Token

/-! ## What is done with a text -/

section Uses

variable {registry : Registry} {s : String} {id : Uuid}

theorem Coercion.reference_of_spells {token : Token} (h : Token.Spells s token)
    (typeName : String) :
    reference registry (some s) typeName = (registry.resolve token).mapError .noSuchObject := by
  simp only [reference, Token.parse_eq_ok_iff.mpr h]

theorem Coercion.malformed_reference_iff (typeName : String) :
    (∃ reason, reference registry (some s) typeName =
      .error (.valueFormat typeName (some s) reason)) ↔ ∀ token, ¬Token.Spells s token := by
  simp only [← Token.parse_eq_ok_iff, reference]
  cases Token.parse s with
  | error e => exact iff_of_true ⟨_, rfl⟩ nofun
  | ok token =>
    refine iff_of_false ?_ fun h ↦ h token rfl
    rintro ⟨reason, hreason⟩
    cases hresolve : registry.resolve token <;> simp [hresolve, Except.mapError] at hreason

theorem Console.resolve_of_spells {token : Token} (h : Token.Spells s token) :
    resolve registry s = redirectTo registry token := by
  simp only [resolve, Token.parse_eq_ok_iff.mpr h]

theorem Console.badRequest_resolve_iff :
    (resolve registry s).status = .badRequest ↔ ∀ token, ¬Token.Spells s token := by
  simp only [← Token.parse_eq_ok_iff, resolve]
  cases Token.parse s with
  | error e => exact iff_of_true rfl nofun
  | ok token =>
    refine iff_of_false ?_ fun h ↦ h token rfl
    simp only [redirectTo]
    cases registry.resolve token <;> exact nofun

theorem Console.badToken_promote_iff (name : Option String) :
    (∃ e, promote registry s name = .error (.badToken e)) ↔
      ∀ id, ¬Token.Spells s (.ephemeral id) := by
  simp only [← Token.parseEphemeral_eq_ok_iff, promote]
  cases Token.parseEphemeral s with
  | error e => exact iff_of_true ⟨e, rfl⟩ nofun
  | ok id =>
    refine iff_of_false ?_ fun h ↦ h id rfl
    rintro ⟨e, he⟩
    cases name with
    | none =>
      cases hauto : registry.promoteAuto id <;> simp [hauto, Except.mapError] at he
    | some name =>
      simp only at he
      split_ifs at he with hname
      · cases he
      · cases hpromote : registry.promote id name <;> simp [hpromote] at he

theorem Console.exists_promote_of_spells (h : Token.Spells s (.ephemeral id))
    {name : Option String} (hname : name ≠ some "") {v : Value}
    (hresolve : registry.resolve (.ephemeral id) = .ok v) :
    ∃ chosen promoted, promote registry s name = .ok (chosen, promoted) ∧
      registry.Binds promoted chosen v ∧ ∀ given, name = some given → chosen = given := by
  have hparse := Token.parseEphemeral_eq_ok_iff.mpr h
  have hfind := Registry.resolve_ephemeral_eq_ok_iff.mp hresolve
  cases name with
  | none =>
    obtain ⟨⟨chosen, promoted⟩, hauto⟩ : ∃ bound, registry.promoteAuto id = .ok bound := by
      simp only [Registry.promoteAuto, hfind]
      exact ⟨_, rfl⟩
    obtain ⟨v', hfind', hbinds⟩ := Registry.binds_of_promoteAuto hauto
    cases hfind.symm.trans hfind'
    refine ⟨chosen, promoted, ?_, hbinds, ?_⟩
    · simp only [promote, hparse, hauto, Except.mapError]
    · rintro _ ⟨⟩
  | some name =>
    have hne : name ≠ "" := fun heq ↦ hname (heq ▸ rfl)
    have hpromote : registry.promote id name = .ok (registry.bind name v) := by
      simp only [Registry.promote, hfind]
    obtain ⟨-, v', hfind', hbinds⟩ := Registry.binds_of_promote hpromote
    cases hfind.symm.trans hfind'
    refine ⟨name, _, ?_, hbinds, fun _ ↦ Option.some.inj⟩
    simp only [promote, hparse, if_neg hne, hpromote]

theorem Console.promote_eq_error_of_spells (h : Token.Spells s (.ephemeral id))
    {name : Option String} (hname : name ≠ some "") {e : NoSuchObject}
    (hresolve : registry.resolve (.ephemeral id) = .error e) :
    promote registry s name = .error (.noSuchObject e) := by
  have hparse := Token.parseEphemeral_eq_ok_iff.mpr h
  simp only [Registry.resolve] at hresolve
  cases hfind : registry.find? id with
  | some v => simp [hfind] at hresolve
  | none =>
    rw [hfind] at hresolve
    cases hresolve
    cases name with
    | none => simp only [promote, hparse, Registry.promoteAuto, hfind, Except.mapError]
    | some name =>
      have hne : name ≠ "" := fun heq ↦ hname (heq ▸ rfl)
      simp only [promote, hparse, if_neg hne, Registry.promote, hfind]

end Uses

/-- **Tokens are read by one grammar and written in one way.**

* A text is read as a token exactly if it spells it, and what is written is read back, unless it is
  the empty name. Different tokens are written differently.
* A name is written as it was read. Of an identifier, whatever spelling was read, the same text is
  written, in groups of lower-case digits.
* The reader of identifiers accepts what the reader of tokens accepts as temporary.
* Wherever a text is used, it is refused exactly if it spells no token, or no temporary one where a
  name is asked for; and every use of an accepted text finds what its token refers to. -/
theorem tokens_read_by_grammar :
    (∀ s token, Token.parse s = .ok token ↔ Token.Spells s token) ∧
    (∀ token, Token.parse token.text = .ok token ↔ token ≠ .persistent "") ∧
    Function.Injective Token.text ∧
    (∀ s name, Token.Spells s (.persistent name) → (Token.parse s).map Token.text = .ok s) ∧
    (∀ id : Uuid, ∃ written, Uuid.Grouped written (id.digits.map Hex.lower) ∧
      ∀ s, Token.Spells s (.ephemeral id) →
        (Token.parse s).map Token.text = .ok ("[" ++ String.ofList written ++ "]")) ∧
    (∀ s id, Token.parseEphemeral s = .ok id ↔ Token.parse s = .ok (.ephemeral id)) ∧
    ∀ (registry : Registry) (s : String),
      (∀ typeName, (∃ reason, Coercion.reference registry (some s) typeName =
          .error (.valueFormat typeName (some s) reason)) ↔ ∀ token, ¬Token.Spells s token) ∧
      ((Console.resolve registry s).status = .badRequest ↔ ∀ token, ¬Token.Spells s token) ∧
      (∀ name, (∃ e, Console.promote registry s name = .error (.badToken e)) ↔
        ∀ id, ¬Token.Spells s (.ephemeral id)) ∧
      (∀ token, Token.Spells s token →
        (∀ typeName, Coercion.reference registry (some s) typeName =
          (registry.resolve token).mapError .noSuchObject) ∧
        Console.resolve registry s = Console.redirectTo registry token) ∧
      ∀ id name, Token.Spells s (.ephemeral id) → name ≠ some "" →
        (∀ v, registry.resolve (.ephemeral id) = .ok v → ∃ chosen promoted,
          Console.promote registry s name = .ok (chosen, promoted) ∧
            registry.Binds promoted chosen v ∧ ∀ given, name = some given → chosen = given) ∧
        ∀ e, registry.resolve (.ephemeral id) = .error e →
          Console.promote registry s name = .error (.noSuchObject e) := by
  refine ⟨fun _ _ ↦ Token.parse_eq_ok_iff, Token.parse_text_iff, Token.text_injective, ?_, ?_, ?_,
    fun registry s ↦ ⟨Coercion.malformed_reference_iff, Console.badRequest_resolve_iff,
      Console.badToken_promote_iff, ?_, ?_⟩⟩
  · intro s name h
    rw [Token.parse_eq_ok_iff.mpr h]
    cases h
    rfl
  · refine fun id ↦ ⟨id.chars, id.grouped_chars, fun s h ↦ ?_⟩
    rw [Token.parse_eq_ok_iff.mpr h]
    rfl
  · intro s id
    rw [Token.parseEphemeral_eq_ok_iff, Token.parse_eq_ok_iff]
  · exact fun token h ↦ ⟨Coercion.reference_of_spells h, Console.resolve_of_spells h⟩
  · intro id name h hname
    exact ⟨fun v ↦ Console.exists_promote_of_spells h hname,
      fun e ↦ Console.promote_eq_error_of_spells h hname⟩

end ObjectConsole
