import ObjectConsole.Proofs.Console.Happenings
import ObjectConsole.Proofs.Console.TypedDispatch

/-!
# Results are handed on

A value that a request returned is given to the next one by the token on its page, or by a name that
it got in the meantime. In between anything may have happened. What counts is on record: the token
is good until a sweep more than the lifetime later, and the name until it is given once more
(`Console.results_chain`).

A value is handed over as it is. Arrays and counters are cells, so a body that gets one of them gets
the cell that the earlier body returned, with whatever was written to it since.

A name may be any text where it is given, also the empty one, but the token of the empty name is no
token that is read. Such a name hands over nothing (`Console.empty_name_lost`).
-/

namespace ObjectConsole

/-! ## Texts that hand over a value -/

/-- A type whose arguments are given by reference. -/
def Coercion.TakesReference (typeName : String) : Prop :=
  Primitive.ofTypeName? typeName = none ∧ isStringType typeName = false

namespace Console

/-- A text hands over a value, wherever a request can refer to one: as the receiver of a call or of
a field, and as an argument of any type that takes references. -/
structure HandsOver (console : Console) (registry : Registry) (text : String) (v : Value) :
    Prop where
  receiver : ∀ typeName, Coercion.receiver registry (some text) typeName = .ok v
  argument : ∀ typeName, Coercion.TakesReference typeName →
    Coercion.argument registry (some text) typeName = .ok v
  /-- The body of an instance operation is called on the value. -/
  called : ∀ path query invocation entry operation values,
    Invocation.ofAddress path query = .ok invocation →
    console.catalog.lookup? invocation.targetType = some entry →
    entry.findOperation? invocation.operation invocation.parameterTypes = some operation →
    operation.isStatic = false → invocation.receiver = some text →
    arguments registry invocation.parameters = .ok values →
    console.callTask registry path query =
      .ok ⟨operation.signature entry.name, operation.body, some v, values⟩
  /-- The body of any operation gets the value in the places where the text is given. -/
  passed : ∀ path query invocation task (index : Nat) typeName,
    Invocation.ofAddress path query = .ok invocation →
    console.callTask registry path query = .ok task →
    invocation.parameters[index]? = some ⟨typeName, some text⟩ →
    Coercion.TakesReference typeName → task.arguments[index]? = some v
  /-- The body of an instance field reads the value. -/
  read : ∀ path typeName name entry field,
    fieldTarget? path.toList = some (typeName, name) →
    console.catalog.lookup? (String.ofList typeName) = some entry →
    entry.findField? (String.ofList name) = some field → field.isStatic = false →
    console.fieldTask registry path (some text) =
      .ok ⟨field.signature entry.name, field.body, some v, []⟩

section

variable {console : Console} {registry : Registry} {text : String} {v : Value}

theorem arguments_of_callTask {path query : String} {invocation : Invocation} {task : Task}
    (hinvocation : Invocation.ofAddress path query = .ok invocation)
    (htask : console.callTask registry path query = .ok task) :
    arguments registry invocation.parameters = .ok task.arguments := by
  obtain ⟨typeName, name, entry, operation, this, values, htarget, -, -, -, harguments, rfl⟩ :=
    exists_of_callTask htask
  rw [Invocation.ofAddress, htarget] at hinvocation
  cases hinvocation
  exact harguments

theorem handsOver_of_refersTo (h : Coercion.RefersTo registry (some text) v) :
    console.HandsOver registry text v := by
  have hreceiver (typeName : String) : Coercion.receiver registry (some text) typeName = .ok v :=
    Coercion.reference_eq_ok_iff.mpr h
  have hargument (typeName : String) (htype : Coercion.TakesReference typeName) :
      Coercion.argument registry (some text) typeName = .ok v :=
    Coercion.argument_eq_ok_iff.mpr (.reference htype.1 htype.2 h)
  refine ⟨hreceiver, hargument, ?_, ?_, ?_⟩
  · intro path query invocation entry operation values hinvocation hlookup hfind hstatic hgiven
      hvalues
    simp only [callTask, hinvocation, lookup, hlookup, Option.elim_some, hfind, Console.receiver,
      hstatic, hgiven, hreceiver, hvalues, Bool.false_eq_true, if_false]
  · intro path query invocation task index typeName hinvocation htask hparameter htype
    have hfits := arguments_eq_ok_iff.mp (arguments_of_callTask hinvocation htask)
    obtain ⟨hlt, hget⟩ := List.getElem?_eq_some_iff.mp hparameter
    have hlt' : index < task.arguments.length := hfits.length_eq ▸ hlt
    have hfit := List.Forall₂.get hfits hlt hlt'
    rw [List.get_eq_getElem, hget, ← Coercion.argument_eq_ok_iff, hargument typeName htype] at hfit
    rw [List.getElem?_eq_getElem hlt']
    exact congrArg some (Except.ok.inj hfit).symm
  · intro path typeName name entry field htarget hlookup hfind hstatic
    simp only [fieldTask, htarget, lookup, hlookup, Option.elim_some, hfind, Console.receiver,
      hstatic, hreceiver, Bool.false_eq_true, if_false]

theorem handsOver_of_find? {id : Uuid} (h : registry.find? id = some v) :
    console.HandsOver registry (Token.ephemeral id).text v :=
  handsOver_of_refersTo ⟨_, _, rfl, (Token.parse_text_iff _).mpr nofun,
    Registry.resolve_ephemeral_eq_ok_iff.mpr h⟩

theorem handsOver_of_named? {name : String} (h : registry.named? name = some v)
    (hname : name ≠ "") :
    console.HandsOver registry (Token.persistent name).text v :=
  handsOver_of_refersTo ⟨_, _, rfl, Token.parse_text_persistent hname,
    Registry.resolve_persistent_eq_ok_iff.mpr h⟩

end

/-! ## From one result to the next request -/

section

variable {console : Console} {start earlier result later : World} {before after : List Happening}
  {moment : Moment} {path : String} {query : Option String} {task : Task} {v : Value}
  {response : Response}

theorem added_of_returned
    (htask : console.task? earlier.registry (.ofAddress path query) = some (.ok task))
    (houtcome : task.outcome? moment earlier = some (.returned v)) (hv : v ≠ .null)
    (hrequest : console.handle moment path query earlier = (.ok response, result)) :
    response.Links v (console.identifier earlier.drawn) ∧
      result.registry = earlier.registry.add moment.now (console.identifier earlier.drawn) v ∧
      result.drawn = earlier.drawn + 1 := by
  rw [handle, console.dispatch_of_task? moment earlier htask] at hrequest
  obtain ⟨hregistry, hdrawn, hreply⟩ :=
    (console.perform_ends moment hrequest).of_returned houtcome hv
  obtain ⟨rendered, -, hpage⟩ := valueReply_eq_ok_iff.mp hreply.symm
  exact ⟨⟨_, hpage⟩, hregistry, hdrawn⟩

/-- Every later entry under an identifier is the one that was added under it, and it is there as
long as no sweep finds it too old. -/
theorem get?_of_added {id : Uuid} {entry : Entry} {now : UInt64}
    (hregistry : result.registry = earlier.registry.add now id v)
    (hafter : Recorded console.Does result after later)
    (hid : ∀ k, result.drawn ≤ k → k < later.drawn → console.identifier k ≠ id) :
    later.registry.ephemeral.get? id = some entry ↔
      entry = ⟨now, v⟩ ∧
        ∀ clock, .swept clock ∈ after → clock.toNat ≤ now.toNat + Registry.lifetime.toNat := by
  rw [hafter.get?_eq_some_iff hid, hregistry, Registry.get?_add, if_pos rfl, Option.some.injEq,
    eq_comm]
  exact and_congr_right fun hentry ↦ by rw [hentry]

/-- **Results are handed on.** A request runs a body that returns a value, not null, and is answered
by a page. As long as identifiers are drawn without repetition:

* the page links to a token that no other page links to, neither before nor after, although it may
  show the same value;
* the token hands over the value in every world that comes about, as long as every sweep on the way
  was at most ten minutes after the request;
* a name, not empty, that was given to the value hands it over from then on, as long as there is no
  later promotion under the name. This holds for names given by any token of the value, so for those
  given by this one. -/
theorem results_chain (hbefore : Recorded console.Does start before earlier)
    (htask : console.task? earlier.registry (.ofAddress path query) = some (.ok task))
    (houtcome : task.outcome? moment earlier = some (.returned v)) (hv : v ≠ .null)
    (hrequest : console.handle moment path query earlier = (.ok response, result))
    (hafter : Recorded console.Does result after later)
    (hdistinct : ∀ j < later.drawn, ∀ i < j, console.identifier i ≠ console.identifier j) :
    ∃ id, response.Links v id ∧
      (∀ happening ∈ before ++ after, ¬happening.Carries id) ∧
      ((∀ now, .swept now ∈ after → now.toNat ≤ moment.now.toNat + 600000) →
        console.HandsOver later.registry (Token.ephemeral id).text v) ∧
      ∀ promoting happening promoted rest other name,
        console.Does promoting [happening] promoted → Recorded console.Does promoted rest later →
        happening.Promotes other name → name ≠ "" →
        (promoting.registry.find? other = some v ∨
          other = id ∧ ∃ front, Recorded console.Does result front promoting) →
        (∀ happening ∈ rest, ∀ other, ¬happening.Promotes other name) →
        console.HandsOver later.registry ("$" ++ name) v := by
  obtain ⟨hlinks, hregistry, hdrawn⟩ := added_of_returned htask houtcome hv hrequest
  have hlt : earlier.drawn < later.drawn := by
    have hle := hafter.drawn_le
    omega
  -- the identifier was not drawn before, and it is not drawn again
  have hnew (k : Nat) (hk : k < earlier.drawn) :
      console.identifier k ≠ console.identifier earlier.drawn :=
    hdistinct _ hlt k hk
  have honce (k : Nat) (hle : result.drawn ≤ k) (hk : k < later.drawn) :
      console.identifier k ≠ console.identifier earlier.drawn :=
    (hdistinct k hk _ (by omega)).symm
  refine ⟨console.identifier earlier.drawn, hlinks, ?_, ?_, ?_⟩
  · intro happening hmem hcarries
    rcases List.mem_append.mp hmem with hmem | hmem
    · obtain ⟨k, -, hk, hidentifier⟩ := hbefore.exists_drawn_of_carries hmem hcarries
      exact hnew k hk hidentifier
    · obtain ⟨k, hle, hk, hidentifier⟩ := hafter.exists_drawn_of_carries hmem hcarries
      exact honce k hle hk hidentifier
  · intro hswept
    have hget := (get?_of_added hregistry hafter honce).mpr ⟨rfl, hswept⟩
    exact handsOver_of_find? (Registry.find?_eq_some_iff.mpr ⟨_, hget⟩)
  · intro promoting happening promoted rest other name hdoes hrest hpromotes hname hholds hlast
    obtain ⟨w, hfind, hnamed⟩ := hdoes.named?_of_promotes hpromotes
    rw [← hrest.named?_eq hlast] at hnamed
    -- what was found under the token of the result can only be the result
    have hw : w = v := by
      rcases hholds with hother | ⟨rfl, front, hfront⟩
      · exact Option.some.inj (hfind.symm.trans hother)
      · obtain ⟨clock, hget⟩ := Registry.find?_eq_some_iff.mp hfind
        have hle := Nat.le_trans hdoes.drawn_le hrest.drawn_le
        have hentry := (get?_of_added hregistry hfront fun k hk hlt ↦
          honce k hk (Nat.lt_of_lt_of_le hlt hle)).mp hget
        exact congrArg Entry.value hentry.1
    rw [hw] at hnamed
    exact handsOver_of_named? hnamed hname

/-- A counter. -/
def counted : Value :=
  .object (.counter ⟨0⟩)

/-- The world behind a request that returned it. -/
def counting : World where
  registry := (∅ : Registry).add 5 (.ofNat 0) counted
  drawn := 1

/-- A sweep leaves the token as long as it is good, and the name for good. -/
theorem results_chain_counted :
    ∃ (response : Response) (later last : World),
      (returning counted).handle ⟨5, 0, ⟨0, none⟩⟩ "/T/f" (some "call") {} =
        (.ok response, counting) ∧
      Recorded (returning counted).Does counting [.promoted (.ofNat 0) "n", .swept 600005] later ∧
      (∃ id, response.Links counted id ∧
        (returning counted).HandsOver later.registry (Token.ephemeral id).text counted) ∧
      Recorded (returning counted).Does later [.swept 600006] last ∧
      last.registry.find? (.ofNat 0) = none ∧
      (returning counted).HandsOver last.registry "$n" counted := by
  obtain ⟨response, hrequest⟩ : ∃ response, (returning counted).handle ⟨5, 0, ⟨0, none⟩⟩ "/T/f"
      (some "call") {} = (.ok response, counting) := ⟨_, rfl⟩
  have hpromote : (returning counted).Does counting [.promoted (.ofNat 0) "n"]
      { counting with registry := counting.registry.bind "n" counted } := .promote rfl
  have hsweep (world : World) (now : UInt64) :
      Recorded (returning counted).Does world [.swept now]
        { world with registry := (world.registry.sweep now).2 } := .single (.sweep now)
  have hlater := (Recorded.single hpromote).trans (hsweep _ 600005)
  have hdistinct : ∀ j < 1, ∀ i < j,
      (returning counted).identifier i ≠ (returning counted).identifier j := by decide
  obtain ⟨id, hlinks, -, htoken, -⟩ :=
    results_chain (v := counted) .refl rfl rfl nofun hrequest hlater hdistinct
  obtain ⟨_, -, -, -, hname⟩ := results_chain (v := counted) .refl rfl rfl nofun hrequest
    (hlater.trans (hsweep _ 600006)) hdistinct
  refine ⟨response, _, _, hrequest, hlater, ⟨id, hlinks, htoken ?_⟩, hsweep _ _, rfl, ?_⟩
  · intro now hnow
    obtain rfl : now = 600005 := by simpa using hnow
    decide
  · exact hname _ _ _ _ _ "n" hpromote ((hsweep _ 600005).trans (hsweep _ 600006)) .direct
      (by decide) (.inl rfl) fun happening hmem other hpromotes ↦ by
        cases hpromotes <;> simp at hmem

/-- The token of the empty name hands over nothing, although the name stands for the value. -/
theorem empty_name_lost :
    ∃ (response : Response) (later : World),
      (returning counted).handle ⟨5, 0, ⟨0, none⟩⟩ "/T/f" (some "call") {} =
        (.ok response, counting) ∧
      response.Links counted (.ofNat 0) ∧
      Recorded (returning counted).Does counting [.promoted (.ofNat 0) ""] later ∧
      later.registry.named? "" = some counted ∧
      Coercion.receiver later.registry (some ("$" ++ "")) "T" =
        .error (.valueFormat "T" (some "$") (.token .emptyName)) ∧
      ¬(returning counted).HandsOver later.registry ("$" ++ "") counted := by
  have hreceiver : Coercion.receiver (counting.registry.bind "" counted) (some ("$" ++ "")) "T" =
      .error (.valueFormat "T" (some "$") (.token .emptyName)) := rfl
  refine ⟨_, { counting with registry := counting.registry.bind "" counted }, rfl, ⟨_, rfl⟩,
    .single (.promote rfl), rfl, hreceiver, fun h ↦ ?_⟩
  have hvalue := h.receiver "T"
  rw [hreceiver] at hvalue
  cases hvalue

end

end Console

end ObjectConsole
