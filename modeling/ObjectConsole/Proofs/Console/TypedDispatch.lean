import ObjectConsole.Proofs.Console.Dispatch
import ObjectConsole.Proofs.Operation.Catalog
import ObjectConsole.Proofs.Operation.Demo
import ObjectConsole.Proofs.Store.Traversal

/-!
# Bodies get what they declare

A call is dispatched by the keys of its query. They select the operation, and they also say how the
texts are coerced; the declared types themselves are never looked at. This is sound because the
operation is selected only if its declared types are the keys, one by one. So whatever body is run,
it is the body of the operation that was asked for, and its operands fit its own declaration
(`Console.Dispatched`).

Bodies rely on this. The operations of the demonstration catalog check their operands, but once a
request has come so far the checks that concern the declared types always succeed.
-/

namespace ObjectConsole

open Text

/-! ## Operands -/

/-- The receiver's text is that of the last receiver key. -/
theorem Query.exists_of_receiver {pairs : List (String × Option String)} {text : String}
    (h : receiver pairs = some text) :
    ∃ before after, pairs = before ++ (receiverKey, some text) :: after ∧
      ∀ pair ∈ after, pair.1 ≠ receiverKey := by
  rw [receiver, Option.bind_eq_some_iff] at h
  obtain ⟨⟨key, given⟩, hlast, rfl⟩ := h
  obtain ⟨others, hothers⟩ := List.getLast?_eq_some_iff.mp hlast
  obtain ⟨front, back, rfl, -, hback⟩ := List.filter_eq_append_iff.mp hothers
  obtain ⟨skipped, after, rfl, -, hkey, hafter⟩ := List.filter_eq_cons_iff.mp hback
  obtain rfl : key = receiverKey := by simpa using hkey
  refine ⟨front ++ skipped, after, by simp, fun pair hpair ↦ ?_⟩
  simpa using List.filter_eq_nil_iff.mp hafter pair hpair

namespace Console

theorem arguments_eq_ok_iff {registry : Registry} {parameters : List Parameter}
    {values : List Value} :
    arguments registry parameters = .ok values ↔
      List.Forall₂ (fun p v ↦ Coercion.Fits registry p.type p.text v) parameters values := by
  simp only [← Coercion.argument_eq_ok_iff, ← mapM_eq_ok_iff]
  rw [arguments]
  cases parameters.mapM fun p ↦ Coercion.argument registry p.text p.type with
  | error e => exact ⟨nofun, nofun⟩
  | ok values' =>
    constructor <;> intro h <;> cases h <;> rfl

theorem receiver_eq_ok_iff {registry : Registry} {isStatic : Bool} {text : Option String}
    {typeName : String} {this : Option Value} :
    receiver registry isStatic text typeName = .ok this ↔
      if isStatic then this = none
      else ∃ v, Coercion.RefersTo registry text v ∧ this = some v := by
  simp only [← @Coercion.reference_eq_ok_iff registry typeName]
  rw [receiver]
  cases isStatic with
  | true => exact ⟨fun h ↦ (Except.ok.inj h).symm, fun h ↦ congrArg Except.ok h.symm⟩
  | false =>
    simp only [Bool.false_eq_true, if_false, Coercion.receiver]
    cases Coercion.reference registry text typeName with
    | error e => simp
    | ok v => simp [eq_comm]

/-! ## Dispatch -/

/-- How a call is dispatched to an operation: the task that is run in its name. -/
structure Dispatched (entries : List TypeEntry) (registry : Registry) (path query : String)
    (operation : Operation) (task : Task) : Prop where
  /-- The operation is the first with the requested name and keys, of the type that was registered
  last under the requested name. -/
  selected : ∃ typeName name entry before after earlier later,
    Invocation.target path.toList = .ok (typeName, name) ∧
    (entries = before ++ entry :: after ∧ entry.name = String.ofList typeName ∧
      ∀ other ∈ after, other.name ≠ String.ofList typeName) ∧
    entry.operations = earlier ++ operation :: later ∧
    operation.Matches (String.ofList name)
      ((Query.parameters (Query.pairs query.toList)).map Prod.fst) ∧
    ∀ other ∈ earlier, ¬other.Matches (String.ofList name)
      ((Query.parameters (Query.pairs query.toList)).map Prod.fst)
  /-- It is its body that is run. -/
  body_eq : task.body = operation.body
  /-- A static operation has no receiver. -/
  receiver_of_static : operation.isStatic = true → task.receiver = none
  /-- The receiver of any other is the live value that the last receiver key refers to. -/
  receiver_of_instance : operation.isStatic = false → ∃ before text after v,
    Query.pairs query.toList = before ++ (Query.receiverKey, some text) :: after ∧
    (∀ pair ∈ after, pair.1 ≠ Query.receiverKey) ∧
    Coercion.RefersTo registry (some text) v ∧ task.receiver = some v
  /-- There are as many arguments as declared parameters. -/
  length_arguments : task.arguments.length = operation.parameters.length
  /-- Each argument fits the type that is declared at its position. -/
  fits : ∀ (index : Nat) type, operation.parameters[index]? = some type → ∃ text v,
    (Query.parameters (Query.pairs query.toList))[index]? = some (type, text) ∧
    task.arguments[index]? = some v ∧ Coercion.Fits registry type text v

/-- The types that a request gives and the arguments coerced to them stand in the same places. -/
theorem exists_of_forall₂ {registry : Registry} {pairs : List (String × Option String)}
    {values : List Value}
    (h : List.Forall₂ (fun p v ↦ Coercion.Fits registry p.type p.text v)
      (pairs.map fun p ↦ (⟨p.1, p.2⟩ : Parameter)) values) {index : Nat} {type : String}
    (htype : (pairs.map Prod.fst)[index]? = some type) :
    ∃ text v, pairs[index]? = some (type, text) ∧ values[index]? = some v ∧
      Coercion.Fits registry type text v := by
  rw [List.forall₂_map_left_iff, List.forall₂_iff_get] at h
  obtain ⟨hlength, hfits⟩ := h
  rw [List.getElem?_map, Option.map_eq_some_iff] at htype
  obtain ⟨⟨type, text⟩, hpair, rfl⟩ := htype
  obtain ⟨hlt, hget⟩ := List.getElem?_eq_some_iff.mp hpair
  have hlt' : index < values.length := hlength ▸ hlt
  have hfit := hfits index hlt hlt'
  simp only [List.get_eq_getElem, hget] at hfit
  exact ⟨text, values[index], hpair, List.getElem?_eq_getElem hlt', hfit⟩

theorem dispatched_of_callTask {console : Console} {entries : List TypeEntry}
    (hcatalog : console.catalog = .ofTypes entries) {registry : Registry} {path query : String}
    {task : Task} (h : console.callTask registry path query = .ok task) :
    ∃ operation, Dispatched entries registry path query operation task := by
  obtain ⟨typeName, name, entry, operation, this, values, htarget, hlookup, hfind, hreceiver,
    harguments, rfl⟩ := exists_of_callTask h
  rw [hcatalog] at hlookup
  obtain ⟨before, after, hentries, hname, hafter⟩ := Catalog.exists_of_lookup?_ofTypes hlookup
  obtain ⟨earlier, later, hoperations, hmatches, hearlier⟩ :=
    TypeEntry.exists_of_findOperation? hfind
  rw [receiver_eq_ok_iff] at hreceiver
  rw [arguments_eq_ok_iff] at harguments
  refine ⟨operation, ?_⟩
  exact
    { selected := ⟨typeName, name, entry, before, after, earlier, later, htarget,
        ⟨hentries, hname, hafter⟩, hoperations, hmatches, hearlier⟩
      body_eq := rfl
      receiver_of_static := fun hstatic ↦ by rwa [if_pos hstatic] at hreceiver
      receiver_of_instance := fun hinstance ↦ by
        rw [hinstance] at hreceiver
        obtain ⟨v, hrefers, hthis⟩ := hreceiver
        obtain ⟨text, token, htext, hparse, hresolve⟩ := hrefers
        obtain ⟨front, back, hpairs, hback⟩ := Query.exists_of_receiver htext
        exact ⟨front, text, back, v, hpairs, hback, ⟨text, token, rfl, hparse, hresolve⟩, hthis⟩
      length_arguments := by
        rw [hmatches.2, ← harguments.length_eq, List.length_map, List.length_map]
      fits := fun index type htype ↦ by
        rw [hmatches.2] at htype
        exact exists_of_forall₂ harguments htype }

theorem Dispatched.fitAll {entries : List TypeEntry} {registry : Registry} {path query : String}
    {operation : Operation} {task : Task}
    (h : Dispatched entries registry path query operation task) :
    Demo.FitAll registry operation.parameters task.arguments := by
  rw [Demo.FitAll, List.forall₂_iff_get]
  refine ⟨h.length_arguments.symm, fun index hlt hlt' ↦ ?_⟩
  obtain ⟨text, v, -, hget, hfit⟩ := h.fits index _ (List.getElem?_eq_getElem hlt)
  obtain ⟨_, rfl⟩ := List.getElem?_eq_some_iff.mp hget
  exact ⟨text, hfit⟩

/-- Only one operation of the demonstration catalog can show the words of a misuse, and it shows
what it was given to show. -/
theorem Dispatched.repeats_of_misuse {registry : Registry} {path query : String}
    {operation : Operation} {task : Task}
    (h : Dispatched [Demo.systemType, Demo.counterType] registry path query operation task)
    {context : Context} {heap : Heap} {failure : Failure}
    (hfailed : (task.body context task.receiver task.arguments heap).1 = .failed failure)
    (hmisuse : Demo.Misuse failure) :
    operation.name = "fail" ∧ task.arguments = [.text failure.message] := by
  have hfits := h.fitAll
  rw [h.body_eq] at hfailed
  obtain ⟨typeName, name, entry, before, after, earlier, later, -, ⟨hentries, -, -⟩, hoperations,
    -, -⟩ := h.selected
  have hentry : entry ∈ [Demo.systemType, Demo.counterType] := by
    rw [hentries]
    exact List.mem_append_right _ List.mem_cons_self
  have hmem : operation ∈ entry.operations := by
    rw [hoperations]
    exact List.mem_append_right _ List.mem_cons_self
  simp only [List.mem_cons, List.not_mem_nil, or_false] at hentry
  rcases hentry with rfl | rfl
  · rcases Demo.refusal_or_repeats_of_systemType hmem hfits hfailed with hrefusal | hrepeats
    · exact absurd hmisuse hrefusal.not_misuse
    · exact hrepeats
  · have hinstance := Demo.isStatic_of_mem_counterType hmem
    obtain ⟨front, text, back, v, -, -, -, hreceiver⟩ := h.receiver_of_instance hinstance
    rw [hreceiver] at hfailed
    exact absurd hmisuse (Demo.refusal_of_counterType hmem hfits hfailed).not_misuse

/-- **Dispatch is sound.** A call is answered with an error and runs nothing, or it runs the body of
the operation that it is dispatched to, on the operands of its task. In the demonstration catalog no
body that is run so finds fault with the number of its operands or their declared types: if the
words of such a misuse are shown, it is because `fail` was given them. -/
theorem dispatch_call_typed {console : Console} {entries : List TypeEntry}
    (hcatalog : console.catalog = .ofTypes entries) (moment : Moment) (path query : String)
    (world : World) :
    (∃ error : RouteError,
      console.dispatch moment (.call path query) world = (.ok error.response, world)) ∨
    ∃ operation task, Dispatched entries world.registry path query operation task ∧
      console.dispatch moment (.call path query) world = console.perform moment task world ∧
      (task.call = .body fun context heap ↦
        operation.body context task.receiver task.arguments heap) ∧
      (entries = [Demo.systemType, Demo.counterType] → ∀ context heap failure,
        (task.body context task.receiver task.arguments heap).1 = .failed failure →
          Demo.Misuse failure →
            operation.name = "fail" ∧ task.arguments = [.text failure.message]) := by
  rw [dispatch, performOrReject.eq_def]
  cases htask : console.callTask world.registry path query with
  | error error => exact .inl ⟨error, rfl⟩
  | ok task =>
    obtain ⟨operation, hdispatched⟩ := dispatched_of_callTask hcatalog htask
    refine .inr ⟨operation, task, hdispatched, rfl, ?_, ?_⟩
    · rw [Task.call, hdispatched.body_eq]
    · rintro rfl context heap failure
      exact hdispatched.repeats_of_misuse

theorem dispatch_call_typed_add :
    let console : Console := ⟨Demo.catalog, "System", Uuid.ofNat⟩
    let world : World := { registry := (∅ : Registry).bind "c" (.object (.counter ⟨0⟩)) }
    ∃ operation task, Dispatched [Demo.systemType, Demo.counterType] world.registry "/Counter/add"
        "&this=$c&int=5" operation task ∧
      console.dispatch ⟨0, 0, ⟨0, none⟩⟩ (.call "/Counter/add" "&this=$c&int=5") world =
        console.perform ⟨0, 0, ⟨0, none⟩⟩ task world := by
  intro console world
  have hcatalog : console.catalog = .ofTypes [Demo.systemType, Demo.counterType] := rfl
  rcases dispatch_call_typed hcatalog ⟨0, 0, ⟨0, none⟩⟩ "/Counter/add" "&this=$c&int=5" world with
    ⟨error, herror⟩ | ⟨operation, task, hdispatched, hperform, -⟩
  · have hok : (console.dispatch ⟨0, 0, ⟨0, none⟩⟩ (.call "/Counter/add" "&this=$c&int=5")
        world).1.toOption.map Response.status = some .ok := by
      rfl
    rw [herror] at hok
    have hstatus := error.isError_response
    rw [Option.some.inj hok] at hstatus
    exact absurd hstatus Status.not_isError_ok
  · exact ⟨operation, task, hdispatched, hperform⟩

end Console

end ObjectConsole
