import ObjectConsole.Proofs.Console.Reported
import ObjectConsole.Proofs.Console.TypedDispatch
import ObjectConsole.Proofs.Operation.Counters

/-!
# What requests do to counters

A request may refer to a counter by a temporary token or by any of the names that the counter was
given, and it may call an operation of it or read its field. `asked?` tells, from the registry as it
is at the time, which counter a request is about and what it asks: to add an amount, or to read.
What is asked is done, unless the console has shut down (`Console.handle_of_asked?`).

All other requests leave every counter as it is (`Console.keepsCounters_handle`). These are the
operations of `System`, and all requests that fail: on a path, a token or an argument that cannot be
read, an object that is not there, or a receiver that is no counter.

Which heap the body of a request meets is up to the delegate. Calls that wait in its queue are run
before, and for the totals it is enough that they leave the counters as they are.
-/

namespace ObjectConsole

open Number Store

namespace Demo

/-! ## What requests ask of counters -/

/-- What can be done with a counter. -/
inductive Action where
  | add (delta : Word .w32)
  | read
  deriving DecidableEq, Repr

/-- What a call of a member of `Counter` does, from its name and its parameters. -/
def Action.ofCall? (operation : String) (parameters : List Parameter) : Option Action :=
  match operation, parameters with
  | "increment", [] => some (add (Word.wrap .w32 1))
  | "add", [⟨"int", some text⟩] => (Word.read .w32 text.toList).toOption.map add
  | "get", [] => some read
  | _, _ => none

/-- The counter that a text refers to. -/
def counter? (registry : Registry) (text : Option String) : Option CounterRef :=
  (Coercion.receiver registry text counterTypeName).toOption.bind Value.counter?

/-- What a request asks of which counter. -/
def asked? (registry : Registry) : Route → Option (CounterRef × Action)
  | .call path query =>
    match Invocation.ofAddress path query with
    | .error _ => none
    | .ok invocation =>
      if invocation.targetType = counterTypeName then do
        let counter ← counter? registry invocation.receiver
        let action ← Action.ofCall? invocation.operation invocation.parameters
        return (counter, action)
      else none
  | .field path receiver =>
    if Console.fieldTarget? path.toList = some (counterTypeName.toList, "value".toList) then
      (counter? registry receiver).map (·, .read)
    else none
  | _ => none

/-- What an action returns, and the heap after it. -/
def Action.run (action : Action) (counter : CounterRef) (heap : Heap) : Word .w32 × Heap :=
  match action with
  | add delta => heap.addToCounter counter delta
  | read => (heap.total counter, heap)

/-- The amount that an action adds. -/
def Action.amount : Action → Int
  | add delta => delta.val
  | read => 0

variable {console : Console} {registry : Registry} {counter : CounterRef} {action : Action}
  {route : Route} {task : Task}

/-- An action returns what the counter then holds: what it held before, and the amount. -/
theorem Action.run_of_get? {heap : Heap} {total : Word .w32}
    (h : heap.counters.get? counter.cell = some total) :
    (action.run counter heap).1 = Word.wrap .w32 (total.val + action.amount) ∧
      (action.run counter heap).2.counters.get? counter.cell =
        some (Word.wrap .w32 (total.val + action.amount)) := by
  cases action with
  | add delta => exact Heap.get?_addToCounter_self h delta
  | read =>
    rw [amount, Word.wrap_val_add_zero, run, Heap.total, h]
    exact ⟨rfl, rfl⟩

theorem Action.get?_run_of_ne {other : CounterRef} (h : other ≠ counter) (heap : Heap) :
    (action.run counter heap).2.counters.get? other.cell = heap.counters.get? other.cell := by
  cases action with
  | add delta =>
    rw [run, Heap.get?_addToCounter, if_neg]
    rintro ⟨hcell, -⟩
    exact h (congrArg CounterRef.mk hcell)
  | read => rfl

theorem receiver_of_counter? {text : Option String} (h : counter? registry text = some counter) :
    Coercion.receiver registry text counterTypeName = .ok (.object (.counter counter)) := by
  rw [counter?] at h
  cases hreceiver : Coercion.receiver registry text counterTypeName with
  | error e => rw [hreceiver] at h; cases h
  | ok v =>
    rw [hreceiver] at h
    cases v with
    | object o => cases o <;> cases h; rfl
    | _ => cases h

theorem argument_int {text : String} {delta : Word .w32}
    (h : Word.read .w32 text.toList = .ok delta) :
    Coercion.argument registry (some text) "int" = .ok (.int .w32 delta) := by
  have hint : Primitive.ofTypeName? "int" = some (.int .w32) := by decide
  simp only [Coercion.argument, hint, Primitive.read, h]
  rfl

theorem arguments_int {text : String} {delta : Word .w32}
    (h : Word.read .w32 text.toList = .ok delta) :
    Console.arguments registry [⟨"int", some text⟩] = .ok [.int .w32 delta] := by
  simp only [Console.arguments, List.mapM_cons, List.mapM_nil, argument_int h]
  rfl

theorem intArgument_int (delta : Word .w32) : intArgument [.int .w32 delta] 0 = .ok delta := by
  have hword : (Value.int .w32 delta).word? .w32 = some delta := Word.ofInt?_eq_some_iff.mpr rfl
  simp only [intArgument, argument, List.getElem?_cons_zero, bind, Except.bind, hword]
  rfl

theorem Action.exists_operation {operation : String} {parameters : List Parameter}
    (h : ofCall? operation parameters = some action) (registry : Registry)
    (counter : CounterRef) :
    ∃ found values,
      counterType.findOperation? operation (parameters.map Parameter.type) = some found ∧
      found.isStatic = false ∧ Console.arguments registry parameters = .ok values ∧
      ∀ context heap, found.body context (some (.object (.counter counter))) values heap =
        (.returned (.int .w32 (action.run counter heap).1), (action.run counter heap).2) := by
  rw [ofCall?.eq_def] at h
  split at h
  · cases h
    exact ⟨_, [], rfl, rfl, rfl, fun _ _ ↦ rfl⟩
  · next text =>
    cases hread : Word.read .w32 text.toList with
    | error fault => rw [hread] at h; cases h
    | ok delta =>
      rw [hread] at h
      cases h
      refine ⟨_, [.int .w32 delta], rfl, rfl, arguments_int hread, fun context heap ↦ ?_⟩
      change Demo.add context (some (.object (.counter counter))) [.int .w32 delta] heap = _
      rw [Demo.add, counterOperation, intArgument_int]
      rfl
  · cases h
    exact ⟨_, [], rfl, rfl, rfl, fun _ _ ↦ rfl⟩
  · cases h

/-- What is asked of a counter is prepared, and its body does it. -/
theorem exists_task_of_asked? (hcatalog : console.catalog = catalog)
    (h : asked? registry route = some (counter, action)) :
    ∃ task, console.task? registry route = some (.ok task) ∧
      ∀ context heap, task.body context task.receiver task.arguments heap =
        (.returned (.int .w32 (action.run counter heap).1), (action.run counter heap).2) := by
  have hlookup : console.catalog.lookup? counterTypeName = some counterType := by
    rw [hcatalog]
    rfl
  cases route with
  | call path query =>
    rw [asked?] at h
    cases hinvocation : Invocation.ofAddress path query with
    | error e => rw [hinvocation] at h; cases h
    | ok invocation =>
      simp only [hinvocation] at h
      split_ifs at h with htype
      simp only [Option.bind_eq_bind, Option.bind_eq_some_iff, Option.pure_def,
        Option.some.injEq, Prod.mk.injEq] at h
      obtain ⟨counter, hcounter, action, haction, rfl, rfl⟩ := h
      obtain ⟨found, values, hfind, hinstance, hvalues, hbody⟩ :=
        action.exists_operation haction registry counter
      have hreceiver : Console.receiver registry found.isStatic invocation.receiver
          invocation.targetType = .ok (some (.object (.counter counter))) := by
        simp only [Console.receiver, hinstance, htype, receiver_of_counter? hcounter]
        rfl
      refine ⟨_, congrArg some (Console.callTask_eq_ok_iff.mpr ⟨invocation, counterType, found, _,
        values, hinvocation, ?_, hfind, hreceiver, hvalues, rfl⟩), hbody⟩
      rw [htype]
      exact hlookup
  | field path receiver =>
    rw [asked?] at h
    split_ifs at h with htarget
    rw [Option.map_eq_some_iff] at h
    obtain ⟨counter, hcounter, ⟨⟩⟩ := h
    have hfind : counterType.findField? "value" = some ⟨"value", false, "int", value⟩ := rfl
    refine ⟨⟨Field.signature ⟨"value", false, "int", value⟩ counterTypeName, value,
      some (.object (.counter counter)), []⟩, ?_, fun _ _ ↦ rfl⟩
    simp only [Console.task?, Console.fieldTask, htarget, Console.lookup, String.ofList_toList,
      hlookup, Option.elim_some, hfind, Console.receiver, receiver_of_counter? hcounter]
    rfl
  | _ => cases h

/-! ## What else requests do -/

theorem Action.ofCall?_add_ne_none {parameters : List Parameter} {values : List Value}
    (htypes : parameters.map Parameter.type = ["int"])
    (hvalues : Console.arguments registry parameters = .ok values) :
    ofCall? "add" parameters ≠ none := by
  obtain ⟨⟨type, text⟩, rest, rfl, rfl, hrest⟩ := List.map_eq_cons_iff.mp htypes
  obtain rfl := List.map_eq_nil_iff.mp hrest
  obtain ⟨v, _, hfits, -, -⟩ :=
    List.forall₂_cons_left_iff.mp (Console.arguments_eq_ok_iff.mp hvalues)
  have hint : Primitive.ofTypeName? "int" = some (.int .w32) := by decide
  cases hfits with
  | string hkind | reference hkind => rw [hint] at hkind; cases hkind
  | @primitive kind s hkind htext hread =>
    rw [hint] at hkind
    cases hkind
    obtain rfl : text = some s := htext
    rw [Primitive.read] at hread
    simp only [ofCall?]
    cases hword : Word.read .w32 s.toList with
    | error fault => simp only [hword] at hread; cases hread
    | ok delta => exact nofun

theorem asked?_call_ne_none {path query : String} {invocation : Invocation} {v : Value}
    (hinvocation : Invocation.ofAddress path query = .ok invocation)
    (htype : invocation.targetType = counterTypeName)
    (hreceiver : Coercion.receiver registry invocation.receiver invocation.targetType = .ok v)
    (hv : v.counter? ≠ none)
    (haction : Action.ofCall? invocation.operation invocation.parameters ≠ none) :
    asked? registry (.call path query) ≠ none := by
  obtain ⟨counter, hcounter⟩ := Option.ne_none_iff_exists'.mp hv
  obtain ⟨action, haction⟩ := Option.ne_none_iff_exists'.mp haction
  have hfound : counter? registry invocation.receiver = some counter := by
    rw [counter?, ← htype, hreceiver]
    exact hcounter
  simp only [asked?, hinvocation, htype, if_true, hfound, haction]
  exact nofun

theorem keepsCounters_of_counterType {path query : String} {invocation : Invocation}
    {operation : Operation} {this : Option Value} {values : List Value}
    (h : asked? registry (.call path query) = none)
    (hinvocation : Invocation.ofAddress path query = .ok invocation)
    (htype : invocation.targetType = counterTypeName)
    (hfind : counterType.findOperation? invocation.operation invocation.parameterTypes =
      some operation)
    (hreceiver : Console.receiver registry operation.isStatic invocation.receiver
      invocation.targetType = .ok this)
    (hvalues : Console.arguments registry invocation.parameters = .ok values)
    (context : Context) (heap : Heap) :
    heap.KeepsCounters (operation.body context this values heap).2 := by
  obtain ⟨before, after, hsplit, ⟨hname, hkeys⟩, -⟩ := TypeEntry.exists_of_findOperation? hfind
  have hmem : operation ∈ counterType.operations := by
    rw [hsplit]
    exact List.mem_append_right _ List.mem_cons_self
  obtain ⟨v, hv, rfl⟩ : ∃ v,
      Coercion.receiver registry invocation.receiver invocation.targetType = .ok v ∧
        this = some v := by
    rw [isStatic_of_mem_counterType hmem] at hreceiver
    simp only [Console.receiver, Bool.false_eq_true, if_false] at hreceiver
    split at hreceiver <;> cases hreceiver
    exact ⟨_, by assumption, rfl⟩
  -- an addition to a counter would have been asked for
  have hkeeps (amount : List Value → Except Failure (Word .w32))
      (haction : Action.ofCall? invocation.operation invocation.parameters ≠ none) :
      heap.KeepsCounters (counterOperation amount context (some v) values heap).2 := by
    have hcounter : v.counter? = none := by
      by_contra hcounter
      exact asked?_call_ne_none hinvocation htype hv hcounter haction h
    exact keepsCounters_counterOperation hcounter amount context values heap
  simp only [counterType, TypeEntry.instanceOp, TypeEntry.withOperation, TypeEntry.withField,
    List.nil_append, List.cons_append, List.mem_cons, List.not_mem_nil, or_false] at hmem
  rcases hmem with rfl | rfl | rfl
  · apply hkeeps
    rw [← hname, List.map_eq_nil_iff.mp hkeys.symm]
    rintro ⟨⟩
  · apply hkeeps
    rw [← hname]
    exact Action.ofCall?_add_ne_none hkeys.symm hvalues
  · exact keepsCounters_get context (some v) values heap

theorem keepsCounters_of_asked?_eq_none (hcatalog : console.catalog = catalog)
    (h : asked? registry route = none) (htask : console.task? registry route = some (.ok task))
    (context : Context) (heap : Heap) :
    heap.KeepsCounters (task.body context task.receiver task.arguments heap).2 := by
  have hentry {typeName : String} {entry : TypeEntry}
      (hlookup : console.catalog.lookup? typeName = some entry) :
      entry = systemType ∨ entry = counterType ∧ typeName = counterTypeName := by
    have hmem := Catalog.mem_of_lookup? hlookup
    have hname := Catalog.name_of_lookup? hlookup
    rw [hcatalog] at hmem
    have hentries : catalog.entries = [systemType, counterType] := rfl
    rw [hentries, List.mem_cons, List.mem_singleton] at hmem
    rcases hmem with rfl | rfl
    · exact .inl rfl
    · exact .inr ⟨rfl, hname.symm⟩
  cases route with
  | call path query =>
    have htask : console.callTask registry path query = .ok task := Option.some.inj htask
    obtain ⟨invocation, entry, operation, this, values, hinvocation, hlookup, hfind, hreceiver,
      hvalues, rfl⟩ := Console.callTask_eq_ok_iff.mp htask
    rcases hentry hlookup with rfl | ⟨rfl, htype⟩
    · exact keepsCounters_of_systemType (List.mem_of_find?_eq_some hfind) _ _ _ _
    · exact keepsCounters_of_counterType h hinvocation htype hfind hreceiver hvalues context heap
  | field path receiver =>
    have htask : console.fieldTask registry path receiver = .ok task := Option.some.inj htask
    obtain ⟨typeName, name, entry, field, this, htarget, hlookup, hfind, hreceiver, rfl⟩ :=
      Console.exists_of_fieldTask htask
    have hmem := List.mem_of_find?_eq_some hfind
    rcases hentry hlookup with rfl | ⟨rfl, -⟩
    · obtain rfl := List.mem_singleton.mp hmem
      exact keepsCounters_computing _ _ _ _ _
    · obtain rfl := List.mem_singleton.mp hmem
      exact keepsCounters_value _ _ _ _
  | _ => cases htask

/-! ## New counters -/

/-- The number that a request wants a new counter to begin with. -/
def start? : Route → Option (Word .w32)
  | .call path query =>
    match Invocation.ofAddress path query with
    | .ok ⟨"System", "new_counter", _, [⟨"int", some text⟩]⟩ =>
      (Word.read .w32 text.toList).toOption
    | _ => none
  | _ => none

theorem exists_task_of_start? (hcatalog : console.catalog = catalog) {start : Word .w32}
    (h : start? route = some start) (registry : Registry) :
    ∃ task, console.task? registry route = some (.ok task) ∧
      ∀ context heap, task.body context task.receiver task.arguments heap =
        (.returned (.object (.counter (heap.newCounter start).1)), (heap.newCounter start).2) := by
  have hlookup : console.catalog.lookup? "System" = some systemType := by
    rw [hcatalog]
    rfl
  rw [start?.eq_def] at h
  split at h
  · next path query =>
    split at h
    · next receiver text hinvocation =>
      cases hread : Word.read .w32 text.toList with
      | error fault => rw [hread] at h; cases h
      | ok n =>
        rw [hread] at h
        cases h
        refine ⟨_, congrArg some (Console.callTask_eq_ok_iff.mpr ⟨_, systemType, _, none, _,
          hinvocation, hlookup, rfl, rfl, arguments_int hread, rfl⟩), fun context heap ↦ ?_⟩
        change newCounter context none [.int .w32 start] heap = _
        rw [newCounter, intArgument_int]
    · cases h
  · cases h

end Demo

/-! ## What the requests come to -/

/-- A page that shows an integer, with the link to it. -/
def Response.ShowsInt (response : Response) (n : Word .w32) : Prop :=
  ∃ signature id, response = .page (resultPage (resultLine signature (String.ofList n.text))
    (valueLink (.int .w32 n) (.ephemeral id)))

namespace Console

open Demo

variable {console : Console} {moment : Moment} {path : String} {query : Option String}
  {world world' : World} {reply : Reply} {counter : CounterRef} {action : Action}

/-- The calls that wait after a request are those that waited before it, or none. -/
theorem keepsCounters_delegate_handle (hdelegate : world.delegate.KeepsCounters)
    (h : console.handle moment path query world = (reply, world')) :
    world'.delegate.KeepsCounters := by
  rcases console.performed_or_eq moment h with ⟨task, -, hperform⟩ | ⟨-, -, hsame⟩
  · obtain rfl : (console.perform moment task world).2 = world' := congrArg Prod.snd hperform
    rw [delegate_perform]
    exact hdelegate.call _ _ _ _
  · rwa [hsame]

theorem keepsCounters_handle (hcatalog : console.catalog = Demo.catalog)
    (hdelegate : world.delegate.KeepsCounters)
    (hasked : asked? world.registry (.ofAddress path query) = none)
    (h : console.handle moment path query world = (reply, world')) :
    world.heap.KeepsCounters world'.heap := by
  rcases console.performed_or_eq moment h with ⟨task, htask, hperform⟩ | ⟨-, hsame, -⟩
  · obtain rfl : (console.perform moment task world).2 = world' := congrArg Prod.snd hperform
    rw [heap_perform]
    cases harrival : world.delegate.arrival? moment.thread moment.uptime world.heap with
    | none => exact .refl _
    | some arrival =>
      exact (hdelegate.of_arrival? harrival).trans
        (keepsCounters_of_asked?_eq_none hcatalog hasked htask _ _)
  · rw [hsame]
    exact .refl _

/-- How a task ends that returns a value whatever it meets: it is refused, or it adds the value and
shows it. -/
theorem perform_of_returns {task : Task} (result : Heap → Value × Heap)
    (hbody : ∀ context heap, task.body context task.receiver task.arguments heap =
      (.returned (result heap).1, (result heap).2))
    (hresult : ∀ heap, (result heap).1 ≠ .null) (hdelegate : world.delegate.KeepsCounters)
    (h : console.perform moment task world = (reply, world')) :
    (reply = .ok (RouteError.unavailable .shutDown).response ∧ world'.heap = world.heap) ∨
    ∃ before, world.heap.KeepsCounters before ∧ world'.heap = (result before).2 ∧
      world'.registry =
        world.registry.add moment.now (console.identifier world.drawn) (result before).1 ∧
      reply = valueReply (result before).2 task.signature (result before).1
        (console.identifier world.drawn) := by
  have hends := console.perform_ends moment h
  obtain rfl : (console.perform moment task world).2 = world' := congrArg Prod.snd h
  have hheap := console.heap_perform moment task world
  cases harrival : world.delegate.arrival? moment.thread moment.uptime world.heap with
  | none =>
    have houtcome : task.outcome? moment world = none := by rw [Task.outcome?, harrival]; rfl
    rw [harrival] at hheap
    exact .inl ⟨hends.of_refused houtcome, hheap⟩
  | some arrival =>
    have houtcome : task.outcome? moment world = some (.returned (result arrival.2).1) := by
      rw [Task.outcome?, harrival, Option.map_some, hbody]
    rw [harrival] at hheap
    dsimp only at hheap
    rw [hbody] at hheap
    obtain ⟨hregistry, -, hreply⟩ := hends.of_returned houtcome (hresult _)
    rw [hheap] at hreply
    exact .inr ⟨arrival.2, hdelegate.of_arrival? harrival, hheap, hregistry, hreply⟩

/-- What is asked of a counter is refused, or it is done to the counters as the request finds
them. -/
theorem handle_of_asked? (hcatalog : console.catalog = Demo.catalog)
    (hdelegate : world.delegate.KeepsCounters)
    (hasked : asked? world.registry (.ofAddress path query) = some (counter, action))
    (h : console.handle moment path query world = (reply, world')) :
    (reply = .ok (RouteError.unavailable .shutDown).response ∧ world'.heap = world.heap) ∨
    ∃ before response, world.heap.KeepsCounters before ∧ reply = .ok response ∧
      response.ShowsInt (action.run counter before).1 ∧
      world'.heap = (action.run counter before).2 := by
  obtain ⟨task, htask, hbody⟩ := exists_task_of_asked? hcatalog hasked
  rw [handle, console.dispatch_of_task? moment world htask] at h
  rcases perform_of_returns (fun heap ↦
    (.int .w32 (action.run counter heap).1, (action.run counter heap).2)) hbody
    (by rintro _ ⟨⟩) hdelegate h with hrefused | ⟨before, hbefore, hheap, -, hreply⟩
  · exact .inl hrefused
  · exact .inr ⟨before, _, hbefore, hreply, ⟨_, _, rfl⟩, hheap⟩

/-- What is to make a counter is refused, or there is a counter that was not there before. It begins
with the number that was asked for, and the identifier that was drawn refers to it. -/
theorem handle_of_start? (hcatalog : console.catalog = Demo.catalog)
    (hdelegate : world.delegate.KeepsCounters) {start : Word .w32}
    (hstart : start? (.ofAddress path query) = some start)
    (h : console.handle moment path query world = (reply, world')) :
    (reply = .ok (RouteError.unavailable .shutDown).response ∧ world'.heap = world.heap) ∨
    ∃ counter response, reply = .ok response ∧
      response.Links (.object (.counter counter)) (console.identifier world.drawn) ∧
      world'.registry.find? (console.identifier world.drawn) = some (.object (.counter counter)) ∧
      world.heap.counters.get? counter.cell = none ∧
      world'.heap.counters.get? counter.cell = some start := by
  obtain ⟨task, htask, hbody⟩ := exists_task_of_start? hcatalog hstart world.registry
  rw [handle, console.dispatch_of_task? moment world htask] at h
  rcases perform_of_returns (fun heap ↦
    (.object (.counter (heap.newCounter start).1), (heap.newCounter start).2)) hbody
    (by rintro _ ⟨⟩) hdelegate h with hrefused | ⟨before, hbefore, hheap, hregistry, hreply⟩
  · exact .inl hrefused
  · refine .inr ⟨(before.newCounter start).1, _, hreply, ⟨_, rfl⟩, ?_, ?_, ?_⟩
    · rw [hregistry, Registry.find?_eq_some_iff]
      exact ⟨moment.now, (Registry.get?_add _ _ _ _).trans (if_pos rfl)⟩
    -- a counter that was there would still be there when the body was run
    · cases hget : world.heap.counters.get? (before.newCounter start).1.cell with
      | none => rfl
      | some total =>
        have hthere := hbefore _ _ hget
        rw [Heap.newCounter, Cells.get?_eq_none_iff.mpr (Nat.le_refl _)] at hthere
        cases hthere
    · rw [hheap, Heap.newCounter, Cells.get?_create, if_pos rfl]

end Console

end ObjectConsole
