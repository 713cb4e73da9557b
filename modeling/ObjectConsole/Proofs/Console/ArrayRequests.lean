import ObjectConsole.Proofs.Console.TypedDispatch
import ObjectConsole.Proofs.Operation.ArraySet

/-!
# Requests that write to arrays

A request for `array_set` names an array by a token, gives an index as a text, and gives the element
as a text or by a token. `Demo.AsksToSet` says when the three come to a write: the types are those
of one of the declared operations, the texts fit them, and the index is one of the array.

Such a request does what it asks, and the entry that it registers is of the array that was written
to. Every other request for `array_set` leaves the heap and the registry as they were
(`Console.dispatch_arraySet`). Both hold while no call of someone else waits to be run before.
-/

namespace ObjectConsole

namespace Demo

/-! ## What the requests ask -/

/-- A request for `array_set`, whatever its parameters are. -/
structure CallsArraySet (route : Route) (invocation : Invocation) : Prop where
  route_eq : ∃ path query, route = .call path query ∧
    Invocation.ofAddress path query = .ok invocation
  targetType_eq : invocation.targetType = "System"
  operation_eq : invocation.operation = "array_set"

/-- The types that the operations of that name declare for their parameters. -/
def arraySetTypes : List (List String) :=
  [["array", "int", "int"], ["array", "int", "array"], ["array", "int", counterTypeName]]

/-- A request for `array_set` that asks for an element to be written. -/
structure AsksToSet (registry : Registry) (heap : Heap) (invocation : Invocation) (ref : ArrayRef)
    (index : Nat) (v : Value) : Prop where
  types_mem : invocation.parameterTypes ∈ arraySetTypes
  sets : ∃ values, Console.arguments registry invocation.parameters = .ok values ∧
    SetsElement heap values ref index v

theorem exists_findOperation?_arraySet {types : List String} (h : types ∈ arraySetTypes) :
    ∃ operation, systemType.findOperation? "array_set" types = some operation := by
  simp only [arraySetTypes, List.mem_cons, List.not_mem_nil, or_false] at h
  rcases h with rfl | rfl | rfl <;> exact ⟨_, rfl⟩

theorem of_findOperation?_arraySet {types : List String} {operation : Operation}
    (h : systemType.findOperation? "array_set" types = some operation) :
    types ∈ arraySetTypes ∧ operation.isStatic = true ∧
      operation.body = arraySet.withoutReceiver := by
  obtain ⟨before, after, hsplit, ⟨hname, rfl⟩, -⟩ := TypeEntry.exists_of_findOperation? h
  have hmem : operation ∈ systemType.operations := by
    rw [hsplit]
    exact List.mem_append_right _ List.mem_cons_self
  simp only [systemType, TypeEntry.static, TypeEntry.withOperation, TypeEntry.withField,
    List.nil_append, List.cons_append, List.mem_cons, List.not_mem_nil, or_false] at hmem
  rcases hmem with rfl | rfl | rfl | rfl | rfl | rfl | rfl | rfl | rfl | rfl | rfl
  iterate 6 exact absurd hname (by decide)
  · exact ⟨List.mem_cons_self, rfl, rfl⟩
  · exact ⟨List.mem_cons_of_mem _ List.mem_cons_self, rfl, rfl⟩
  · exact ⟨List.mem_cons_of_mem _ (List.mem_cons_of_mem _ List.mem_cons_self), rfl, rfl⟩
  iterate 2 exact absurd hname (by decide)

variable {console : Console} {registry : Registry} {path query : String} {invocation : Invocation}

/-- A request for `array_set` is prepared exactly if its types are declared and its texts fit
them. -/
theorem callTask_arraySet_cases (hcatalog : console.catalog = catalog)
    (hinvocation : Invocation.ofAddress path query = .ok invocation)
    (htarget : invocation.targetType = "System") (hoperation : invocation.operation = "array_set") :
    (∃ task, console.callTask registry path query = .ok task ∧
      task.body = arraySet.withoutReceiver ∧ invocation.parameterTypes ∈ arraySetTypes ∧
      Console.arguments registry invocation.parameters = .ok task.arguments) ∨
    ∃ error, console.callTask registry path query = .error error ∧
      ∀ heap ref index v, ¬AsksToSet registry heap invocation ref index v := by
  have hlookup : console.catalog.lookup? "System" = some systemType := by
    rw [hcatalog]
    rfl
  cases htask : console.callTask registry path query with
  | ok task =>
    obtain ⟨found, entry, operation, this, values, hfound, hentry, hfind, -, hvalues, rfl⟩ :=
      Console.callTask_eq_ok_iff.mp htask
    cases hinvocation.symm.trans hfound
    rw [htarget, hlookup] at hentry
    cases hentry
    rw [hoperation] at hfind
    obtain ⟨htypes, -, hbody⟩ := of_findOperation?_arraySet hfind
    exact .inl ⟨_, rfl, hbody, htypes, hvalues⟩
  | error error =>
    refine .inr ⟨error, rfl, fun heap ref index v h ↦ ?_⟩
    obtain ⟨values, hvalues, -⟩ := h.sets
    obtain ⟨operation, hfind⟩ := exists_findOperation?_arraySet h.types_mem
    have hreceiver : Console.receiver registry operation.isStatic invocation.receiver
        invocation.targetType = .ok none := by
      rw [(of_findOperation?_arraySet hfind).2.1]
      rfl
    have hok := Console.callTask_eq_ok_iff.mpr ⟨invocation, systemType, operation, none, values,
      hinvocation, htarget ▸ hlookup, hoperation ▸ hfind, hreceiver, hvalues, rfl⟩
    rw [htask] at hok
    cases hok

end Demo

namespace Console

open Demo

variable {console : Console} {moment : Moment} {world world' : World} {reply : Reply}

theorem idle_delegate_perform {task : Task} (hidle : world.delegate.Idle)
    (h : console.perform moment task world = (reply, world')) : world'.delegate.Idle := by
  obtain rfl : (console.perform moment task world).2 = world' := congrArg Prod.snd h
  rw [delegate_perform]
  exact hidle.call _ _ _ _

/-- A request for `array_set` that was not carried out: the heap and the registry are as they were,
and either the console has shut down or the request does not ask for a write. -/
structure LeavesArrays (world world' : World) (reply : Reply) (invocation : Invocation) : Prop where
  heap_eq : world'.heap = world.heap
  same : world.SameRegistry world'
  why : reply = .ok (RouteError.unavailable .shutDown).response ∨
    ∀ ref index v, ¬AsksToSet world.registry world.heap invocation ref index v

/-- A request for `array_set` that was carried out: the element was written that it asks for, and
the array was registered and is what the reply shows. -/
structure SetsArray (console : Console) (moment : Moment) (world world' : World) (reply : Reply)
    (invocation : Invocation) (ref : ArrayRef) (index : Nat) (v : Value) : Prop where
  asks : AsksToSet world.registry world.heap invocation ref index v
  heap_eq : world'.heap = (world.heap.set ref index v).2
  registry_eq : world'.registry =
    world.registry.add moment.now (console.identifier world.drawn) (.array ref)
  drawn_eq : world'.drawn = world.drawn + 1
  shows : ∃ signature, reply = valueReply world'.heap signature (.array ref)
    (console.identifier world.drawn)

/-- How the task of `array_set` ends. -/
theorem perform_arraySet {task : Task} {invocation : Invocation} (hidle : world.delegate.Idle)
    (hbody : task.body = arraySet.withoutReceiver)
    (htypes : invocation.parameterTypes ∈ arraySetTypes)
    (hvalues : arguments world.registry invocation.parameters = .ok task.arguments)
    (h : console.perform moment task world = (reply, world')) :
    LeavesArrays world world' reply invocation ∨
      ∃ ref index v, SetsArray console moment world world' reply invocation ref index v := by
  have hends := console.perform_ends moment h
  have hheap := console.heap_perform moment task world
  rw [h] at hheap
  cases harrival : world.delegate.arrival? moment.thread moment.uptime world.heap with
  | none =>
    have houtcome : task.outcome? moment world = none := by rw [Task.outcome?, harrival]; rfl
    rw [harrival] at hheap
    have hsame := hends.same_of_ne fun v _ hreturned ↦ by
      rw [houtcome] at hreturned
      cases hreturned
    exact .inl ⟨hheap, hsame, .inl (hends.of_refused houtcome)⟩
  | some arrival =>
    obtain ⟨context, before⟩ := arrival
    obtain rfl := hidle.heap_eq_of_arrival? harrival
    have houtcome : task.outcome? moment world =
        some (arraySet context none task.arguments world.heap).1 := by
      rw [Task.outcome?, harrival, hbody]
      rfl
    rw [harrival, hbody] at hheap
    change world'.heap = (arraySet context none task.arguments world.heap).2 at hheap
    rcases arraySet_cases context none task.arguments world.heap with
      ⟨ref, index, v, hsets, hset⟩ | ⟨hnot, failure, hfailed⟩
    · rw [hset] at houtcome hheap
      obtain ⟨hregistry, hdrawn, hreply⟩ := hends.of_returned houtcome Value.noConfusion
      exact .inr ⟨ref, index, v, ⟨htypes, task.arguments, hvalues, hsets⟩, hheap, hregistry, hdrawn,
        _, hreply⟩
    · rw [hfailed] at houtcome hheap
      have hasks : ∀ ref index v,
          ¬AsksToSet world.registry world.heap invocation ref index v := by
        rintro ref index v ⟨-, values, hfit, hsets⟩
        cases hvalues.symm.trans hfit
        exact hnot ref index v hsets
      have hsame := hends.same_of_ne fun v _ hreturned ↦ by
        rw [houtcome] at hreturned
        cases hreturned
      exact .inl ⟨hheap, hsame, .inr hasks⟩

/-- **A request for `array_set` is carried out, or it changes nothing.** -/
theorem dispatch_arraySet {route : Route} {invocation : Invocation}
    (hcatalog : console.catalog = Demo.catalog) (hidle : world.delegate.Idle)
    (hcalls : CallsArraySet route invocation)
    (h : console.dispatch moment route world = (reply, world')) :
    world'.delegate.Idle ∧
    (LeavesArrays world world' reply invocation ∨
      ∃ ref index v, SetsArray console moment world world' reply invocation ref index v) := by
  obtain ⟨⟨path, query, rfl, hinvocation⟩, htarget, hoperation⟩ := hcalls
  rcases callTask_arraySet_cases hcatalog hinvocation htarget hoperation with
    ⟨task, htask, hbody, htypes, hvalues⟩ | ⟨error, herror, hasks⟩
  · rw [dispatch, htask] at h
    exact ⟨idle_delegate_perform hidle h, perform_arraySet hidle hbody htypes hvalues h⟩
  · rw [dispatch, herror] at h
    cases h
    exact ⟨hidle, .inl ⟨rfl, ⟨rfl, rfl⟩, .inr (hasks _)⟩⟩

end Console

end ObjectConsole
