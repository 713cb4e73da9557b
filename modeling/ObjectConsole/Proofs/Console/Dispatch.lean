import ObjectConsole.Console.Handle
import ObjectConsole.Proofs.Execution.Delegation
import ObjectConsole.Proofs.Reference.Registry

/-!
# How requests end

Requests are answered by one of three functions, and this file says once for each how it can end:
with which reply, and with which registry. Errors are responses of their own kind
(`isError_response`), and so a status tells apart what kind of ending there was.

* A prepared task (`perform_ends`) is refused, raises a failure, returns null or returns a value.
  Only the last touches the registry, and it does so before the value is shown.
* A promotion (`persist_cases`) is rejected and changes nothing, or it redirects. There is no third
  ending: the name that was just bound is found again.
* All other requests are answered from the registry as it is (`exists_plain_of_task?_eq_none`).

`Console.Ends` puts the three together, and nothing that follows has to open the handlers again.
What a prepared task was made of is said by `exists_of_callTask` and `exists_of_fieldTask`.
-/

namespace ObjectConsole

/-! ## Errors -/

/-- The statuses of errors. -/
def Status.IsError (status : Status) : Prop :=
  status = .badRequest ∨ status = .notFound ∨ status = .internalError

theorem RouteError.isError_response (error : RouteError) : error.response.status.IsError := by
  rw [response, Response.plain, Status.IsError]
  cases error with
  | coercion error => cases error <;> simp [status]
  | _ => simp [status]

theorem Status.not_isError_ok : ¬Status.ok.IsError := by
  simp [IsError]

theorem Status.not_isError_redirect : ¬Status.redirect.IsError := by
  simp [IsError]

/-- What is answered without a task: an error, a redirect or a page of members. -/
def Response.Plain (response : Response) : Prop :=
  response.status.IsError ∨ response.status = .redirect ∨
    ∃ page : MembersPage, response = .page page.markup

/-! ## Tasks -/

theorem Value.isNull_iff {v : Value} : v.isNull = true ↔ v = .null := by
  cases v <;> simp [isNull]

/-- A world whose registry, and whose count of identifiers, are those of another. -/
structure World.SameRegistry (world world' : World) : Prop where
  registry_eq : world'.registry = world.registry
  drawn_eq : world'.drawn = world.drawn

/-- How the body of a task ends in a world; nothing when the call is refused. -/
def Task.outcome? (task : Task) (moment : Moment) (world : World) : Option Outcome :=
  (world.delegate.arrival? moment.thread moment.uptime world.heap).map fun arrival ↦
    (task.body arrival.1 task.receiver task.arguments arrival.2).1

/-- The page of a value that was added under an identifier, unless its display panics. -/
def valueReply (heap : Heap) (signature : String) (v : Value) (id : Uuid) : Reply :=
  (v.render heap).map fun rendered ↦
    .page (resultPage (resultLine signature rendered) (valueLink v (.ephemeral id)))

theorem valueReply_eq_ok_iff {heap : Heap} {signature : String} {v : Value} {id : Uuid}
    {response : Response} :
    valueReply heap signature v id = .ok response ↔
      ∃ rendered, v.render heap = .ok rendered ∧ response =
        .page (resultPage (resultLine signature rendered) (valueLink v (.ephemeral id))) := by
  rw [valueReply]
  cases v.render heap with
  | error message => simp [Except.map]
  | ok rendered => simp [Except.map, eq_comm]

theorem valueReply_eq_error_iff {heap : Heap} {signature : String} {v : Value} {id : Uuid}
    {message : String} :
    valueReply heap signature v id = .error message ↔ v.render heap = .error message := by
  rw [valueReply]
  cases v.render heap <;> simp [Except.map]

/-- How a task ends: with which reply, and in which world. -/
inductive Task.Ends (console : Console) (moment : Moment) (task : Task) (world : World) :
    Reply → World → Prop
  | refused {world' : World} (houtcome : task.outcome? moment world = none)
      (hsame : world.SameRegistry world') :
      Ends console moment task world (.ok (RouteError.unavailable .shutDown).response) world'
  | raised {world' : World} {outcome : Outcome} {failure : Failure}
      (houtcome : task.outcome? moment world = some outcome)
      (hguard : outcome.guard = .error (.raised failure)) (hsame : world.SameRegistry world') :
      Ends console moment task world
        (.ok (.page (resultPage (failureLine task.signature failure) ""))) world'
  | null {world' : World} (houtcome : task.outcome? moment world = some (.returned .null))
      (hsame : world.SameRegistry world') :
      Ends console moment task world
        (.ok (.page (resultPage (resultLine task.signature "null") ""))) world'
  | value {reply : Reply} {world' : World} {v : Value}
      (houtcome : task.outcome? moment world = some (.returned v)) (hv : v ≠ .null)
      (hregistry : world'.registry =
        world.registry.add moment.now (console.identifier world.drawn) v)
      (hdrawn : world'.drawn = world.drawn + 1)
      (hreply : reply =
        valueReply world'.heap task.signature v (console.identifier world.drawn)) :
      Ends console moment task world reply world'

/-- A task without an outcome was refused. -/
theorem Task.Ends.of_refused {console : Console} {moment : Moment} {task : Task}
    {world world' : World} {reply : Reply} (h : task.Ends console moment world reply world')
    (hrefused : task.outcome? moment world = none) :
    reply = .ok (RouteError.unavailable .shutDown).response := by
  cases h with
  | refused houtcome hsame => rfl
  | raised houtcome hguard hsame => rw [hrefused] at houtcome; cases houtcome
  | null houtcome hsame => rw [hrefused] at houtcome; cases houtcome
  | value houtcome hv hregistry hdrawn hreply => rw [hrefused] at houtcome; cases houtcome

/-- A task that returned nothing but null, or did not return, leaves the registry alone. -/
theorem Task.Ends.same_of_ne {console : Console} {moment : Moment} {task : Task}
    {world world' : World} {reply : Reply} (h : task.Ends console moment world reply world')
    (hne : ∀ v ≠ .null, task.outcome? moment world ≠ some (.returned v)) :
    world.SameRegistry world' := by
  cases h with
  | refused houtcome hsame => exact hsame
  | raised houtcome hguard hsame => exact hsame
  | null houtcome hsame => exact hsame
  | value houtcome hv hregistry hdrawn hreply => exact absurd houtcome (hne _ hv)

/-- A task that returned a value other than null ended by adding it, and its page is the reply. -/
theorem Task.Ends.of_returned {console : Console} {moment : Moment} {task : Task}
    {world world' : World} {reply : Reply} {v : Value}
    (h : task.Ends console moment world reply world')
    (hreturned : task.outcome? moment world = some (.returned v)) (hv : v ≠ .null) :
    world'.registry = world.registry.add moment.now (console.identifier world.drawn) v ∧
      world'.drawn = world.drawn + 1 ∧
      reply = valueReply world'.heap task.signature v (console.identifier world.drawn) := by
  -- a task has one outcome, so the endings with another one are excluded
  cases h with
  | refused houtcome hsame => rw [hreturned] at houtcome; cases houtcome
  | raised houtcome hguard hsame =>
    rw [hreturned] at houtcome
    cases houtcome
    cases hguard
  | null houtcome hsame =>
    rw [hreturned] at houtcome
    cases houtcome
    exact absurd rfl hv
  | value houtcome hv' hregistry hdrawn hreply =>
    rw [hreturned] at houtcome
    cases houtcome
    exact ⟨hregistry, hdrawn, hreply⟩

namespace Console

variable (console : Console) (moment : Moment)

theorem showVerdict_ok_of_ne_null {v : Value} (h : ¬v.isNull) (signature : String) (world : World) :
    console.showVerdict moment signature (.ok v) world =
      (valueReply (world.addValue console moment.now v).2.heap signature v
        (console.identifier world.drawn), (world.addValue console moment.now v).2) :=
  if_neg h

/-- A verdict is shown in the world as it is, or once its value was added. -/
theorem snd_showVerdict (signature : String) (verdict : Verdict) (world : World) :
    (console.showVerdict moment signature verdict world).2 = world ∨
      ∃ v, (console.showVerdict moment signature verdict world).2 =
        (world.addValue console moment.now v).2 := by
  rcases verdict with (failure | why) | v
  · exact .inl rfl
  · exact .inl rfl
  · by_cases hv : v.isNull
    · obtain rfl := Value.isNull_iff.mp hv
      exact .inl rfl
    · rw [showVerdict_ok_of_ne_null console moment hv]
      exact .inr ⟨v, rfl⟩

theorem perform_ends {task : Task} {world world' : World} {reply : Reply}
    (h : console.perform moment task world = (reply, world')) :
    task.Ends console moment world reply world' := by
  obtain ⟨after, hcall⟩ :=
    world.delegate.call_eq moment.thread moment.uptime task.call world.heap
  rw [perform, hcall] at h
  cases harrival : world.delegate.arrival? moment.thread moment.uptime world.heap with
  | none =>
    rw [harrival] at h
    cases h
    exact .refused (by rw [Task.outcome?, harrival]; rfl) ⟨rfl, rfl⟩
  | some arrival =>
    obtain ⟨context, before⟩ := arrival
    have houtcome : task.outcome? moment world =
        some (task.body context task.receiver task.arguments before).1 := by
      rw [Task.outcome?, harrival]
      rfl
    simp only [harrival, Task.call, Call.runGuarded, Call.run] at h
    -- from here on only the outcome matters, and no longer how the body came to it
    generalize task.body context task.receiver task.arguments before = ended at houtcome h
    obtain ⟨outcome, heap⟩ := ended
    cases outcome with
    | failed failure => cases h; exact .raised houtcome rfl ⟨rfl, rfl⟩
    | panicked panic => cases h; exact .raised houtcome rfl ⟨rfl, rfl⟩
    | returned v =>
      by_cases hv : v.isNull
      · obtain rfl := Value.isNull_iff.mp hv
        cases h
        exact .null houtcome ⟨rfl, rfl⟩
      · rw [Outcome.guard, showVerdict_ok_of_ne_null console moment hv] at h
        cases h
        exact .value houtcome (mt Value.isNull_iff.mpr hv) rfl rfl rfl

/-- What a task does to the heap is what its body does to the heap that it meets. -/
theorem heap_perform (task : Task) (world : World) :
    (console.perform moment task world).2.heap =
      match world.delegate.arrival? moment.thread moment.uptime world.heap with
      | none => world.heap
      | some (context, before) => (task.body context task.receiver task.arguments before).2 := by
  obtain ⟨after, hcall⟩ :=
    world.delegate.call_eq moment.thread moment.uptime task.call world.heap
  have hheap : (console.perform moment task world).2.heap =
      (world.delegate.call moment.thread moment.uptime task.call world.heap).2.2 := by
    rw [perform]
    rcases console.snd_showVerdict moment _ _ _ with hworld | ⟨v, hworld⟩ <;> rw [hworld]
    rfl
  rw [hheap, hcall]
  cases world.delegate.arrival? moment.thread moment.uptime world.heap <;> rfl

theorem delegate_perform (task : Task) (world : World) :
    (console.perform moment task world).2.delegate =
      (world.delegate.call moment.thread moment.uptime task.call world.heap).2.1 := by
  rw [perform]
  rcases console.snd_showVerdict moment _ _ _ with hworld | ⟨v, hworld⟩ <;> rw [hworld]
  rfl

/-! ## Promotions -/

/-- A promotion that a request made: the value under the token's identifier was bound to a name. The
name is the one that was given, and then the counter stands still, or the next automatic one. -/
structure Promoted (registry : Registry) (token : String) (name : Option String) (id : Uuid)
    (v : Value) (used : String) (promoted : Registry) : Prop where
  token_eq : Token.parseEphemeral token = .ok id
  find?_eq : registry.find? id = some v
  binds : registry.Binds promoted used v
  given : ∀ given, name = some given → used = given ∧ promoted.nextName = registry.nextName
  drawn : name = none → registry.promoteAuto id = .ok (used, promoted)

theorem promoted_of_promote {registry promoted : Registry} {token used : String}
    {name : Option String} (h : promote registry token name = .ok (used, promoted)) :
    ∃ id v, Promoted registry token name id v used promoted := by
  rw [promote] at h
  cases htoken : Token.parseEphemeral token with
  | error e => rw [htoken] at h; cases h
  | ok id =>
    simp only [htoken] at h
    cases name with
    | some given =>
      simp only at h
      split_ifs at h
      cases hpromote : registry.promote id given with
      | error e => rw [hpromote] at h; cases h
      | ok bound =>
        rw [hpromote] at h
        cases h
        obtain ⟨hnext, v, hfind, hbinds⟩ := Registry.binds_of_promote hpromote
        exact ⟨id, v, htoken, hfind, hbinds, fun _ heq ↦ ⟨Option.some.inj heq, hnext⟩, nofun⟩
    | none =>
      cases hpromote : registry.promoteAuto id with
      | error e => rw [hpromote] at h; cases h
      | ok named =>
        rw [hpromote] at h
        cases h
        obtain ⟨v, hfind, hbinds⟩ := Registry.binds_of_promoteAuto hpromote
        exact ⟨id, v, htoken, hfind, hbinds, nofun, fun _ ↦ hpromote⟩

/-- A promotion is rejected and changes nothing, or it redirects to the value that it bound. -/
theorem persist_cases (registry : Registry) (token : String) (name : Option String) :
    (∃ error : RouteError, persist registry token name = (error.response, registry)) ∨
      ∃ id v used promoted, Promoted registry token name id v used promoted ∧
        persist registry token name =
          (.redirect (Address.ofValue v (.persistent used)), promoted) := by
  rw [persist]
  cases hpromote : promote registry token name with
  | error error => exact .inl ⟨error, rfl⟩
  | ok named =>
    obtain ⟨used, promoted⟩ := named
    obtain ⟨id, v, hpromoted⟩ := promoted_of_promote hpromote
    -- the second lookup cannot fail: it asks for the name that was just bound
    have hresolve : promoted.resolve (.persistent used) = .ok v := by
      rw [Registry.resolve_persistent_eq_ok_iff, hpromoted.binds.named?_eq, if_pos rfl]
    refine .inr ⟨id, v, used, promoted, hpromoted, ?_⟩
    simp only [redirectTo, hresolve]

/-! ## What a task is made of -/

/-- A call is prepared once everything is found for it, and not before. -/
theorem callTask_eq_ok_iff {console : Console} {registry : Registry} {path query : String}
    {task : Task} :
    console.callTask registry path query = .ok task ↔
      ∃ invocation entry operation this values,
        Invocation.ofAddress path query = .ok invocation ∧
        console.catalog.lookup? invocation.targetType = some entry ∧
        entry.findOperation? invocation.operation invocation.parameterTypes = some operation ∧
        receiver registry operation.isStatic invocation.receiver invocation.targetType =
          .ok this ∧
        arguments registry invocation.parameters = .ok values ∧
        task = ⟨operation.signature entry.name, operation.body, this, values⟩ := by
  constructor
  · intro h
    rw [callTask] at h
    cases hinvocation : Invocation.ofAddress path query with
    | error e => simp only [hinvocation] at h; cases h
    | ok invocation =>
      simp only [hinvocation, lookup] at h
      cases hlookup : console.catalog.lookup? invocation.targetType with
      | none => simp only [hlookup] at h; cases h
      | some entry =>
        simp only [hlookup, Option.elim_some] at h
        split at h
        · cases h
        · next operation hfind =>
          split at h
          · cases h
          · next this hreceiver =>
            split at h <;> cases h
            next values hvalues =>
              exact ⟨invocation, entry, operation, this, values, rfl, hlookup, hfind, hreceiver,
                hvalues, rfl⟩
  · rintro ⟨invocation, entry, operation, this, values, hinvocation, hlookup, hfind, hreceiver,
      hvalues, rfl⟩
    simp only [callTask, hinvocation, lookup, hlookup, Option.elim_some, hfind, hreceiver, hvalues]

/-- What a call was found to be before its task is there. -/
theorem exists_of_callTask {console : Console} {registry : Registry} {path query : String}
    {task : Task} (h : console.callTask registry path query = .ok task) :
    ∃ typeName name entry operation this values,
      Invocation.target path.toList = .ok (typeName, name) ∧
      console.catalog.lookup? (String.ofList typeName) = some entry ∧
      entry.findOperation? (String.ofList name)
        ((Query.parameters (Query.pairs query.toList)).map Prod.fst) = some operation ∧
      receiver registry operation.isStatic (Query.receiver (Query.pairs query.toList))
        (String.ofList typeName) = .ok this ∧
      arguments registry ((Query.parameters (Query.pairs query.toList)).map fun p ↦ ⟨p.1, p.2⟩) =
        .ok values ∧
      task = ⟨operation.signature entry.name, operation.body, this, values⟩ := by
  obtain ⟨invocation, entry, operation, this, values, hinvocation, hlookup, hfind, hreceiver,
    hvalues, rfl⟩ := callTask_eq_ok_iff.mp h
  rw [Invocation.ofAddress] at hinvocation
  cases htarget : Invocation.target path.toList with
  | error reason => rw [htarget] at hinvocation; cases hinvocation
  | ok target =>
    obtain ⟨typeName, name⟩ := target
    rw [htarget] at hinvocation
    cases hinvocation
    rw [Invocation.parameterTypes, List.map_map] at hfind
    exact ⟨typeName, name, entry, operation, this, values, rfl, hlookup, hfind, hreceiver, hvalues,
      rfl⟩

/-- What the reading of a field was found to be before its task is there. -/
theorem exists_of_fieldTask {console : Console} {registry : Registry} {path : String}
    {receiverText : Option String} {task : Task}
    (h : console.fieldTask registry path receiverText = .ok task) :
    ∃ typeName name entry field this,
      fieldTarget? path.toList = some (typeName, name) ∧
      console.catalog.lookup? (String.ofList typeName) = some entry ∧
      entry.findField? (String.ofList name) = some field ∧
      receiver registry field.isStatic receiverText (String.ofList typeName) = .ok this ∧
      task = ⟨field.signature entry.name, field.body, this, []⟩ := by
  rw [fieldTask] at h
  cases htarget : fieldTarget? path.toList with
  | none => simp only [htarget] at h; cases h
  | some target =>
    obtain ⟨typeName, name⟩ := target
    simp only [htarget, lookup] at h
    cases hlookup : console.catalog.lookup? (String.ofList typeName) with
    | none => simp only [hlookup] at h; cases h
    | some entry =>
      simp only [hlookup, Option.elim_some] at h
      split at h
      · cases h
      · next field hfind =>
        split at h <;> cases h
        next this hreceiver =>
          exact ⟨typeName, name, entry, field, this, rfl, hlookup, hfind, hreceiver, rfl⟩

/-! ## All requests -/

/-- The task that a request prepares; only calls and reads of fields prepare one. -/
def task? (registry : Registry) : Route → Option (Except RouteError Task)
  | .call path query => some (console.callTask registry path query)
  | .field path receiver => some (console.fieldTask registry path receiver)
  | _ => none

theorem plain_redirectTo (registry : Registry) (token : Token) :
    (redirectTo registry token).Plain := by
  rw [redirectTo]
  cases registry.resolve token with
  | ok v => exact .inr (.inl rfl)
  | error e => exact .inl (RouteError.isError_response _)

theorem plain_resolve (registry : Registry) (token : String) : (resolve registry token).Plain := by
  rw [resolve]
  cases Token.parse token with
  | ok token => exact plain_redirectTo registry token
  | error e => exact .inl (RouteError.isError_response _)

theorem plain_members (typeName : String) (receiver : Option String) :
    (console.members typeName receiver).Plain := by
  rw [members]
  cases console.membersPage? typeName receiver with
  | some page => exact .inr (.inr ⟨page, rfl⟩)
  | none => exact .inl (RouteError.isError_response _)

/-- How a request ends: with which reply, and in which world. -/
inductive Ends (world : World) (route : Route) : Reply → World → Prop
  | unprepared {error : RouteError}
      (htask : console.task? world.registry route = some (.error error)) :
      Ends world route (.ok error.response) world
  | performed {task : Task} {reply : Reply} {world' : World}
      (htask : console.task? world.registry route = some (.ok task))
      (hends : task.Ends console moment world reply world') :
      Ends world route reply world'
  | unnamed {token : String} {name : Option String} {error : RouteError}
      (hroute : route = .persist token name) : Ends world route (.ok error.response) world
  | named {token used : String} {name : Option String} {id : Uuid} {v : Value}
      {promoted : Registry} (hroute : route = .persist token name)
      (hpromoted : Promoted world.registry token name id v used promoted) :
      Ends world route (.ok (.redirect (Address.ofValue v (.persistent used))))
        { world with registry := promoted }
  | answered {response : Response} (htask : console.task? world.registry route = none)
      (hpersist : ∀ token name, route ≠ .persist token name) (hplain : response.Plain) :
      Ends world route (.ok response) world

/-- What prepares no task and names no value is answered from the registry as it is. -/
theorem exists_plain_of_task?_eq_none {world : World} {route : Route}
    (htask : console.task? world.registry route = none)
    (hpersist : ∀ token name, route ≠ .persist token name) :
    ∃ response : Response, response.Plain ∧
      console.dispatch moment route world = (.ok response, world) := by
  cases route with
  | call path query => cases htask
  | field path receiver => cases htask
  | persist token name => exact absurd rfl (hpersist token name)
  | root => exact ⟨_, .inr (.inl rfl), rfl⟩
  | members typeName receiver => exact ⟨_, console.plain_members typeName receiver, rfl⟩
  | unrouted path => exact ⟨_, .inl (RouteError.isError_response _), rfl⟩
  | resolve token => exact ⟨_, plain_resolve world.registry token, rfl⟩

theorem dispatch_of_task? {route : Route} {prepared : Except RouteError Task} (world : World)
    (h : console.task? world.registry route = some prepared) :
    console.dispatch moment route world = console.performOrReject moment prepared world := by
  cases route <;> cases h <;> rfl

theorem dispatch_ends {route : Route} {world world' : World} {reply : Reply}
    (h : console.dispatch moment route world = (reply, world')) :
    console.Ends moment world route reply world' := by
  cases htask : console.task? world.registry route with
  | some prepared =>
    rw [console.dispatch_of_task? moment world htask] at h
    cases prepared with
    | error e =>
      cases h
      exact .unprepared htask
    | ok task => exact .performed htask (console.perform_ends moment h)
  | none =>
    by_cases hpersist : ∃ token name, route = .persist token name
    · obtain ⟨token, name, rfl⟩ := hpersist
      rw [dispatch] at h
      rcases persist_cases world.registry token name with ⟨error, hrejected⟩ |
        ⟨id, v, used, promoted, hpromoted, hredirected⟩
      · rw [hrejected] at h
        cases h
        exact .unnamed rfl
      · rw [hredirected] at h
        cases h
        exact .named rfl hpromoted
    · push Not at hpersist
      obtain ⟨response, hplain, hdispatch⟩ :=
        console.exists_plain_of_task?_eq_none moment htask hpersist
      rw [hdispatch] at h
      cases h
      exact .answered htask hpersist hplain

theorem handle_ends {path : String} {query : Option String} {world world' : World} {reply : Reply}
    (h : console.handle moment path query world = (reply, world')) :
    console.Ends moment world (.ofAddress path query) reply world' :=
  console.dispatch_ends moment h

/-- A request runs the task that it prepares, or it leaves the heap and the delegate alone. -/
theorem performed_or_eq {path : String} {query : Option String} {world world' : World}
    {reply : Reply} (h : console.handle moment path query world = (reply, world')) :
    (∃ task, console.task? world.registry (.ofAddress path query) = some (.ok task) ∧
      console.perform moment task world = (reply, world')) ∨
    ((∀ task, console.task? world.registry (.ofAddress path query) ≠ some (.ok task)) ∧
      world'.heap = world.heap ∧ world'.delegate = world.delegate) := by
  cases console.handle_ends moment h with
  | @performed task _ _ htask hends =>
    rw [handle, console.dispatch_of_task? moment world htask] at h
    exact .inl ⟨task, htask, h⟩
  | unprepared htask =>
    refine .inr ⟨fun task heq ↦ ?_, rfl, rfl⟩
    rw [htask] at heq
    cases heq
  | unnamed hroute | named hroute _ =>
    refine .inr ⟨fun task heq ↦ ?_, rfl, rfl⟩
    rw [hroute] at heq
    cases heq
  | answered htask hpersist hplain =>
    refine .inr ⟨fun task heq ↦ ?_, rfl, rfl⟩
    rw [htask] at heq
    cases heq

end Console

end ObjectConsole
