import ObjectConsole.Proofs.Console.Reachable

/-!
# What one request does to the registry

A response tells by its status what became of the registry. Errors leave all of it as it was,
whenever in the course of a request they were found; a redirect of a promotion stands for one name,
and the page of a result for at most one entry. Everything else is reading.

The new entry stands under an identifier that no entry had before. Only this needs a reachable
world, and a source that does not repeat an identifier.
-/

namespace ObjectConsole.Console

open Store

variable {console : Console} {moment : Moment} {path : String} {query : Option String}
  {world world' : World} {response : Response}

theorem isError_or_eq_ok_of_ends {task : Task}
    (h : task.Ends console moment world (.ok response) world') :
    response.status.IsError ∧ world.SameRegistry world' ∨ response.status = .ok := by
  cases h with
  | refused houtcome hsame => exact .inl ⟨RouteError.isError_response _, hsame⟩
  | raised houtcome hguard hsame => exact .inr rfl
  | null houtcome hsame => exact .inr rfl
  | value houtcome hv hregistry hdrawn hreply =>
    obtain ⟨rendered, -, rfl⟩ := valueReply_eq_ok_iff.mp hreply.symm
    exact .inr rfl

/-- An error changes nothing, also when it is found after the name was bound or the body was run. -/
theorem registry_eq_of_isError
    (h : console.handle moment path query world = (.ok response, world'))
    (herror : response.status.IsError) : world'.registry = world.registry := by
  cases console.handle_ends moment h with
  | unprepared htask => rfl
  | unnamed hroute => rfl
  | named hroute hpromoted => exact absurd herror Status.not_isError_redirect
  | answered htask hpersist hplain => rfl
  | performed htask hends =>
    rcases isError_or_eq_ok_of_ends hends with ⟨-, hsame⟩ | hok
    · exact hsame.registry_eq
    · rw [hok] at herror
      exact absurd herror Status.not_isError_ok

theorem world_eq_of_redirect
    (h : console.handle moment path query world = (.ok response, world'))
    (hredirect : response.status = .redirect)
    (hpersist : ∀ token name, Route.ofAddress path query ≠ .persist token name) :
    world' = world := by
  cases console.handle_ends moment h with
  | unprepared htask => rfl
  | unnamed hroute => rfl
  | named hroute hpromoted => exact absurd hroute (hpersist _ _)
  | answered htask hpersist hplain => rfl
  | performed htask hends =>
    rcases isError_or_eq_ok_of_ends hends with ⟨herror, -⟩ | hok
    · rw [hredirect] at herror
      exact absurd herror Status.not_isError_redirect
    · rw [hredirect] at hok
      cases hok

theorem world_eq_of_members
    (h : console.handle moment path query world = (.ok response, world')) {typeName : String}
    {receiver : Option String}
    (hmembers : Route.ofAddress path query = .members typeName receiver) :
    world' = world := by
  cases console.handle_ends moment h with
  | unprepared htask => rfl
  | unnamed hroute => rfl
  | named hroute hpromoted => rw [hmembers] at hroute; cases hroute
  | answered htask hpersist hplain => rfl
  | performed htask hends => rw [hmembers] at htask; cases htask

theorem promoted_of_redirect
    (h : console.handle moment path query world = (.ok response, world')) {token : String}
    {name : Option String} (hpersist : Route.ofAddress path query = .persist token name)
    (hredirect : response.status = .redirect) :
    ∃ id v used, response = .redirect (Address.ofValue v (.persistent used)) ∧
      Promoted world.registry token name id v used world'.registry := by
  cases console.handle_ends moment h with
  | unprepared htask => rw [hpersist] at htask; cases htask
  | performed htask hends => rw [hpersist] at htask; cases htask
  | answered htask hother hplain => exact absurd hpersist (hother _ _)
  | unnamed hroute =>
    have herror := RouteError.isError_response ‹RouteError›
    rw [hredirect] at herror
    exact absurd herror Status.not_isError_redirect
  | named hroute hpromoted =>
    rw [hpersist] at hroute
    cases hroute
    exact ⟨_, _, _, rfl, hpromoted⟩

/-- A page that answers a call or the reading of a field shows how the body ended, and a value that
is not null was added for it. -/
theorem outcome_of_result
    (h : console.handle moment path query world = (.ok response, world'))
    {prepared : Except RouteError Task}
    (hprepared : console.task? world.registry (.ofAddress path query) = some prepared)
    (hok : response.status = .ok) :
    ∃ task outcome, prepared = .ok task ∧ task.outcome? moment world = some outcome ∧
      (∀ v, outcome = .returned v → v ≠ .null → world'.registry =
        world.registry.add moment.now (console.identifier world.drawn) v) ∧
      ((∀ v, outcome = .returned v → v = .null) → world'.registry = world.registry) := by
  have hnotError : ¬response.status.IsError := by
    rw [hok]
    exact Status.not_isError_ok
  cases console.handle_ends moment h with
  | unprepared htask => exact absurd (RouteError.isError_response _) hnotError
  | unnamed hroute => exact absurd (RouteError.isError_response _) hnotError
  | named hroute hpromoted => cases hok
  | answered htask hpersist hplain => rw [hprepared] at htask; cases htask
  | performed htask hends =>
    rw [hprepared] at htask
    have hprepared' := Option.some.inj htask
    cases hends with
    | refused houtcome hsame => exact absurd (RouteError.isError_response _) hnotError
    | raised houtcome hguard hsame =>
      refine ⟨_, _, hprepared', houtcome, ?_, fun _ ↦ hsame.registry_eq⟩
      rintro v rfl
      cases hguard
    | null houtcome hsame =>
      refine ⟨_, _, hprepared', houtcome, ?_, fun _ ↦ hsame.registry_eq⟩
      rintro v ⟨⟩ hv
      exact absurd rfl hv
    | value houtcome hv hregistry hdrawn hreply =>
      refine ⟨_, _, hprepared', houtcome, ?_, fun hnull ↦ absurd (hnull _ rfl) hv⟩
      rintro v ⟨⟩ -
      exact hregistry

/-- **The effect of a request on the registry.** When a request gets a response:

* an error leaves the registry as it was;
* a redirect of a promotion binds one name, given or drawn, to the value that was there, and moves
  the counter only to draw the name;
* any other redirect and any page of members leave the world as it was;
* the page of a result adds exactly the value that the body returned, under the next identifier, and
  nothing when that was null or the body did not return. In a reachable world the identifier is new,
  as long as the source does not repeat itself, and then the entries that were there are still
  there. -/
theorem effect_of_request (h : console.handle moment path query world = (.ok response, world')) :
    (response.status.IsError → world'.registry = world.registry) ∧
    (∀ token name, Route.ofAddress path query = .persist token name →
      response.status = .redirect →
      ∃ id v used, Token.parseEphemeral token = .ok id ∧ world.registry.find? id = some v ∧
        response = .redirect (Address.ofValue v (.persistent used)) ∧
        world'.registry.ephemeral = world.registry.ephemeral ∧
        (∀ other, world'.registry.named? other =
          if other = used then some v else world.registry.named? other) ∧
        (∀ given, name = some given →
          used = given ∧ world'.registry.nextName = world.registry.nextName) ∧
        (name = none → world.registry.promoteAuto id = .ok (used, world'.registry))) ∧
    (response.status = .redirect →
      (∀ token name, Route.ofAddress path query ≠ .persist token name) → world' = world) ∧
    (∀ typeName receiver, Route.ofAddress path query = .members typeName receiver →
      world' = world) ∧
    (∀ prepared, console.task? world.registry (.ofAddress path query) = some prepared →
      response.status = .ok →
      ∃ task outcome, prepared = .ok task ∧ task.outcome? moment world = some outcome ∧
        (∀ v, outcome = .returned v → v ≠ .null →
          (∀ id, world'.registry.ephemeral.get? id =
            if id = console.identifier world.drawn then some ⟨moment.now, v⟩
            else world.registry.ephemeral.get? id) ∧
          world'.registry.persistent = world.registry.persistent ∧
          world'.registry.nextName = world.registry.nextName) ∧
        ((∀ v, outcome = .returned v → v = .null) → world'.registry = world.registry)) ∧
    (console.Reachable world →
      (∀ k < world.drawn, console.identifier k ≠ console.identifier world.drawn) →
      world.registry.ephemeral.get? (console.identifier world.drawn) = none) := by
  refine ⟨registry_eq_of_isError h, fun token name hpersist hredirect ↦ ?_,
    world_eq_of_redirect h, fun typeName receiver ↦ world_eq_of_members h,
    fun prepared hprepared hok ↦ ?_, Reachable.get?_eq_none⟩
  · obtain ⟨id, v, used, hresponse, hpromoted⟩ := promoted_of_redirect h hpersist hredirect
    exact ⟨id, v, used, hpromoted.token_eq, hpromoted.find?_eq, hresponse,
      hpromoted.binds.ephemeral_eq, hpromoted.binds.named?_eq, hpromoted.given, hpromoted.drawn⟩
  · obtain ⟨task, outcome, htask, houtcome, hvalue, hnone⟩ := outcome_of_result h hprepared hok
    refine ⟨task, outcome, htask, houtcome, fun v hreturned hv ↦ ?_, hnone⟩
    rw [hvalue v hreturned hv]
    exact ⟨fun id ↦ Registry.get?_add _ _ _ _, rfl, rfl⟩

/-- A console with one operation, which returns a given value. -/
def returning (v : Value) : Console where
  catalog := .ofTypes [(TypeEntry.mk "T" [] []).static "f" [] "T" fun _ _ _ heap ↦
    (.returned v, heap)]
  rootType := "T"
  identifier := Uuid.ofNat

/-- A world in which one identifier was drawn for something else. -/
def drawnOnce : World :=
  { drawn := 1 }

theorem reachable_drawnOnce (console : Console) : console.Reachable drawnOnce :=
  ⟨{}, rfl, rfl, .single .draw⟩

theorem effect_of_request_returning_true :
    ∃ response world', (returning (.bool true)).handle ⟨5, 0, ⟨0, none⟩⟩ "/T/f" (some "call")
        drawnOnce = (.ok response, world') ∧ response.status = .ok ∧
      drawnOnce.registry.ephemeral.get? (.ofNat 1) = none ∧
      world'.registry.ephemeral.get? (.ofNat 1) = some ⟨5, .bool true⟩ ∧
      world'.registry.persistent = drawnOnce.registry.persistent := by
  have hfresh : ∀ k < drawnOnce.drawn, (returning (.bool true)).identifier k ≠
      (returning (.bool true)).identifier drawnOnce.drawn := by decide
  obtain ⟨response, world', h, hok⟩ : ∃ response world', (returning (.bool true)).handle
      ⟨5, 0, ⟨0, none⟩⟩ "/T/f" (some "call") drawnOnce = (.ok response, world') ∧
        response.status = .ok := ⟨_, _, rfl, rfl⟩
  obtain ⟨-, -, -, -, hresult, hnew⟩ := effect_of_request h
  obtain ⟨task, outcome, htask, houtcome, hvalue, -⟩ := hresult _ rfl hok
  cases htask
  cases houtcome
  obtain ⟨hget, hpersistent, -⟩ := hvalue _ rfl nofun
  exact ⟨response, world', h, hok, hnew (reachable_drawnOnce _) hfresh,
    (hget _).trans (if_pos rfl), hpersistent⟩

end ObjectConsole.Console
