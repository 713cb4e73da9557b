import ObjectConsole.Proofs.Console.Dispatch

/-!
# What the console answers with

There are few kinds of response, and each is made in one place: two redirects, the page of a type's
members, three pages of a call that was made, and the errors. `Console.Gives` lists them with all
that they are made of, so that what is true of every response (of its links, its markup, its
headers) is shown kind by kind and never handler by handler.
-/

namespace ObjectConsole.Console

/-- The responses that a console gives. -/
inductive Gives (console : Console) : Response → Prop
  | start : Gives console (.redirect (Address.ofType console.rootType))
  | redirect (v : Value) (token : Token) : Gives console (.redirect (Address.ofValue v token))
  | members {typeName : String} {receiver : Option String} {page : MembersPage}
      (h : console.membersPage? typeName receiver = some page) : Gives console (.page page.markup)
  | null (signature : String) : Gives console (.page (resultPage (resultLine signature "null") ""))
  | value (signature : String) {heap : Heap} {v : Value} {rendered : String} (id : Uuid)
      (h : v.render heap = .ok rendered) :
      Gives console
        (.page (resultPage (resultLine signature rendered) (valueLink v (.ephemeral id))))
  | failure (signature : String) (failure : Failure) :
      Gives console (.page (resultPage (failureLine signature failure) ""))
  | error (error : RouteError) : Gives console error.response

variable (console : Console) {moment : Moment} {world world' : World} {response : Response}

theorem gives_members (typeName : String) (receiver : Option String) :
    console.Gives (console.members typeName receiver) := by
  rw [Console.members]
  cases hpage : console.membersPage? typeName receiver with
  | some page => exact .members hpage
  | none => exact .error (.unknownType typeName)

theorem gives_redirectTo (registry : Registry) (token : Token) :
    console.Gives (redirectTo registry token) := by
  rw [redirectTo]
  cases registry.resolve token with
  | ok v => exact .redirect v token
  | error e => exact .error (.noSuchObject e)

theorem gives_resolve (registry : Registry) (token : String) :
    console.Gives (resolve registry token) := by
  rw [resolve]
  cases Token.parse token with
  | ok token => exact console.gives_redirectTo registry token
  | error e => exact .error (.badToken e)

theorem gives_persist (registry : Registry) (token : String) (name : Option String) :
    console.Gives (persist registry token name).1 := by
  rw [persist]
  cases promote registry token name with
  | ok named => exact console.gives_redirectTo _ _
  | error e => exact .error e

theorem gives_of_ends {task : Task} (h : task.Ends console moment world (.ok response) world') :
    console.Gives response := by
  cases h with
  | refused houtcome hsame => exact .error (.unavailable .shutDown)
  | raised houtcome hguard hsame => exact .failure task.signature _
  | null houtcome hsame => exact .null task.signature
  | value houtcome hv hregistry hdrawn hreply =>
    obtain ⟨rendered, hrender, rfl⟩ := valueReply_eq_ok_iff.mp hreply.symm
    exact .value task.signature _ hrender

theorem gives_of_dispatch {route : Route}
    (h : console.dispatch moment route world = (.ok response, world')) :
    console.Gives response := by
  cases htask : console.task? world.registry route with
  | some prepared =>
    rw [console.dispatch_of_task? moment world htask] at h
    cases prepared with
    | error e => cases h; exact .error e
    | ok task => exact console.gives_of_ends (console.perform_ends moment h)
  | none =>
    cases route with
    | call path query => cases htask
    | field path receiver => cases htask
    | root => cases h; exact .start
    | members typeName receiver => cases h; exact console.gives_members typeName receiver
    | persist token name => cases h; exact console.gives_persist world.registry token name
    | resolve token => cases h; exact console.gives_resolve world.registry token
    | unrouted path => cases h; exact .error (.unrouted path)

variable {console}

/-- A page of members is that of a type in the catalog, or it has no members. -/
theorem eq_of_membersPage? {typeName : String} {receiver : Option String} {page : MembersPage}
    (h : console.membersPage? typeName receiver = some page) :
    (∃ entry, console.catalog.lookup? typeName = some entry ∧ page = .ofEntry entry receiver) ∨
      page = .bare typeName receiver := by
  rw [membersPage?] at h
  cases hlookup : console.catalog.lookup? typeName with
  | some entry =>
    rw [hlookup] at h
    exact .inl ⟨entry, rfl, (Option.some.inj h).symm⟩
  | none =>
    rw [hlookup] at h
    dsimp only at h
    split at h
    · exact .inr (Option.some.inj h).symm
    · cases h

theorem gives_of_handle {path : String} {query : Option String}
    (h : console.handle moment path query world = (.ok response, world')) :
    console.Gives response :=
  console.gives_of_dispatch h

end ObjectConsole.Console
