import ObjectConsole.Proofs.Console.Dispatch
import ObjectConsole.Proofs.Console.TypedDispatch
import ObjectConsole.Proofs.Console.ValueAddress
import ObjectConsole.Proofs.Reference.Token

/-!
# Values under a name

A name may be any text but the empty one, and it goes a long way: it is given in a query, kept in
the registry, written as a token into the address of a page, read from there as the receiver of that
page and written into its links. `Console.persisted_found` follows it. On the way a name is never
taken for anything else, since a token has its mark in front and the rest of it is encoded wherever
it stands among other things.

Only the last step can fail. The receiver of a call is the text of the last key `this`, so where an
operation has a parameter type of that very name, its link has two of them, and the second has no
text.
-/

namespace ObjectConsole

open Text

/-! ## Routes of tokens -/

namespace Route

theorem dropSlashes_slash_token (token : Token) :
    dropSlashes ('/' :: token.text.toList) = token.text.toList := by
  have hslash : token.text.toList.head? ≠ some '/' := by
    obtain ⟨mark, rest, hmark, htext⟩ := token.exists_text_eq
    rw [htext]
    rcases hmark with rfl | rfl <;> simp
  exact dropSlashes_replicate_append 1 hslash

theorem ofAddress_token {path : String} {query : Option String} (token : Token)
    (hpath : Percent.decode path = "/" ++ token.text)
    (hcall : behindVerb? "call" (query.getD "").toList = none)
    (hget : behindVerb? "get" (query.getD "").toList = none) :
    ofAddress path query = ofPath ('/' :: token.text.toList) (query.getD "").toList := by
  have hchars : Percent.decodeChars path.toList = '/' :: token.text.toList := by
    have htexts := congrArg String.toList hpath
    simpa using htexts
  obtain ⟨mark, rest, -, htext⟩ := token.exists_text_eq
  have hroot : ¬('/' :: token.text.toList = [] ∨ '/' :: token.text.toList = ['/']) := by
    rw [htext]
    simp
  rw [ofAddress, ofChars, hchars, if_neg hroot, hcall, hget]

theorem ofAddress_resolve (token : Token) {path : String}
    (hpath : Percent.decode path = "/" ++ token.text) :
    ofAddress path none = .resolve token.text := by
  rw [ofAddress_token token hpath rfl rfl, ofPath, dropSlashes_slash_token]
  cases token with
  | ephemeral id =>
    rw [Token.toList_text_ephemeral]
    simp only
    rw [← Token.toList_text_ephemeral, String.ofList_toList]
    rfl
  | persistent name =>
    rw [Token.toList_text_persistent]
    simp only
    rw [← Token.toList_text_persistent, String.ofList_toList]

theorem ofAddress_persist (id : Uuid) (name : String) {path : String}
    (hpath : Percent.decode path = "/" ++ (Token.ephemeral id).text) :
    ofAddress path (some ("persist=" ++ Percent.encode name)) =
      .persist (Token.ephemeral id).text (some name) := by
  have hquery : ("persist=" ++ Percent.encode name).toList =
      "persist".toList ++ ('=' :: Percent.encodeChars name.toList) := by
    simp
  have hverb : behindVerb? "persist" ("persist=" ++ Percent.encode name).toList =
      some ('=' :: Percent.encodeChars name.toList) := by
    rw [hquery]
    exact behindVerb?_append (by simp)
  have hname : name? ('=' :: Percent.encodeChars name.toList) = some name := by
    have hequals : behind? ['='] ('=' :: Percent.encodeChars name.toList) =
        some (Percent.encodeChars name.toList) := behind?_eq_some_iff.mpr rfl
    rw [name?, hequals, Option.map_some, Percent.decodeChars_encodeChars, String.ofList_toList]
  rw [ofAddress_token (.ephemeral id) hpath (by simp [behindVerb?, behind?])
    (by simp [behindVerb?, behind?]), ofPath, dropSlashes_slash_token, Token.toList_text_ephemeral]
  simp only [Option.getD_some, hverb, hname]
  rw [← Token.toList_text_ephemeral, String.ofList_toList]

end Route

/-! ## Receivers of links -/

/-- When a parameter has the type that the receiver's key is reserved for, it stands behind the
receiver and gives no text. -/
theorem Operation.receiver_linkPieces_of_mem (operation : Operation) (receiver : Option String)
    (h : Query.receiverKey ∈ operation.parameters) :
    Query.receiver
        (Query.pairs ((operation.linkPieces receiver).flatMap fun piece ↦ '&' :: piece)) =
      none := by
  rw [operation.pairs_linkPieces, Query.receiver, List.filter_append]
  generalize hgiven : ((operation.parameters.filter fun type ↦ type ≠ "").map
      fun type ↦ (type, (none : Option String))).filter (fun p ↦ p.1 = Query.receiverKey) = given
  have hmem : (Query.receiverKey, none) ∈ given := by
    rw [← hgiven]
    simpa [Query.receiverKey] using h
  have hnone : ∀ p ∈ given, p.2 = none := by
    rw [← hgiven]
    intro p hp
    obtain ⟨type, -, rfl⟩ := List.mem_map.mp (List.mem_filter.mp hp).1
    rfl
  have hne : given ≠ [] := List.ne_nil_of_mem hmem
  rw [List.getLast?_append_of_ne_nil _ hne, List.getLast?_eq_some_getLast hne, Option.bind_some]
  exact hnone _ (List.getLast_mem hne)

theorem Invocation.receiver_eq {path query : String} {invocation : Invocation}
    (h : ofAddress path query = .ok invocation) :
    invocation.receiver = Query.receiver (Query.pairs query.toList) := by
  rw [ofAddress] at h
  split at h
  · cases h
  · cases h
    rfl

/-- The link of an operation on a receiver hands over the value that the receiver's token refers to,
however the link is read as a call, unless a parameter has the type that is reserved. -/
theorem Address.receiver_ofCall_iff (typeName : String) {operation : Operation}
    (hstatic : operation.isStatic = false) {registry : Registry} {token : Token} {v : Value}
    (hparse : Token.parse token.text = .ok token) (hresolve : registry.resolve token = .ok v) :
    ∃ path query callPath callQuery,
      halves? (ofCall typeName operation (some token.text)) = some (path, query) ∧
      Route.ofAddress path (some query) = .call callPath callQuery ∧
      ∀ invocation, Invocation.ofAddress callPath callQuery = .ok invocation →
        (Coercion.receiver registry invocation.receiver invocation.targetType = .ok v ↔
          Query.receiverKey ∉ operation.parameters) := by
  refine ⟨_, _, _, _, halves?_ofCall _ _ _, Route.ofAddress_call _ _ _, fun invocation h ↦ ?_⟩
  have hreceiver := Invocation.receiver_eq h
  rw [String.toList_ofList] at hreceiver
  rw [Coercion.receiver, Coercion.reference_eq_ok_iff, hreceiver]
  by_cases hkey : Query.receiverKey ∈ operation.parameters
  · rw [operation.receiver_linkPieces_of_mem _ hkey]
    refine iff_of_false ?_ (not_not_intro hkey)
    rintro ⟨s, other, hs, -⟩
    cases hs
  · rw [operation.receiver_linkPieces _ fun type hmem heq ↦ hkey (heq ▸ hmem), hstatic]
    exact iff_of_true ⟨_, token, rfl, hparse, hresolve⟩ hkey

namespace Console

variable {console : Console} {registry : Registry} {id : Uuid} {v : Value} {name : String}

theorem persist_eq_redirect (hfind : registry.find? id = some v) (hname : name ≠ "") :
    persist registry (Token.ephemeral id).text (some name) =
      (.redirect (Address.ofValue v (.persistent name)), registry.bind name v) := by
  have hpromote : promote registry (Token.ephemeral id).text (some name) =
      .ok (name, registry.bind name v) := by
    simp only [promote, Token.parseEphemeral_text, if_neg hname, Registry.promote, hfind]
  have hresolve : (registry.bind name v).resolve (.persistent name) = .ok v := by
    rw [Registry.resolve_persistent_eq_ok_iff, Registry.named?_bind, if_pos rfl]
  simp only [persist, hpromote, redirectTo, hresolve]

theorem resolve_eq_redirect {token : Token} (hparse : Token.parse token.text = .ok token)
    (hresolve : registry.resolve token = .ok v) :
    resolve registry token.text = .redirect (Address.ofValue v token) := by
  simp only [resolve, hparse, redirectTo, hresolve]

theorem exists_members_links {typeName : String} (hknows : console.Knows typeName)
    (receiver : Option String) :
    ∃ page : MembersPage, console.members typeName receiver = .page page.markup ∧
      linked "call" page.markup =
        ((console.catalog.lookup? typeName).elim [] TypeEntry.operations).map fun operation ↦
          (operation.signature typeName ++ " ", Address.ofCall typeName operation receiver) := by
  rw [members, membersPage?]
  cases hlookup : console.catalog.lookup? typeName with
  | some entry =>
    refine ⟨.ofEntry entry receiver, rfl, ?_⟩
    rw [linked_call_ofEntry, Catalog.name_of_lookup? hlookup]
    rfl
  | none =>
    have hbuiltin := hknows.resolve_left (by rw [hlookup]; exact Bool.false_ne_true)
    refine ⟨.bare typeName receiver, by simp only [if_pos hbuiltin], ?_⟩
    rw [linked, MembersPage.listed_markup]
    rfl

/-- **A value is found again under the name it was given.** Let a live entry be promoted under a
name that is not empty, by the path of its token in any spelling and the encoded name. Then exactly
that name is bound to the value, and the redirect leads where the path of the name leads from then
on, as long as the name stands for the value. If the type of the value is addressable, this is the
page of its members seen from the name. Each call link of an instance operation there, as far as it
can be read as a call, hands over the value as the receiver, unless the operation has a parameter of
the type that is reserved for the receiver. -/
theorem persisted_found (console : Console) {world : World} {id : Uuid} {v : Value} {name : String}
    (hfind : world.registry.find? id = some v) (hname : name ≠ "") :
    (∀ path ∈ ["/" ++ (Token.ephemeral id).text, "/" ++ Percent.encode (Token.ephemeral id).text],
      Percent.decode path = "/" ++ (Token.ephemeral id).text) ∧
    (∀ moment path, Percent.decode path = "/" ++ (Token.ephemeral id).text →
      ∃ registry, world.registry.Binds registry name v ∧
        registry.nextName = world.registry.nextName ∧
        console.handle moment path (some ("persist=" ++ Percent.encode name)) world =
          (.ok (.redirect (Address.ofValue v (.persistent name))),
            { world with registry := registry })) ∧
    ∀ moment (later : World), later.registry.named? name = some v →
      console.handle moment ("/" ++ Percent.encode ("$" ++ name)) none later =
        (.ok (.redirect (Address.ofValue v (.persistent name))), later) ∧
      (Route.Addressable v.typeName →
        ∃ path query, Address.halves? (Address.ofValue v (.persistent name)) = some (path, query) ∧
          Route.ofAddress path (some query) = .members v.typeName (some ("$" ++ name)) ∧
          (console.Knows v.typeName → ∃ response,
            console.handle moment path (some query) later = (.ok response, later) ∧
            List.Forall₂
              (fun operation link ↦ operation.isStatic = false →
                ∃ path query callPath callQuery, Address.halves? link.2 = some (path, query) ∧
                  Route.ofAddress path (some query) = .call callPath callQuery ∧
                  ∀ invocation, Invocation.ofAddress callPath callQuery = .ok invocation →
                    (Coercion.receiver later.registry invocation.receiver invocation.targetType =
                        .ok v ↔
                      Query.receiverKey ∉ operation.parameters))
              ((console.catalog.lookup? v.typeName).elim [] TypeEntry.operations)
              (linked "call" response.body))) := by
  refine ⟨?_, ?_, ?_⟩
  · intro path hpath
    rcases List.mem_pair.mp hpath with rfl | rfl
    · exact Percent.decode_slash_of_notMem (Token.percent_notMem_text_ephemeral id)
    · exact Percent.decode_slash_encode _
  · intro moment path hpath
    refine ⟨world.registry.bind name v, ⟨rfl, fun _ ↦ Registry.named?_bind _ _ _⟩, rfl, ?_⟩
    rw [handle, Route.ofAddress_persist id name hpath, dispatch, persist_eq_redirect hfind hname]
  · intro moment later hnamed
    have hparse := Token.parse_text_persistent hname
    have hresolve := Registry.resolve_persistent_eq_ok_iff.mpr hnamed
    constructor
    · have hroute : Route.ofAddress ("/" ++ Percent.encode ("$" ++ name)) none =
          .resolve (Token.persistent name).text :=
        Route.ofAddress_resolve (.persistent name) (Percent.decode_slash_encode _)
      rw [handle, hroute, dispatch, resolve_eq_redirect hparse hresolve]
    · intro haddressable
      have hroute :=
        (Route.ofAddress_ofType_eq_members_iff v.typeName (.persistent name)).mpr haddressable
      refine ⟨_, _, Address.halves?_ofValue v (.persistent name), hroute, fun hknows ↦ ?_⟩
      obtain ⟨page, hpage, hlinks⟩ :=
        exists_members_links hknows (some (Token.persistent name).text)
      refine ⟨.page page.markup, ?_, ?_⟩
      · rw [handle, hroute, dispatch, hpage]
      · change List.Forall₂ _ _ (linked "call" page.markup)
        rw [hlinks, List.forall₂_map_right_iff, List.forall₂_same]
        intro operation _ hstatic
        exact Address.receiver_ofCall_iff v.typeName hstatic hparse hresolve

/-- An object of a type with two operations. The one has a parameter of the reserved type, so a call
by its link is a call of the other. -/
def thing : Value :=
  .object (.foreign "T" (.shows "x"))

/-- The type of that object. -/
def thingType : TypeEntry :=
  ((TypeEntry.mk "T" [] []).instanceOp "f" ["this"] "T" fun _ _ _ heap ↦
    (.returned .null, heap)).instanceOp "f" [] "T" fun _ _ _ heap ↦ (.returned .null, heap)

/-- A console with that type. -/
def reserving : Console where
  catalog := .ofTypes [thingType]
  rootType := "T"
  identifier := Uuid.ofNat

/-- A world in which that object was added. -/
def holding : World where
  registry := (∅ : Registry).add 0 .nil thing

theorem persisted_found_thing :
    ∃ (later : World) (path query : String) (response : Response),
      later.registry.named? "/$[n]=&" = some thing ∧
      reserving.handle ⟨0, 0, ⟨0, none⟩⟩ ("/" ++ (Token.ephemeral .nil).text)
        (some ("persist=" ++ Percent.encode "/$[n]=&")) holding =
          (.ok (.redirect (Address.ofValue thing (.persistent "/$[n]=&"))), later) ∧
      reserving.handle ⟨0, 0, ⟨0, none⟩⟩ ("/" ++ Percent.encode "$/$[n]=&") none later =
          (.ok (.redirect (Address.ofValue thing (.persistent "/$[n]=&"))), later) ∧
      Address.halves? (Address.ofValue thing (.persistent "/$[n]=&")) = some (path, query) ∧
      reserving.handle ⟨0, 0, ⟨0, none⟩⟩ path (some query) later = (.ok response, later) ∧
      (linked "call" response.body).length = 2 := by
  have hfind : holding.registry.find? .nil = some thing := by decide
  have haddressable : Route.Addressable thing.typeName :=
    ⟨by decide, by decide, by decide, by decide⟩
  obtain ⟨hpaths, hpersist, hlater⟩ :=
    persisted_found reserving hfind (show "/$[n]=&" ≠ "" by decide)
  obtain ⟨registry, hbinds, -, hhandle⟩ :=
    hpersist ⟨0, 0, ⟨0, none⟩⟩ _ (hpaths _ List.mem_cons_self)
  have hnamed : registry.named? "/$[n]=&" = some thing :=
    (hbinds.named?_eq _).trans (if_pos rfl)
  obtain ⟨hresolve, hpage⟩ := hlater ⟨0, 0, ⟨0, none⟩⟩ { holding with registry := registry } hnamed
  obtain ⟨path, query, hhalves, -, hmembers⟩ := hpage haddressable
  obtain ⟨response, hresponse, hlinks⟩ := hmembers (.inl (by decide))
  exact ⟨_, path, query, response, hnamed, hhandle, hresolve, hhalves, hresponse,
    hlinks.length_eq.symm⟩

/-- The link of an operation with a parameter of the reserved type gives no receiver. -/
theorem receiver_lost_thing :
    let moment : Moment := ⟨0, 0, ⟨0, none⟩⟩
    let later : World := { holding with registry := holding.registry.bind "n" thing }
    reserving.handle moment ("/" ++ (Token.ephemeral .nil).text) (some "persist=n") holding =
      (.ok (.redirect "/T?$n"), later) ∧
    (∃ response, reserving.handle moment "/T" (some "$n") later = (.ok response, later) ∧
      ("T T.f(this) ", "/T/f?call&this=$n&this") ∈ linked "call" response.body) ∧
    Route.ofAddress "/T/f" (some "call&this=$n&this") = .call "/T/f" "&this=$n&this" ∧
    Invocation.ofAddress "/T/f" "&this=$n&this" = .ok ⟨"T", "f", none, []⟩ ∧
    Coercion.receiver later.registry none "T" =
      .error (.valueFormat "T" none .missingReference) := by
  intro moment later
  refine ⟨rfl, ⟨.page (MembersPage.ofEntry thingType (some "$n")).markup, rfl, ?_⟩, rfl, rfl, rfl⟩
  have hlinks := linked_call_ofEntry thingType (some "$n")
  change _ ∈ linked "call" (MembersPage.ofEntry thingType (some "$n")).markup
  rw [hlinks]
  exact List.mem_cons_self

end Console

end ObjectConsole
