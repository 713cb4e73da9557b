import ObjectConsole.Console.Route
import ObjectConsole.Proofs.Console.Invocation
import ObjectConsole.Proofs.Console.Listing
import ObjectConsole.Proofs.Operation.Catalog
import Mathlib.Data.List.Forall2

/-!
# Where call links lead

The page of a type offers each operation as a link. What a visitor follows is not the address that
was built but the one found on the page, and it goes through readers that were written apart from
the builder: the halves are cut at the first question mark, the path is decoded as a whole and cut
afterwards, the query is cut first and decoded piece by piece.

The path and the query of a link are always routed as a call. Whether the call reads as the request
that was meant depends on the names alone (`Operation.Linkable`): a slash would move the end of the
type's name, an empty name would vanish between two separators, and a parameter named like the
receiver's key would be taken for the receiver. Everything else survives, whatever characters it is
made of.
-/

namespace ObjectConsole

open Text

/-! ## Links of operations -/

/-- The halves of an address, before and behind the first question mark. -/
def Address.halves? (address : String) : Option (String × String) :=
  (cut? '?' address.toList).map fun halves ↦ (String.ofList halves.1, String.ofList halves.2)

namespace Operation

/-- The request that the link of an operation stands for: the declared types without texts, and the
page's receiver unless the operation is static. -/
def request (operation : Operation) (typeName : String) (receiver : Option String) :
    Invocation where
  targetType := typeName
  operation := operation.name
  receiver := if operation.isStatic then none else receiver
  parameters := operation.parameters.map fun type ↦ ⟨type, none⟩

/-- An operation whose names survive being written as an address. -/
structure Linkable (operation : Operation) (typeName : String) : Prop where
  typeName_ne : typeName ≠ ""
  slash_notMem : '/' ∉ typeName.toList
  name_ne : operation.name ≠ ""
  parameters_ne : ∀ type ∈ operation.parameters, type ≠ "" ∧ type ≠ Query.receiverKey

/-- The pieces of the query of an operation's link, behind the verb. -/
def linkPieces (operation : Operation) (receiver : Option String) : List (List Char) :=
  (if operation.isStatic then []
    else [match receiver with
      | none => Query.receiverKey.toList
      | some text => Query.receiverKey.toList ++ '=' :: Percent.encodeChars text.toList]) ++
    operation.parameters.map fun type ↦ Percent.encodeChars type.toList

/-- What the pieces of a link say. The receiver is written like a parameter. -/
def sent (operation : Operation) (receiver : Option String) : List Parameter :=
  (if operation.isStatic then [] else [⟨Query.receiverKey, receiver⟩]) ++
    operation.parameters.map fun type ↦ ⟨type, none⟩

theorem linkPieces_eq (operation : Operation) (receiver : Option String) :
    operation.linkPieces receiver = (operation.sent receiver).map Parameter.piece := by
  -- the receiver's key is written as it is, and reads like an encoded component all the same
  have hkey : Percent.encodeChars Query.receiverKey.toList = Query.receiverKey.toList := by decide
  unfold linkPieces sent
  cases operation.isStatic <;> cases receiver <;> simp [Parameter.piece, hkey]

end Operation

namespace Address

theorem toList_ofMember (typeName member : String) :
    (ofMember typeName member).toList =
      '/' :: Percent.encodeChars typeName.toList ++
        '/' :: Percent.encodeChars member.toList := by
  simp [ofMember, ofType]

theorem toList_ofCall (typeName : String) (operation : Operation) (receiver : Option String) :
    (ofCall typeName operation receiver).toList =
      (ofMember typeName operation.name).toList ++ '?' :: ("call".toList ++
        (operation.linkPieces receiver).flatMap fun piece ↦ '&' :: piece) := by
  have hparameters : (String.join (operation.parameters.map fun type ↦ "&" ++
        Percent.encode type)).toList =
      (operation.parameters.map fun type ↦ Percent.encodeChars type.toList).flatMap
        fun piece ↦ '&' :: piece := by
    simp [List.flatMap_map]
  unfold Operation.linkPieces
  rw [ofCall, String.toList_append, String.toList_append, String.toList_append, hparameters,
    List.flatMap_append]
  cases operation.isStatic <;> cases receiver <;> simp [receiverPart, Query.receiverKey]

theorem halves?_ofCall (typeName : String) (operation : Operation) (receiver : Option String) :
    halves? (ofCall typeName operation receiver) =
      some (ofMember typeName operation.name,
        String.ofList ("call".toList ++ (operation.linkPieces receiver).flatMap
          fun piece ↦ '&' :: piece)) := by
  have hmark : '?' ∉ (ofMember typeName operation.name).toList := by
    have hname (name : String) : '?' ∉ Percent.encodeChars name.toList :=
      Percent.notMem_encodeChars (by decide) (by decide)
    rw [toList_ofMember]
    simp [hname]
  rw [halves?, toList_ofCall, cut?_eq_some_iff.mpr ⟨rfl, hmark⟩, Option.map_some,
    String.ofList_toList]

end Address

/-! ## Routes -/

namespace Route

/-- The path of a member's address is decoded to the names themselves. -/
theorem decodeChars_ofMember (typeName member : String) :
    Percent.decodeChars (Address.ofMember typeName member).toList =
      '/' :: typeName.toList ++ '/' :: member.toList := by
  rw [Address.toList_ofMember, List.cons_append, Percent.decodeChars_cons_of_ne (by decide),
    Percent.decodeChars_encodeChars_append, Percent.decodeChars_cons_of_ne (by decide),
    Percent.decodeChars_encodeChars, List.cons_append]

theorem behindVerb?_append {verb : String} {rest : List Char}
    (h : ∀ c ∈ rest.head?, c ∈ ['&', '=', '[', '$']) :
    behindVerb? verb (verb.toList ++ rest) = some rest := by
  rw [behindVerb?, behind?_eq_some_iff.mpr rfl]
  cases rest with
  | nil => rfl
  | cons c rest => exact if_pos (h c rfl)

/-- A verb is read exactly where it stands as a whole word. -/
theorem behindVerb?_eq_some_iff {verb : String} {query rest : List Char} :
    behindVerb? verb query = some rest ↔
      query = verb.toList ++ rest ∧ ∀ c ∈ rest.head?, c ∈ ['&', '=', '[', '$'] := by
  constructor
  · intro h
    rw [behindVerb?] at h
    split at h
    · cases h
    · next hbehind =>
      cases h
      exact ⟨behind?_eq_some_iff.mp hbehind, nofun⟩
    · next c tail hbehind =>
      split_ifs at h with hc
      cases h
      refine ⟨behind?_eq_some_iff.mp hbehind, ?_⟩
      rintro _ ⟨⟩
      exact hc
  · rintro ⟨rfl, hends⟩
    exact behindVerb?_append hends

theorem ofAddress_call (typeName member : String) (pieces : List (List Char)) :
    ofAddress (Address.ofMember typeName member)
        (some (String.ofList ("call".toList ++ pieces.flatMap fun piece ↦ '&' :: piece))) =
      call (String.ofList ('/' :: typeName.toList ++ '/' :: member.toList))
        (String.ofList (pieces.flatMap fun piece ↦ '&' :: piece)) := by
  have hhead : ∀ c ∈ (pieces.flatMap fun piece ↦ '&' :: piece).head?, c ∈ ['&', '=', '[', '$'] := by
    cases pieces with
    | nil => simp
    | cons piece pieces => simp
  have hroot : ¬('/' :: typeName.toList ++ '/' :: member.toList = [] ∨
      '/' :: typeName.toList ++ '/' :: member.toList = ['/']) := by
    simp
  rw [ofAddress, Option.getD_some, String.toList_ofList, ofChars, decodeChars_ofMember,
    if_neg hroot, behindVerb?_append hhead]

end Route

/-! ## Requests -/

theorem Invocation.target_ofMember_iff (typeName member : String) :
    target ('/' :: typeName.toList ++ '/' :: member.toList) =
        .ok (typeName.toList, member.toList) ↔
      typeName ≠ "" ∧ '/' ∉ typeName.toList ∧ member ≠ "" := by
  rw [target_eq_ok_iff, ne_eq, ne_eq, String.toList_eq_nil_iff, String.toList_eq_nil_iff]
  exact and_iff_left ⟨1, rfl⟩

/-- The path of a member's address is read as the type and the member exactly when the names allow
it, and the query is read apart from it. -/
theorem Invocation.ofAddress_ofMember_eq_ok_iff {typeName member : String} {query : List Char}
    {receiver : Option String} {parameters : List Parameter} :
    ofAddress (String.ofList ('/' :: typeName.toList ++ '/' :: member.toList))
        (String.ofList query) = .ok ⟨typeName, member, receiver, parameters⟩ ↔
      (typeName ≠ "" ∧ '/' ∉ typeName.toList ∧ member ≠ "") ∧
        Query.receiver (Query.pairs query) = receiver ∧
        (Query.parameters (Query.pairs query)).map (fun p ↦ ⟨p.1, p.2⟩) = parameters := by
  rw [ofAddress, String.toList_ofList, String.toList_ofList, ← target_ofMember_iff]
  constructor
  · intro h
    split at h
    · cases h
    · next typeChars memberChars htarget =>
      simp only [Except.ok.injEq, Invocation.mk.injEq] at h
      obtain ⟨htype, hmember, hreceiver, hparameters⟩ := h
      rw [← String.toList_inj, String.toList_ofList] at htype hmember
      rw [htype, hmember] at htarget
      exact ⟨htarget, hreceiver, hparameters⟩
  · rintro ⟨htarget, rfl, rfl⟩
    simp only [htarget, String.ofList_toList]

namespace Operation

variable (operation : Operation)

/-- The keys of a link's query with their texts: the receiver, if there is to be one, and every
declared type that is not empty. -/
theorem pairs_linkPieces (receiver : Option String) :
    Query.pairs ((operation.linkPieces receiver).flatMap fun piece ↦ '&' :: piece) =
      (if operation.isStatic then [] else [(Query.receiverKey, receiver)]) ++
        (operation.parameters.filter fun type ↦ type ≠ "").map fun type ↦ (type, none) := by
  rw [linkPieces_eq, Query.pairs_pieces]
  unfold sent
  rw [List.filter_append, List.map_append, List.filter_map, List.map_map]
  cases operation.isStatic <;> simp [Function.comp_def, Query.receiverKey]

theorem parameters_linkPieces (receiver : Option String) :
    Query.parameters
        (Query.pairs ((operation.linkPieces receiver).flatMap fun piece ↦ '&' :: piece)) =
      (operation.parameters.filter fun type ↦ type ≠ "" ∧ type ≠ Query.receiverKey).map
        fun type ↦ (type, none) := by
  have hreceiver : ((if operation.isStatic then []
      else [(Query.receiverKey, receiver)]).filter fun p ↦ p.1 ≠ Query.receiverKey) = [] := by
    cases operation.isStatic <;> simp
  rw [pairs_linkPieces, Query.parameters, List.filter_append, hreceiver, List.nil_append,
    List.filter_map, List.filter_filter]
  simp [and_comm]

theorem receiver_linkPieces (receiver : Option String)
    (h : ∀ type ∈ operation.parameters, type ≠ Query.receiverKey) :
    Query.receiver
        (Query.pairs ((operation.linkPieces receiver).flatMap fun piece ↦ '&' :: piece)) =
      if operation.isStatic then none else receiver := by
  have hparameters : (((operation.parameters.filter fun type ↦ type ≠ "").map
      fun type ↦ (type, (none : Option String))).filter fun p ↦ p.1 = Query.receiverKey) = [] := by
    simp only [List.filter_eq_nil_iff, List.mem_map, List.mem_filter]
    rintro p ⟨type, ⟨hmem, -⟩, rfl⟩
    simpa using h type hmem
  rw [pairs_linkPieces, Query.receiver, List.filter_append, hparameters, List.append_nil]
  cases operation.isStatic <;> simp

/-- Reading the address of an operation's link gives back its request exactly when the names survive
the writing. -/
theorem ofAddress_eq_ok_request_iff (typeName : String) (receiver : Option String) :
    Invocation.ofAddress (String.ofList ('/' :: typeName.toList ++ '/' :: operation.name.toList))
        (String.ofList ((operation.linkPieces receiver).flatMap fun piece ↦ '&' :: piece)) =
        .ok (operation.request typeName receiver) ↔
      operation.Linkable typeName := by
  rw [request, Invocation.ofAddress_ofMember_eq_ok_iff, parameters_linkPieces, List.map_map]
  constructor
  · rintro ⟨⟨hne, hslash, hname⟩, -, hparameters⟩
    -- reading leaves some parameters out, and equal lengths say that it left out none
    have hlength := congrArg List.length hparameters
    rw [List.length_map, List.length_map, List.length_filter_eq_length_iff] at hlength
    exact ⟨hne, hslash, hname, fun type hmem ↦ by simpa using hlength type hmem⟩
  · intro h
    have hfilter : (operation.parameters.filter fun type ↦ type ≠ "" ∧ type ≠ Query.receiverKey) =
        operation.parameters :=
      List.filter_eq_self.mpr fun type hmem ↦ by simpa using h.parameters_ne type hmem
    refine ⟨⟨h.typeName_ne, h.slash_notMem, h.name_ne⟩, ?_, ?_⟩
    · exact operation.receiver_linkPieces receiver fun type hmem ↦ (h.parameters_ne type hmem).2
    · rw [hfilter]
      rfl

/-- The parameters of an operation select the first operation that has its name and parameters. -/
theorem exists_findOperation?_eq_some {entry : TypeEntry} (h : operation ∈ entry.operations) :
    ∃ before first behind, entry.operations = before ++ first :: behind ∧
      first.Matches operation.name operation.parameters ∧
      (∀ other ∈ before, ¬other.Matches operation.name operation.parameters) ∧
      entry.findOperation? operation.name operation.parameters = some first := by
  have hfound : (entry.findOperation? operation.name operation.parameters).isSome := by
    rw [TypeEntry.findOperation?, List.find?_isSome]
    exact ⟨operation, h, decide_eq_true ⟨rfl, rfl⟩⟩
  obtain ⟨first, hfirst⟩ := Option.isSome_iff_exists.mp hfound
  obtain ⟨before, behind, hsplit, hmatches, hbefore⟩ := TypeEntry.exists_of_findOperation? hfirst
  exact ⟨before, first, behind, hsplit, hmatches, hbefore, hfirst⟩

end Operation

/-! ## The links of a page -/

/-- The links labelled as calls are those of the operations, in order. -/
theorem linked_call_ofEntry (entry : TypeEntry) (receiver : Option String) :
    linked "call" (MembersPage.ofEntry entry receiver).markup =
      entry.operations.map fun operation ↦
        (operation.signature entry.name ++ " ",
          Address.ofCall entry.name operation receiver) := by
  have hfields (fields : List Item) : (fields.map (Listed.ofItem "get")).filterMap
      (fun item ↦ item.link.bind fun link ↦
        if link.2 = "call" then some (item.text, link.1) else none) = [] := by
    rw [List.filterMap_map, List.filterMap_eq_nil_iff]
    rintro ⟨signature, address⟩ -
    cases address <;> simp [Listed.ofItem]
  rw [linked, MembersPage.listed_markup, List.filterMap_append, hfields, List.append_nil,
    MembersPage.ofEntry, List.filterMap_map, List.filterMap_map, ← List.filterMap_eq_map]
  simp [Listed.ofItem, Function.comp_def]

/-- **The links of a page lead to its operations.** They are found one by one in the order of
declaration. Each is routed as a call, and the call is read as the request that was meant exactly
when the names survive the writing; then it selects the first operation of that name with those
parameters. -/
theorem callLinks_lead_to_operations (entry : TypeEntry) (receiver : Option String) :
    List.Forall₂
      (fun operation link ↦
        link.1 = operation.signature entry.name ++ " " ∧
        ∃ path query callPath callQuery,
          Address.halves? link.2 = some (path, query) ∧
          Route.ofAddress path (some query) = .call callPath callQuery ∧
          (Invocation.ofAddress callPath callQuery = .ok (operation.request entry.name receiver) ↔
            operation.Linkable entry.name) ∧
          (operation.Linkable entry.name →
            ∃ before first behind, entry.operations = before ++ first :: behind ∧
              first.Matches operation.name operation.parameters ∧
              (∀ other ∈ before, ¬other.Matches operation.name operation.parameters) ∧
              entry.findOperation? operation.name
                (operation.request entry.name receiver).parameterTypes = some first))
      entry.operations (linked "call" (MembersPage.ofEntry entry receiver).markup) := by
  rw [linked_call_ofEntry, List.forall₂_map_right_iff, List.forall₂_same]
  intro operation hmem
  have htypes : (operation.request entry.name receiver).parameterTypes = operation.parameters := by
    simp [Operation.request, Invocation.parameterTypes, Function.comp_def]
  rw [htypes]
  exact ⟨rfl, _, _, _, _, Address.halves?_ofCall _ _ _, Route.ofAddress_call _ _ _,
    operation.ofAddress_eq_ok_request_iff _ _,
    fun _ ↦ operation.exists_findOperation?_eq_some hmem⟩

end ObjectConsole
