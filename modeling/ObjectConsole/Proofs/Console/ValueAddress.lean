import ObjectConsole.Console.Handle
import ObjectConsole.Proofs.Console.CallLink
import ObjectConsole.Proofs.Operation.Catalog

/-!
# Where the address of a value leads

Results link to their value and promotions redirect to it, both under the address that
`Address.ofValue` writes. It is meant for the last of the routing rules, so every rule before that
one has to be passed. The query keeps clear of the verbs by its first character, which is the mark
of the token. The path does so only if the type's name is more than nothing, stands in it as one
segment and does not look like a token itself (`Route.Addressable`). The other way round nothing
else is ever routed as members, and so the condition is exact.

Type names of objects are free, and an object whose type has none of these names has no page. All
other values have fixed type names, and their pages are there whatever the catalog holds.
-/

namespace ObjectConsole

open Text

/-! ## The two halves -/

/-- A token begins with the mark of its kind. -/
theorem Token.exists_text_eq (token : Token) :
    ∃ mark rest, (mark = '[' ∨ mark = '$') ∧ token.text.toList = mark :: rest := by
  cases token with
  | ephemeral id => exact ⟨'[', id.text.toList ++ [']'], .inl rfl, by simp [text]⟩
  | persistent name => exact ⟨'$', name.toList, .inr rfl, by simp [text]⟩

namespace Address

theorem toList_ofType (typeName : String) :
    (ofType typeName).toList = '/' :: Percent.encodeChars typeName.toList := by
  simp [ofType]

theorem halves?_ofValue (v : Value) (token : Token) :
    halves? (ofValue v token) = some (ofType v.typeName, Percent.encode token.text) := by
  have hmark : '?' ∉ (ofType v.typeName).toList := by
    have hname : '?' ∉ Percent.encodeChars v.typeName.toList :=
      Percent.notMem_encodeChars (by decide) (by decide)
    rw [toList_ofType]
    simp [hname]
  have hvalue : (ofValue v token).toList =
      (ofType v.typeName).toList ++ '?' :: (Percent.encode token.text).toList := by
    simp [ofValue]
  rw [halves?, cut?_eq_some_iff.mpr ⟨hvalue, hmark⟩, Option.map_some, String.ofList_toList,
    String.ofList_toList]

end Address

/-! ## The rules in order -/

namespace Route

/-- A type name that reads as one segment of a path and not as a token. -/
structure Addressable (typeName : String) : Prop where
  ne_empty : typeName ≠ ""
  slash_notMem : '/' ∉ typeName.toList
  head_ne_bracket : typeName.toList.head? ≠ some '['
  head_ne_dollar : typeName.toList.head? ≠ some '$'

/-- A token keeps its mark when it is encoded, so a query that is a token begins with no verb. -/
theorem behindVerb?_encode_text {verb : String} (token : Token)
    (hbracket : verb.toList.head? ≠ some '[') (hdollar : verb.toList.head? ≠ some '$')
    (hverb : verb ≠ "") : behindVerb? verb (Percent.encode token.text).toList = none := by
  obtain ⟨mark, rest, hmark, htext⟩ := token.exists_text_eq
  have hkept : Percent.encodeChar mark = [mark] := by
    rcases hmark with rfl | rfl <;> decide
  have hquery : (Percent.encode token.text).toList = mark :: Percent.encodeChars rest := by
    rw [Percent.toList_encode, htext, Percent.encodeChars, List.flatMap_cons, hkept,
      List.singleton_append, Percent.encodeChars]
  have hbehind : behind? verb.toList (mark :: Percent.encodeChars rest) = none := by
    cases hlist : verb.toList with
    | nil => exact absurd (String.toList_eq_nil_iff.mp hlist) hverb
    | cons first others =>
      have hne : first ≠ mark := by
        rintro rfl
        rw [hlist] at hbracket hdollar
        rcases hmark with rfl | rfl
        · exact hbracket rfl
        · exact hdollar rfl
      rw [behind?, if_neg hne]
  rw [behindVerb?, hquery, hbehind]

theorem dropLastSlash_prefix (path : List Char) : dropLastSlash path <+: path := by
  rw [dropLastSlash]
  split
  · exact List.dropLast_prefix path
  · exact List.prefix_refl path

/-- Only an addressable name is ever routed as members. -/
theorem addressable_of_ofPath {path query : List Char} {typeName : String}
    {receiver : Option String} (h : ofPath path query = members typeName receiver) :
    Addressable typeName := by
  rw [ofPath] at h
  split at h
  · split at h <;> cases h
  · cases h
  · next hbracket hdollar =>
    simp only at h
    split_ifs at h with hsegment
    obtain ⟨hne, hslash⟩ := hsegment
    cases h
    -- nothing was cut off but the end, so the segment begins as the path does
    obtain ⟨cutOff, hcutOff⟩ := dropLastSlash_prefix (dropSlashes path)
    have hhead : (dropLastSlash (dropSlashes path)).head? = (dropSlashes path).head? := by
      rw [← List.head?_append_of_ne_nil _ hne, hcutOff]
    have hmark : ∀ mark, (dropLastSlash (dropSlashes path)).head? = some mark →
        ∃ rest, dropSlashes path = mark :: rest := by
      intro mark hmark
      exact List.head?_eq_some_iff.mp (hhead.symm.trans hmark)
    refine ⟨by simpa using hne, by rwa [String.toList_ofList], ?_, ?_⟩
    · rw [String.toList_ofList]
      intro hfirst
      obtain ⟨rest, hrest⟩ := hmark _ hfirst
      exact hbracket rest hrest
    · rw [String.toList_ofList]
      intro hfirst
      obtain ⟨rest, hrest⟩ := hmark _ hfirst
      exact hdollar rest hrest

theorem ofPath_of_addressable {typeName : String} (h : Addressable typeName) (query : List Char) :
    ofPath ('/' :: typeName.toList) query =
      members typeName (nonempty? (Percent.decodeChars query)) := by
  have hslash : typeName.toList.head? ≠ some '/' :=
    fun hhead ↦ h.slash_notMem (List.mem_of_head? hhead)
  have hlast : dropLastSlash typeName.toList = typeName.toList :=
    if_neg fun hlast ↦ h.slash_notMem (List.mem_of_getLast? hlast)
  have htrimmed : dropSlashes ('/' :: typeName.toList) = typeName.toList :=
    dropSlashes_replicate_append 1 hslash
  rw [ofPath, htrimmed]
  split
  · next rest hrest => exact absurd (by rw [hrest]; rfl) h.head_ne_bracket
  · next rest hrest => exact absurd (by rw [hrest]; rfl) h.head_ne_dollar
  · simp only [hlast]
    rw [if_pos ⟨mt String.toList_eq_nil_iff.mp h.ne_empty, h.slash_notMem⟩, String.ofList_toList]

/-- **The address of a value is routed as members exactly if its type is addressable.** -/
theorem ofAddress_ofType_eq_members_iff (typeName : String) (token : Token) :
    ofAddress (Address.ofType typeName) (some (Percent.encode token.text)) =
        members typeName (some token.text) ↔
      Addressable typeName := by
  have hpath : Percent.decodeChars (Address.ofType typeName).toList = '/' :: typeName.toList := by
    rw [Address.toList_ofType, Percent.decodeChars_cons_of_ne (by decide),
      Percent.decodeChars_encodeChars]
  have htext : nonempty? (Percent.decodeChars (Percent.encode token.text).toList) =
      some token.text := by
    obtain ⟨mark, rest, -, htoken⟩ := token.exists_text_eq
    rw [Percent.toList_encode, Percent.decodeChars_encodeChars, nonempty?,
      if_neg (by rw [htoken]; exact List.cons_ne_nil _ _), String.ofList_toList]
  rw [ofAddress, Option.getD_some, ofChars, hpath]
  by_cases hempty : typeName = ""
  · subst hempty
    exact ⟨Route.noConfusion, fun h ↦ absurd rfl h.ne_empty⟩
  · have hroot : ¬('/' :: typeName.toList = [] ∨ '/' :: typeName.toList = ['/']) := by
      simpa using hempty
    rw [if_neg hroot, behindVerb?_encode_text token (by decide) (by decide) (by decide)]
    simp only
    rw [behindVerb?_encode_text token (by decide) (by decide) (by decide)]
    refine ⟨addressable_of_ofPath, fun h ↦ ?_⟩
    rw [ofPath_of_addressable h, htext]

/-- The names of the built-in types are addressable. -/
theorem addressable_of_mem_builtin {typeName : String} (h : typeName ∈ Value.builtinTypeNames) :
    Addressable typeName := by
  have hall : ∀ name ∈ Value.builtinTypeNames, name ≠ "" ∧ '/' ∉ name.toList ∧
      name.toList.head? ≠ some '[' ∧ name.toList.head? ≠ some '$' := by
    decide
  obtain ⟨hne, hslash, hbracket, hdollar⟩ := hall typeName h
  exact ⟨hne, hslash, hbracket, hdollar⟩

end Route

/-! ## The pages -/

/-- The page of a type's members, headed by the type and seen from a receiver. -/
def Response.IsPageOf (response : Response) (typeName receiver : String) : Prop :=
  ∃ page : MembersPage, page.typeName = typeName ∧ page.receiver = some receiver ∧
    response = .page page.markup

theorem Response.IsPageOf.status_eq {response : Response} {typeName receiver : String}
    (h : response.IsPageOf typeName receiver) : response.status = .ok := by
  obtain ⟨page, -, -, rfl⟩ := h
  rfl

theorem MembersPage.markup_of_receiver {page : MembersPage} {receiver : String}
    (h : page.receiver = some receiver) :
    page.markup = "<html><body><h1>" ++ Html.escape page.typeName ++ "</h1>" ++
      receiverMarkup receiver ++ list "operations" "call" page.operations ++
      list "fields" "get" page.fields ++ "</body></html>" := by
  unfold markup
  simp only [h, Option.map_some, Option.getD_some]

/-- What a visitor sees first on such a page: the type and the receiver. -/
theorem Response.IsPageOf.exists_body_eq {response : Response} {typeName receiver : String}
    (h : response.IsPageOf typeName receiver) :
    ∃ rest, response.body = "<html><body><h1>" ++ Html.escape typeName ++ "</h1>" ++
      ("<p>this = " ++ Html.escape receiver ++ rest) := by
  obtain ⟨page, rfl, hreceiver, rfl⟩ := h
  obtain ⟨rest, hrest⟩ : ∃ rest, MembersPage.receiverMarkup receiver =
      "<p>this = " ++ Html.escape receiver ++ rest := by
    unfold MembersPage.receiverMarkup
    rw [String.append_assoc]
    exact ⟨_, rfl⟩
  have hbody : (Response.page page.markup).body = page.markup := rfl
  rw [hbody, MembersPage.markup_of_receiver hreceiver, hrest]
  simp only [String.append_assoc]
  exact ⟨_, rfl⟩

namespace Console

variable (console : Console)

/-- The types that the console has a page for. -/
def Knows (typeName : String) : Prop :=
  (console.catalog.lookup? typeName).isSome ∨ typeName ∈ Value.builtinTypeNames

theorem members_isPageOf {typeName : String} (h : console.Knows typeName) (receiver : String) :
    (console.members typeName (some receiver)).IsPageOf typeName receiver := by
  rw [members, membersPage?]
  cases hlookup : console.catalog.lookup? typeName with
  | some entry =>
    exact ⟨.ofEntry entry (some receiver), Catalog.name_of_lookup? hlookup, rfl, rfl⟩
  | none =>
    have hbuiltin := h.resolve_left (by rw [hlookup]; exact Bool.false_ne_true)
    simp only [if_pos hbuiltin]
    exact ⟨.bare typeName (some receiver), rfl, rfl, rfl⟩

theorem members_of_not_knows {typeName : String} (h : ¬console.Knows typeName)
    (receiver : Option String) :
    console.members typeName receiver = (RouteError.unknownType typeName).response := by
  rw [Knows, not_or, Option.not_isSome_iff_eq_none] at h
  rw [members, membersPage?, h.1]
  simp only [if_neg h.2]

end Console

/-- **The address of a value leads to its page.** Cut into its halves, it is routed as members of
the value's type seen from its token exactly if the type is addressable; then the answer is that
page if the console knows the type, and otherwise that there is no such type. The values that are no
objects have addressable types that every console knows. -/
theorem Address.ofValue_leads_to_page (v : Value) (token : Token) :
    ∃ path query, Address.halves? (Address.ofValue v token) = some (path, query) ∧
      (Route.ofAddress path (some query) = .members v.typeName (some token.text) ↔
        Route.Addressable v.typeName) ∧
      (Route.Addressable v.typeName → ∀ (console : Console) moment world, ∃ response,
        console.handle moment path (some query) world = (.ok response, world) ∧
        (response.IsPageOf v.typeName token.text ↔ console.Knows v.typeName) ∧
        (¬console.Knows v.typeName → response.status = .notFound)) ∧
      (v ≠ .null → (∀ o, v ≠ .object o) → ∀ (console : Console) moment world, ∃ response,
        console.handle moment path (some query) world = (.ok response, world) ∧
        response.IsPageOf v.typeName token.text) := by
  have hroute := Route.ofAddress_ofType_eq_members_iff v.typeName token
  have hpage : Route.Addressable v.typeName → ∀ (console : Console) moment world,
      console.handle moment (Address.ofType v.typeName) (some (Percent.encode token.text)) world =
        (.ok (console.members v.typeName (some token.text)), world) := by
    intro haddressable console moment world
    rw [Console.handle, hroute.mpr haddressable, Console.dispatch]
  refine ⟨_, _, Address.halves?_ofValue v token, hroute, ?_, ?_⟩
  · intro haddressable console moment world
    refine ⟨_, hpage haddressable console moment world, ⟨fun h ↦ ?_, fun h ↦ ?_⟩, fun h ↦ ?_⟩
    · by_contra hknows
      have hstatus := h.status_eq
      rw [console.members_of_not_knows hknows] at hstatus
      cases hstatus
    · exact console.members_isPageOf h token.text
    · rw [console.members_of_not_knows h]
      rfl
  · intro hnull hobject console moment world
    have hbuiltin : v.typeName ∈ Value.builtinTypeNames := by
      rcases v.typeName_mem_builtin_or with h | ⟨o, h⟩ | h
      · exact absurd h hnull
      · exact absurd h (hobject o)
      · exact h
    exact ⟨_, hpage (Route.addressable_of_mem_builtin hbuiltin) console moment world,
      console.members_isPageOf (.inr hbuiltin) token.text⟩

end ObjectConsole
