import ObjectConsole.Proofs.Console.Dispatch
import ObjectConsole.Proofs.Console.Links

/-!
# Where the links for fields and names lead

Two kinds of link take the receiver of their page along without a key in front of it. The link of
a field has it directly behind the verb, and the link to a name has it as its path. Both are
followed like any other: cut at the first question mark, and routed (`Address.route?`).

A verb has to end as a word does. Behind `get`, this leaves the receiver's own first character to
end it, and among those that an encoded text can begin with only the marks of tokens do. Hence the
link of an instance field is good for exactly the receivers that begin with a mark; behind any
other, `get` is part of some longer word, and behind an empty one nothing is given. A name is only
offered where the receiver begins with the mark of temporary tokens, and that is what the path of
its link is told by.
-/

namespace ObjectConsole

open Text

/-! ## Reading the page -/

/-- The items of a page that are no calls, which are those of the fields. -/
def fieldItems (page : String) : List Listed :=
  (listed page.toList).filter fun item ↦ item.link.map Prod.snd ≠ some "call"

/-- What a page says about its receiver: the paragraph behind the heading, read like an item. -/
def receiverLine? (page : String) : Option Listed := do
  let heading ← behind? "<html><body><h1>".toList page.toList
  let (_, rest) ← cut? '<' heading
  let paragraph ← behind? "/h1><p>".toList rest
  Listed.read? paragraph

theorem fieldItems_ofEntry (entry : TypeEntry) (receiver : Option String) :
    fieldItems (MembersPage.ofEntry entry receiver).markup =
      entry.fields.map fun field ↦ Listed.ofItem "get"
        ⟨field.signature entry.name, Address.ofField? entry.name field receiver⟩ := by
  have hcalls : (entry.operations.map fun operation ↦ Listed.ofItem "call"
      ⟨operation.signature entry.name, some (Address.ofCall entry.name operation receiver)⟩).filter
        (fun item ↦ item.link.map Prod.snd ≠ some "call") = [] := by
    rw [List.filter_eq_nil_iff]
    rintro item hitem
    obtain ⟨operation, -, rfl⟩ := List.mem_map.mp hitem
    simp [Listed.ofItem]
  have hgets : (entry.fields.map fun field ↦ Listed.ofItem "get"
      ⟨field.signature entry.name, Address.ofField? entry.name field receiver⟩).filter
        (fun item ↦ item.link.map Prod.snd ≠ some "call") =
      entry.fields.map fun field ↦ Listed.ofItem "get"
        ⟨field.signature entry.name, Address.ofField? entry.name field receiver⟩ := by
    rw [List.filter_eq_self]
    rintro item hitem
    obtain ⟨field, -, rfl⟩ := List.mem_map.mp hitem
    cases Address.ofField? entry.name field receiver <;> simp [Listed.ofItem]
  rw [fieldItems, MembersPage.listed_markup, MembersPage.ofEntry, List.map_map, List.map_map,
    List.filter_append]
  exact (congrArg₂ (· ++ ·) hcalls hgets).trans (List.nil_append _)

namespace MembersPage

/-- The paragraph about a receiver is read as an item whose link is the one to a name. -/
theorem read?_receiverMarkup_append (receiver : String) (rest : List Char) :
    (behind? "<p>".toList ((receiverMarkup receiver).toList ++ rest)).bind Listed.read? =
      some (Listed.ofItem "persist" ⟨"this = " ++ receiver, Address.ofPersist? receiver⟩) := by
  have hplain : Html.escapeChars ("this = " ++ receiver).toList =
      "this = ".toList ++ Html.escapeChars receiver.toList := by
    have hthis : Html.escapeChars "this = ".toList = "this = ".toList := rfl
    rw [String.toList_append, Html.escapeChars_append, hthis]
  have hopen (paragraph : List Char) : behind? "<p>".toList ("<p>".toList ++ paragraph) =
      some paragraph := behind?_eq_some_iff.mpr rfl
  cases haddress : Address.ofPersist? receiver with
  | none =>
    have hmarkup : (receiverMarkup receiver).toList ++ rest = "<p>".toList ++
        (Html.escapeChars ("this = " ++ receiver).toList ++
          '<' :: '/' :: ("p>".toList ++ rest)) := by
      rw [hplain]
      simp [receiverMarkup, haddress]
    rw [hmarkup, hopen, Option.bind_some, Listed.read?_escapeChars_append]
    rfl
  | some address =>
    have hmarkup : (receiverMarkup receiver).toList ++ rest = "<p>".toList ++
        (Html.escapeChars ("this = " ++ receiver).toList ++
          ' ' :: ((anchor address "persist").toList ++ ("</p>".toList ++ rest))) := by
      rw [hplain]
      simp [receiverMarkup, haddress]
    rw [hmarkup, hopen, Option.bind_some, Listed.read?_escapeChars_anchor_append]
    rfl

theorem receiverLine?_markup (page : MembersPage) :
    receiverLine? page.markup = page.receiver.map fun receiver ↦
      Listed.ofItem "persist" ⟨"this = " ++ receiver, Address.ofPersist? receiver⟩ := by
  have hmarkup : page.markup.toList = "<html><body><h1>".toList ++
      (Html.escapeChars page.typeName.toList ++ ("</h1>".toList ++
        (((page.receiver.map receiverMarkup).getD "").toList ++
          ((list "operations" "call" page.operations).toList ++
            ((list "fields" "get" page.fields).toList ++ "</body></html>".toList))))) := by
    unfold markup
    simp only [String.toList_append, Html.toList_escape, List.append_assoc]
  have hname (rest : List Char) : cut? '<' (Html.escapeChars page.typeName.toList ++
      ("</h1>".toList ++ rest)) = some (Html.escapeChars page.typeName.toList,
        "/h1>".toList ++ rest) :=
    cut?_eq_some_iff.mpr ⟨rfl, Html.notMem_escapeChars (.inl rfl)⟩
  -- the heading is closed in any case, and the paragraph opened behind it only for a receiver
  have hclosed (rest : List Char) : behind? "/h1><p>".toList ("/h1>".toList ++ rest) =
      behind? "<p>".toList rest := by simp [behind?]
  rw [receiverLine?, behind?_eq_some_iff.mpr hmarkup]
  simp only [Option.bind_eq_bind, Option.bind_some, hname, hclosed]
  cases page.receiver with
  | none => simp [list, behind?]
  | some receiver => exact read?_receiverMarkup_append receiver _

theorem links_eq_receiverLine?_append_listed (page : MembersPage) :
    links page.markup.toList =
      ((receiverLine? page.markup).bind Listed.link).toList.map Prod.fst ++
        (listed page.markup.toList).filterMap fun item ↦ item.link.map Prod.fst := by
  have hitems (label : String) (items : List Item) :
      (items.map (Listed.ofItem label)).filterMap (fun item ↦ item.link.map Prod.fst) =
        items.filterMap Item.address := by
    rw [List.filterMap_map]
    congr 1
    funext item
    obtain ⟨signature, address⟩ := item
    cases address <;> rfl
  have hreceiver : (page.receiver.bind Address.ofPersist?).toList =
      ((receiverLine? page.markup).bind Listed.link).toList.map Prod.fst := by
    rw [receiverLine?_markup]
    cases page.receiver with
    | none => rfl
    | some receiver =>
      simp only [Option.map_some, Option.bind_some, Listed.ofItem]
      cases Address.ofPersist? receiver <;> rfl
  rw [links_markup, listed_markup, List.filterMap_append, hitems, hitems, hreceiver,
    List.append_assoc]

end MembersPage

/-! ## Following addresses -/

namespace Address

/-- Where an address leads: it is cut at the first question mark, and its halves are routed. -/
def route? (address : String) : Option Route :=
  (halves? address).map fun halves ↦ Route.ofAddress halves.1 (some halves.2)

theorem route?_ofHalves (topic : Topic) (query : String) :
    route? (ofHalves topic.path (some query)) = some (Route.ofAddress topic.path (some query)) := by
  have hmark : '?' ∉ topic.path.toList := topic.joined_path.notMem (by decide) (by decide)
  have haddress : (ofHalves topic.path (some query)).toList =
      topic.path.toList ++ '?' :: query.toList := by
    simp [ofHalves]
  rw [route?, halves?, cut?_eq_some_iff.mpr ⟨haddress, hmark⟩]
  simp only [Option.map_some, String.ofList_toList]

variable {typeName : String} {field : Field}

theorem ofField?_of_isStatic (h : field.isStatic = true) (receiver : Option String) :
    ofField? typeName field receiver =
      some (ofHalves (Topic.member typeName field.name).path (some "get")) := by
  have hget : "?get" = "?" ++ "get" := by decide
  simp only [ofField?, h, if_true, ofHalves, Topic.path, hget, String.append_assoc]

theorem ofField?_of_not_isStatic (h : field.isStatic = false) (receiver : Option String) :
    ofField? typeName field receiver = receiver.map fun text ↦
      ofHalves (Topic.member typeName field.name).path (some ("get" ++ Percent.encode text)) := by
  have hget : "?get" = "?" ++ "get" := by decide
  simp only [ofField?, h, Bool.false_eq_true, if_false, ofHalves, Topic.path, hget,
    String.append_assoc]

theorem ofPersist?_of_head? {text : String} (h : text.toList.head? = some '[') :
    ofPersist? text = some (ofHalves (Topic.token text).path (some "persist")) := by
  have hpersist : "?persist" = "?" ++ "persist" := by decide
  simp only [ofPersist?, if_pos h, ofHalves, Topic.path, ofType, hpersist, String.append_assoc]

end Address

/-! ## Receivers behind a verb -/

theorem Text.Percent.head?_encodeChars_iff {text : List Char} {c : Char}
    (hescaped : escaped c = false) (hpercent : c ≠ '%') :
    (encodeChars text).head? = some c ↔ text.head? = some c := by
  constructor
  · intro h
    obtain ⟨rest, hrest⟩ := List.head?_eq_some_iff.mp h
    rw [← decodeChars_encodeChars text, hrest, decodeChars_cons_of_ne hpercent, List.head?_cons]
  · intro h
    obtain ⟨rest, rfl⟩ := List.head?_eq_some_iff.mp h
    rw [encodeChars, List.flatMap_cons, encodeChar, hescaped]
    rfl

namespace Route

/-- What a path leads to without a verb for it. Only a name is asked for with one. -/
theorem ofPath_cases (path query : List Char) :
    (∃ token rest, behindVerb? "persist" query = some rest ∧
        ofPath path query = persist token (name? rest)) ∨
      (∃ token, ofPath path query = resolve token) ∨
      (∃ typeName receiver, ofPath path query = members typeName receiver) ∨
      ∃ path', ofPath path query = unrouted path' := by
  rw [ofPath]
  split
  · cases hpersist : behindVerb? "persist" query with
    | some rest => exact .inl ⟨_, rest, rfl, rfl⟩
    | none => exact .inr (.inl ⟨_, rfl⟩)
  · exact .inr (.inl ⟨_, rfl⟩)
  · simp only
    split_ifs
    · exact .inr (.inr (.inl ⟨_, _, rfl⟩))
    · exact .inr (.inr (.inr ⟨_, rfl⟩))

theorem ofPath_ne_field (path query : List Char) (fieldPath : String) (receiver : Option String) :
    ofPath path query ≠ field fieldPath receiver := by
  intro h
  obtain ⟨_, _, -, hroute⟩ | ⟨_, hroute⟩ | ⟨_, _, hroute⟩ | ⟨_, hroute⟩ := ofPath_cases path query
  all_goals cases hroute.symm.trans h

/-- What stands behind `get` is the receiver of a field exactly if the verb ends there, at any path
but the root. -/
theorem ofAddress_get_eq_field_iff {path : String} {rest : List Char} {receiver : Option String}
    (hroot : ¬(Percent.decodeChars path.toList = [] ∨ Percent.decodeChars path.toList = ['/'])) :
    ofAddress path (some (String.ofList ("get".toList ++ rest))) =
        field (Percent.decode path) receiver ↔
      (∀ c ∈ rest.head?, c ∈ ['&', '=', '[', '$']) ∧ receiver? rest = receiver := by
  have hcall : behindVerb? "call" ("get".toList ++ rest) = none := rfl
  rw [ofAddress, Option.getD_some, String.toList_ofList, ofChars, if_neg hroot, hcall,
    Percent.decode]
  simp only
  by_cases hends : ∀ c ∈ rest.head?, c ∈ ['&', '=', '[', '$']
  · rw [behindVerb?_append hends, and_iff_right hends]
    simp
  · have hget : behindVerb? "get" ("get".toList ++ rest) = none := by
      rw [Option.eq_none_iff_forall_ne_some]
      intro rest' h
      obtain ⟨hquery, hends'⟩ := behindVerb?_eq_some_iff.mp h
      obtain rfl := List.append_cancel_left hquery
      exact hends hends'
    rw [hget]
    exact iff_of_false (ofPath_ne_field _ _ _ _) fun h ↦ hends h.1

theorem ofAddress_ofMember_get_eq_field_iff {typeName member : String} {rest : List Char}
    {receiver : Option String} :
    ofAddress (Address.ofMember typeName member) (some (String.ofList ("get".toList ++ rest))) =
        field (String.ofList ('/' :: typeName.toList ++ '/' :: member.toList)) receiver ↔
      (∀ c ∈ rest.head?, c ∈ ['&', '=', '[', '$']) ∧ receiver? rest = receiver := by
  rw [← decodeChars_ofMember, ← Percent.decode]
  apply ofAddress_get_eq_field_iff
  rw [decodeChars_ofMember]
  simp

theorem receiver?_cons {c : Char} (hmark : c = '[' ∨ c = '$') (rest : List Char) :
    receiver? (c :: rest) = nonempty? (Percent.decodeChars (c :: rest)) := by
  have hand : '&' ≠ c := by rcases hmark with rfl | rfl <;> decide
  have ht : 't' ≠ c := by rcases hmark with rfl | rfl <;> decide
  have hequals : '=' ≠ c := by rcases hmark with rfl | rfl <;> decide
  have hthis : "this".toList = 't' :: "his".toList := rfl
  rw [receiver?, behind_cons_of_ne hand, hthis, behind_cons_of_ne ht, behind_cons_of_ne hequals]

theorem receiver?_encodeChars_iff {text : String} :
    ((∀ c ∈ (Percent.encodeChars text.toList).head?, c ∈ ['&', '=', '[', '$']) ∧
        receiver? (Percent.encodeChars text.toList) = some text) ↔
      text.toList.head? = some '[' ∨ text.toList.head? = some '$' := by
  rw [← Percent.head?_encodeChars_iff (by decide : Percent.escaped '[' = false) (by decide),
    ← Percent.head?_encodeChars_iff (by decide : Percent.escaped '$' = false) (by decide)]
  have hand : '&' ∉ Percent.encodeChars text.toList :=
    Percent.notMem_encodeChars (by decide) (by decide)
  have hequals : '=' ∉ Percent.encodeChars text.toList :=
    Percent.notMem_encodeChars (by decide) (by decide)
  cases hencoded : Percent.encodeChars text.toList with
  | nil =>
    refine iff_of_false ?_ (by simp)
    rintro ⟨-, hreceiver⟩
    cases hreceiver
  | cons c rest =>
    rw [hencoded] at hand hequals
    have hc : (∀ d ∈ (c :: rest).head?, d ∈ ['&', '=', '[', '$']) ↔
        (c :: rest).head? = some '[' ∨ (c :: rest).head? = some '$' := by
      simp only [List.mem_cons, not_or] at hand hequals
      simp [Ne.symm hand.1, Ne.symm hequals.1]
    rw [hc]
    refine and_iff_left_of_imp fun hmark ↦ ?_
    have hne : text.toList ≠ [] := by
      rw [ne_eq, ← Percent.encodeChars_eq_nil_iff, hencoded]
      exact List.cons_ne_nil c rest
    rw [receiver?_cons (by simpa using hmark), ← hencoded, Percent.decodeChars_encodeChars,
      nonempty?, if_neg hne, String.ofList_toList]

theorem ofAddress_token_persist {text : String} (h : text.toList.head? = some '[') :
    ofAddress (Topic.token text).path (some "persist") = persist text none := by
  obtain ⟨rest, hrest⟩ := List.head?_eq_some_iff.mp h
  have hpath : Percent.decodeChars (Topic.token text).path.toList = '/' :: text.toList := by
    rw [Topic.path, Address.toList_ofType, Percent.decodeChars_cons_of_ne (by decide),
      Percent.decodeChars_encodeChars]
  have htrimmed : dropSlashes ('/' :: text.toList) = '[' :: rest := by
    rw [hrest]
    rfl
  have hroot : ¬('/' :: text.toList = [] ∨ '/' :: text.toList = ['/']) := by
    rw [hrest]
    simp
  have hcall : behindVerb? "call" "persist".toList = none := rfl
  have hget : behindVerb? "get" "persist".toList = none := rfl
  have hpersist : behindVerb? "persist" "persist".toList = some [] := rfl
  rw [ofAddress, Option.getD_some, ofChars, hpath, if_neg hroot, hcall]
  simp only [hget, ofPath, htrimmed, hpersist]
  rw [← hrest, String.ofList_toList]
  rfl

end Route

/-! ## Landing -/

theorem Console.fieldTarget?_eq_some_iff {path typeName member : List Char} :
    fieldTarget? path = some (typeName, member) ↔
      Invocation.target path = .ok (typeName, member) := by
  rw [fieldTarget?, Invocation.target, Option.filter_eq_some_iff]
  cases cut? '/' (dropSlashes path) with
  | none => exact iff_of_false (by rintro ⟨⟨⟩, -⟩) (by rintro ⟨⟩)
  | some parts =>
    obtain ⟨before, behind⟩ := parts
    simp only [Option.some.injEq, Prod.mk.injEq, decide_eq_true_iff]
    split_ifs with hempty
    · refine iff_of_false ?_ (by rintro ⟨⟩)
      rintro ⟨⟨rfl, rfl⟩, hne⟩
      exact hempty.elim hne.1 hne.2
    · rw [Except.ok.injEq, Prod.mk.injEq]
      refine and_iff_left_of_imp ?_
      rintro ⟨rfl, rfl⟩
      exact not_or.mp hempty

namespace Address

variable {typeName : String} {field : Field}

theorem exists_ofField?_of_isStatic (h : field.isStatic = true) (receiver : Option String) :
    ∃ address, ofField? typeName field receiver = some address ∧ route? address =
      some (.field (String.ofList ('/' :: typeName.toList ++ '/' :: field.name.toList)) none) := by
  refine ⟨_, ofField?_of_isStatic h receiver, ?_⟩
  rw [route?_ofHalves, Option.some.injEq]
  exact Route.ofAddress_ofMember_get_eq_field_iff.mpr ⟨nofun, rfl⟩

/-- The link of an instance field asks for the field on a receiver exactly if that begins with the
mark of a token. -/
theorem exists_ofField?_of_not_isStatic (h : field.isStatic = false) (text : String) :
    ∃ address, ofField? typeName field (some text) = some address ∧
      (route? address = some (.field
          (String.ofList ('/' :: typeName.toList ++ '/' :: field.name.toList)) (some text)) ↔
        text.toList.head? = some '[' ∨ text.toList.head? = some '$') := by
  refine ⟨_, ofField?_of_not_isStatic h (some text), ?_⟩
  have hquery : "get" ++ Percent.encode text =
      String.ofList ("get".toList ++ Percent.encodeChars text.toList) := by
    rw [← String.toList_inj]
    simp
  rw [route?_ofHalves, Option.some.injEq, hquery, ← Route.receiver?_encodeChars_iff]
  exact Route.ofAddress_ofMember_get_eq_field_iff

theorem exists_ofPersist?_of_head? {text : String} (h : text.toList.head? = some '[') :
    ∃ address, ofPersist? text = some address ∧ route? address = some (.persist text none) := by
  refine ⟨_, ofPersist?_of_head? h, ?_⟩
  rw [route?_ofHalves, Route.ofAddress_token_persist h]

end Address

/-- **The links for fields and names land where they point.** On the page of a type, seen from any
receiver or from none:

* the items of the fields stand in the order of declaration, and each leads, if anywhere, to a path
  that is taken apart into the type and the field, exactly when these names allow it. The link of a
  static field asks for the field without a receiver. An instance field has no link when there is no
  receiver, and with one its link asks for the field on that receiver exactly if the receiver begins
  with the mark of a token;
* the line about the receiver has a link, to a name, exactly if the receiver begins with the mark of
  temporary tokens, and this link asks for a name for that token without giving one;
* there are no other links but those of the calls. -/
theorem receiver_links_land (entry : TypeEntry) (receiver : Option String) :
    let page := (MembersPage.ofEntry entry receiver).markup
    List.Forall₂
      (fun field item ↦ ∃ fieldPath,
        (Console.fieldTarget? fieldPath.toList = some (entry.name.toList, field.name.toList) ↔
          entry.name ≠ "" ∧ '/' ∉ entry.name.toList ∧ field.name ≠ "") ∧
        (field.isStatic = true → ∃ address, item.link = some (address, "get") ∧
          Address.route? address = some (.field fieldPath none)) ∧
        (field.isStatic = false → receiver = none → item.link = none) ∧
        ∀ text, field.isStatic = false → receiver = some text →
          ∃ address, item.link = some (address, "get") ∧
            (Address.route? address = some (.field fieldPath (some text)) ↔
              text.toList.head? = some '[' ∨ text.toList.head? = some '$'))
      entry.fields (fieldItems page) ∧
    (receiver = none → receiverLine? page = none) ∧
    (∀ text, receiver = some text → ∃ line, receiverLine? page = some line ∧
      (line.link.isSome ↔ text.toList.head? = some '[') ∧
      ∀ address label, line.link = some (address, label) →
        label = "persist" ∧ Address.route? address = some (.persist text none)) ∧
    links page.toList = ((receiverLine? page).bind Listed.link).toList.map Prod.fst ++
      (listed page.toList).filterMap fun item ↦ item.link.map Prod.fst := by
  intro page
  refine ⟨?_, ?_, ?_, MembersPage.links_eq_receiverLine?_append_listed _⟩
  · rw [fieldItems_ofEntry, List.forall₂_map_right_iff, List.forall₂_same]
    intro field _
    refine ⟨String.ofList ('/' :: entry.name.toList ++ '/' :: field.name.toList), ?_, ?_, ?_, ?_⟩
    · rw [String.toList_ofList, Console.fieldTarget?_eq_some_iff, Invocation.target_ofMember_iff]
    · intro hstatic
      obtain ⟨address, haddress, hroute⟩ := Address.exists_ofField?_of_isStatic hstatic receiver
      rw [haddress]
      exact ⟨address, rfl, hroute⟩
    · rintro hstatic rfl
      rw [Address.ofField?_of_not_isStatic hstatic]
      rfl
    · rintro text hstatic rfl
      obtain ⟨address, haddress, hroute⟩ := Address.exists_ofField?_of_not_isStatic hstatic text
      rw [haddress]
      exact ⟨address, rfl, hroute⟩
  · rintro rfl
    rw [MembersPage.receiverLine?_markup]
    rfl
  · rintro text rfl
    have hline : receiverLine? page =
        some (Listed.ofItem "persist" ⟨"this = " ++ text, Address.ofPersist? text⟩) :=
      MembersPage.receiverLine?_markup _
    refine ⟨_, hline, ?_⟩
    by_cases hmark : text.toList.head? = some '['
    · obtain ⟨address, haddress, hroute⟩ := Address.exists_ofPersist?_of_head? hmark
      rw [haddress]
      refine ⟨iff_of_true rfl hmark, ?_⟩
      rintro _ _ ⟨⟩
      exact ⟨rfl, hroute⟩
    · have hnone : Address.ofPersist? text = none := if_neg hmark
      rw [hnone]
      exact ⟨iff_of_false nofun hmark, nofun⟩

end ObjectConsole
