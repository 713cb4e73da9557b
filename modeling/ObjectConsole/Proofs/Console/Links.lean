import ObjectConsole.Proofs.Console.Answers
import ObjectConsole.Proofs.Console.ValueAddress
import ObjectConsole.Proofs.Text.Component
import ObjectConsole.Proofs.Value.Unfolding

/-!
# The links of a response

A response offers its visitor addresses to go on to: the location of a redirect, and the links on a
page. `links` finds the links by their opening, in whatever text, so a link that came out of a name
or of a value would be found like any other. There is none such: all other parts of a page are
`Linkless`, and the links of a page are those that were written for it (`MembersPage.links_markup`,
`links_resultPage`).

Each address is about something (`Topic`), and this is what its path names.
-/

namespace ObjectConsole

open Text

/-! ## Reading links -/

/-- The address of the link that begins with an angle bracket, read from behind the bracket. -/
def link? (markup : List Char) : Option String :=
  (behind? "a href=\"".toList markup).bind fun link ↦
    (cut? '"' link).map fun parts ↦ Listed.shown parts.1

/-- The addresses of all links on a page, in order. -/
def links : List Char → List String
  | [] => []
  | c :: rest => (if c = '<' then (link? rest).toList else []) ++ links rest

/-- The addresses that a response offers: its location, and the links if it is a page. -/
def Response.offered (response : Response) : List String :=
  response.location.toList ++
    match response.contentType with
    | .html => links response.body.toList
    | .plain => []

theorem Response.offered_page (body : String) : (page body).offered = links body.toList := by
  rw [offered, page, Option.toList_none, List.nil_append]

/-- A stretch in which no link begins, whatever stands behind it. -/
def Linkless (s : List Char) : Prop :=
  ∀ rest, links (s ++ rest) = links rest

namespace Linkless

variable {s t : List Char}

theorem links_eq_nil (h : Linkless s) : links s = [] := by
  have hlinks := h []
  rwa [List.append_nil, links] at hlinks

theorem append (hs : Linkless s) (ht : Linkless t) : Linkless (s ++ t) := by
  intro rest
  rw [List.append_assoc, hs, ht]

theorem of_notMem (h : '<' ∉ s) : Linkless s := by
  intro rest
  induction s with
  | nil => rfl
  | cons c s ih =>
    rw [List.mem_cons, not_or] at h
    rw [List.cons_append, links, if_neg (Ne.symm h.1), List.nil_append, ih h.2]

theorem of_harmless (h : Html.Harmless s) : Linkless s :=
  of_notMem fun hmem ↦ (h.no_markup _ hmem).1 rfl

theorem escape (text : String) : Linkless (Html.escape text).toList :=
  of_harmless (.escape text)

theorem intercalate {separator : String} {parts : List String}
    (hseparator : Linkless separator.toList) (hparts : ∀ part ∈ parts, Linkless part.toList) :
    Linkless (separator.intercalate parts).toList := by
  induction parts with
  | nil => exact of_notMem (by simp)
  | cons first parts ih =>
    obtain ⟨hfirst, hothers⟩ := List.forall_mem_cons.mp hparts
    cases parts with
    | nil => simpa using hfirst
    | cons second parts =>
      rw [String.intercalate_cons_cons, String.toList_append, String.toList_append]
      exact (hfirst.append hseparator).append (ih hothers)

/-- A rendered value has spans in it, but no links. -/
theorem of_rendered {depth : Nat} {rendered : String} (h : Value.Rendered depth rendered) :
    Linkless rendered.toList := by
  induction h with
  | text hharmless => exact of_harmless hharmless
  | @array depth elements _ ih =>
    have hopening : Linkless "<span class=\"array-element\">".toList := fun _ ↦ rfl
    have hclosing : Linkless "</span>".toList := fun _ ↦ rfl
    have hbegin : Linkless "[".toList := fun _ ↦ rfl
    have hseparator : Linkless ", ".toList := fun _ ↦ rfl
    have hend : Linkless "]".toList := fun _ ↦ rfl
    have hspans : ∀ part ∈ elements.map fun element ↦
        "<span class=\"array-element\">" ++ element ++ "</span>", Linkless part.toList := by
      intro part hpart
      obtain ⟨element, hmem, rfl⟩ := List.mem_map.mp hpart
      rw [String.toList_append, String.toList_append]
      exact (hopening.append (ih hmem)).append hclosing
    rw [String.toList_append, String.toList_append]
    exact (hbegin.append (hseparator.intercalate hspans)).append hend

end Linkless

/-! ## The links of pages -/

/-- A link is found with its address. -/
theorem links_anchor_append (address text : String) (rest : List Char) :
    links ((anchor address text).toList ++ rest) = address :: links rest := by
  have hbegin : Linkless "a href=\"".toList := fun _ ↦ rfl
  have hmiddle : Linkless "\">".toList := fun _ ↦ rfl
  have hend : Linkless "</a>".toList := fun _ ↦ rfl
  have hquote : '"' ∉ (Html.escape address).toList := by
    rw [Html.toList_escape]
    exact Html.notMem_escapeChars (.inr (.inr rfl))
  have hcut (behind : List Char) :
      cut? '"' ((Html.escape address).toList ++ ("\">".toList ++ behind)) =
      some ((Html.escape address).toList, ">".toList ++ behind) :=
    cut?_eq_some_iff.mpr ⟨rfl, hquote⟩
  have hlink (behind : List Char) : link? ("a href=\"".toList ++
      ((Html.escape address).toList ++ ("\">".toList ++ behind))) = some address := by
    rw [link?, behind?_eq_some_iff.mpr rfl, Option.bind_some, hcut, Option.map_some,
      Html.toList_escape, Listed.shown_escapeChars]
  have hmarkup : (anchor address text).toList ++ rest = '<' :: ("a href=\"".toList ++
      ((Html.escape address).toList ++ ("\">".toList ++
        ((Html.escape text).toList ++ ("</a>".toList ++ rest))))) := by
    simp [anchor]
  rw [hmarkup, links, if_pos rfl, hlink, hbegin, Linkless.escape, hmiddle, Linkless.escape, hend]
  rfl

theorem links_item_append (label : String) (item : Item) (rest : List Char) :
    links ((item.markup label).toList ++ rest) = item.address.toList ++ links rest := by
  have hbegin : Linkless "<li>".toList := fun _ ↦ rfl
  have hblank : Linkless " ".toList := fun _ ↦ rfl
  have hend : Linkless "</li>".toList := fun _ ↦ rfl
  obtain ⟨signature, address⟩ := item
  cases address with
  | none =>
    simp only [Item.markup, String.toList_append, List.append_assoc]
    rw [hbegin, Linkless.escape, String.toList_empty, List.nil_append, hend]
    rfl
  | some address =>
    simp only [Item.markup, String.toList_append, List.append_assoc]
    rw [hbegin, Linkless.escape, hblank, links_anchor_append, hend]
    rfl

theorem links_items_append (label : String) (items : List Item) (rest : List Char) :
    links ((String.join (items.map (Item.markup label))).toList ++ rest) =
      items.filterMap Item.address ++ links rest := by
  induction items with
  | nil => rfl
  | cons item items ih =>
    rw [List.map_cons, String.join_cons, String.toList_append, List.append_assoc,
      links_item_append, ih, List.filterMap_cons]
    cases item.address <;> rfl

theorem links_list_append {className : String} (hclass : Linkless className.toList) (label : String)
    (items : List Item) (rest : List Char) :
    links ((list className label items).toList ++ rest) =
      items.filterMap Item.address ++ links rest := by
  have hbegin : Linkless "<ul class=\"".toList := fun _ ↦ rfl
  have hmiddle : Linkless "\">".toList := fun _ ↦ rfl
  have hend : Linkless "</ul>".toList := fun _ ↦ rfl
  simp only [list, String.toList_append, List.append_assoc]
  rw [hbegin, hclass, hmiddle, links_items_append, hend]

theorem MembersPage.links_receiverMarkup_append (receiver : String) (rest : List Char) :
    links ((receiverMarkup receiver).toList ++ rest) =
      (Address.ofPersist? receiver).toList ++ links rest := by
  have hbegin : Linkless "<p>this = ".toList := fun _ ↦ rfl
  have hblank : Linkless " ".toList := fun _ ↦ rfl
  have hend : Linkless "</p>".toList := fun _ ↦ rfl
  cases haddress : Address.ofPersist? receiver with
  | none =>
    simp only [receiverMarkup, haddress, String.toList_append, List.append_assoc]
    rw [hbegin, Linkless.escape, String.toList_empty, List.nil_append, hend]
    rfl
  | some address =>
    simp only [receiverMarkup, haddress, String.toList_append, List.append_assoc]
    rw [hbegin, Linkless.escape, hblank, links_anchor_append, hend]
    rfl

/-- The links of a page of members: to a name for the receiver, and to the members. -/
theorem MembersPage.links_markup (page : MembersPage) :
    links page.markup.toList =
      (page.receiver.bind Address.ofPersist?).toList ++
        page.operations.filterMap Item.address ++ page.fields.filterMap Item.address := by
  have hbegin : Linkless "<html><body><h1>".toList := fun _ ↦ rfl
  have hheading : Linkless "</h1>".toList := fun _ ↦ rfl
  have hoperations : Linkless "operations".toList := fun _ ↦ rfl
  have hfields : Linkless "fields".toList := fun _ ↦ rfl
  have hend : Linkless "</body></html>".toList := fun _ ↦ rfl
  have hreceiver (rest : List Char) :
      links (((page.receiver.map receiverMarkup).getD "").toList ++ rest) =
        (page.receiver.bind Address.ofPersist?).toList ++ links rest := by
    cases page.receiver with
    | none => rfl
    | some receiver => exact links_receiverMarkup_append receiver rest
  unfold markup
  simp only [String.toList_append, List.append_assoc]
  rw [hbegin, Linkless.escape, hheading, hreceiver, links_list_append hoperations,
    links_list_append hfields, hend.links_eq_nil, List.append_nil]

theorem links_resultPage {line : String} (hline : Linkless line.toList) (link : String) :
    links (resultPage line link).toList =
      links (link.toList ++ "</p></body></html>".toList) := by
  have hbegin : Linkless "<html><body><p>".toList := fun _ ↦ rfl
  have hmiddle : Linkless "</p><p>".toList := fun _ ↦ rfl
  unfold resultPage
  simp only [String.toList_append, List.append_assoc]
  rw [hbegin, hline, hmiddle]

/-- A page of a result or a failure without a link has none anywhere. -/
theorem links_resultPage_empty {line : String} (hline : Linkless line.toList) :
    links (resultPage line "").toList = [] := by
  have hend : Linkless "</p></body></html>".toList := fun _ ↦ rfl
  rw [links_resultPage hline, String.toList_empty, List.nil_append, hend.links_eq_nil]

theorem links_resultPage_valueLink {line : String} (hline : Linkless line.toList) (v : Value)
    (token : Token) : links (resultPage line (valueLink v token)).toList =
      [Address.ofValue v token] := by
  have hend : Linkless "</p></body></html>".toList := fun _ ↦ rfl
  rw [links_resultPage hline, valueLink, links_anchor_append, hend.links_eq_nil]

namespace Linkless

theorem resultLine (signature : String) {rendered : String} (h : Linkless rendered.toList) :
    Linkless (resultLine signature rendered).toList := by
  have hequals : Linkless " = ".toList := fun _ ↦ rfl
  rw [ObjectConsole.resultLine, String.toList_append, String.toList_append]
  exact ((escape signature).append hequals).append h

theorem failureLine (signature : String) (failure : Failure) :
    Linkless (failureLine signature failure).toList := by
  have hmark : Linkless " !! ".toList := fun _ ↦ rfl
  rw [ObjectConsole.failureLine, String.toList_append, String.toList_append]
  exact ((escape signature).append hmark).append (escape failure.text)

end Linkless

/-! ## What the addresses are about -/

/-- What the path of an address names: a type, a member of a type, or a token. -/
inductive Topic where
  | type (typeName : String)
  | member (typeName name : String)
  | token (text : String)
  deriving DecidableEq, Repr

/-- The path of the addresses about something. A token is written like the name of a type. -/
def Topic.path : Topic → String
  | type typeName => Address.ofType typeName
  | member typeName name => Address.ofMember typeName name
  | token text => Address.ofType text

/-- The names that a path is made of. -/
def Topic.names : Topic → List String
  | type typeName => [typeName]
  | member typeName name => [typeName, name]
  | token text => [text]

namespace Address

/-- The addresses that the console writes, each about its topic. -/
inductive About : Topic → String → Prop
  | type (typeName : String) : About (.type typeName) (ofType typeName)
  | value (v : Value) (token : Token) : About (.type v.typeName) (ofValue v token)
  | call (typeName : String) (operation : Operation) (receiver : Option String) :
      About (.member typeName operation.name) (ofCall typeName operation receiver)
  | field {typeName address : String} {field : Field} {receiver : Option String}
      (h : ofField? typeName field receiver = some address) :
      About (.member typeName field.name) address
  | persist {receiver address : String} (h : ofPersist? receiver = some address) :
      About (.token receiver) address

end Address

namespace Address

theorem slash_notMem_encodeChars (name : String) : '/' ∉ Percent.encodeChars name.toList :=
  Percent.notMem_encodeChars (by decide) (by decide)

theorem ofType_injective : Function.Injective ofType := by
  intro name name' h
  rw [← String.toList_inj, toList_ofType, toList_ofType, List.cons.injEq] at h
  exact String.toList_inj.mp (Percent.encodeChars_injective h.2)

/-- The second slash of a member's address would be in the name of the type. -/
theorem ofType_ne_ofMember (name typeName member : String) :
    ofType name ≠ ofMember typeName member := by
  intro h
  rw [← String.toList_inj, toList_ofType, toList_ofMember, List.cons_append, List.cons.injEq] at h
  have hslash : '/' ∈ Percent.encodeChars name.toList := by
    rw [h.2]
    exact List.mem_append_right _ List.mem_cons_self
  exact slash_notMem_encodeChars name hslash

theorem ofMember_inj {typeName typeName' member member' : String} :
    ofMember typeName member = ofMember typeName' member' ↔
      typeName = typeName' ∧ member = member' := by
  constructor
  · intro h
    rw [← String.toList_inj, toList_ofMember, toList_ofMember, List.cons_append, List.cons_append,
      List.cons.injEq] at h
    -- both are cut at their first slash
    have hcut := congrArg (cut? '/') h.2
    rw [cut?_eq_some_iff.mpr ⟨rfl, slash_notMem_encodeChars typeName⟩,
      cut?_eq_some_iff.mpr ⟨rfl, slash_notMem_encodeChars typeName'⟩, Option.some.injEq,
      Prod.mk.injEq] at hcut
    exact ⟨String.toList_inj.mp (Percent.encodeChars_injective hcut.1),
      String.toList_inj.mp (Percent.encodeChars_injective hcut.2)⟩
  · rintro ⟨rfl, rfl⟩
    rfl

/-- A text of components and of separators between them. -/
def Joined (separators text : List Char) : Prop :=
  ∀ c ∈ text, c ∈ separators ∨ Percent.Plain c

namespace Joined

variable {separators s t : List Char}

theorem of_all (h : (s.all fun c ↦ separators.contains c || !Percent.escaped c) = true) :
    Joined separators s := by
  intro c hc
  have hgood := List.all_eq_true.mp h c hc
  rw [Bool.or_eq_true, List.contains_iff_mem, Bool.not_eq_true'] at hgood
  exact hgood.imp_right .inl

theorem append (hs : Joined separators s) (ht : Joined separators t) :
    Joined separators (s ++ t) :=
  List.forall_mem_append.mpr ⟨hs, ht⟩

theorem encode (name : String) : Joined separators (Percent.encode name).toList := by
  intro c hc
  rw [Percent.toList_encode] at hc
  exact .inr (Percent.plain_of_mem_encodeChars hc)

theorem visible_of_mem (hs : Joined separators s) {c : Char} (hc : c ∈ s)
    (hseparator : c ∉ separators) : Percent.Visible c ∧ c ∉ Percent.marks :=
  ((hs c hc).resolve_left hseparator).visible

theorem notMem (hs : Joined separators s) {mark : Char} (hmark : mark ∈ Percent.marks)
    (hseparator : mark ∉ separators) : mark ∉ s :=
  fun hmem ↦ (hs.visible_of_mem hmem hseparator).2 hmark

end Joined

end Address

namespace Topic

theorem joined_path (topic : Topic) : Address.Joined ['/'] topic.path.toList := by
  have hname (name : String) : Address.Joined ['/'] (Address.ofType name).toList := by
    rw [Address.ofType, String.toList_append]
    exact Address.Joined.append (.of_all (by decide)) (.encode name)
  cases topic with
  | type typeName => exact hname typeName
  | token text => exact hname text
  | member typeName name =>
    rw [path, Address.ofMember, String.toList_append, String.toList_append]
    exact ((hname typeName).append (.of_all (by decide))).append (.encode name)

/-- A character that is never escaped is in a path if it is in one of the names. -/
theorem mem_path_iff {c : Char} (hescaped : Percent.escaped c = false)
    (hdigit : c ∉ Percent.hexDigits) {topic : Topic} :
    c ∈ topic.path.toList ↔ ∃ name ∈ topic.names, c ∈ name.toList := by
  have hslash : c ≠ '/' := by
    rintro rfl
    exact absurd hescaped (by decide)
  have hname (name : String) : c ∈ Percent.encodeChars name.toList ↔ c ∈ name.toList :=
    Percent.mem_encodeChars_iff hescaped hdigit
  cases topic <;> simp [path, names, Address.ofMember, Address.ofType, hname, hslash]

theorem exists_path_eq (topic : Topic) : ∃ rest, topic.path.toList = '/' :: rest := by
  cases topic with
  | type typeName => exact ⟨_, Address.toList_ofType typeName⟩
  | member typeName name => exact ⟨_, Address.toList_ofMember typeName name⟩
  | token text => exact ⟨_, Address.toList_ofType text⟩

/-- A path of one component is about the type of that name, unless it is about a token. -/
theorem path_eq_path_type_iff {topic : Topic} {typeName : String}
    (htoken : ∀ text, topic = .token text → text ≠ typeName) :
    topic.path = (Topic.type typeName).path ↔ topic = .type typeName := by
  refine ⟨fun h ↦ ?_, congrArg path⟩
  cases topic with
  | type name => exact congrArg type (Address.ofType_injective h)
  | token text => exact absurd (Address.ofType_injective h) (htoken text rfl)
  | member name other => exact absurd h.symm (Address.ofType_ne_ofMember _ _ _)

theorem path_eq_path_member_iff {topic : Topic} {typeName name : String} :
    topic.path = (Topic.member typeName name).path ↔ topic = .member typeName name := by
  refine ⟨fun h ↦ ?_, congrArg path⟩
  cases topic with
  | type other => exact absurd h (Address.ofType_ne_ofMember _ _ _)
  | token text => exact absurd h (Address.ofType_ne_ofMember _ _ _)
  | member other second =>
    obtain ⟨rfl, rfl⟩ := Address.ofMember_inj.mp h
    rfl

end Topic

namespace Address

/-- The address of a path, and of a query behind it if there is one. -/
def ofHalves (path : String) : Option String → String
  | none => path
  | some query => path ++ "?" ++ query

theorem joined_receiverPart (receiver : Option String) :
    Joined ['&', '='] (receiverPart receiver).toList := by
  cases receiver with
  | none => exact .of_all (by decide)
  | some text =>
    rw [receiverPart, String.toList_append]
    exact Joined.append (.of_all (by decide)) (.encode text)

theorem joined_typesPart (types : List String) :
    Joined ['&', '='] (String.join (types.map fun type ↦ "&" ++ Percent.encode type)).toList := by
  induction types with
  | nil => exact .of_all (by decide)
  | cons type types ih =>
    rw [List.map_cons, String.join_cons, String.toList_append, String.toList_append]
    exact (Joined.append (.of_all (by decide)) (.encode type)).append ih

/-- An address is the path of its topic, and perhaps a query. -/
theorem About.exists_eq_ofHalves {topic : Topic} {address : String} (h : About topic address) :
    ∃ query : Option String, address = ofHalves topic.path query ∧
      ∀ text ∈ query, Joined ['&', '='] text.toList := by
  have hcall : "?call" = "?" ++ "call" := by decide
  have hget : "?get" = "?" ++ "get" := by decide
  have hpersist : "?persist" = "?" ++ "persist" := by decide
  cases h with
  | type typeName => exact ⟨none, rfl, nofun⟩
  | value v token =>
    refine ⟨some (Percent.encode token.text), rfl, ?_⟩
    rintro text ⟨⟩
    exact .encode token.text
  | call typeName operation receiver =>
    refine ⟨some ("call" ++ ((if operation.isStatic then "" else receiverPart receiver) ++
      String.join (operation.parameters.map fun type ↦ "&" ++ Percent.encode type))), ?_, ?_⟩
    · simp only [ofCall, ofHalves, Topic.path, hcall, String.append_assoc]
    · rintro text ⟨⟩
      have hreceiver : Joined ['&', '=']
          (if operation.isStatic then "" else receiverPart receiver).toList := by
        split
        · exact .of_all (by decide)
        · exact joined_receiverPart receiver
      rw [String.toList_append, String.toList_append]
      exact Joined.append (.of_all (by decide))
        (hreceiver.append (joined_typesPart operation.parameters))
  | @field typeName address field receiver haddress =>
    rw [ofField?] at haddress
    split at haddress
    · cases haddress
      refine ⟨some "get", by simp only [ofHalves, Topic.path, hget, String.append_assoc], ?_⟩
      rintro text ⟨⟩
      exact .of_all (by decide)
    · obtain ⟨text, -, rfl⟩ := Option.map_eq_some_iff.mp haddress
      refine ⟨some ("get" ++ Percent.encode text),
        by simp only [ofHalves, Topic.path, hget, String.append_assoc], ?_⟩
      rintro query ⟨⟩
      rw [String.toList_append]
      exact Joined.append (.of_all (by decide)) (.encode text)
  | @persist receiver address haddress =>
    rw [ofPersist?] at haddress
    split at haddress <;> cases haddress
    refine ⟨some "persist",
      by simp only [ofHalves, Topic.path, ofType, hpersist, String.append_assoc], ?_⟩
    rintro text ⟨⟩
    exact .of_all (by decide)

/-- Only a temporary token is offered a name. -/
theorem About.head?_eq {text address : String} (h : About (.token text) address) :
    text.toList.head? = some '[' := by
  cases h with
  | persist haddress =>
    rw [ofPersist?] at haddress
    split at haddress
    · assumption
    · cases haddress

end Address

namespace MembersPage

theorem exists_about_of_ofEntry {entry : TypeEntry} {receiver : Option String} {address : String}
    (h : address ∈ links (ofEntry entry receiver).markup.toList) :
    ∃ topic, Address.About topic address := by
  rw [links_markup, List.mem_append, List.mem_append] at h
  rcases h with (hpersist | hcall) | hget
  · obtain ⟨text, -, haddress⟩ := Option.bind_eq_some_iff.mp (Option.mem_toList.mp hpersist)
    exact ⟨_, .persist haddress⟩
  · obtain ⟨item, hitem, haddress⟩ := List.mem_filterMap.mp hcall
    obtain ⟨operation, -, rfl⟩ := List.mem_map.mp hitem
    cases haddress
    exact ⟨_, .call entry.name operation receiver⟩
  · obtain ⟨item, hitem, haddress⟩ := List.mem_filterMap.mp hget
    obtain ⟨field, -, rfl⟩ := List.mem_map.mp hitem
    exact ⟨_, .field haddress⟩

theorem exists_about_of_bare {typeName : String} {receiver : Option String} {address : String}
    (h : address ∈ links (bare typeName receiver).markup.toList) :
    ∃ topic, Address.About topic address := by
  rw [links_markup, bare, List.filterMap_nil, List.append_nil, List.append_nil] at h
  obtain ⟨text, -, haddress⟩ := Option.bind_eq_some_iff.mp (Option.mem_toList.mp h)
  exact ⟨_, .persist haddress⟩

end MembersPage

/-- Whatever a response offers is an address that the console wrote. -/
theorem Response.exists_about_of_offered {console : Console} {response : Response}
    (h : console.Gives response) {address : String} (hoffered : address ∈ response.offered) :
    ∃ topic, Address.About topic address := by
  cases h with
  | start =>
    obtain rfl := List.mem_singleton.mp hoffered
    exact ⟨_, .type console.rootType⟩
  | redirect v token =>
    obtain rfl := List.mem_singleton.mp hoffered
    exact ⟨_, .value v token⟩
  | error error => cases hoffered
  | null signature =>
    have hnull : Linkless "null".toList := fun _ ↦ rfl
    rw [offered_page, links_resultPage_empty (hnull.resultLine signature)] at hoffered
    cases hoffered
  | failure signature failure =>
    rw [offered_page, links_resultPage_empty (.failureLine signature failure)] at hoffered
    cases hoffered
  | value signature id hrender =>
    have hrendered := Linkless.of_rendered (Value.rendered_of_render hrender)
    rw [offered_page, links_resultPage_valueLink (hrendered.resultLine signature)] at hoffered
    obtain rfl := List.mem_singleton.mp hoffered
    exact ⟨_, .value _ (.ephemeral id)⟩
  | members hpage =>
    rw [offered_page] at hoffered
    rcases Console.eq_of_membersPage? hpage with ⟨entry, -, rfl⟩ | rfl
    · exact MembersPage.exists_about_of_ofEntry hoffered
    · exact MembersPage.exists_about_of_bare hoffered

end ObjectConsole
