import ObjectConsole.Proofs.Console.Answers
import ObjectConsole.Proofs.Console.Reported
import ObjectConsole.Proofs.Value.Unfolding

/-!
# Pages as templates

Names, receivers, failures and values come from everywhere, and on a page they are only ever to be
read. A page is therefore compared with a `Template`, which has the page's own markup written out
and holes in it. `Template.Fills` says that a page is the template with each hole filled: by
harmless text, or by a rendered value. The templates are few: `membersPage`, which depends on the
number of members and on which of them have links, and the pages of results and failures.

Everything else that the console answers is plain text, errors above all, since they repeat what was
asked for as it was (`Response.Harmless`).
-/

namespace ObjectConsole

open Text

/-! ## Templates -/

/-- A part of a template: markup of the page itself, or a hole for a text or a rendered value. -/
inductive Part where
  | markup (written : String)
  | text
  | value

/-- What a part may be filled by. -/
inductive Part.Fills : Part → String → Prop
  | markup (written : String) : Fills (.markup written) written
  | text {s : String} (h : Html.Harmless s.toList) : Fills .text s
  | value {s : String} (h : Value.Rendered 32 s) : Fills .value s

/-- The parts of a page, in order. -/
abbrev Template := List Part

namespace Template

/-- A page that comes of a template. -/
inductive Fills : Template → String → Prop
  | nil : Fills [] ""
  | cons {part : Part} {template : Template} {s page : String} (hpart : part.Fills s)
      (h : Fills template page) : Fills (part :: template) (s ++ page)

/-- Markup of the page itself. -/
def markup (written : String) : Template := [.markup written]

/-- A hole for a text. -/
def text : Template := [.text]

/-- A hole for a rendered value. -/
def value : Template := [.value]

/-- A link with a text. -/
def anchor (shown : Template) : Template :=
  markup "<a href=\"" ++ text ++ markup "\">" ++ shown ++ markup "</a>"

/-- A link with a text, if there is to be one. -/
def link (linked : Bool) (label : String) : Template :=
  if linked then markup " " ++ anchor (markup label) else []

/-- A member in a list. -/
def item (label : String) (linked : Bool) : Template :=
  markup "<li>" ++ text ++ link linked label ++ markup "</li>"

/-- The paragraph about the receiver. -/
def receiver (linked : Bool) : Template :=
  markup "<p>this = " ++ text ++ link linked "persist" ++ markup "</p>"

/-- The page of a type's members: with a paragraph for a receiver, which may be linked, with a
number of operations, and with fields of which some are linked. -/
def membersPage (this : Option Bool) (operations : Nat) (fields : List Bool) : Template :=
  markup "<html><body><h1>" ++ text ++ markup "</h1>" ++ (this.map receiver).getD [] ++
    (markup "<ul class=\"operations\">" ++ (List.replicate operations (item "call" true)).flatten ++
      markup "</ul>") ++
    (markup "<ul class=\"fields\">" ++ fields.flatMap (item "get") ++ markup "</ul>") ++
    markup "</body></html>"

/-- The page of a result, with a link unless the value is null. -/
def resultPage (linked : Bool) : Template :=
  markup "<html><body><p>" ++ (text ++ markup " = " ++ value) ++ markup "</p><p>" ++
    (if linked then anchor text else []) ++ markup "</p></body></html>"

/-- The page of a failure. -/
def failurePage : Template :=
  markup "<html><body><p>" ++ (text ++ markup " !! " ++ text) ++ markup "</p><p>" ++ [] ++
    markup "</p></body></html>"

/-! ## Filling them -/

variable {template template' : Template} {page page' : String}

theorem Fills.append (h : template.Fills page) (h' : template'.Fills page') :
    (template ++ template').Fills (page ++ page') := by
  induction h with
  | nil => rwa [String.empty_append]
  | cons hpart _ ih =>
    rw [List.cons_append, String.append_assoc]
    exact .cons hpart ih

theorem fills_part {part : Part} {s : String} (h : part.Fills s) : Fills [part] s := by
  have hfills := Fills.cons h .nil
  rwa [String.append_empty] at hfills

theorem fills_markup (written : String) : (markup written).Fills written :=
  fills_part (.markup written)

theorem fills_escape (s : String) : text.Fills (Html.escape s) :=
  fills_part (.text (.escape s))

theorem fills_anchor (address : String) {shown : Template} {s : String}
    (h : shown.Fills (Html.escape s)) : (anchor shown).Fills (ObjectConsole.anchor address s) :=
  ((((fills_markup _).append (fills_escape address)).append (fills_markup _)).append h).append
    (fills_markup _)

/-- A link whose label has nothing to escape. -/
theorem fills_link {label : String} (hlabel : Html.escape label = label)
    (address : Option String) :
    (link address.isSome label).Fills
      (match address with
        | none => ""
        | some address => " " ++ ObjectConsole.anchor address label) := by
  cases address with
  | none => exact .nil
  | some address =>
    have hshown : (markup label).Fills (Html.escape label) := by
      rw [hlabel]
      exact fills_markup label
    exact (fills_markup " ").append (fills_anchor address hshown)

theorem fills_item {label : String} (hlabel : Html.escape label = label) (item : Item) :
    (Template.item label item.address.isSome).Fills (item.markup label) :=
  (((fills_markup _).append (fills_escape _)).append (fills_link hlabel _)).append (fills_markup _)

theorem fills_items {label : String} (hlabel : Html.escape label = label) (items : List Item) :
    Fills (items.flatMap fun item ↦ Template.item label item.address.isSome)
      (String.join (items.map (Item.markup label))) := by
  induction items with
  | nil => exact .nil
  | cons item items ih =>
    rw [List.flatMap_cons, List.map_cons, String.join_cons]
    exact (fills_item hlabel item).append ih

theorem fills_list (className : String) {label : String} (hlabel : Html.escape label = label)
    (items : List Item) :
    Fills (markup ("<ul class=\"" ++ className ++ "\">") ++
        items.flatMap (fun item ↦ Template.item label item.address.isSome) ++ markup "</ul>")
      (list className label items) :=
  ((fills_markup _).append (fills_items hlabel items)).append (fills_markup _)

theorem fills_receiver (this : Option String) :
    Fills ((this.map (receiver ∘ fun text ↦ (Address.ofPersist? text).isSome)).getD [])
      ((this.map MembersPage.receiverMarkup).getD "") := by
  cases this with
  | none => exact .nil
  | some text =>
    exact (((fills_markup _).append (fills_escape text)).append
      (fills_link (by decide) (Address.ofPersist? text))).append (fills_markup _)

/-- A page of members fills its template if all operations have a link. -/
theorem fills_membersPage {page : MembersPage}
    (hlinks : ∀ item ∈ page.operations, item.address.isSome = true) :
    (membersPage (page.receiver.map fun text ↦ (Address.ofPersist? text).isSome)
      page.operations.length (page.fields.map fun item ↦ item.address.isSome)).Fills
      page.markup := by
  have hall : page.operations.map (fun item ↦ Template.item "call" item.address.isSome) =
      List.replicate page.operations.length (item "call" true) :=
    List.map_eq_replicate_iff.mpr fun item hmem ↦ by rw [hlinks item hmem]
  have hoperations := @fills_list "operations" "call" (by decide) page.operations
  have hfields := @fills_list "fields" "get" (by decide) page.fields
  rw [List.flatMap_def, hall] at hoperations
  rw [membersPage, List.flatMap_map, Option.map_map]
  exact ((((((fills_markup _).append (fills_escape _)).append (fills_markup _)).append
    (fills_receiver page.receiver)).append hoperations).append hfields).append (fills_markup _)

theorem fills_resultLine (signature : String) {rendered : String}
    (h : Value.Rendered 32 rendered) :
    Fills (text ++ markup " = " ++ value) (resultLine signature rendered) :=
  ((fills_escape signature).append (fills_markup _)).append (fills_part (.value h))

theorem fills_failureLine (signature : String) (failure : Failure) :
    Fills (text ++ markup " !! " ++ text) (failureLine signature failure) :=
  ((fills_escape signature).append (fills_markup _)).append (fills_escape failure.text)

theorem fills_resultPage {line link : Template} {s t : String} (hline : line.Fills s)
    (hlink : link.Fills t) :
    Fills (markup "<html><body><p>" ++ line ++ markup "</p><p>" ++ link ++
      markup "</p></body></html>") (ObjectConsole.resultPage s t) :=
  ((((fills_markup _).append hline).append (fills_markup _)).append hlink).append (fills_markup _)

end Template

/-! ## Answers -/

/-- The templates of all pages. -/
inductive Template.IsPage : Template → Prop
  | members (this : Option Bool) (operations : Nat) (fields : List Bool) :
      IsPage (membersPage this operations fields)
  | result (linked : Bool) : IsPage (resultPage linked)
  | failure : IsPage failurePage

/-- What the console answers: a page with its holes filled, a redirect or an error. -/
inductive Response.Harmless : Response → Prop
  | page {template : Template} {body : String} (htemplate : template.IsPage)
      (hfills : template.Fills body) : Harmless (.page body)
  | redirect (location : String) : Harmless (.redirect location)
  | error (error : RouteError) : Harmless error.response

namespace Console

theorem harmless_of_membersPage? {console : Console} {typeName : String} {receiver : Option String}
    {page : MembersPage} (h : console.membersPage? typeName receiver = some page) :
    (Response.page page.markup).Harmless := by
  have hlinks : ∀ item ∈ page.operations, item.address.isSome = true := by
    rcases eq_of_membersPage? h with ⟨entry, -, rfl⟩ | rfl
    · simp [MembersPage.ofEntry]
    · simp [MembersPage.bare]
  exact .page (.members _ _ _) (Template.fills_membersPage hlinks)

/-- A result is shown with its rendering, a failure as text. -/
theorem harmless_of_gives {console : Console} {response : Response} (h : console.Gives response) :
    response.Harmless := by
  cases h with
  | start => exact .redirect _
  | redirect v token => exact .redirect _
  | members hpage => exact harmless_of_membersPage? hpage
  | error error => exact .error error
  | failure signature failure =>
    exact .page .failure
      (Template.fills_resultPage (Template.fills_failureLine signature failure) .nil)
  | null signature =>
    have hnull : Value.Rendered 32 "null" :=
      .text (Html.Harmless.of_escaped (Html.escaped_of_all (by decide)))
    exact .page (.result false)
      (Template.fills_resultPage (Template.fills_resultLine signature hnull) .nil)
  | value signature id hrender =>
    have hline := Template.fills_resultLine signature (Value.rendered_of_render hrender)
    exact .page (.result true)
      (Template.fills_resultPage hline (Template.fills_anchor _ (Template.fills_escape _)))

/-- **Nothing on a page is markup but the page's own.** Whatever the catalog, the registry, the path
and the query are: a page is one of the templates with its holes filled, and everything that is not
answered with a page is plain. There is an answer unless the body returned a value that holds an
object whose display panics. -/
theorem pages_are_filled_templates (console : Console) (moment : Moment) (path : String)
    (query : Option String) (world : World) :
    (∀ response, (console.handle moment path query world).1 = .ok response →
      (response.contentType = .html → response.status = .ok ∧
        ∃ template : Template, template.IsPage ∧ template.Fills response.body) ∧
      (response.status ≠ .ok → response.contentType = .plain)) ∧
    ((∀ task v o, console.task? world.registry (.ofAddress path query) = some (.ok task) →
      task.outcome? moment world = some (.returned v) →
      v.Holds (console.handle moment path query world).2.heap (.object o) →
      ∃ shown, Value.display (console.handle moment path query world).2.heap o = .ok shown) →
      ∃ response, (console.handle moment path query world).1 = .ok response) := by
  refine ⟨fun response h ↦ ?_, fun hshows ↦ ?_⟩
  · have hharmless : response.Harmless := harmless_of_gives (gives_of_handle (Prod.ext h rfl))
    cases hharmless with
    | page htemplate hfills =>
      exact ⟨fun _ ↦ ⟨rfl, _, htemplate, hfills⟩, fun hstatus ↦ absurd rfl hstatus⟩
    | redirect location => exact ⟨nofun, fun _ ↦ rfl⟩
    | error error => exact ⟨nofun, fun _ ↦ rfl⟩
  · cases hreply : (console.handle moment path query world).1 with
    | ok response => exact ⟨response, rfl⟩
    | error message =>
      obtain ⟨⟨task, v, panic, htask, houtcome, hrender⟩, -⟩ :=
        showsPanic_of_error (Prod.ext hreply rfl)
      obtain ⟨o, _, ho, hdisplay⟩ := Value.exists_display_eq_error hrender
      obtain ⟨shown, hshown⟩ := hshows task v o htask houtcome ho
      rw [hdisplay] at hshown
      cases hshown

/-- A text that looks like markup is shown and does not become it. -/
example : ((returning (.text "<b>&amp;</b>")).handle ⟨5, 0, ⟨0, none⟩⟩ "/T/f" (some "call") {}).1 =
    .ok (.page ("<html><body><p>static T T.f() = &#60;b&#62;&#38;amp;&#60;/b&#62;</p><p>" ++
      "<a href=\"/string?[00000000-0000-0000-0000-000000000000]\">" ++
      "[00000000-0000-0000-0000-000000000000]</a></p></body></html>")) := by
  decide +kernel

end Console

end ObjectConsole
