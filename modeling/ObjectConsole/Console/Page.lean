import ObjectConsole.Operation.Catalog
import ObjectConsole.Reference.Token
import ObjectConsole.Text.Escaping
import ObjectConsole.Text.Percent

/-!
# Pages and links

There are two kinds of page: the members of a type, with a link to call or read each, and the result
of a call. A link is an address, built of encoded components, and only on a page is it escaped as
well. The two codings stay apart here: `Address` builds links, and the page functions are the only
ones to escape.
-/

namespace ObjectConsole

open Text

/-! ## Addresses -/

namespace Address

/-- The address of a type's page. -/
def ofType (typeName : String) : String :=
  "/" ++ Percent.encode typeName

/-- The address of a value's page, under a token that refers to the value. -/
def ofValue (v : Value) (token : Token) : String :=
  ofType v.typeName ++ "?" ++ Percent.encode token.text

/-- The address of a member of a type. -/
def ofMember (typeName member : String) : String :=
  ofType typeName ++ "/" ++ Percent.encode member

/-- The receiver's part of a call address: its key, with the text if there is one. -/
def receiverPart (receiver : Option String) : String :=
  match receiver with
  | none => "&this"
  | some text => "&this=" ++ Percent.encode text

/-- The address of a call, to be completed with the texts of the parameters. -/
def ofCall (typeName : String) (operation : Operation) (receiver : Option String) : String :=
  ofMember typeName operation.name ++ "?call" ++
    (if operation.isStatic then "" else receiverPart receiver) ++
    String.join (operation.parameters.map fun type ↦ "&" ++ Percent.encode type)

/-- The address of a field's value. An instance field has none without a receiver. -/
def ofField? (typeName : String) (field : Field) (receiver : Option String) : Option String :=
  let get := ofMember typeName field.name ++ "?get"
  if field.isStatic then some get
  else receiver.map fun text ↦ get ++ Percent.encode text

/-- The address that names the value of a temporary token; other texts have none. -/
def ofPersist? (receiver : String) : Option String :=
  if receiver.toList.head? = some '[' then some ("/" ++ Percent.encode receiver ++ "?persist")
  else none

end Address

/-! ## Markup -/

/-- A link with a text, both escaped. -/
def anchor (address text : String) : String :=
  "<a href=\"" ++ Html.escape address ++ "\">" ++ Html.escape text ++ "</a>"

/-- A member in a list: its signature, and its link if it has one. -/
structure Item where
  signature : String
  address : Option String
  deriving DecidableEq, Repr

/-- A list item, with a link of the given label. -/
def Item.markup (label : String) (item : Item) : String :=
  "<li>" ++ Html.escape item.signature ++
    (match item.address with
      | none => ""
      | some address => " " ++ anchor address label) ++
    "</li>"

/-- A list of members. -/
def list (className label : String) (items : List Item) : String :=
  "<ul class=\"" ++ className ++ "\">" ++ String.join (items.map (Item.markup label)) ++ "</ul>"

/-! ## The page of a type's members -/

/-- The members of a type, as seen from one of its values or from none. -/
structure MembersPage where
  typeName : String
  receiver : Option String
  operations : List Item
  fields : List Item
  deriving DecidableEq, Repr

namespace MembersPage

/-- The page of a type in the catalog. -/
def ofEntry (entry : TypeEntry) (receiver : Option String) : MembersPage where
  typeName := entry.name
  receiver := receiver
  operations := entry.operations.map fun operation ↦
    ⟨operation.signature entry.name, some (Address.ofCall entry.name operation receiver)⟩
  fields := entry.fields.map fun field ↦
    ⟨field.signature entry.name, Address.ofField? entry.name field receiver⟩

/-- The page of a type without members. -/
def bare (typeName : String) (receiver : Option String) : MembersPage :=
  ⟨typeName, receiver, [], []⟩

/-- The paragraph about the receiver. -/
def receiverMarkup (receiver : String) : String :=
  "<p>this = " ++ Html.escape receiver ++
    (match Address.ofPersist? receiver with
      | none => ""
      | some address => " " ++ anchor address "persist") ++
    "</p>"

/-- The page in full. -/
def markup (page : MembersPage) : String :=
  "<html><body><h1>" ++ Html.escape page.typeName ++ "</h1>" ++
    (page.receiver.map receiverMarkup).getD "" ++
    list "operations" "call" page.operations ++ list "fields" "get" page.fields ++
    "</body></html>"

end MembersPage

/-! ## The page of a result -/

/-- The line of a result, of which the second text is rendered already. -/
def resultLine (signature rendered : String) : String :=
  Html.escape signature ++ " = " ++ rendered

/-- The line of a failure. -/
def failureLine (signature : String) (failure : Failure) : String :=
  Html.escape signature ++ " !! " ++ Html.escape failure.text

/-- The link to a value under a token. -/
def valueLink (v : Value) (token : Token) : String :=
  anchor (Address.ofValue v token) token.text

/-- A page of a line and a link, which may be empty. -/
def resultPage (line link : String) : String :=
  "<html><body><p>" ++ line ++ "</p><p>" ++ link ++ "</p></body></html>"

end ObjectConsole
