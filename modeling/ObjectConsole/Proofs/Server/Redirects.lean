import ObjectConsole.Proofs.Console.ValueAddress
import ObjectConsole.Proofs.Server.Transparency
import ObjectConsole.Proofs.Text.Component

/-!
# Where redirects lead

A location is put together of names that visitors choose. Were one of them to come through with a
line break, it would end the header; with a second slash at the front, it would name another host;
with a question mark, it would cut the address elsewhere. None of this can be said in a component,
so all locations are `Address.Local`: visible characters behind one slash, with the only question
mark where the query begins. Such a location is always a header, and the redirect goes out as it is.
-/

namespace ObjectConsole

open Text

/-! ## Local addresses -/

namespace Address

/-- An address on the same server: visible characters, a slash at the front and none elsewhere, and
one question mark at most. -/
structure Local (address : List Char) : Prop where
  visible : ∀ c ∈ address, Percent.Visible c
  rooted : ∃ rest, address = '/' :: rest ∧ '/' ∉ rest
  query : address.count '?' ≤ 1

namespace Local

variable {name query : List Char}

theorem of_component (h : Percent.Component name) : Local ('/' :: name) where
  visible := List.forall_mem_cons.mpr ⟨by decide, fun c hc ↦ (h.visible_of_mem c hc).1⟩
  rooted := ⟨name, rfl, h.notMem_of_mem_marks (by decide)⟩
  query := by
    rw [List.count_cons_of_ne (by decide),
      List.count_eq_zero.mpr (h.notMem_of_mem_marks (by decide))]
    exact Nat.zero_le 1

theorem of_components (h : Percent.Component name) (h' : Percent.Component query) :
    Local ('/' :: (name ++ '?' :: query)) where
  visible := by
    rw [← List.cons_append]
    exact List.forall_mem_append.mpr ⟨(of_component h).visible,
      List.forall_mem_cons.mpr ⟨by decide, fun c hc ↦ (h'.visible_of_mem c hc).1⟩⟩
  rooted := by
    refine ⟨_, rfl, ?_⟩
    rw [List.mem_append, List.mem_cons, not_or, not_or]
    exact ⟨h.notMem_of_mem_marks (by decide), by decide, h'.notMem_of_mem_marks (by decide)⟩
  query := by
    have hname : name.count '?' = 0 := List.count_eq_zero.mpr (h.notMem_of_mem_marks (by decide))
    have hquery : query.count '?' = 0 := List.count_eq_zero.mpr (h'.notMem_of_mem_marks (by decide))
    refine Nat.le_of_eq ?_
    rw [List.count_cons_of_ne (by decide), List.count_append, List.count_cons_self, hname, hquery]

end Local

theorem local_ofType (typeName : String) : Local (ofType typeName).toList := by
  rw [toList_ofType]
  exact .of_component (.encodeChars typeName.toList)

theorem local_ofValue (v : Value) (token : Token) : Local (ofValue v token).toList := by
  have hparts : (ofValue v token).toList =
      '/' :: (Percent.encodeChars v.typeName.toList ++
        '?' :: Percent.encodeChars token.text.toList) := by
    simp [ofValue, toList_ofType]
  rw [hparts]
  exact .of_components (.encodeChars v.typeName.toList) (.encodeChars token.text.toList)

end Address

/-! ## Redirects -/

namespace Server

variable {console : Console} {moment : Moment} {world world' : World} {path : String}
  {query : Option String} {response : Response}

theorem exists_location_of_gives (h : console.Gives response)
    (hredirect : response.status = .redirect) :
    ∃ location, response = .redirect location ∧ Address.Local location.toList := by
  cases h with
  | start => exact ⟨_, rfl, Address.local_ofType console.rootType⟩
  | redirect v token => exact ⟨_, rfl, Address.local_ofValue v token⟩
  | members | null | value | failure => cases hredirect
  | error e =>
    cases e with
    | coercion e => cases e <;> cases hredirect
    | _ => cases hredirect

/-- **Redirects stay on the server.** Whatever a console redirects to, the location consists of
visible ASCII characters, begins with a slash and has no other, and has one question mark at most.
So it is a header as it stands: the message is a redirect to exactly this location, and never the
error that a header can't be written. -/
theorem redirects_local (h : console.handle moment path query world = (.ok response, world'))
    (hredirect : response.status = .redirect) :
    ∃ location, response.location = some location ∧ Address.Local location.toList ∧
      HttpResponse.ofResponse response =
        { status := 303
          contentType := some "text/plain; charset=utf-8"
          location := some location } := by
  have hgives := Console.gives_of_handle h
  obtain ⟨location, rfl, hlocal⟩ := exists_location_of_gives hgives hredirect
  exact ⟨location, rfl, hlocal, HttpResponse.ofResponse_of_gives hgives⟩

/-- A console whose root type is named to lure visitors away. -/
def luring : Console where
  catalog := .ofTypes []
  rootType := "/evil"
  identifier := Uuid.ofNat

/-- A world that keeps a value of such a type. -/
def baited : World where
  registry := (∅ : Registry).add 0 .nil (.object (.foreign "/evil?\r\n" (.shows "x")))

/-- The value is promoted to a name of the same kind. -/
theorem redirects_local_luring :
    ∃ response world', luring.handle ⟨0, 0, ⟨0, none⟩⟩ ("/" ++ (Token.ephemeral .nil).text)
        (some "persist=//evil?%0D%0Aé") baited = (.ok response, world') ∧
      response.status = .redirect ∧
      response.location = some "/%2Fevil%3F%0D%0A?$%2F%2Fevil%3F%0D%0A%C3%A9" ∧
      HttpResponse.ofResponse response =
        { status := 303
          contentType := some "text/plain; charset=utf-8"
          location := some "/%2Fevil%3F%0D%0A?$%2F%2Fevil%3F%0D%0A%C3%A9" } := by
  obtain ⟨response, world', h, hredirect, hresponse⟩ : ∃ response world',
      luring.handle ⟨0, 0, ⟨0, none⟩⟩ ("/" ++ (Token.ephemeral .nil).text)
        (some "persist=//evil?%0D%0Aé") baited = (.ok response, world') ∧
      response.status = .redirect ∧
      response.location = some "/%2Fevil%3F%0D%0A?$%2F%2Fevil%3F%0D%0A%C3%A9" :=
    ⟨_, _, rfl, by decide +kernel, by decide +kernel⟩
  obtain ⟨location, hlocation, -, hmessage⟩ := redirects_local h hredirect
  cases hlocation.symm.trans hresponse
  exact ⟨response, world', h, hredirect, hresponse, hmessage⟩

end Server

end ObjectConsole
