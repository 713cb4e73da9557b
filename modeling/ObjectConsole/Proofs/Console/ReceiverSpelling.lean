import ObjectConsole.Proofs.Console.FieldLink

/-!
# The spellings of a field's receiver

A receiver may be given to a field in three ways: behind `get=`, behind `get&this=`, and, if it is
the text of a token, directly behind `get`. Reading takes up to three openings off what stands
behind the verb, `&`, `this` and `=`, each of which may be missing, and decodes the rest. Two things
keep it from taking anything off the receiver itself:

* an equals sign is always the last opening, so nothing that follows one is looked at again;
* the mark of a token is the first character of none of the openings.

Both concern the query before it is decoded, so they hold of whatever text is given. The third
spelling is good for no other text than that of a token, and for the empty one: a verb is a word,
and what an encoded text can begin with ends no word but for those marks. The same goes for all
verbs at once. A query that goes on behind a verb with any other character has none of them, since
no two verbs begin with the same letter.
-/

namespace ObjectConsole

open Text

namespace Route

/-! ## Openings -/

theorem receiver?_equals (raw : List Char) :
    receiver? ('=' :: raw) = nonempty? (Percent.decodeChars raw) := by
  have hthis : "this".toList = 't' :: "his".toList := rfl
  have hequals : behind ['='] ('=' :: raw) = raw := behind_append ['='] raw
  rw [receiver?, behind_cons_of_ne (by decide), hthis, behind_cons_of_ne (by decide), hequals]

theorem receiver?_this_equals (raw : List Char) :
    receiver? ("&this=".toList ++ raw) = nonempty? (Percent.decodeChars raw) := by
  have hkey : "&this=".toList ++ raw = ['&'] ++ ("this".toList ++ (['='] ++ raw)) := rfl
  rw [receiver?, hkey, behind_append, behind_append, behind_append]

theorem nonempty?_toList (text : String) :
    nonempty? text.toList = if text = "" then none else some text := by
  rw [nonempty?, String.ofList_toList]
  exact if_congr String.toList_eq_nil_iff rfl rfl

/-! ## Verbs -/

/-- The words that a query can begin with. -/
def verbs : List String :=
  ["call", "get", "persist"]

/-- Whether a route is one that only a verb leads to. -/
def byVerb : Route → Bool
  | call _ _ | field _ _ | persist _ _ => true
  | root | members _ _ | resolve _ | unrouted _ => false

/-- A query begins with the letters of one verb at most. -/
theorem eq_of_append_eq_append {verb verb' : String} {rest rest' : List Char}
    (hverb : verb ∈ verbs) (hverb' : verb' ∈ verbs)
    (h : verb.toList ++ rest = verb'.toList ++ rest') : verb = verb' := by
  have hfirst : ∀ verb ∈ verbs, ∀ verb' ∈ verbs,
      verb.toList.head? = verb'.toList.head? → verb = verb' := by decide
  have hne : ∀ verb ∈ verbs, verb.toList ≠ [] := by decide
  apply hfirst verb hverb verb' hverb'
  rw [← List.head?_append_of_ne_nil _ (hne verb hverb), h,
    List.head?_append_of_ne_nil _ (hne verb' hverb')]

/-- A verb whose letters are followed by those of a longer word is not read, nor is another. -/
theorem behindVerb?_eq_none {verb verb' : String} {c : Char} {rest : List Char}
    (hverb : verb ∈ verbs) (hverb' : verb' ∈ verbs) (hc : c ∉ ['&', '=', '[', '$']) :
    behindVerb? verb' (verb.toList ++ c :: rest) = none := by
  rw [Option.eq_none_iff_forall_ne_some]
  intro rest' h
  obtain ⟨hquery, hends⟩ := behindVerb?_eq_some_iff.mp h
  obtain rfl := eq_of_append_eq_append hverb hverb' hquery
  obtain rfl := List.append_cancel_left hquery
  exact hc (hends c rfl)

/-! ## Routes -/

theorem decode_eq_iff_decodeChars {path : String} :
    (Percent.decode path = "" ∨ Percent.decode path = "/") ↔
      (Percent.decodeChars path.toList = [] ∨ Percent.decodeChars path.toList = ['/']) := by
  rw [← String.toList_inj, ← String.toList_inj, Percent.toList_decode]
  rfl

theorem ofChars_cases {path query : List Char}
    (hroot : ¬(Percent.decodeChars path = [] ∨ Percent.decodeChars path = ['/'])) :
    (∃ rest, behindVerb? "call" query = some rest ∧ ofChars path query =
        call (String.ofList (Percent.decodeChars path)) (String.ofList rest)) ∨
      (∃ rest, behindVerb? "get" query = some rest ∧ ofChars path query =
        field (String.ofList (Percent.decodeChars path)) (receiver? rest)) ∨
      ofChars path query = ofPath (Percent.decodeChars path) query := by
  rw [ofChars, if_neg hroot]
  cases hcall : behindVerb? "call" query with
  | some rest => exact .inl ⟨rest, rfl, rfl⟩
  | none =>
    cases hget : behindVerb? "get" query with
    | some rest => exact .inr (.inl ⟨rest, rfl, rfl⟩)
    | none => exact .inr (.inr rfl)

theorem ofPath_ne_root (path query : List Char) : ofPath path query ≠ root := by
  intro h
  obtain ⟨_, _, -, hroute⟩ | ⟨_, hroute⟩ | ⟨_, _, hroute⟩ | ⟨_, hroute⟩ := ofPath_cases path query
  all_goals cases hroute.symm.trans h

theorem ofAddress_eq_root_iff {path : String} {query : Option String} :
    ofAddress path query = root ↔ Percent.decode path = "" ∨ Percent.decode path = "/" := by
  rw [decode_eq_iff_decodeChars, ofAddress]
  constructor
  · intro h
    by_contra hroot
    obtain ⟨_, -, hcall⟩ | ⟨_, -, hget⟩ | hpath := ofChars_cases hroot
    · cases hcall.symm.trans h
    · cases hget.symm.trans h
    · exact ofPath_ne_root _ _ (hpath.symm.trans h)
  · intro hroot
    rw [ofChars, if_pos hroot]

theorem exists_behindVerb?_of_byVerb {path : String} {query : Option String}
    (h : (ofAddress path query).byVerb = true) :
    ∃ verb ∈ verbs, ∃ rest, behindVerb? verb (query.getD "").toList = some rest := by
  have hroot : ¬(Percent.decodeChars path.toList = [] ∨
      Percent.decodeChars path.toList = ['/']) := by
    rw [← decode_eq_iff_decodeChars, ← ofAddress_eq_root_iff]
    intro hroot
    rw [hroot] at h
    cases h
  rw [ofAddress] at h
  obtain ⟨rest, hcall, -⟩ | ⟨rest, hget, -⟩ | hpath := ofChars_cases hroot
  · exact ⟨"call", by decide, rest, hcall⟩
  · exact ⟨"get", by decide, rest, hget⟩
  · rw [hpath] at h
    obtain ⟨_, rest, hpersist, -⟩ | ⟨_, hroute⟩ | ⟨_, _, hroute⟩ | ⟨_, hroute⟩ :=
      ofPath_cases (Percent.decodeChars path.toList) (query.getD "").toList
    · exact ⟨"persist", by decide, rest, hpersist⟩
    all_goals rw [hroute] at h; cases h

theorem byVerb_ofAddress_eq_false {verb : String} {c : Char} (path rest : String)
    (hverb : verb ∈ verbs) (hc : c ∉ ['&', '=', '[', '$']) :
    (ofAddress path (some (verb ++ String.singleton c ++ rest))).byVerb = false := by
  rw [Bool.eq_false_iff]
  intro h
  obtain ⟨verb', hverb', rest', hread⟩ := exists_behindVerb?_of_byVerb h
  have hquery : (verb ++ String.singleton c ++ rest).toList =
      verb.toList ++ c :: rest.toList := by
    simp
  rw [Option.getD_some, hquery, behindVerb?_eq_none hverb hverb' hc] at hread
  cases hread

variable {path : String}

/-- What stands directly behind the verb is the receiver exactly if it is the text of a token, or
empty. -/
theorem ofAddress_get_encode_iff {receiver : String}
    (hroot : ¬(Percent.decode path = "" ∨ Percent.decode path = "/")) :
    ofAddress path (some ("get" ++ Percent.encode receiver)) =
        field (Percent.decode path) (if receiver = "" then none else some receiver) ↔
      receiver = "" ∨ receiver.toList.head? = some '[' ∨ receiver.toList.head? = some '$' := by
  have hquery : "get" ++ Percent.encode receiver =
      String.ofList ("get".toList ++ Percent.encodeChars receiver.toList) := by
    rw [← String.toList_inj]
    simp
  rw [hquery, ofAddress_get_eq_field_iff (mt decode_eq_iff_decodeChars.mpr hroot)]
  by_cases hreceiver : receiver = ""
  · subst hreceiver
    exact iff_of_true ⟨nofun, rfl⟩ (.inl rfl)
  · rw [if_neg hreceiver, receiver?_encodeChars_iff, or_iff_right hreceiver]

theorem ofAddress_get_opening {opening : String} (receiver : String)
    (hroot : ¬(Percent.decode path = "" ∨ Percent.decode path = "/"))
    (hopening : opening = "=" ∨ opening = "&this=") :
    ofAddress path (some ("get" ++ opening ++ Percent.encode receiver)) =
      field (Percent.decode path) (if receiver = "" then none else some receiver) := by
  have hquery : "get" ++ opening ++ Percent.encode receiver =
      String.ofList ("get".toList ++ (opening.toList ++ Percent.encodeChars receiver.toList)) := by
    rw [← String.toList_inj]
    simp
  have hends : ∀ c ∈ (opening.toList ++ Percent.encodeChars receiver.toList).head?,
      c ∈ ['&', '=', '[', '$'] := by
    rcases hopening with rfl | rfl <;> rintro _ ⟨⟩ <;> decide
  have hread : receiver? (opening.toList ++ Percent.encodeChars receiver.toList) =
      nonempty? (Percent.decodeChars (Percent.encodeChars receiver.toList)) := by
    rcases hopening with rfl | rfl
    · exact receiver?_equals _
    · exact receiver?_this_equals _
  rw [hquery, ofAddress_get_eq_field_iff (mt decode_eq_iff_decodeChars.mpr hroot), hread,
    Percent.decodeChars_encodeChars, nonempty?_toList]
  exact ⟨hends, rfl⟩

/-- **All spellings of a field's receiver agree.**

* The root is told by its path alone, whatever the query is.
* At every other path, any receiver that is written as a component behind `get=` or `get&this=` asks
  for the field at the decoded path on exactly that receiver, and on none if it is empty. Written
  directly behind `get` it does so exactly if it begins with the mark of a token, or is empty.
* At no path does a query in which the letters of a verb go on with a character that does not end a
  word lead to a call, to a field or to a name. -/
theorem field_receivers_agree (path : String) :
    (∀ query, ofAddress path query = root ↔
      Percent.decode path = "" ∨ Percent.decode path = "/") ∧
    (Percent.decode path ≠ "" → Percent.decode path ≠ "/" → ∀ receiver : String,
      let asked := field (Percent.decode path) (if receiver = "" then none else some receiver)
      ofAddress path (some ("get=" ++ Percent.encode receiver)) = asked ∧
      ofAddress path (some ("get&this=" ++ Percent.encode receiver)) = asked ∧
      (ofAddress path (some ("get" ++ Percent.encode receiver)) = asked ↔
        receiver = "" ∨ receiver.toList.head? = some '[' ∨ receiver.toList.head? = some '$')) ∧
    ∀ verb ∈ verbs, ∀ c ∉ ['&', '=', '[', '$'], ∀ rest : String,
      (ofAddress path (some (verb ++ String.singleton c ++ rest))).byVerb = false := by
  refine ⟨fun query ↦ ofAddress_eq_root_iff, ?_, ?_⟩
  · intro hempty hslash receiver asked
    have hroot := not_or.mpr ⟨hempty, hslash⟩
    have hequals : "get=" = "get" ++ "=" := by decide
    have hthis : "get&this=" = "get" ++ "&this=" := by decide
    rw [hequals, hthis]
    exact ⟨ofAddress_get_opening receiver hroot (.inl rfl),
      ofAddress_get_opening receiver hroot (.inr rfl), ofAddress_get_encode_iff hroot⟩
  · intro verb hverb c hc rest
    exact byVerb_ofAddress_eq_false path rest hverb hc

/-- A receiver that reads like the openings is kept whole, and `getter` asks for no field. -/
theorem field_receivers_agree_this :
    let asked := field "/Counter/value" (some "this=&[x]")
    ofAddress "/Counter/value" (some "get=this%3D%26[x]") = asked ∧
      ofAddress "/Counter/value" (some "get&this=this%3D%26[x]") = asked ∧
      ofAddress "/Counter/value" (some "getthis%3D%26[x]") ≠ asked ∧
      (ofAddress "/Counter/value" (some "getter")).byVerb = false := by
  have hpath : Percent.decode "/Counter/value" = "/Counter/value" := by decide
  have hencoded : Percent.encode "this=&[x]" = "this%3D%26[x]" := by decide
  obtain ⟨-, hspellings, hwords⟩ := field_receivers_agree "/Counter/value"
  obtain ⟨hequals, hthis, hdirect⟩ :=
    hspellings (by rw [hpath]; decide) (by rw [hpath]; decide) "this=&[x]"
  rw [hpath, hencoded] at hequals hthis hdirect
  refine ⟨hequals, hthis, ?_, hwords "get" (by decide) 't' (by decide) "er"⟩
  exact mt hdirect.mp (by decide)

end Route

end ObjectConsole
