import ObjectConsole.Console.Page
import ObjectConsole.Proofs.Text.Html

/-!
# Members read off a page

A visitor finds the members of a type as list items: a text, and behind it perhaps a link with an
address and a label. `listed` reads the items off the characters of a page, knowing nothing of how
the page was made, and `listed_markup` says that it finds the members in the order of their
declaration, whatever names and receivers the page shows.

The page is cut at every opening of an item. Escaped text cannot contain one, so all that has to be
known of the markup around it is that no opening begins in it (`Inert`).
-/

namespace ObjectConsole

open Text

/-! ## Reading items -/

/-- A member as it stands on a page: the text of its item, and the address and the label of its
link. -/
structure Listed where
  text : String
  link : Option (String × String)
  deriving DecidableEq, Repr

namespace Listed

/-- The text that a stretch of markup shows. -/
def shown (markup : List Char) : String :=
  String.ofList (Html.unescapeChars markup)

/-- Reads the item at the start of some markup, from behind its opening. -/
def read? (markup : List Char) : Option Listed := do
  let (text, rest) ← cut? '<' markup
  match behind? ['a', ' ', 'h', 'r', 'e', 'f', '=', '"'] rest with
  | none => return ⟨shown text, none⟩
  | some link =>
    let (address, rest) ← cut? '"' link
    let (label, _) ← cut? '<' (behind ['>'] rest)
    return ⟨shown text, some (shown address, shown label)⟩

/-- The opening of an item. -/
def opening : List Char := ['<', 'l', 'i', '>']

end Listed

/-- The items of a page, in order. -/
def listed (page : List Char) : List Listed :=
  (pieces Listed.opening page).tail.filterMap Listed.read?

/-- The items whose links have a label: their texts and the addresses of the links. -/
def linked (label : String) (page : String) : List (String × String) :=
  (listed page.toList).filterMap fun item ↦
    item.link.bind fun link ↦ if link.2 = label then some (item.text, link.1) else none

/-! ## Markup that opens no item -/

/-- No opening of an item begins in a stretch of markup, whatever stands behind it. -/
def Inert (s : List Char) : Prop :=
  ∀ rest, pieces Listed.opening (s ++ rest) =
    (pieces Listed.opening rest).modifyHead fun piece ↦ s ++ piece

/-- Every angle bracket of a stretch is followed by something else than the letter of an item. -/
def bracketsPass : List Char → Bool
  | [] => true
  | [c] => c ≠ '<'
  | c :: d :: rest => (c ≠ '<' || d ≠ 'l') && bracketsPass (d :: rest)

theorem pieces_cons_of_not_isPrefixOf {c : Char} {rest : List Char}
    (h : Listed.opening.isPrefixOf (c :: rest) = false) :
    pieces Listed.opening (c :: rest) =
      (pieces Listed.opening rest).modifyHead fun piece ↦ c :: piece := by
  rw [pieces, piecesFrom, h]
  rfl

theorem pieces_opening_append (rest : List Char) :
    pieces Listed.opening (Listed.opening ++ rest) = [] :: pieces Listed.opening rest := by
  simp [pieces, Listed.opening, piecesFrom]

theorem pieces_ne_nil (s : List Char) : pieces Listed.opening s ≠ [] := by
  rw [pieces]
  generalize 0 = skip
  induction s generalizing skip with
  | nil => cases skip <;> simp [piecesFrom]
  | cons c rest ih =>
    cases skip with
    | succ skip => exact ih skip
    | zero =>
      rw [piecesFrom]
      split
      · exact List.cons_ne_nil _ _
      · rw [ne_eq, List.modifyHead_eq_nil_iff]
        exact ih 0

theorem inert_of_bracketsPass {s : List Char} (h : bracketsPass s = true) : Inert s := by
  intro rest
  induction s with
  | nil =>
    change _ = List.modifyHead id _
    rw [List.modifyHead_id]
    rfl
  | cons c s ih =>
    -- two characters decide: an opening would have to begin with both
    have hprefix : Listed.opening.isPrefixOf (c :: (s ++ rest)) = false := by
      cases s with
      | nil =>
        rw [bracketsPass, decide_eq_true_iff] at h
        simp [Listed.opening, List.isPrefixOf, Ne.symm h]
      | cons d s =>
        rw [bracketsPass, Bool.and_eq_true, Bool.or_eq_true, decide_eq_true_iff,
          decide_eq_true_iff] at h
        rcases h.1 with hc | hd
        · simp [Listed.opening, List.isPrefixOf, Ne.symm hc]
        · simp [Listed.opening, List.isPrefixOf, Ne.symm hd]
    have hs : bracketsPass s = true := by
      cases s with
      | nil => rfl
      | cons d s =>
        rw [bracketsPass, Bool.and_eq_true] at h
        exact h.2
    rw [List.cons_append, pieces_cons_of_not_isPrefixOf hprefix, ih hs, List.modifyHead_modifyHead]
    rfl

theorem Inert.append {s t : List Char} (hs : Inert s) (ht : Inert t) : Inert (s ++ t) := by
  intro rest
  rw [List.append_assoc, hs, ht, List.modifyHead_modifyHead]
  congr 1
  funext piece
  exact (List.append_assoc s t piece).symm

theorem inert_of_notMem {s : List Char} (h : '<' ∉ s) : Inert s := by
  apply inert_of_bracketsPass
  induction s with
  | nil => rfl
  | cons c s ih =>
    rw [List.mem_cons, not_or] at h
    cases s with
    | nil => simp [bracketsPass, Ne.symm h.1]
    | cons d s => rw [bracketsPass, ih h.2]; simp [Ne.symm h.1]

theorem inert_escapeChars (text : List Char) : Inert (Html.escapeChars text) :=
  inert_of_notMem (Html.notMem_escapeChars (.inl rfl))

theorem listed_append {s : List Char} (h : Inert s) (rest : List Char) :
    listed (s ++ rest) = listed rest := by
  rw [listed, h, List.tail_modifyHead, listed]

theorem listed_of_inert {s : List Char} (h : Inert s) : listed s = [] := by
  rw [← List.append_nil s, listed_append h]
  rfl

theorem listed_opening_append {item : List Char} {reading : Listed} (h : Inert item)
    (hread : ∀ behind, Listed.read? (item ++ behind) = some reading) (rest : List Char) :
    listed (Listed.opening ++ item ++ rest) = reading :: listed rest := by
  -- the piece behind the opening is the item together with all that follows up to the next one
  obtain ⟨piece, others, hpieces⟩ := List.exists_cons_of_ne_nil (pieces_ne_nil rest)
  rw [listed, List.append_assoc, pieces_opening_append, List.tail_cons, h, hpieces,
    List.modifyHead_cons, List.filterMap_cons_some (hread piece), listed, hpieces, List.tail_cons]

/-! ## Written items -/

namespace Listed

/-- A written item as it is found: in front of a link stands a blank. -/
def ofItem (label : String) (item : Item) : Listed :=
  match item.address with
  | none => ⟨item.signature, none⟩
  | some address => ⟨item.signature ++ " ", some (address, label)⟩

theorem shown_escapeChars_append (text : String) (rest : List Char) :
    shown (Html.escapeChars text.toList ++ rest) =
      text ++ String.ofList (Html.unescapeChars rest) := by
  rw [shown, Html.unescapeChars_escapeChars_append, String.ofList_append, String.ofList_toList]

theorem shown_escapeChars (text : String) : shown (Html.escapeChars text.toList) = text := by
  rw [shown, Html.unescapeChars_escapeChars, String.ofList_toList]

/-- The markup of an item from behind its opening. -/
def inside (label : String) (item : Item) : List Char :=
  match item.address with
  | none => Html.escapeChars item.signature.toList ++ "</li>".toList
  | some address => Html.escapeChars item.signature.toList ++ " <a href=\"".toList ++
      Html.escapeChars address.toList ++ "\">".toList ++ Html.escapeChars label.toList ++
      "</a></li>".toList

theorem toList_itemMarkup (label : String) (item : Item) :
    (item.markup label).toList = opening ++ inside label item := by
  obtain ⟨signature, address⟩ := item
  cases address <;> simp [Item.markup, anchor, inside, opening]

theorem inert_inside (label : String) (item : Item) : Inert (inside label item) := by
  obtain ⟨signature, address⟩ := item
  cases address with
  | none => exact (inert_escapeChars _).append (inert_of_bracketsPass (by decide))
  | some address =>
    have hlink : Inert " <a href=\"".toList := inert_of_bracketsPass (by decide)
    have hlabel : Inert "\">".toList := inert_of_bracketsPass (by decide)
    have hclosing : Inert "</a></li>".toList := inert_of_bracketsPass (by decide)
    exact (((((inert_escapeChars _).append hlink).append (inert_escapeChars _)).append
      hlabel).append (inert_escapeChars _)).append hclosing

/-- A text in front of a closing mark is read as an item without a link. -/
theorem read?_escapeChars_append (text : String) (rest : List Char) :
    read? (Html.escapeChars text.toList ++ '<' :: '/' :: rest) = some ⟨text, none⟩ := by
  have htext : cut? '<' (Html.escapeChars text.toList ++ '<' :: '/' :: rest) =
      some (Html.escapeChars text.toList, '/' :: rest) :=
    cut?_eq_some_iff.mpr ⟨rfl, Html.notMem_escapeChars (.inl rfl)⟩
  simp [read?, htext, behind?, shown_escapeChars]

/-- A text in front of a link is read with the link, and a blank stands between them. -/
theorem read?_escapeChars_anchor_append (text address label : String) (rest : List Char) :
    read? (Html.escapeChars text.toList ++ ' ' :: ((anchor address label).toList ++ rest)) =
      some ⟨text ++ " ", some (address, label)⟩ := by
  -- three cuts, each at a character that escaped text is free of
  have htext : cut? '<' (Html.escapeChars text.toList ++ ' ' :: ((anchor address label).toList ++
      rest)) = some (Html.escapeChars text.toList ++ [' '], "a href=\"".toList ++
        (Html.escapeChars address.toList ++ "\">".toList ++ Html.escapeChars label.toList ++
          "</a>".toList ++ rest)) := by
    refine cut?_eq_some_iff.mpr ⟨by simp [anchor], ?_⟩
    rw [List.mem_append, not_or]
    exact ⟨Html.notMem_escapeChars (.inl rfl), by decide⟩
  have haddress : cut? '"' (Html.escapeChars address.toList ++ "\">".toList ++
      Html.escapeChars label.toList ++ "</a>".toList ++ rest) =
      some (Html.escapeChars address.toList, ">".toList ++ (Html.escapeChars label.toList ++
        "</a>".toList ++ rest)) :=
    cut?_eq_some_iff.mpr ⟨by simp, Html.notMem_escapeChars (.inr (.inr rfl))⟩
  have hlabel : cut? '<' (Html.escapeChars label.toList ++ "</a>".toList ++ rest) =
      some (Html.escapeChars label.toList, "/a>".toList ++ rest) :=
    cut?_eq_some_iff.mpr ⟨by simp, Html.notMem_escapeChars (.inl rfl)⟩
  have hopen (s : List Char) : behind? ['a', ' ', 'h', 'r', 'e', 'f', '=', '"']
      ("a href=\"".toList ++ s) = some s :=
    behind?_eq_some_iff.mpr (by simp)
  have hclose (s : List Char) : behind ['>'] (">".toList ++ s) = s := behind_append ['>'] s
  have hblank : String.ofList (Html.unescapeChars [' ']) = " " := by
    rw [Html.unescapeChars_cons_of_ne (by decide), Html.unescapeChars]
  simp only [read?, htext, hopen, haddress, hclose, hlabel, Option.bind_eq_bind,
    Option.bind_some, shown_escapeChars_append, shown_escapeChars, hblank]
  rfl

theorem read?_inside (label : String) (item : Item) (rest : List Char) :
    read? (inside label item ++ rest) = some (ofItem label item) := by
  obtain ⟨signature, address⟩ := item
  cases address with
  | none =>
    have hread := read?_escapeChars_append signature ("li>".toList ++ rest)
    simpa [inside, ofItem] using hread
  | some address =>
    have hread := read?_escapeChars_anchor_append signature address label ("</li>".toList ++ rest)
    simpa [inside, ofItem, anchor] using hread

end Listed

theorem listed_items_append (label : String) (items : List Item) (rest : List Char) :
    listed (items.flatMap (fun item ↦ (item.markup label).toList) ++ rest) =
      items.map (Listed.ofItem label) ++ listed rest := by
  induction items with
  | nil => rfl
  | cons item items ih =>
    rw [List.flatMap_cons, Listed.toList_itemMarkup, List.append_assoc,
      listed_opening_append (Listed.inert_inside label item) (Listed.read?_inside label item), ih,
      List.map_cons, List.cons_append]

theorem listed_list_append {className : String} (hclass : Inert className.toList) (label : String)
    (items : List Item) (rest : List Char) :
    listed ((list className label items).toList ++ rest) =
      items.map (Listed.ofItem label) ++ listed rest := by
  have hbegin : Inert "<ul class=\"".toList := inert_of_bracketsPass (by decide)
  have hmiddle : Inert "\">".toList := inert_of_bracketsPass (by decide)
  have hend : Inert "</ul>".toList := inert_of_bracketsPass (by decide)
  simp only [list, String.toList_append, String.toList_join, List.flatMap_map, List.append_assoc]
  rw [listed_append hbegin, listed_append hclass, listed_append hmiddle, listed_items_append,
    listed_append hend]

namespace MembersPage

theorem inert_receiverMarkup (receiver : String) : Inert (receiverMarkup receiver).toList := by
  have hbegin : Inert "<p>this = ".toList := inert_of_bracketsPass (by decide)
  have hblank : Inert " ".toList := inert_of_bracketsPass (by decide)
  have hlink : Inert "<a href=\"".toList := inert_of_bracketsPass (by decide)
  have hlabel : Inert "\">".toList := inert_of_bracketsPass (by decide)
  have hclosing : Inert "</a>".toList := inert_of_bracketsPass (by decide)
  have hend : Inert "</p>".toList := inert_of_bracketsPass (by decide)
  cases h : Address.ofPersist? receiver with
  | none =>
    simp only [receiverMarkup, h, String.toList_append, Html.toList_escape, String.append_empty]
    exact (hbegin.append (inert_escapeChars _)).append hend
  | some address =>
    simp only [receiverMarkup, h, anchor, String.toList_append, Html.toList_escape]
    have hanchor := (((hlink.append (inert_escapeChars address.toList)).append hlabel).append
      (inert_escapeChars "persist".toList)).append hclosing
    exact ((hbegin.append (inert_escapeChars _)).append (hblank.append hanchor)).append hend

/-- **The members of a page, as they are found on it.** -/
theorem listed_markup (page : MembersPage) :
    listed page.markup.toList =
      page.operations.map (Listed.ofItem "call") ++ page.fields.map (Listed.ofItem "get") := by
  have hbegin : Inert "<html><body><h1>".toList := inert_of_bracketsPass (by decide)
  have hheading : Inert "</h1>".toList := inert_of_bracketsPass (by decide)
  have hreceiver : Inert ((page.receiver.map receiverMarkup).getD "").toList := by
    cases page.receiver with
    | none => exact inert_of_notMem (by simp)
    | some receiver => exact inert_receiverMarkup receiver
  have hoperations : Inert "operations".toList := inert_of_bracketsPass (by decide)
  have hfields : Inert "fields".toList := inert_of_bracketsPass (by decide)
  have hend : Inert "</body></html>".toList := inert_of_bracketsPass (by decide)
  unfold markup
  simp only [String.toList_append, Html.toList_escape, List.append_assoc]
  rw [listed_append hbegin, listed_append (inert_escapeChars _), listed_append hheading,
    listed_append hreceiver, listed_list_append hoperations, listed_list_append hfields,
    listed_of_inert hend, List.append_nil]

end MembersPage

end ObjectConsole
