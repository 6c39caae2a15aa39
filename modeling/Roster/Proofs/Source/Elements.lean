import Roster.Payload
import Roster.Proofs.Text.Boundaries
import Roster.Source.Markup

/-!
# The text of an element

An element that alone carries its id is read exactly: the attribute is found where the element has
it, the tag begins at the last bracket before it, the tag ends at the first bracket behind it, and the
text at the first closing tag of that name, whatever else the text holds.

A page comes as octets, and the places at which it is cut are counted in octets. All of them are
counted from something found, so every page can be cut there.
-/

namespace Roster.Markup

open Text

/-! ## Cutting octets -/

/-- How many octets stand before the attribute with an id. -/
def attributeOctet? (octets : List Nat) (id : String) : Option Nat :=
  (indexOf? (toOctets (idText '"' id)) octets).or (indexOf? (toOctets (idText '\'' id)) octets)

/-- The name of the tag in which a place of the octets lies. -/
def cutTag (octets : List Nat) (place : Nat) : Except CutError (Option (List Char)) := do
  let before ← cut octets 0 place
  let some start := lastIndexOf? '<'.toNat before | return none
  let rest ← cut octets (start + 1) octets.length
  let name := (ofOctets rest).takeWhile Char.isAlphanum
  return if name.isEmpty then none else some name

/-- The text of the element that carries an id, without blanks at its ends, cut out of the octets of
its page. -/
def cutText (octets : List Nat) (id : String) : Except CutError (Option (List Char)) := do
  let some place := attributeOctet? octets id | return none
  let some name ← cutTag octets place | return none
  let tag ← cut octets place octets.length
  let some ending := indexOf? ['>'.toNat] tag | return none
  let start := place + ending + 1
  let content ← cut octets start octets.length
  let some length := indexOf? (toOctets ('<' :: '/' :: name)) content | return none
  let text ← cut octets start (start + length)
  return some (trim (ofOctets text))

/-- The attribute is found among the octets of a page where it is found on the page. -/
theorem attributeOctet?_toOctets (page : List Char) (id : String) :
    attributeOctet? (toOctets page) id = (attributeIndex? page id).map (offset page) := by
  rw [attributeOctet?, indexOf?_toOctets, indexOf?_toOctets, attributeIndex?, Option.map_or]

/-- The tag is cut out of the octets of every page. -/
theorem cutTag_offset (page : List Char) (index : Nat) :
    cutTag (toOctets page) (offset page index) = .ok (tagAt? page index) := by
  have hbracket := lastIndexOf?_toOctets (show ('<' : Char).toNat < 0x80 by decide) (page.take index)
  rw [cutTag, cut_before, tagAt?]
  cases hstart : lastIndexOf? '<' (page.take index) with
  | none =>
    rw [hstart] at hbracket
    simp only [bind, Except.bind, hbracket, Option.map_none, Option.bind]
    rfl
  | some start =>
    rw [hstart] at hbracket
    obtain ⟨hlt, hat⟩ : start < index ∧ page[start]? = some '<' := by
      simpa [List.getElem?_take] using getElem?_lastIndexOf? hstart
    have hnext : offset (page.take index) start + 1 = offset page (start + 1) := by
      rw [offset_take page (Nat.le_of_lt hlt), offset_succ hat (by decide)]
    simp only [bind, Except.bind, hbracket, Option.map_some, Option.bind, hnext, cut_from,
      ofOctets_toOctets]
    rfl

/-- What lies behind the end of a tag is one octet further than the bracket that ends it. -/
theorem offset_behind_bracket {page : List Char} {index ending : Nat}
    (h : indexOf? ['>'] (page.drop index) = some ending) :
    offset page index + offset (page.drop index) ending + 1 = offset page (index + ending + 1) := by
  have hat : page[index + ending]? = some '>' := by
    obtain ⟨rest, hrest⟩ := prefix_drop_of_indexOf? h
    rw [← List.getElem?_drop, ← List.head?_drop, ← hrest]
    rfl
  rw [← offset_add, offset_succ hat (by decide)]

/-- The text is cut out of the octets of every page. -/
theorem cutText_toOctets (page : List Char) (id : String) :
    cutText (toOctets page) id = .ok (elementText? page id) := by
  rw [cutText, attributeOctet?_toOctets, elementText?]
  -- Both give up at the same search, so the cases are those of the searches on the page.
  cases attributeIndex? page id with
  | none => rfl
  | some index =>
    simp only [bind, Except.bind, Option.map_some, Option.bind, cutTag_offset]
    cases tagAt? page index with
    | none => rfl
    | some name =>
      have hbracket : indexOf? ['>'.toNat] (toOctets (page.drop index)) =
          (indexOf? ['>'] (page.drop index)).map (offset (page.drop index)) :=
        indexOf?_toOctets ['>'] (page.drop index)
      simp only [cut_from, hbracket]
      cases hending : indexOf? ['>'] (page.drop index) with
      | none => rfl
      | some ending =>
        simp only [Option.map_some, offset_behind_bracket hending, cut_from, indexOf?_toOctets]
        cases indexOf? ('<' :: '/' :: name) (page.drop (index + ending + 1)) with
        | none => rfl
        | some length =>
          simp only [Option.map_some, ← offset_add, cut_offset, ofOctets_toOctets]
          rfl

/-! ## Reading one element -/

/-- The marks in which an id stands. -/
def IsQuotationMark (c : Char) : Prop :=
  c = '"' ∨ c = '\''

/-- An element on its page: what stands before it, the name of its tag, what the tag holds on either
side of the id and the mark in which the id stands, the text, and what follows the name of the closing
tag. The name is a run of letters and digits that ends before a character that is neither, no tag
begins between it and the id, none ends between the id and the text, and the text holds no closing tag
of the name. -/
structure Element where
  lead : List Char
  name : List Char
  before : List Char
  mark : Char
  after : List Char
  text : List Char
  trail : List Char
  name_ne_nil : name ≠ []
  name_alphanum : name.all Char.isAlphanum = true
  name_ends : ∃ c rest, before = c :: rest ∧ c.isAlphanum = false
  before_open : '<' ∉ before
  isQuotationMark : IsQuotationMark mark
  after_open : '>' ∉ after
  text_open : ¬('<' :: '/' :: name) <:+: text

namespace Element

variable (e : Element) (id : String)

/-- The page up to the id. -/
def opening : List Char :=
  e.lead ++ '<' :: (e.name ++ e.before)

/-- The page from the text on. -/
def closing : List Char :=
  e.text ++ ('<' :: '/' :: e.name ++ e.trail)

/-- The page on which the element carries an id. -/
def page : List Char :=
  e.opening ++ (idText e.mark id ++ e.after ++ '>' :: e.closing)

/-- Nowhere else on the page stands the id as an attribute. -/
def CarriesAlone : Prop :=
  ∀ mark, IsQuotationMark mark → ∀ index, idText mark id <+: (e.page id).drop index →
    index = e.opening.length

variable {e id}

/-- The name of a tag holds letters and digits only. -/
theorem isAlphanum_of_mem (e : Element) {c : Char} (h : c ∈ e.name) : c.isAlphanum = true :=
  List.all_eq_true.mp e.name_alphanum c h

/-- So no tag begins in it. -/
theorem bracket_notMem_name (e : Element) : '<' ∉ e.name :=
  fun h => absurd (e.isAlphanum_of_mem h) (by decide)

/-- Whether an element alone carries an id can be told from the places on its page. The two marks are
written out, since a statement about all characters is not decided by trying two of them. -/
theorem carriesAlone_iff :
    e.CarriesAlone id ↔ ∀ index < (e.page id).length,
      idText '"' id <+: (e.page id).drop index ∨ idText '\'' id <+: (e.page id).drop index →
        index = e.opening.length := by
  constructor
  · rintro alone index - (hat | hat)
    · exact alone '"' (.inl rfl) index hat
    · exact alone '\'' (.inr rfl) index hat
  · intro h mark hmark index hat
    -- An occurrence is not empty, so it starts before the page ends.
    have hsome : 0 < (idText mark id).length := by simp [idText]
    have hle := hat.length_le
    rw [List.length_drop] at hle
    refine h index (by omega) ?_
    rcases hmark with rfl | rfl
    · exact .inl hat
    · exact .inr hat

instance : Decidable (e.CarriesAlone id) :=
  decidable_of_iff _ carriesAlone_iff.symm

/-- The attribute is found where the element has it: either mark is found there or not at all. -/
theorem CarriesAlone.attributeIndex?_eq (alone : e.CarriesAlone id) :
    attributeIndex? (e.page id) id = some e.opening.length := by
  have hfound {mark : Char} {index : Nat} (hmark : IsQuotationMark mark)
      (h : indexOf? (idText mark id) (e.page id) = some index) : index = e.opening.length :=
    alone mark hmark index (prefix_drop_of_indexOf? h)
  have hat : idText e.mark id <+: (e.page id).drop e.opening.length := by
    rw [page, List.drop_left, List.append_assoc]
    exact List.prefix_append _ _
  obtain ⟨first, hfirst⟩ := exists_indexOf? hat
  rw [hfound e.isQuotationMark hfirst] at hfirst
  rw [attributeIndex?]
  cases hdouble : indexOf? (idText '"' id) (e.page id) with
  | some index => rw [hfound (.inl rfl) hdouble, Option.some_or]
  | none =>
    rcases e.isQuotationMark with hmark | hmark
    · rw [hmark, hdouble] at hfirst
      exact absurd hfirst (Option.some_ne_none _).symm
    · rw [← hmark, hfirst, Option.none_or]

/-- The tag is found at the last bracket before the id, and its name ends before the first character
that is no letter and no digit. -/
theorem tagAt?_page (e : Element) (id : String) :
    tagAt? (e.page id) e.opening.length = some e.name := by
  have hbracket : '<' ∉ e.name ++ e.before := by
    rw [List.mem_append, not_or]
    exact ⟨e.bracket_notMem_name, e.before_open⟩
  have hrest : (e.page id).drop (e.lead.length + 1) =
      e.name ++ (e.before ++ (idText e.mark id ++ e.after ++ '>' :: e.closing)) := by
    simp [page, opening]
  have hname : ((e.page id).drop (e.lead.length + 1)).takeWhile Char.isAlphanum = e.name := by
    obtain ⟨c, rest, hbefore, hc⟩ := e.name_ends
    rw [hrest, List.takeWhile_append_of_pos fun _ => e.isAlphanum_of_mem, hbefore, List.cons_append,
      List.takeWhile_cons_of_neg (by simp [hc]), List.append_nil]
  have hstart : lastIndexOf? '<' ((e.page id).take e.opening.length) = some e.lead.length := by
    rw [page, List.take_left, opening, lastIndexOf?_append_cons hbracket]
  have hsome : ¬e.name.isEmpty = true := fun h => e.name_ne_nil (List.isEmpty_iff.mp h)
  simp only [tagAt?, hstart, hname, bind, Option.bind]
  exact if_neg hsome

/-- The tag ends at the first bracket behind the id. -/
theorem indexOf?_ending (e : Element) (hid : '>' ∉ id.toList) :
    indexOf? ['>'] ((e.page id).drop e.opening.length) =
      some (idText e.mark id ++ e.after).length := by
  have hbracket : '>' ∉ idText e.mark id ++ e.after := by
    have hmark : '>' ≠ e.mark := by
      rcases e.isQuotationMark with h | h
      · rw [h]
        decide
      · rw [h]
        decide
    simp [idText, hid, hmark, e.after_open]
  rw [page, List.drop_left]
  exact indexOf?_append_cons List.not_mem_nil
    (fun h => hbracket (h.subset (List.mem_singleton_self _))) e.closing

/-- The text ends at the first closing tag of its name. -/
theorem indexOf?_closing (e : Element) :
    indexOf? ('<' :: '/' :: e.name) e.closing = some e.text.length := by
  have hbracket : '<' ∉ '/' :: e.name := by
    rw [List.mem_cons, not_or]
    exact ⟨by decide, e.bracket_notMem_name⟩
  exact indexOf?_append_cons hbracket e.text_open e.trail

/-- The text of an element that alone carries its id is read exactly. -/
theorem CarriesAlone.elementText?_eq (alone : e.CarriesAlone id) (hid : '>' ∉ id.toList) :
    elementText? (e.page id) id = some (trim e.text) := by
  have hcontent : (e.page id).drop
      (e.opening.length + (idText e.mark id ++ e.after).length + 1) = e.closing := by
    rw [Nat.add_assoc, ← List.drop_drop, page, List.drop_left, ← List.drop_drop, List.drop_left,
      List.drop_one, List.tail_cons]
  have htext : e.closing.take e.text.length = e.text := by
    rw [closing, List.take_left]
  simp only [elementText?, alone.attributeIndex?_eq, tagAt?_page, indexOf?_ending e hid, hcontent,
    indexOf?_closing, htext, bind, Option.bind]
  rfl

end Element

/-- The element that alone carries the id of the embedded document is read exactly, without blanks at
the ends of its text, and on every page whatever is read has been cut out of the octets of that page
within their range and between characters. -/
theorem embedded_text_read_and_cut :
    (∀ e : Element, e.CarriesAlone Payload.dataElement →
      elementText? (e.page Payload.dataElement) Payload.dataElement = some (trim e.text)) ∧
    ∀ (page : List Char) (id : String), cutText (toOctets page) id = .ok (elementText? page id) := by
  refine ⟨fun e alone => ?_, fun page id => ?_⟩
  · have hid : '>' ∉ Payload.dataElement.toList := by decide
    exact alone.elementText?_eq hid
  · exact cutText_toOctets page id

/-- An element whose text holds brackets, quotation marks, another closing tag and the beginning of
its own, on a page with characters of several octets. -/
def Element.nested : Element where
  lead := "<p>Étage 2 > 1</p>".toList
  name := "script".toList
  before := " lang='>' ".toList
  mark := '\''
  after := " data-x=\"<☃\"".toList
  text := "\n [\"</p> 'ü' <script>\"] </scrip".toList
  trail := ">".toList
  name_ne_nil := by decide
  name_alphanum := by decide
  name_ends := ⟨' ', "lang='>' ".toList, by decide, by decide⟩
  before_open := by decide
  isQuotationMark := .inr rfl
  after_open := by decide
  text_open := by decide +kernel

/-- It is read up to its own closing tag, and the search for that tag is not misled by its beginning. -/
theorem embedded_text_read_nested :
    Element.nested.CarriesAlone Payload.dataElement ∧
      elementText? (Element.nested.page Payload.dataElement) Payload.dataElement =
        some "[\"</p> 'ü' <script>\"] </scrip".toList := by
  have alone : Element.nested.CarriesAlone Payload.dataElement := by decide +kernel
  have htext : trim Element.nested.text = "[\"</p> 'ü' <script>\"] </scrip".toList := by
    decide +kernel
  exact ⟨alone, (embedded_text_read_and_cut.1 Element.nested alone).trans (congrArg some htext)⟩

end Roster.Markup
