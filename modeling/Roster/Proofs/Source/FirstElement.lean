import Mathlib.Order.Nat
import Roster.Proofs.Source.Elements

/-!
# The first element with an id

An id can stand at several places of a page. The places with double quotes are looked through before
those with single quotes, so the first place of all is found unless it has single quotes and some
later one has double quotes. An element is then passed over in favour of a later one.
-/

namespace Roster.Markup

open Text

section

variable {page : List Char} {id : String} {index : Nat}

/-! ## Places of an id -/

/-- An id stands as an attribute at a place of a page, between two marks. -/
def StandsAt (mark : Char) (page : List Char) (id : String) (index : Nat) : Prop :=
  idText mark id <+: page.drop index

/-- An element carries an id at a place of a page, whichever marks it stands between. -/
def CarriedAt (page : List Char) (id : String) (index : Nat) : Prop :=
  ∃ mark, IsQuotationMark mark ∧ StandsAt mark page id index

/-- Double and single quotes do not stand at the same place. -/
theorem StandsAt.mark_eq {mark other : Char} (h : StandsAt mark page id index)
    (hother : StandsAt other page id index) : mark = other := by
  have hprefix : idText mark id <+: idText other id :=
    List.prefix_of_prefix_length_le h hother (by simp [idText])
  rw [idText, idText, List.append_assoc, List.append_assoc, List.prefix_append_right_inj,
    List.cons_append, List.cons_append, List.cons_prefix_cons] at hprefix
  exact hprefix.1

/-- A search for an id between two marks finds the first place where it stands. -/
theorem indexOf?_idText_eq_some_iff {mark : Char} :
    indexOf? (idText mark id) page = some index ↔
      IsLeast {place | StandsAt mark page id place} index := by
  rw [indexOf?_eq_some_iff]
  refine and_congr_right fun _ => ⟨fun hnone place hplace => ?_, fun hleast earlier hlt hearlier => ?_⟩
  · exact Nat.le_of_not_lt fun hlt => hnone place hlt hplace
  · exact absurd (hleast hearlier) (Nat.not_le.mpr hlt)

/-- A search for an id between two marks is in vain exactly if it stands nowhere. -/
theorem indexOf?_idText_eq_none_iff {mark : Char} :
    indexOf? (idText mark id) page = none ↔ ∀ place, ¬StandsAt mark page id place := by
  constructor
  · intro hnone place hstands
    obtain ⟨first, hfirst⟩ := exists_indexOf? hstands
    rw [hnone] at hfirst
    cases hfirst
  · intro hnowhere
    refine Option.eq_none_iff_forall_ne_some.mpr fun first hfirst => ?_
    exact hnowhere first (indexOf?_idText_eq_some_iff.mp hfirst).1

/-- The place that is found is the first one with double quotes, or if there is none, the first one
with single quotes. -/
theorem attributeIndex?_eq_some_iff :
    attributeIndex? page id = some index ↔ IsLeast {place | StandsAt '"' page id place} index ∨
      (∀ place, ¬StandsAt '"' page id place) ∧
        IsLeast {place | StandsAt '\'' page id place} index := by
  rw [attributeIndex?, Option.or_eq_some_iff, indexOf?_idText_eq_some_iff,
    indexOf?_idText_eq_some_iff, indexOf?_idText_eq_none_iff]

/-- No place is found exactly if no element carries the id. -/
theorem attributeIndex?_eq_none_iff :
    attributeIndex? page id = none ↔ ∀ place, ¬CarriedAt page id place := by
  rw [attributeIndex?, Option.or_eq_none_iff, indexOf?_idText_eq_none_iff,
    indexOf?_idText_eq_none_iff]
  constructor
  · rintro ⟨hdouble, hsingle⟩ place ⟨mark, rfl | rfl, hstands⟩
    · exact hdouble place hstands
    · exact hsingle place hstands
  · intro hnowhere
    exact ⟨fun place hstands => hnowhere place ⟨_, .inl rfl, hstands⟩,
      fun place hstands => hnowhere place ⟨_, .inr rfl, hstands⟩⟩

/-! ## Reading in order -/

/-- The text of the element in whose tag a place of the page lies, without blanks at its ends. -/
def textAt? (page : List Char) (index : Nat) : Option (List Char) := do
  let name ← tagAt? page index
  let ending ← indexOf? ['>'] (page.drop index)
  let content := page.drop (index + ending + 1)
  let length ← indexOf? ('<' :: '/' :: name) content
  return trim (content.take length)

/-- The text of the element that carries an id is that of the element at the place that is found. -/
theorem elementText?_eq_bind (page : List Char) (id : String) :
    elementText? page id = (attributeIndex? page id).bind (textAt? page) :=
  rfl

/-- Elements are read in order: the first place where an element carries the id is found, and its text
is read; and nothing is found or read if there is no such place. -/
structure ReadsFirst (page : List Char) (id : String) : Prop where
  found : ∀ index, IsLeast {place | CarriedAt page id place} index →
    attributeIndex? page id = some index ∧ elementText? page id = textAt? page index
  missing : (∀ place, ¬CarriedAt page id place) →
    attributeIndex? page id = none ∧ elementText? page id = none

/-- Elements are read in order if the first place is found. -/
theorem readsFirst_of_found
    (h : ∀ index, IsLeast {place | CarriedAt page id place} index →
      attributeIndex? page id = some index) : ReadsFirst page id where
  found index hfirst := by
    rw [elementText?_eq_bind, h index hfirst]
    exact ⟨rfl, rfl⟩
  missing hnowhere := by
    rw [elementText?_eq_bind, attributeIndex?_eq_none_iff.mpr hnowhere]
    exact ⟨rfl, rfl⟩

/-- The first place of all is the first with its marks. -/
theorem isLeast_of_standsAt {mark : Char} (hmark : IsQuotationMark mark)
    (hfirst : IsLeast {place | CarriedAt page id place} index)
    (hstands : StandsAt mark page id index) :
    IsLeast {place | StandsAt mark page id place} index :=
  ⟨hstands, fun _ hplace => hfirst.2 ⟨mark, hmark, hplace⟩⟩

/-- An element that carries the id somewhere is the first to do so, or comes behind the first. -/
theorem exists_isLeast_le (h : CarriedAt page id index) :
    ∃ first ≤ index, IsLeast {place | CarriedAt page id place} first := by
  classical
  have hleast := Nat.isLeast_find (p := CarriedAt page id) ⟨index, h⟩
  exact ⟨_, hleast.2 h, hleast⟩

end

/-- On every page, the place that is found is the first one with double quotes, or if there is none,
the first one with single quotes. So elements are read in order exactly if double quotes, should they
occur at all, occur before every place with single quotes. -/
theorem readsFirst_iff (page : List Char) (id : String) :
    (∀ index, attributeIndex? page id = some index ↔
        IsLeast {place | StandsAt '"' page id place} index ∨
          (∀ place, ¬StandsAt '"' page id place) ∧
            IsLeast {place | StandsAt '\'' page id place} index) ∧
      (ReadsFirst page id ↔ ∀ double single, StandsAt '"' page id double →
        StandsAt '\'' page id single → ∃ before < single, StandsAt '"' page id before) := by
  refine ⟨fun index => attributeIndex?_eq_some_iff, fun hreads => ?_, fun hbefore => ?_⟩
  · intro double single hdouble hsingle
    obtain ⟨first, hle, hfirst⟩ := exists_isLeast_le ⟨'\'', .inr rfl, hsingle⟩
    rcases attributeIndex?_eq_some_iff.mp (hreads.found first hfirst).1 with hfound | ⟨hnone, -⟩
    · refine ⟨first, Nat.lt_of_le_of_ne hle fun heq => ?_, hfound.1⟩
      subst heq
      exact absurd (hfound.1.mark_eq hsingle) (by decide)
    · exact absurd hdouble (hnone double)
  · refine readsFirst_of_found fun index hfirst => attributeIndex?_eq_some_iff.mpr ?_
    obtain ⟨mark, hmark, hstands⟩ := hfirst.1
    have hleast := isLeast_of_standsAt hmark hfirst hstands
    rcases hmark with rfl | rfl
    · exact .inl hleast
    · refine .inr ⟨fun double hdouble => ?_, hleast⟩
      obtain ⟨before, hlt, hearlier⟩ := hbefore double index hdouble hstands
      exact absurd (hfirst.2 ⟨'"', .inl rfl, hearlier⟩) (Nat.not_le.mpr hlt)

/-- Of two elements that carry the id of the document, the first one between single quotes and the
second one between double quotes, the second one is read. -/
theorem elementText?_of_later_double :
    let page := "<p id='organization-data'>A</p><p id=\"organization-data\">B</p>".toList
    IsLeast {place | CarriedAt page Payload.dataElement place} 3 ∧ textAt? page 3 = some ['A'] ∧
      attributeIndex? page Payload.dataElement = some 34 ∧
        elementText? page Payload.dataElement = some ['B'] ∧
          ¬ReadsFirst page Payload.dataElement := by
  intro page
  have hsingle : indexOf? (idText '\'' Payload.dataElement) page = some 3 := by decide +kernel
  have hdouble : indexOf? (idText '"' Payload.dataElement) page = some 34 := by decide +kernel
  have hfirst : IsLeast {place | CarriedAt page Payload.dataElement place} 3 := by
    refine ⟨⟨'\'', .inr rfl, (indexOf?_idText_eq_some_iff.mp hsingle).1⟩, ?_⟩
    rintro place ⟨mark, rfl | rfl, hstands⟩
    · exact Nat.le_trans (by decide) ((indexOf?_idText_eq_some_iff.mp hdouble).2 hstands)
    · exact (indexOf?_idText_eq_some_iff.mp hsingle).2 hstands
  have hfound : attributeIndex? page Payload.dataElement = some 34 := by
    rw [attributeIndex?, hdouble, Option.some_or]
  refine ⟨hfirst, by decide +kernel, hfound, by decide +kernel, fun hreads => ?_⟩
  rw [(hreads.found 3 hfirst).1] at hfound
  exact absurd hfound (by decide)

end Roster.Markup
