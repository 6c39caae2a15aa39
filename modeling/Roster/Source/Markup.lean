import Roster.Text.Blank
import Roster.Text.Search

/-!
# Elements of a page

A page is searched for the element that carries an id. Attributes in double quotes are looked for
first, and the text of an element ends at the first closing tag of its name.
-/

namespace Roster.Markup

/-- An id as an attribute, between two quotation marks. -/
def idText (mark : Char) (id : String) : List Char :=
  "id=".toList ++ mark :: id.toList ++ [mark]

/-- How many characters stand before the attribute with an id. -/
def attributeIndex? (page : List Char) (id : String) : Option Nat :=
  (Text.indexOf? (idText '"' id) page).or (Text.indexOf? (idText '\'' id) page)

/-- Whether an element carries an id. -/
def hasElement (page : List Char) (id : String) : Bool :=
  (attributeIndex? page id).isSome

/-- The name of the tag in which a place of the page lies. -/
def tagAt? (page : List Char) (index : Nat) : Option (List Char) := do
  let start ← Text.lastIndexOf? '<' (page.take index)
  let name := (page.drop (start + 1)).takeWhile Char.isAlphanum
  if name.isEmpty then none else some name

/-- The text of the element that carries an id, without blanks at its ends. -/
def elementText? (page : List Char) (id : String) : Option (List Char) := do
  let index ← attributeIndex? page id
  let name ← tagAt? page index
  let ending ← Text.indexOf? ['>'] (page.drop index)
  let content := page.drop (index + ending + 1)
  let length ← Text.indexOf? ('<' :: '/' :: name) content
  return Text.trim (content.take length)

end Roster.Markup
