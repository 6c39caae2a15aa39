/-!
# Focus

Keyboard input goes to the element that holds the focus. What can hold it differs between hosts;
every host can say what holds it and can take it away.
-/

namespace Roster

/-- What holds the focus. -/
inductive FocusHolder where
  | nothing
  | inert
  | focusable
  deriving DecidableEq, Repr

/-- A host of the focus: it says what holds it, and can take it away. -/
class FocusHost (α : Type) where
  holder : α → FocusHolder
  blur : α → α

/-- Takes the focus away from an element that can lose it. -/
def clearFocus {α : Type} [FocusHost α] (host : α) : α :=
  if FocusHost.holder host = .focusable then FocusHost.blur host else host

/-- A page with elements of every kind: what holds the focus, and how often it was taken away. -/
structure ElementFocus where
  holder : FocusHolder
  blurs : Nat
  deriving DecidableEq, Repr

instance : FocusHost ElementFocus where
  holder := ElementFocus.holder
  blur f := ⟨.nothing, f.blurs + 1⟩

/-- A screen on which only the search box can hold the focus. -/
structure SearchFocus where
  focused : Bool
  deriving DecidableEq, Repr

instance : FocusHost SearchFocus where
  holder f := if f.focused then .focusable else .nothing
  blur _ := ⟨false⟩

/-- A page whose search box is followed apart from its other elements. -/
structure PageFocus where
  search : Bool
  element : FocusHolder
  blurs : Nat
  deriving DecidableEq, Repr

instance : FocusHost PageFocus where
  holder f := if f.search then .focusable else f.element
  blur f := ⟨false, .nothing, f.blurs + 1⟩

/-- A search box that is cleared has no focus. -/
@[simp] theorem clearFocus_focused (f : SearchFocus) : (clearFocus f).focused = false := by
  cases f with | mk focused => cases focused <;> rfl

/-- A page that is cleared has no focus in its search box. -/
@[simp] theorem clearFocus_search (f : PageFocus) : (clearFocus f).search = false := by
  cases f with | mk search element blurs => cases search <;> cases element <;> rfl

end Roster
