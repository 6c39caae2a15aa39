/-!
# Areas of a screen

An area is a rectangle of cells. Columns and lines are counted in words of 16 bits; an edge beyond
the last of them is cut back to it.
-/

namespace Roster.Screen

/-- The greatest column or line. -/
def last : Nat := 0xFFFF

/-- A rectangle of cells: its first column and line, its width and height. -/
structure Area where
  x : Nat
  y : Nat
  width : Nat
  height : Nat
  deriving DecidableEq, Repr

namespace Area

/-- The column after the last one. -/
def right (a : Area) : Nat :=
  Nat.min (a.x + a.width) last

/-- The line after the last one. -/
def bottom (a : Area) : Nat :=
  Nat.min (a.y + a.height) last

/-- Whether a position lies in the area. -/
def holds (a : Area) (x y : Nat) : Bool :=
  a.x ≤ x && x < a.right && a.y ≤ y && y < a.bottom

/-- The area without its outermost cells, as many on each side. -/
def shrink (a : Area) (horizontal vertical : Nat) : Area :=
  if a.width < 2 * horizontal || a.height < 2 * vertical then ⟨0, 0, 0, 0⟩
  else ⟨a.x + horizontal, a.y + vertical, a.width - 2 * horizontal, a.height - 2 * vertical⟩

/-- The part of one area that lies in another. -/
def intersect (a b : Area) : Area :=
  let x := Nat.max a.x b.x
  let y := Nat.max a.y b.y
  ⟨x, y, Nat.min a.right b.right - x, Nat.min a.bottom b.bottom - y⟩

/-- Whether there are no cells. -/
def isEmpty (a : Area) : Bool :=
  a.width == 0 || a.height == 0

/-- Where `percent` hundredths of a length end; a half is rounded up. -/
def share (length percent : Nat) : Nat :=
  (length * percent + 50) / 100

/-- The middle of an area, when it is cut at two shares of its width and height. -/
def middle (a : Area) (fromX toX fromY toY : Nat) : Area :=
  let left := share a.width fromX
  let top := share a.height fromY
  ⟨a.x + left, a.y + top, share a.width toX - left, share a.height toY - top⟩

/-- A centered area of so many hundredths of the width and the height. -/
def centered (a : Area) (percentX percentY : Nat) : Area :=
  let sideX := (100 - percentX) / 2
  let sideY := (100 - percentY) / 2
  a.middle sideX (sideX + percentX) sideY (sideY + percentY)

/-- The lines of an area cut into parts, from the top; the last part takes what is left. -/
def stack (a : Area) : List Nat → List Area
  | [] => [a]
  | height :: rest =>
    let h := Nat.min height a.height
    ⟨a.x, a.y, a.width, h⟩ :: stack ⟨a.x, a.y + h, a.width, a.height - h⟩ rest

/-- The columns of an area cut into parts, from the left; the last part takes what is left. -/
def row (a : Area) : List Nat → List Area
  | [] => [a]
  | width :: rest =>
    let w := Nat.min width a.width
    ⟨a.x, a.y, w, a.height⟩ :: row ⟨a.x + w, a.y, a.width - w, a.height⟩ rest

/-- A larger share of a length ends later. -/
theorem share_mono (length : Nat) {p q : Nat} (h : p ≤ q) : share length p ≤ share length q := by
  unfold share
  have := Nat.mul_le_mul_left length h
  omega

/-- A share of at most a hundred hundredths ends within the length. -/
theorem share_le (length : Nat) {p : Nat} (h : p ≤ 100) : share length p ≤ length := by
  unfold share
  have := Nat.mul_le_mul_left length h
  omega

/-- The positions of an area, as far as columns and lines are counted. -/
theorem holds_iff {a : Area} {x y : Nat} :
    a.holds x y = true ↔
      (a.x ≤ x ∧ x < a.x + a.width ∧ x < last) ∧ a.y ≤ y ∧ y < a.y + a.height ∧ y < last := by
  have hright : x < a.right ↔ x < a.x + a.width ∧ x < last := Nat.lt_min
  have hbottom : y < a.bottom ↔ y < a.y + a.height ∧ y < last := Nat.lt_min
  simp only [holds, Bool.and_eq_true, decide_eq_true_eq, hright, hbottom, and_assoc]

/-- The middle of an area lies in it. -/
theorem holds_of_middle {a : Area} {fromX toX fromY toY x y : Nat} (hX : toX ≤ 100) (hY : toY ≤ 100)
    (h : (a.middle fromX toX fromY toY).holds x y = true) : a.holds x y = true := by
  have hwidth := share_le a.width hX
  have hheight := share_le a.height hY
  rw [holds_iff] at h ⊢
  simp only [middle] at h
  omega

/-- The middle of an area ends within the columns that the area ends within. -/
theorem middle_within {a : Area} {fromX toX fromY toY : Nat} (h : a.x + a.width ≤ last)
    (hfrom : fromX ≤ toX) (hX : toX ≤ 100) :
    (a.middle fromX toX fromY toY).x + (a.middle fromX toX fromY toY).width ≤ last := by
  have hleft := share_mono a.width hfrom
  have hwidth := share_le a.width hX
  simp only [middle]
  omega

end Area

end Roster.Screen
