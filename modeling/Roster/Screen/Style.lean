/-!
# Styles of cells

A cell has a color for its symbol and one for its ground, and may be bold or underlined. Styles are
laid over each other: what a style leaves open shows through.
-/

namespace Roster.Screen

/-- A color. -/
inductive Color where
  | cyan
  | darkGray
  | gray
  | green
  | white
  | yellow
  | rgb (red green blue : Nat)
  deriving DecidableEq, Repr

/-- The name of a color, or its three parts in hexadecimal digits. -/
def Color.name : Color → String
  | .cyan => "Cyan"
  | .darkGray => "DarkGray"
  | .gray => "Gray"
  | .green => "Green"
  | .white => "White"
  | .yellow => "Yellow"
  | .rgb r g b => "#" ++ two r ++ two g ++ two b
where
  /-- Two hexadecimal digits in upper case. -/
  two (n : Nat) : String :=
    String.ofList ((Nat.toDigits 16 (n / 16) ++ Nat.toDigits 16 (n % 16)).map Char.toUpper)

/-- A style. Colors that are left open are those of the ground below. -/
structure Style where
  front : Option Color
  ground : Option Color
  bold : Bool
  underlined : Bool
  deriving DecidableEq, Repr

namespace Style

/-- The style that changes nothing. -/
def plain : Style := ⟨none, none, false, false⟩

/-- A color for symbols. -/
def colored (color : Color) : Style := ⟨some color, none, false, false⟩

/-- The style made bold. -/
def strong (s : Style) : Style := { s with bold := true }

/-- The style on a ground. -/
def on (s : Style) (color : Color) : Style := { s with ground := some color }

/-- Underlined symbols. -/
def underline : Style := ⟨none, none, false, true⟩

/-- One style laid over another. -/
def laidOver (top below : Style) : Style where
  front := top.front.or below.front
  ground := top.ground.or below.ground
  bold := top.bold || below.bold
  underlined := top.underlined || below.underlined

@[simp] theorem laidOver_plain (s : Style) : s.laidOver plain = s := by
  cases s
  simp [laidOver, plain]

end Style

end Roster.Screen
