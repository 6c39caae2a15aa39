import Roster.Decimal.Fixed

/-!
# Figures for readers

Scores are shown with two decimals and percentages as whole numbers. Both are first rounded to the
nearest, a half away from zero.
-/

namespace Roster.Figures

/-- A score with two decimals. -/
def score (x : Float) : String :=
  Decimal.fixed 2 ((x * 100.0).round / 100.0)

/-- A percentage without decimals. -/
def percent (x : Float) : String :=
  Decimal.fixed 0 x.round ++ "%"

/-- A truth value in words. -/
def yesNo (b : Bool) : String :=
  if b then "Yes" else "No"

end Roster.Figures
