/-!
# The loading sign of the web page

The sign runs through eight frames, twelve of them a second, as long as something is loading. A long
pause moves it on by a quarter of a second at most, and a clock that goes back does not move it.
-/

namespace Roster.Web

/-- The frames of the sign. -/
def frames : List Char := ['⣾', '⣽', '⣻', '⢿', '⡿', '⣟', '⣯', '⣷']

namespace Spinner

/-- Twelve frames a second. -/
def framesPerSecond : Float := 12.0

/-- The longest time that counts, in seconds. -/
def longestPause : Float := 0.25

/-- The number of frames. -/
def cycle : Float := 8.0

/-- `x` without its fraction. -/
def truncated (x : Float) : Float :=
  if x < 0.0 then x.ceil else x.floor

/-- What is left of `x` after whole cycles, never below zero. A cycle is a power of two, so the
division is exact and no digit is lost. When nothing is left, the zero keeps the sign of `x`. -/
def wrapped (x : Float) : Float :=
  let rest := x - cycle * truncated (x / cycle)
  if rest == 0.0 then x * 0.0 else if rest < 0.0 then rest + cycle else rest

/-- The time since the last tick, as far as it counts. -/
def elapsed (last : Option Float) (now : Float) : Float :=
  match last with
  | none => 0.0
  | some last =>
    let passed := now - last
    if passed < 0.0 then 0.0 else if longestPause < passed then longestPause else passed

/-- Where the sign stands at the time `now`. -/
def advance (counter : Float) (last : Option Float) (now : Float) (running : Bool) : Float :=
  if running then wrapped (counter + elapsed last now * framesPerSecond) else wrapped counter

/-- The frame shown. -/
def frame (counter : Float) : Char :=
  frames.getD (Nat.min (wrapped counter).floor.toUInt64.toNat (frames.length - 1)) ' '

end Spinner

end Roster.Web
