import Roster.Text.Lowercase
import Roster.Text.Marks

/-!
# Labels of a domain

The names between the dots of a domain are written in ASCII. A label with other characters is
written as its ASCII characters, followed by a code of where to insert the others: the code of a
step is a number to base 36 whose digits carry weights that adapt to the steps before.
-/

namespace Roster.Url.Label

/-- A digit to base 36, letters first. -/
def digit (n : Nat) : Char :=
  if n < 26 then Char.ofNat (0x61 + n) else Char.ofNat (0x16 + n)

/-- The value of a digit to base 36. -/
def digitValue (c : Char) : Option Nat :=
  let n := c.toNat
  if 0x61 ≤ n && n ≤ 0x7A then some (n - 0x61)
  else if 0x30 ≤ n && n ≤ 0x39 then some (n - 0x16)
  else none

/-- The least digit that ends a number, at the position `k`. -/
def threshold (k bias : Nat) : Nat :=
  if k ≤ bias then 1 else if bias + 26 ≤ k then 26 else k - bias

/-- Halving rounds of the adaptation. -/
def adaptRounds : Nat → Nat → Nat → Nat
  | 0, delta, k => k + 36 * delta / (delta + 38)
  | fuel + 1, delta, k =>
    if 455 < delta then adaptRounds fuel (delta / 35) (k + 36) else k + 36 * delta / (delta + 38)

/-- The bias after a step of `delta`, when `points` characters are placed. -/
def adapt (delta points : Nat) (first : Bool) : Nat :=
  let delta := if first then delta / 700 else delta / 2
  adaptRounds 64 (delta + delta / points) 0

/-- The digits of a step. -/
def stepDigits : Nat → Nat → Nat → Nat → List Char
  | 0, _, _, _ => []
  | fuel + 1, q, k, bias =>
    let t := threshold k bias
    if q < t then [digit q]
    else digit (t + (q - t) % (36 - t)) :: stepDigits fuel ((q - t) / (36 - t)) (k + 36) bias

/-- The state of the encoder: the character under way, the count since the last step, the bias, and
how many characters are placed. -/
structure Encoder where
  current : Nat
  delta : Nat
  bias : Nat
  placed : Nat
  basic : Nat

/-- Goes over the label once, writing a step at every occurrence of the current character. -/
def encodePass (e : Encoder) : List Nat → Encoder × List Char
  | [] => (e, [])
  | n :: rest =>
    if n < e.current then encodePass { e with delta := e.delta + 1 } rest
    else if n == e.current then
      let written := stepDigits 64 e.delta 36 e.bias
      let bias := adapt e.delta (e.placed + 1) (e.placed == e.basic)
      let (after, more) := encodePass { e with delta := 0, bias := bias, placed := e.placed + 1 } rest
      (after, written ++ more)
    else encodePass e rest

/-- Places the characters from `e.current` on, the least first. -/
def encodeFrom (codes : List Nat) : Nat → Encoder → List Char
  | 0, _ => []
  | fuel + 1, e =>
    match (codes.filter (e.current ≤ ·)).min? with
    | none => []
    | some next =>
      let e := { e with delta := e.delta + (next - e.current) * (e.placed + 1), current := next }
      let (after, written) := encodePass e codes
      written ++ encodeFrom codes fuel
        { after with delta := after.delta + 1, current := after.current + 1 }

/-- The code of a label, without the mark in front. -/
def encode (cs : List Char) : List Char :=
  let codes := cs.map Char.toNat
  let basic := cs.filter (·.toNat < 0x80)
  basic ++ (if basic.isEmpty then [] else ['-']) ++
    encodeFrom codes (cs.length + 1) ⟨0x80, 0, 72, basic.length, basic.length⟩

/-- The number of a step, and what follows it. -/
def readStep : List Char → Nat → Nat → Nat → Nat → Option (Nat × List Char)
  | [], _, _, _, _ => none
  | c :: rest, i, w, k, bias => do
    let d ← digitValue c
    let t := threshold k bias
    let i := i + d * w
    if d < t then some (i, rest) else readStep rest i (w * (36 - t)) (k + 36) bias

/-- Inserts the characters of a code, one for each step. -/
def decodeFrom : Nat → List Char → List Nat → Nat → Nat → Nat → Option (List Nat)
  | 0, _, _, _, _, _ => none
  | fuel + 1, cs, placed, n, i, bias =>
    if cs.isEmpty then some placed
    else do
      let (next, rest) ← readStep cs i 1 36 bias
      let count := placed.length + 1
      let bias := adapt (next - i) count (i == 0)
      let n := n + next / count
      let at' := next % count
      if 0x10FFFF < n || (0xD800 ≤ n && n ≤ 0xDFFF) then none
      else decodeFrom fuel rest (placed.take at' ++ n :: placed.drop at') n (at' + 1) bias

/-- The label behind a code, if it is one. -/
def decode? (cs : List Char) : Option (List Char) :=
  let tail := (cs.reverse.takeWhile (· != '-')).reverse
  let basic := cs.take (cs.length - tail.length - 1)
  if cs.all (·.toNat < 0x80) then
    (decodeFrom (cs.length + 1) tail (basic.map Char.toNat) 0x80 0 72).map (·.map Char.ofNat)
  else none

/-- The mark in front of a code. -/
def mark : List Char := "xn--".toList

/-- Whether a label shows all of its characters and does not begin with a mark. -/
def isVisibleLabel (cs : List Char) : Bool :=
  !cs.any Text.isHidden && !(cs.head?.map Text.isMark).getD false

/-- A label in ASCII: a plain one as it is, any other with its code, which has to be a proper one. -/
def toAscii? (cs : List Char) : Option (List Char) :=
  if mark.isPrefixOf cs then
    match decode? (cs.drop 4) with
    | some label =>
      if label.all (·.toNat < 0x80) || label.map Text.lowerOne != label ||
          encode label != cs.drop 4 || !isVisibleLabel label then none
      else some cs
    | none => none
  else if cs.all (·.toNat < 0x80) then some cs
  else if isVisibleLabel cs then some (mark ++ encode cs)
  else none

end Roster.Url.Label
