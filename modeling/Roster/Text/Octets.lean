/-!
# Octets

A text is carried as octets, one to four for each character. Octets that carry no character are read
as the replacement character, one for each sequence that breaks off.
-/

namespace Roster.Text

/-- The octets of a character. -/
def octetsOfChar (c : Char) : List Nat :=
  let n := c.toNat
  if n < 0x80 then [n]
  else if n < 0x800 then [0xC0 + n / 0x40, 0x80 + n % 0x40]
  else if n < 0x10000 then [0xE0 + n / 0x1000, 0x80 + n / 0x40 % 0x40, 0x80 + n % 0x40]
  else [0xF0 + n / 0x40000, 0x80 + n / 0x1000 % 0x40, 0x80 + n / 0x40 % 0x40, 0x80 + n % 0x40]

/-- The octets of a text. -/
def toOctets (cs : List Char) : List Nat :=
  cs.flatMap octetsOfChar

/-- The octets of a text are those of its characters, one after the other. -/
theorem toOctets_cons (c : Char) (cs : List Char) :
    toOctets (c :: cs) = octetsOfChar c ++ toOctets cs :=
  rfl

/-- The octets of two texts follow each other. -/
theorem toOctets_append (cs ds : List Char) : toOctets (cs ++ ds) = toOctets cs ++ toOctets ds :=
  List.flatMap_append

/-- What stands for octets that carry no character. -/
def replacement : Char := Char.ofNat 0xFFFD

/-- Whether an octet continues a character. -/
def isContinuation (n : Nat) : Bool :=
  0x80 ≤ n && n ≤ 0xBF

/-- The least and the greatest octet that may follow the first one of a long character. -/
def secondRange (first : Nat) : Nat × Nat :=
  if first == 0xE0 then (0xA0, 0xBF)
  else if first == 0xED then (0x80, 0x9F)
  else if first == 0xF0 then (0x90, 0xBF)
  else if first == 0xF4 then (0x80, 0x8F)
  else (0x80, 0xBF)

/-- How many octets a character has that begins with this one; none begins with others. -/
def lengthFrom (first : Nat) : Nat :=
  if first < 0x80 then 1
  else if 0xC2 ≤ first && first ≤ 0xDF then 2
  else if 0xE0 ≤ first && first ≤ 0xEF then 3
  else if 0xF0 ≤ first && first ≤ 0xF4 then 4
  else 0

/-- Reads a first octet and those after it: the character, and how many of the octets after the
first belong to it. -/
def readChar (first : Nat) (rest : List Nat) : Char × Nat :=
  let inRange (n : Nat) : Bool := (secondRange first).1 ≤ n && n ≤ (secondRange first).2
  match lengthFrom first, rest with
  | 1, _ => (Char.ofNat first, 0)
  | 2, b :: _ =>
    if isContinuation b then (Char.ofNat ((first - 0xC0) * 0x40 + (b - 0x80)), 1)
    else (replacement, 0)
  | 3, b :: c :: _ =>
    if inRange b then
      if isContinuation c then
        (Char.ofNat ((first - 0xE0) * 0x1000 + (b - 0x80) * 0x40 + (c - 0x80)), 2)
      else (replacement, 1)
    else (replacement, 0)
  | 3, [b] => (replacement, if inRange b then 1 else 0)
  | 4, b :: c :: d :: _ =>
    if inRange b then
      if isContinuation c then
        if isContinuation d then
          (Char.ofNat ((first - 0xF0) * 0x40000 + (b - 0x80) * 0x1000 + (c - 0x80) * 0x40 +
            (d - 0x80)), 3)
        else (replacement, 2)
      else (replacement, 1)
    else (replacement, 0)
  | 4, [b, c] => (replacement, if inRange b then if isContinuation c then 2 else 1 else 0)
  | 4, [b] => (replacement, if inRange b then 1 else 0)
  | _, _ => (replacement, 0)

/-- Reads octets, of which the first `skip` belong to a character that has been read. -/
def ofOctetsAfter : Nat → List Nat → List Char
  | _, [] => []
  | skip + 1, _ :: rest => ofOctetsAfter skip rest
  | 0, first :: rest =>
    let (c, skip) := readChar first rest
    c :: ofOctetsAfter skip rest

/-- The text that octets carry. -/
def ofOctets (octets : List Nat) : List Char :=
  ofOctetsAfter 0 octets

end Roster.Text
