import Roster.Json.Error
import Roster.Total
import Roster.Word

/-!
# Reading the parts of a document

A reader takes characters off the front of a text and answers what it read with the rest of the
text, or why it cannot go on. This module reads blanks, names, texts and numbers, and passes over
values that nobody asks for.
-/

namespace Roster.Json

/-- Reads an `α` off the front of a text. -/
abbrev Reader (α : Type) := StateT (List Char) (Except ReadError) α

namespace Reader

/-- The blanks of a document are fewer than those of running text. -/
def isBlank (c : Char) : Bool :=
  c == ' ' || c == '\n' || c == '\t' || c == '\r'

/-- Refuses the text. -/
def fail {α : Type} (e : ReadError) : Reader α :=
  fun _ => .error e

/-- The next character, which stays in place. -/
def peek : Reader (Option Char) :=
  fun cs => .ok (cs.head?, cs)

/-- Drops the next character. -/
def skip : Reader Unit :=
  fun cs => .ok ((), cs.tail)

/-- Drops blanks and answers the character after them, which stays in place. -/
def peekPastBlanks : Reader (Option Char) :=
  fun cs => let rest := cs.dropWhile isBlank; .ok (rest.head?, rest)

/-- Takes the next character, or refuses the end of the text with `e`. -/
def takeOr (e : ReadError) : Reader Char
  | [] => .error e
  | c :: rest => .ok (c, rest)

/-- The rest of a name whose first letter has been read. -/
def name : List Char → Reader Unit
  | [] => pure ()
  | expected :: more => do
    let c ← takeOr .endInValue
    if c == expected then name more else fail .expectedName

/-! ## Texts -/

/-- The value of a hexadecimal digit, in either case. -/
def hexValue (c : Char) : Option Nat :=
  let n := c.toNat
  if 0x30 ≤ n && n ≤ 0x39 then some (n - 0x30)
  else if 0x41 ≤ n && n ≤ 0x46 then some (n - 0x37)
  else if 0x61 ≤ n && n ≤ 0x66 then some (n - 0x57)
  else none

/-- The value of four hexadecimal digits. -/
def hexFour (a b c d : Char) : Option Nat := do
  let a ← hexValue a
  let b ← hexValue b
  let c ← hexValue c
  let d ← hexValue d
  return ((a * 16 + b) * 16 + c) * 16 + d

/-- The number of octets of a text. -/
def octets (cs : List Char) : Nat :=
  total (cs.map Char.utf8Size)

/-- Four hexadecimal digits. The text has ended when fewer than four octets are left. -/
def escapeCode : Reader Nat
  | cs@(a :: b :: c :: d :: rest) =>
    match hexFour a b c d with
    | some n => .ok (n, rest)
    | none => if octets cs < 4 then .error .endInText else .error .invalidEscape
  | cs => if octets cs < 4 then .error .endInText else .error .invalidEscape

/-- The character behind a one-letter escape. -/
def letterEscape (c : Char) : Option Char :=
  if c == '"' || c == '\\' || c == '/' then some c
  else if c == 'b' then some (Char.ofNat 0x08)
  else if c == 'f' then some (Char.ofNat 0x0C)
  else if c == 'n' then some '\n'
  else if c == 'r' then some '\r'
  else if c == 't' then some '\t'
  else none

/-- The character behind an escape by code. A leading surrogate needs its trailing one. -/
def codeEscape : Reader Char := do
  let first ← escapeCode
  if 0xDC00 ≤ first && first ≤ 0xDFFF then fail .loneSurrogate
  else if first < 0xD800 || 0xDBFF < first then return Char.ofNat first
  else
    let c ← takeOr .endInText
    if c != '\\' then fail .unpairedSurrogate
    else
      let c ← takeOr .endInText
      if c != 'u' then fail .unpairedSurrogate
      else
        let second ← escapeCode
        if second < 0xDC00 || 0xDFFF < second then fail .loneSurrogate
        else return Char.ofNat ((first - 0xD800) * 0x400 + (second - 0xDC00) + 0x10000)

/-- The rest of a text whose opening quote has been read. -/
def textRest : Nat → Reader (List Char)
  | 0 => fail .endInText
  | fuel + 1 => do
    let c ← takeOr .endInText
    if c == '"' then return []
    else if c == '\\' then
      let e ← takeOr .endInText
      let decoded ← if e == 'u' then codeEscape else
        match letterEscape e with
        | some c => pure c
        | none => fail .invalidEscape
      return decoded :: (← textRest fuel)
    else if c.toNat < 0x20 then fail .controlCharacter
    else return c :: (← textRest fuel)

/-- A text whose opening quote has been read. -/
def text : Reader String := do
  let cs ← get
  return String.ofList (← textRest (cs.length + 1))

/-- Passes over the rest of a text; escapes by code need not pair up. -/
def skipTextRest : Nat → Reader Unit
  | 0 => fail .endInText
  | fuel + 1 => do
    let c ← takeOr .endInText
    if c == '"' then return ()
    else if c == '\\' then
      let e ← takeOr .endInText
      if e == 'u' then
        let _ ← escapeCode
        skipTextRest fuel
      else if (letterEscape e).isSome then skipTextRest fuel
      else fail .invalidEscape
    else if c.toNat < 0x20 then fail .controlCharacter
    else skipTextRest fuel

/-! ## Numbers -/

/-- A number as it is written: a whole number of 64 bits keeps its value, any other is a double. -/
inductive Number where
  | natural (value : Nat)
  | negative (value : Int)
  | real (value : Float)

/-- The description of a number. -/
def Number.found : Number → Found
  | .natural value => .integer value
  | .negative value => .integer value
  | .real value => .real value

/-- A power of ten as a double, up to `10 ^ 308`. -/
def powerOfTen (exponent : Nat) : Float :=
  Float.ofScientific 1 false exponent

/-- Scales a double by a power of ten, 308 places at a time downwards. -/
def scaled (fuel : Nat) (x : Float) (exponent : Int) : Option Float :=
  if exponent.natAbs ≤ 308 then
    if 0 ≤ exponent then
      let y := x * powerOfTen exponent.natAbs
      if y.isInf then none else some y
    else some (x / powerOfTen exponent.natAbs)
  else if x == 0.0 then some x
  else if 0 ≤ exponent then none
  else
    match fuel with
    | 0 => some 0.0
    | fuel + 1 => scaled fuel (x / powerOfTen 308) (exponent + 308)

/-- The double `±significand * 10 ^ exponent`. -/
def realOf (positive : Bool) (significand : Nat) (exponent : Int) : Reader Number :=
  match scaled 3 significand.toUInt64.toFloat exponent with
  | none => fail .numberOutOfRange
  | some x => pure (.real (if positive then x else -x))

/-- Reads digits into a significand as long as it fits a word; answers the significand, how many
digits went into it, and whether the next digit would not fit. -/
def significandDigits (significand count : Nat) : List Char → (Nat × Nat × Bool) × List Char
  | [] => ((significand, count, false), [])
  | c :: rest =>
    if c.isDigit then
      let next := significand * 10 + digitValue c
      if wordMax < next then ((significand, count, true), c :: rest)
      else significandDigits next (count + 1) rest
    else ((significand, count, false), c :: rest)

/-- Drops digits and answers how many there were. -/
def dropDigits : Reader Nat :=
  fun cs => .ok ((cs.takeWhile Char.isDigit).length, cs.dropWhile Char.isDigit)

/-- The greatest exponent that is still counted. -/
def exponentMax : Nat := 0x7FFFFFFF

/-- The double of a significand, once its exponent is known. -/
def withExponent (positive : Bool) (significand : Nat) (scale : Int) (sign : Option Char)
    (exponent : Nat) : Reader Number :=
  if exponentMax < exponent then
    if significand != 0 && sign != some '-' then fail .numberOutOfRange
    else return .real (if positive then 0.0 else -0.0)
  else realOf positive significand (if sign == some '-' then scale - exponent else scale + exponent)

/-- The digits of an exponent whose sign has been read. -/
def exponentDigits (positive : Bool) (significand : Nat) (scale : Int) (sign : Option Char) :
    Reader Number := do
  let first ← takeOr .endInValue
  if !first.isDigit then fail .invalidNumber
  else
    let cs ← get
    set (cs.dropWhile Char.isDigit)
    withExponent positive significand scale sign
      (digitsValue (first :: cs.takeWhile Char.isDigit))

/-- The part of a number after its exponent mark. -/
def exponentPart (positive : Bool) (significand : Nat) (scale : Int) : Reader Number := do
  let sign ← peek
  if sign == some '+' || sign == some '-' then
    skip
    exponentDigits positive significand scale sign
  else exponentDigits positive significand scale sign

/-- The end of a number with a fraction: an exponent, or nothing. -/
def afterFraction (positive : Bool) (significand : Nat) (scale : Int) : Reader Number := do
  let c ← peek
  if c == some 'e' || c == some 'E' then
    skip
    exponentPart positive significand scale
  else realOf positive significand scale

/-- The part of a number after its point. Digits that no longer fit the significand are dropped. -/
def fractionPart (positive : Bool) (significand : Nat) (scale : Int) : Reader Number := do
  let cs ← get
  let ((significand, count, full), rest) := significandDigits significand 0 cs
  set rest
  if full then
    let _ ← dropDigits
    afterFraction positive significand (scale - count)
  else if count == 0 then
    if rest.isEmpty then fail .endInValue else fail .invalidNumber
  else afterFraction positive significand (scale - count)

/-- The rest of a whole number that does not fit a word: further digits only scale it. -/
def longInteger (positive : Bool) (significand : Nat) : Reader Number := do
  let count ← dropDigits
  let c ← peek
  if c == some '.' then
    skip
    fractionPart positive significand count
  else afterFraction positive significand count

/-- A whole number. A negative one that does not fit 64 bits is a double, and so is a negative
zero. -/
def wholeNumber (positive : Bool) (significand : Nat) : Reader Number :=
  if positive then return .natural significand
  else if significand == 0 || 0x8000000000000000 < significand then
    return .real (-significand.toUInt64.toFloat)
  else return .negative (-(significand : Int))

/-- The end of a number whose whole part has been read. -/
def afterWhole (positive : Bool) (significand : Nat) : Reader Number := do
  let c ← peek
  if c == some '.' then
    skip
    fractionPart positive significand 0
  else if c == some 'e' || c == some 'E' then
    skip
    exponentPart positive significand 0
  else wholeNumber positive significand

/-- A number whose sign has been read. -/
def number (positive : Bool) : Reader Number := do
  let first ← takeOr .endInValue
  if first == '0' then
    let c ← peek
    if (c.map Char.isDigit).getD false then fail .invalidNumber
    else afterWhole positive 0
  else if first.isDigit then
    let cs ← get
    let ((significand, _, full), rest) := significandDigits (digitValue first) 0 cs
    set rest
    if full then longInteger positive significand else afterWhole positive significand
  else fail .invalidNumber

/-! ## Values nobody asks for -/

/-- Passes over the part of a number after its exponent mark. -/
def skipExponent : Reader Unit := do
  let sign ← peek
  if sign == some '+' || sign == some '-' then skip
  let digits ← dropDigits
  if digits == 0 then fail .invalidNumber

/-- Passes over a number whose sign has been read. -/
def skipNumber : Reader Unit := do
  let first ← takeOr .invalidNumber
  if !first.isDigit then fail .invalidNumber
  else
    if first == '0' then
      let c ← peek
      if (c.map Char.isDigit).getD false then fail .invalidNumber
    else
      let _ ← dropDigits
    let c ← peek
    if c == some '.' then
      skip
      let digits ← dropDigits
      if digits == 0 then fail .invalidNumber
      let c ← peek
      if c == some 'e' || c == some 'E' then
        skip
        skipExponent
    else if c == some 'e' || c == some 'E' then
      skip
      skipExponent

mutual

/-- Passes over a value. -/
def skipValue : Nat → Reader Unit
  | 0 => fail .endInValue
  | fuel + 1 => do
    match ← peekPastBlanks with
    | none => fail .endInValue
    | some c =>
      if c == 'n' then do skip; name "ull".toList
      else if c == 't' then do skip; name "rue".toList
      else if c == 'f' then do skip; name "alse".toList
      else if c == '-' then do skip; skipNumber
      else if c.isDigit then skipNumber
      else if c == '"' then do skip; skipTextRest ((← get).length + 1)
      else if c == '[' then
        skip
        match ← peekPastBlanks with
        | none => fail .endInList
        | some c => if c == ']' then skip else skipItems fuel
      else if c == '\x7b' then
        skip
        match ← peekPastBlanks with
        | none => fail .endInObject
        | some c => if c == '\x7d' then skip else skipFields fuel
      else fail .expectedValue

/-- Passes over the items of a list and its end. -/
def skipItems : Nat → Reader Unit
  | 0 => fail .endInValue
  | fuel + 1 => do
    skipValue fuel
    match ← peekPastBlanks with
    | none => fail .endInList
    | some c =>
      if c == ',' then do skip; skipItems fuel
      else if c == ']' then skip
      else fail .expectedListCommaOrEnd

/-- Passes over the fields of a record and its end. -/
def skipFields : Nat → Reader Unit
  | 0 => fail .endInValue
  | fuel + 1 => do
    match ← peekPastBlanks with
    | none => fail .endInObject
    | some c =>
      if c != '"' then fail .keyNotText
      else
        skip
        skipTextRest ((← get).length + 1)
        match ← peekPastBlanks with
        | none => fail .endInObject
        | some c =>
          if c != ':' then fail .expectedColon
          else
            skip
            skipValue fuel
            match ← peekPastBlanks with
            | none => fail .endInObject
            | some c =>
              if c == ',' then do skip; skipFields fuel
              else if c == '\x7d' then skip
              else fail .expectedObjectCommaOrEnd

end

/-- Passes over a value of any kind. -/
def ignored : Reader Unit := do
  skipValue (2 * (← get).length + 2)

end Reader

end Roster.Json
