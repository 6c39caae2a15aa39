import Roster.Screen.Stroke

/-!
# Wrapped lines

A line that does not fit is broken between words, and a word that does not fit is broken anywhere.
When lines are trimmed, blanks at their front vanish.
-/

namespace Roster.Screen

/-- Whether a glyph is a gap between words. The fixed space is none, the invisible gap is one. -/
def Glyph.isGap (g : Glyph) : Bool :=
  g.symbol.chars == [Char.ofNat 0x200B] ||
    (g.symbol.chars.all Text.isBlank && g.symbol.chars != [Char.ofNat 0xA0])

/-- The state of the breaking: the lines that are done, last first, the line under way, and the
blanks and the word that wait for their place. -/
structure Breaking where
  done : List (List Glyph)
  line : List Glyph
  blanks : List Glyph
  word : List Glyph
  afterWord : Bool

namespace Breaking

/-- Nothing read. -/
def start : Breaking := ⟨[], [], [], [], false⟩

/-- Moves the waiting word into the line, and the blanks before it unless they are trimmed. -/
def settle (b : Breaking) (trim : Bool) : Breaking :=
  let kept := if b.line.isEmpty && trim then [] else b.blanks
  { b with line := b.line ++ kept ++ b.word, blanks := [], word := [] }

/-- Drops blanks from the front as long as they fit into the rest of a line. -/
def dropFitting : Nat → List Glyph → List Glyph
  | _, [] => []
  | room, g :: rest =>
    if room < g.symbol.columns then g :: rest else dropFitting (room - g.symbol.columns) rest

/-- Ends the line under way. -/
def breakLine (b : Breaking) (limit : Nat) : Breaking :=
  { b with
    done := b.line :: b.done
    line := []
    blanks := dropFitting (limit - glyphColumns b.line) b.blanks }

/-- Adds a glyph to the blanks or the word that waits. -/
def append (b : Breaking) (g : Glyph) : Breaking :=
  if g.isGap then { b with blanks := b.blanks ++ [g], afterWord := false }
  else { b with word := b.word ++ [g], afterWord := true }

/-- Whether the waiting word or blanks have to be settled before the next glyph. -/
def mustSettle (b : Breaking) (limit : Nat) (trim : Bool) (g : Glyph) : Bool :=
  let columns := g.symbol.columns
  let word := glyphColumns b.word
  let blanks := glyphColumns b.blanks
  (b.afterWord && g.isGap) ||
    (b.line.isEmpty &&
      if trim then limit < word + columns || limit < blanks + columns
      else limit < word + blanks + columns)

/-- Reads one glyph. -/
def step (limit : Nat) (trim : Bool) (b : Breaking) (g : Glyph) : Breaking :=
  if limit < g.symbol.columns then b
  else
    let b := if b.mustSettle limit trim g then b.settle trim else b
    let line := glyphColumns b.line
    let full := limit ≤ line ||
      (0 < g.symbol.columns && limit ≤ line + glyphColumns b.blanks + glyphColumns b.word)
    if full then
      let b := b.breakLine limit
      if g.isGap && b.blanks.isEmpty then b else b.append g
    else b.append g

/-- The lines, when everything is read. -/
def finish (b : Breaking) (trim : Bool) : List (List Glyph) :=
  let done :=
    if b.line.isEmpty && b.word.isEmpty && !b.blanks.isEmpty then [] :: b.done else b.done
  let last := (b.settle trim).line
  let done := if last.isEmpty then done else last :: done
  if done.isEmpty then [[]] else done.reverse

end Breaking

/-- Breaks a line into lines of at most `limit` columns. -/
def wrapGlyphs (limit : Nat) (trim : Bool) (gs : List Glyph) : List (List Glyph) :=
  (gs.foldl (Breaking.step limit trim) .start).finish trim

/-- Cuts a line off after `limit` columns; a symbol wider than that is left out. -/
def cutGlyphs (limit : Nat) : Nat → List Glyph → List Glyph
  | _, [] => []
  | used, g :: rest =>
    if limit < g.symbol.columns then cutGlyphs limit used rest
    else if limit < used + g.symbol.columns then []
    else g :: cutGlyphs limit (used + g.symbol.columns) rest

end Roster.Screen
