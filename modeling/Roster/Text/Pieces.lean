/-!
# Pieces of a text

A text is cut at every occurrence of a separator, which itself belongs to no piece.
-/

namespace Roster.Text

/-- The pieces of a text between separators; there is always at least one. -/
def pieces (separator : Char) : List Char → List (List Char)
  | [] => [[]]
  | c :: rest =>
    if c == separator then [] :: pieces separator rest
    else
      match pieces separator rest with
      | [] => [[c]]
      | piece :: more => (c :: piece) :: more

/-- Up to the first separator a text is one piece. -/
theorem pieces_append_cons {separator : Char} {piece : List Char} (h : separator ∉ piece)
    (rest : List Char) :
    pieces separator (piece ++ separator :: rest) = piece :: pieces separator rest := by
  induction piece with
  | nil => simp [pieces]
  | cons c piece ih =>
    obtain ⟨hc, hpiece⟩ : separator ≠ c ∧ separator ∉ piece := by simpa using h
    simp [pieces, hc.symm, ih hpiece]

/-- A text without separators is one piece. -/
theorem pieces_of_not_mem {separator : Char} {piece : List Char} (h : separator ∉ piece) :
    pieces separator piece = [piece] := by
  induction piece with
  | nil => rfl
  | cons c piece ih =>
    obtain ⟨hc, hpiece⟩ : separator ≠ c ∧ separator ∉ piece := by simpa using h
    simp [pieces, hc.symm, ih hpiece]

end Roster.Text
