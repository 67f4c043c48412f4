/-!
# Splitting a text at a separator

Every header is a list of members between separators. `pieces` cuts at each
separator and so always gives at least one piece; `piecesTerminated` reads the
separator as a terminator, so that one empty piece at the very end is dropped.

* `pieces_append_cons` — what stands between two separators is a piece.
-/

namespace CallSpan.Text

/-- The texts between the occurrences of a separator, in order. -/
def pieces (sep : Char) : List Char → List (List Char)
  | [] => [[]]
  | c :: cs =>
    if c = sep then [] :: pieces sep cs
    else
      match pieces sep cs with
      | [] => [[c]]
      | p :: ps => (c :: p) :: ps

/-- As `pieces`, but one empty piece at the very end does not count. -/
def piecesTerminated (sep : Char) (cs : List Char) : List (List Char) :=
  let ps := pieces sep cs
  if ps.getLast? = some [] then ps.dropLast else ps

/-- A text without the separator is one piece. -/
theorem pieces_eq_singleton {sep : Char} {cs : List Char} (h : sep ∉ cs) :
    pieces sep cs = [cs] := by
  induction cs with
  | nil => rfl
  | cons c cs ih =>
    simp only [List.mem_cons, not_or] at h
    simp [pieces, ih h.2, Ne.symm h.1]

/-- Up to its first separator a text is the first piece. -/
theorem pieces_append_cons {sep : Char} {cs : List Char} (h : sep ∉ cs) (rest : List Char) :
    pieces sep (cs ++ sep :: rest) = cs :: pieces sep rest := by
  induction cs with
  | nil => simp [pieces]
  | cons c cs ih =>
    simp only [List.mem_cons, not_or] at h
    simp [pieces, ih h.2, Ne.symm h.1]

end CallSpan.Text
