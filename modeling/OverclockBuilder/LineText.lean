import OverclockBuilder.WordText

namespace LineText

open RadixText WordText

/-!
# Lines of a text

A program that writes text piece by piece, each piece behind the last with a
newline, is read by another one line by line.  A piece without newlines is one
line; a piece with newlines is its first line and some more.
-/

/-- The lines of a text behind the start of an unfinished line. -/
def linesFrom : Text → Text → List Text
  | line, [] =>
      flush line
  | line, character :: rest =>
      if character = '\n' then
        line :: linesFrom [] rest
      else
        linesFrom (line ++ [character]) rest

/-- The lines of a text; the last one may lack its newline. -/
def lines (text : Text) : List Text :=
  linesFrom [] text

/-- The lines of one written piece. -/
def pieceLines (piece : Text) : List Text :=
  lines (piece ++ ['\n'])

/-- A text written piece by piece. -/
def writeLines (pieces : List Text) : Text :=
  pieces.flatMap fun piece => piece ++ ['\n']

theorem linesFrom_append_newline
    (line first second : Text) :
    linesFrom line (first ++ '\n' :: second) =
      linesFrom line (first ++ ['\n']) ++ lines second := by
  induction first generalizing line with
  | nil =>
      simp [linesFrom, lines, flush]
  | cons head rest inductionHypothesis =>
      simp only [List.cons_append, linesFrom]
      split
      · rw [inductionHypothesis, List.cons_append]
      · exact inductionHypothesis _

/-- The lines of a written text are those of its pieces. -/
theorem lines_writeLines (pieces : List Text) :
    lines (writeLines pieces) = pieces.flatMap pieceLines := by
  induction pieces with
  | nil =>
      rfl
  | cons piece rest inductionHypothesis =>
      have written :
          writeLines (piece :: rest) =
            piece ++ '\n' :: writeLines rest := by
        simp [writeLines]
      rw [written, lines, linesFrom_append_newline, inductionHypothesis,
        List.flatMap_cons]
      rfl

/-! ## One piece -/

/-- A piece up to its first newline. -/
def firstLine (piece : Text) : Text :=
  piece.takeWhile (· ≠ '\n')

/-- What a piece carries behind its first newline. -/
def laterLines (piece : Text) : List Text :=
  match piece.dropWhile (· ≠ '\n') with
  | [] => []
  | _ :: rest => pieceLines rest

theorem linesFrom_piece (line piece : Text) :
    linesFrom line (piece ++ ['\n']) =
      (line ++ firstLine piece) :: laterLines piece := by
  induction piece generalizing line with
  | nil =>
      simp [linesFrom, firstLine, laterLines, flush]
  | cons head rest inductionHypothesis =>
      by_cases newline : head = '\n'
      · subst newline
        simp [linesFrom, firstLine, laterLines, pieceLines, lines]
      · have front :
            firstLine (head :: rest) = head :: firstLine rest := by
          simp [firstLine, newline]
        have behind : laterLines (head :: rest) = laterLines rest := by
          simp [laterLines, newline]
        rw [List.cons_append, linesFrom, if_neg newline,
          inductionHypothesis, front, behind]
        simp

/-- A label in front of a text ends up on its first line. -/
theorem pieceLines_append
    {label : Text}
    (single : '\n' ∉ label)
    (text : Text) :
    pieceLines (label ++ text) =
      (label ++ firstLine text) :: laterLines text := by
  have all : ∀ character ∈ label, decide (character ≠ '\n') = true := by
    intro character member
    simpa using fun same : character = '\n' => single (same ▸ member)
  rw [pieceLines, lines, linesFrom_piece, List.nil_append, firstLine,
    List.takeWhile_append_of_pos all, firstLine, laterLines,
    List.dropWhile_append_of_pos all, laterLines]

/-- A piece without newlines is one line. -/
theorem pieceLines_of_not_mem
    {piece : Text}
    (single : '\n' ∉ piece) :
    pieceLines piece = [piece] := by
  have split := pieceLines_append single []
  simpa [firstLine, laterLines] using split

/-- Pieces without newlines are lines. -/
theorem flatMap_pieceLines
    {pieces : List Text}
    (single : ∀ piece ∈ pieces, '\n' ∉ piece) :
    pieces.flatMap pieceLines = pieces := by
  induction pieces with
  | nil =>
      rfl
  | cons piece rest inductionHypothesis =>
      rw [List.flatMap_cons,
        pieceLines_of_not_mem (single piece List.mem_cons_self),
        inductionHypothesis fun other member =>
          single other (List.mem_cons_of_mem piece member),
        List.singleton_append]

/-! ## The last occurrence of a mark -/

/-- The text in front of the last occurrence of a mark, and behind it. -/
def cutLast (mark : Text) : Text → Option (Text × Text)
  | [] =>
      none
  | head :: rest =>
      match cutLast mark rest with
      | some (front, behind) => some (head :: front, behind)
      | none =>
          if mark.isPrefixOf (head :: rest) then
            some ([], (head :: rest).drop mark.length)
          else
            none

/-- Without an occurrence there is no cut. -/
theorem cutLast_eq_none
    {mark text : Text}
    (absent : ¬ mark <:+: text) :
    cutLast mark text = none := by
  induction text with
  | nil =>
      rfl
  | cons head rest inductionHypothesis =>
      have behind :=
        inductionHypothesis fun inside =>
          absent (inside.trans (List.suffix_cons head rest).isInfix)
      have notHere : ¬ mark.isPrefixOf (head :: rest) = true := by
        rw [List.isPrefixOf_iff_prefix]
        exact fun starts => absent starts.isInfix
      rw [cutLast, behind, if_neg notHere]

theorem cutLast_cons_of_not_prefix
    {mark rest : Text}
    {head : Char}
    (later : cutLast mark rest = none)
    (notHere : mark.isPrefixOf (head :: rest) = false) :
    cutLast mark (head :: rest) = none := by
  rw [cutLast, later, if_neg (by rw [notHere]; decide)]

theorem cutLast_cons_of_prefix
    {mark rest : Text}
    {head : Char}
    (later : cutLast mark rest = none)
    (here : mark.isPrefixOf (head :: rest) = true) :
    cutLast mark (head :: rest) =
      some ([], (head :: rest).drop mark.length) := by
  rw [cutLast, later, if_pos here]

/-- A cut puts the text back together. -/
theorem eq_of_cutLast
    {mark text front behind : Text}
    (cut : cutLast mark text = some (front, behind)) :
    text = front ++ mark ++ behind := by
  induction text generalizing front with
  | nil =>
      cases cut
  | cons head rest inductionHypothesis =>
      rw [cutLast] at cut
      cases later : cutLast mark rest with
      | some halves =>
          obtain ⟨first, second⟩ := halves
          rw [later, Option.some.injEq, Prod.mk.injEq] at cut
          obtain ⟨rfl, rfl⟩ := cut
          rw [inductionHypothesis later]
          rfl
      | none =>
          rw [later] at cut
          dsimp only at cut
          split at cut
          · rename_i starts
            obtain ⟨tail, whole⟩ := List.isPrefixOf_iff_prefix.mp starts
            rw [Option.some.injEq, Prod.mk.injEq, ← whole,
              List.drop_left] at cut
            rw [← cut.1, ← cut.2, List.nil_append, whole]
          · cases cut

/-- The last occurrence stays the last one behind other texts. -/
theorem cutLast_append
    {mark text front behind : Text}
    (cut : cutLast mark text = some (front, behind))
    (leading : Text) :
    cutLast mark (leading ++ text) = some (leading ++ front, behind) := by
  induction leading with
  | nil =>
      exact cut
  | cons head rest inductionHypothesis =>
      rw [List.cons_append, cutLast, inductionHypothesis]
      rfl

end LineText
