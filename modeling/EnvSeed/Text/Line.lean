/-!
# Lines

Cutting a sequence after every mark loses nothing: the pieces put together are the sequence again.
A line of text is such a piece without its line feed and a carriage return directly before that.
-/

namespace EnvSeed.Text

variable {α : Type}

/-- Put `x` in front of the first piece, or after a cut if `x` is itself the mark. -/
def joinFirst [BEq α] (mark x : α) (pieces : List (List α)) : List (List α) :=
  if x == mark then [x] :: pieces else
    match pieces with
    | [] => [[x]]
    | first :: rest => (x :: first) :: rest

/-- Cut after every `mark`. Only the last piece may lack one, and no piece is empty. -/
def cutAfter [BEq α] (mark : α) (sequence : List α) : List (List α) :=
  sequence.foldr (joinFirst mark) []

/-- Drop a line feed at the end, and then a carriage return. -/
def chomp (line : List Char) : List Char :=
  match line.reverse with
  | '\n' :: '\r' :: rest => rest.reverse
  | '\n' :: rest => rest.reverse
  | _ => line

/-- The lines of a text. A line feed ends a line, so none follows the last one. -/
def lines (text : List Char) : List (List Char) :=
  (cutAfter '\n' text).map chomp

/-- Putting a character in front of the pieces puts it in front of the sequence. -/
theorem flatten_joinFirst [BEq α] (mark x : α) (pieces : List (List α)) :
    (joinFirst mark x pieces).flatten = x :: pieces.flatten := by
  unfold joinFirst
  split
  · simp
  · cases pieces <;> simp

/-- The pieces put together are the sequence again. -/
theorem flatten_cutAfter [BEq α] (mark : α) (sequence : List α) :
    (cutAfter mark sequence).flatten = sequence := by
  induction sequence with
  | nil => rfl
  | cons x rest ih => simpa [cutAfter, flatten_joinFirst] using ih

/-- Pieces that follow the first ones stay as they are. -/
theorem joinFirst_append [BEq α] (mark x : α) {pieces : List (List α)} (h : pieces ≠ [])
    (more : List (List α)) : joinFirst mark x (pieces ++ more) = joinFirst mark x pieces ++ more := by
  obtain ⟨first, rest, rfl⟩ := List.exists_cons_of_ne_nil h
  unfold joinFirst
  split <;> simp

/-- A sequence that has an element has a piece. -/
theorem cutAfter_ne_nil [BEq α] (mark : α) {sequence : List α} (h : sequence ≠ []) :
    cutAfter mark sequence ≠ [] := by
  intro hcut
  have hflatten := flatten_cutAfter mark sequence
  rw [hcut] at hflatten
  exact h hflatten.symm

/-- What follows a mark is cut on its own. -/
theorem cutAfter_append_mark [BEq α] [LawfulBEq α] (mark : α) (ended rest : List α) :
    cutAfter mark (ended ++ mark :: rest) = cutAfter mark (ended ++ [mark]) ++ cutAfter mark rest := by
  induction ended with
  | nil => simp [cutAfter, joinFirst]
  | cons x ended ih =>
    have hpieces : cutAfter mark (ended ++ [mark]) ≠ [] := cutAfter_ne_nil mark (by simp)
    have hstep := congrArg (joinFirst mark x) ih
    rw [joinFirst_append mark x hpieces] at hstep
    exact hstep

end EnvSeed.Text
