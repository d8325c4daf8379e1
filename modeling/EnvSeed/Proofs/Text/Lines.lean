import EnvSeed.Text.Line

/-!
# Lines

A text is cut into lines one by one: what stands before a line feed is a line, and what follows it is cut on
its own. No line has a line feed in it, and a text falls into lines in no other way than this.
-/

namespace EnvSeed.Text

section Pieces

variable {α : Type} [BEq α] [LawfulBEq α]

/-- A sequence without the mark is one piece. -/
theorem cutAfter_of_not_mem {mark : α} {sequence : List α} (h : mark ∉ sequence) (hne : sequence ≠ []) :
    cutAfter mark sequence = [sequence] := by
  induction sequence with
  | nil => exact absurd rfl hne
  | cons x rest ih =>
    have hx : (x == mark) = false := by
      simp only [beq_eq_false_iff_ne]
      intro heq
      exact h (heq ▸ List.mem_cons_self)
    cases rest with
    | nil => simp [cutAfter, joinFirst, hx]
    | cons y rest =>
      have hrest : cutAfter mark (y :: rest) = [y :: rest] :=
        ih (fun hmem => h (List.mem_cons_of_mem x hmem)) (List.cons_ne_nil y rest)
      have hstep : cutAfter mark (x :: y :: rest) = joinFirst mark x (cutAfter mark (y :: rest)) := rfl
      rw [hstep, hrest]
      simp [joinFirst, hx]

/-- A sequence with the mark at its end and nowhere else is one piece. -/
theorem cutAfter_append_singleton {mark : α} {sequence : List α} (h : mark ∉ sequence) :
    cutAfter mark (sequence ++ [mark]) = [sequence ++ [mark]] := by
  induction sequence with
  | nil => simp [cutAfter, joinFirst]
  | cons x rest ih =>
    have hx : (x == mark) = false := by
      simp only [beq_eq_false_iff_ne]
      intro heq
      exact h (heq ▸ List.mem_cons_self)
    have hstep : cutAfter mark (x :: rest ++ [mark]) = joinFirst mark x (cutAfter mark (rest ++ [mark])) := rfl
    rw [hstep, ih fun hmem => h (List.mem_cons_of_mem x hmem)]
    simp [joinFirst, hx]

/-- What follows a sequence that is empty or ends with the mark is cut on its own. -/
theorem cutAfter_append {mark : α} {front : List α} (h : front = [] ∨ ∃ ended, front = ended ++ [mark])
    (rest : List α) : cutAfter mark (front ++ rest) = cutAfter mark front ++ cutAfter mark rest := by
  obtain rfl | ⟨ended, rfl⟩ := h
  · rfl
  · rw [List.append_assoc, List.singleton_append, cutAfter_append_mark]

/-- A piece has the mark at its end or nowhere. -/
theorem of_mem_cutAfter {mark : α} {sequence piece : List α} (h : piece ∈ cutAfter mark sequence) :
    ∃ front, mark ∉ front ∧ (piece = front ∨ piece = front ++ [mark]) := by
  induction sequence generalizing piece with
  | nil => simp [cutAfter] at h
  | cons x rest ih =>
    have hstep : cutAfter mark (x :: rest) = joinFirst mark x (cutAfter mark rest) := rfl
    rw [hstep] at h
    unfold joinFirst at h
    by_cases hx : x = mark
    · subst hx
      rw [if_pos (beq_self_eq_true x)] at h
      rcases List.mem_cons.mp h with rfl | hpiece
      · exact ⟨[], by simp, .inr rfl⟩
      · exact ih hpiece
    · rw [if_neg (by simpa using hx)] at h
      split at h
      · next hrest =>
        rw [List.mem_singleton.mp h]
        exact ⟨[x], by simpa using Ne.symm hx, .inl rfl⟩
      · next first others hrest =>
        rcases List.mem_cons.mp h with rfl | hpiece
        · obtain ⟨front, hfront, hfirst⟩ := ih (hrest ▸ List.mem_cons_self)
          refine ⟨x :: front, by simp [Ne.symm hx, hfront], ?_⟩
          rcases hfirst with rfl | rfl
          · exact .inl rfl
          · exact .inr rfl
        · exact ih (hrest ▸ List.mem_cons_of_mem first hpiece)

end Pieces

/-- Dropping the end of a line drops nothing from a line without a line feed. -/
theorem chomp_of_not_mem {line : List Char} (h : '\n' ∉ line) : chomp line = line := by
  have hreverse : '\n' ∉ line.reverse := by simpa using h
  unfold chomp
  split
  · next heq => simp [heq] at hreverse
  · next heq => simp [heq] at hreverse
  · rfl

/-- Dropping the end of a line drops the line feed alone where no carriage return is before it. -/
theorem chomp_append_feed {line : List Char} (h : ∀ c ∈ line.getLast?, c ≠ '\r') : chomp (line ++ ['\n']) = line := by
  unfold chomp
  rw [List.reverse_append]
  split
  · next heq =>
    have hlast : line.getLast? = some '\r' := by simp_all [← List.head?_reverse]
    exact absurd rfl (h '\r' hlast)
  · next heq =>
    have hrest : line.reverse = _ := (List.cons.inj heq).2
    rw [← hrest, List.reverse_reverse]
  · next hnone => exact absurd rfl (hnone line.reverse)

/-- What is dropped at the end of a line is a carriage return and a line feed at most. -/
theorem exists_chomp_append (line : List Char) :
    ∃ back, line = chomp line ++ back ∧ ∀ c ∈ back, c = '\r' ∨ c = '\n' := by
  unfold chomp
  split
  · next rest heq => exact ⟨['\r', '\n'], by simp [← List.reverse_inj, heq], by simp⟩
  · next rest _ heq => exact ⟨['\n'], by simp [← List.reverse_inj, heq], by simp⟩
  · exact ⟨[], by simp, by simp⟩

/-- What is left of a line that ended with a line feed stood before that. -/
theorem mem_of_mem_chomp_append_feed {line : List Char} {c : Char} (h : c ∈ chomp (line ++ ['\n'])) : c ∈ line := by
  unfold chomp at h
  rw [List.reverse_append] at h
  split at h
  · next rest heq =>
    have hrest : line.reverse = '\r' :: rest := (List.cons.inj heq).2
    have hmem : c ∈ line.reverse := hrest ▸ List.mem_cons_of_mem '\r' (List.mem_reverse.mp h)
    exact List.mem_reverse.mp hmem
  · next rest _ heq =>
    have hrest : line.reverse = rest := (List.cons.inj heq).2
    have hmem : c ∈ line.reverse := hrest ▸ List.mem_reverse.mp h
    exact List.mem_reverse.mp hmem
  · next hnone => exact absurd rfl (hnone line.reverse)

/-- No line has a line feed in it. -/
theorem feed_not_mem_of_mem_lines {text line : List Char} (h : line ∈ lines text) : '\n' ∉ line := by
  obtain ⟨piece, hpiece, rfl⟩ := List.mem_map.mp h
  obtain ⟨front, hfront, rfl | rfl⟩ := of_mem_cutAfter hpiece
  · rwa [chomp_of_not_mem hfront]
  · intro hmem
    exact hfront (mem_of_mem_chomp_append_feed hmem)

/-- What stands before a line feed is a line, unless it ends with a carriage return, and then come the lines
of what follows. -/
theorem lines_append_feed {line : List Char} (hfeed : '\n' ∉ line) (hreturn : ∀ c ∈ line.getLast?, c ≠ '\r')
    (rest : List Char) : lines (line ++ '\n' :: rest) = line :: lines rest := by
  rw [lines, cutAfter_append_mark, cutAfter_append_singleton hfeed, List.map_append, List.map_singleton,
    chomp_append_feed hreturn]
  rfl

/-- A text without a line feed is one line, unless it is empty. -/
theorem lines_of_not_mem {text : List Char} (h : '\n' ∉ text) (hne : text ≠ []) : lines text = [text] := by
  rw [lines, cutAfter_of_not_mem h hne, List.map_singleton, chomp_of_not_mem h]

/-- What stands before a carriage return and a line feed is a line, and then come the lines of what follows. -/
theorem lines_append_return_feed {line : List Char} (hfeed : '\n' ∉ line) (rest : List Char) :
    lines (line ++ '\r' :: '\n' :: rest) = line :: lines rest := by
  have hfeed' : '\n' ∉ line ++ ['\r'] := by simpa using hfeed
  have hchomp : chomp (line ++ ['\r'] ++ ['\n']) = line := by simp [chomp]
  rw [← List.singleton_append, ← List.append_assoc, lines, cutAfter_append_mark, cutAfter_append_singleton hfeed',
    List.map_append, List.map_singleton, hchomp]
  rfl

/-- How a text falls into lines. A line ends before a line feed, or before a carriage return and a line feed, and
the last one may end with the text. -/
inductive SplitsInto : List Char → List (List Char) → Prop
  | nil : SplitsInto [] []
  | last {line : List Char} (hne : line ≠ []) (hfeed : '\n' ∉ line) : SplitsInto line [line]
  | feed {line rest : List Char} {found : List (List Char)} (hfeed : '\n' ∉ line)
      (hreturn : ∀ c ∈ line.getLast?, c ≠ '\r') (h : SplitsInto rest found) :
      SplitsInto (line ++ '\n' :: rest) (line :: found)
  | returnFeed {line rest : List Char} {found : List (List Char)} (hfeed : '\n' ∉ line) (h : SplitsInto rest found) :
      SplitsInto (line ++ '\r' :: '\n' :: rest) (line :: found)

/-- Every text falls into its lines. -/
theorem splitsInto_lines (text : List Char) : SplitsInto text (lines text) := by
  by_cases hfeed : '\n' ∈ text
  · -- What stands before the first line feed is the first line, and what follows it is shorter.
    obtain ⟨line, rest, htext, hline⟩ := List.eq_append_cons_of_mem hfeed
    have hshorter : rest.length < text.length := by
      rw [htext, List.length_append, List.length_cons]
      omega
    have ih := splitsInto_lines rest
    rw [htext]
    by_cases hreturn : line.getLast? = some '\r'
    · obtain ⟨line, rfl⟩ := List.getLast?_eq_some_iff.mp hreturn
      have hline' : '\n' ∉ line := fun hmem => hline (List.mem_append_left _ hmem)
      rw [List.append_assoc, List.singleton_append, lines_append_return_feed hline']
      exact .returnFeed hline' ih
    · have hreturn' : ∀ c ∈ line.getLast?, c ≠ '\r' := fun c hc heq => hreturn (heq ▸ hc)
      rw [lines_append_feed hline hreturn']
      exact .feed hline hreturn' ih
  · by_cases hne : text = []
    · subst hne
      exact .nil
    · rw [lines_of_not_mem hfeed hne]
      exact .last hne hfeed
termination_by text.length

/-- A text falls into nothing but its lines. -/
theorem lines_eq_iff {text : List Char} {found : List (List Char)} : lines text = found ↔ SplitsInto text found := by
  constructor
  · rintro rfl
    exact splitsInto_lines text
  · intro h
    induction h with
    | nil => rfl
    | last hne hfeed => exact lines_of_not_mem hfeed hne
    | feed hfeed hreturn _ ih => rw [lines_append_feed hfeed hreturn, ih]
    | returnFeed hfeed _ ih => rw [lines_append_return_feed hfeed, ih]

/-- The text with a carriage return put before every line feed. -/
def withReturns (text : List Char) : List Char :=
  text.flatMap fun c => if c = '\n' then ['\r', '\n'] else [c]

/-- A character that is no line feed gets no carriage return. -/
theorem withReturns_cons {c : Char} (h : c ≠ '\n') (rest : List Char) :
    withReturns (c :: rest) = c :: withReturns rest := by
  simp [withReturns, h]

/-- A text without a line feed gets no carriage return. -/
theorem withReturns_of_not_mem {text : List Char} (h : '\n' ∉ text) : withReturns text = text := by
  induction text with
  | nil => rfl
  | cons c rest ih =>
    have hc : c ≠ '\n' := fun heq => h (heq ▸ List.mem_cons_self)
    rw [withReturns_cons hc, ih fun hmem => h (List.mem_cons_of_mem c hmem)]

/-- A line gets a carriage return before the line feed at its end. -/
theorem withReturns_append_feed {line : List Char} (h : '\n' ∉ line) :
    withReturns (line ++ ['\n']) = line ++ ['\r', '\n'] := by
  have happend : withReturns (line ++ ['\n']) = withReturns line ++ ['\r', '\n'] := List.flatMap_append
  rw [happend, withReturns_of_not_mem h]

/-- Carriage returns before the line feeds leave the text cut where it was. -/
theorem cutAfter_withReturns (text : List Char) :
    cutAfter '\n' (withReturns text) = (cutAfter '\n' text).map withReturns := by
  induction text with
  | nil => rfl
  | cons c rest ih =>
    have hcut : cutAfter '\n' (c :: rest) = joinFirst '\n' c (cutAfter '\n' rest) := rfl
    rw [hcut]
    by_cases hc : c = '\n'
    · subst hc
      have hstep : cutAfter '\n' (withReturns ('\n' :: rest)) =
          joinFirst '\n' '\r' (joinFirst '\n' '\n' (cutAfter '\n' (withReturns rest))) := rfl
      rw [hstep, ih]
      rfl
    · have hstep : cutAfter '\n' (c :: withReturns rest) =
          joinFirst '\n' c (cutAfter '\n' (withReturns rest)) := rfl
      rw [withReturns_cons hc, hstep, ih]
      cases cutAfter '\n' rest <;> simp [joinFirst, withReturns, hc]

end EnvSeed.Text
