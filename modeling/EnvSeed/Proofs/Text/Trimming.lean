import EnvSeed.Text.Blank

/-!
# Blanks at the ends

Trimming takes away blanks at the ends only, and all of them: what is left has none there, and a text is trimmed
to nothing else that stands in it between blanks and has none at its own ends.
-/

namespace EnvSeed.Text

/-- The part of a text between blanks, with no blank at either end. -/
structure IsTrimmed (text core : List Char) : Prop where
  between : ∃ front back, text = front ++ core ++ back ∧ (∀ c ∈ front, isBlank c = true) ∧ ∀ c ∈ back, isBlank c = true
  head : ∀ c ∈ core.head?, isBlank c = false
  last : ∀ c ∈ core.getLast?, isBlank c = false

/-- A text with no blank at its start is not trimmed there. -/
theorem trimStart_of_head {text : List Char} (h : ∀ c ∈ text.head?, isBlank c = false) : trimStart text = text := by
  cases text with
  | nil => rfl
  | cons c rest => exact List.dropWhile_cons_of_neg (by simpa using h c rfl)

/-- A text with no blank at its end is not trimmed there. -/
theorem trimEnd_of_last {text : List Char} (h : ∀ c ∈ text.getLast?, isBlank c = false) : trimEnd text = text := by
  have hreverse : trimStart text.reverse = text.reverse := trimStart_of_head (by rwa [List.head?_reverse])
  unfold trimEnd
  rw [← trimStart, hreverse, List.reverse_reverse]

/-- A text with no blank at its ends is not trimmed. -/
theorem trim_of_ends {text : List Char} (hhead : ∀ c ∈ text.head?, isBlank c = false)
    (hlast : ∀ c ∈ text.getLast?, isBlank c = false) : trim text = text := by
  rw [trim, trimStart_of_head hhead, trimEnd_of_last hlast]

/-- What is trimmed at its start has no blank there. -/
theorem head_trimStart (text : List Char) : ∀ c ∈ (trimStart text).head?, isBlank c = false := by
  intro c hc
  have hnot := List.head?_dropWhile_not isBlank text
  rw [trimStart, Option.mem_def] at hc
  simpa [hc] using hnot

/-- What is trimmed at its end has no blank there. -/
theorem last_trimEnd (text : List Char) : ∀ c ∈ (trimEnd text).getLast?, isBlank c = false := by
  unfold trimEnd
  rw [List.getLast?_reverse]
  exact head_trimStart text.reverse

/-- What is dropped at the start of a text are blanks. -/
theorem exists_append_trimStart (text : List Char) :
    ∃ front, text = front ++ trimStart text ∧ ∀ c ∈ front, isBlank c = true :=
  ⟨text.takeWhile isBlank, List.takeWhile_append_dropWhile.symm, List.all_eq_true.mp List.all_takeWhile⟩

/-- What is dropped at the end of a text are blanks. -/
theorem exists_trimEnd_append (text : List Char) :
    ∃ back, text = trimEnd text ++ back ∧ ∀ c ∈ back, isBlank c = true := by
  obtain ⟨back, hback, hblank⟩ := exists_append_trimStart text.reverse
  refine ⟨back.reverse, ?_, by simpa using hblank⟩
  rw [trimEnd, ← trimStart, ← List.reverse_append, ← hback, List.reverse_reverse]

/-- Trimming the end leaves a part from the start on. -/
theorem trimEnd_isInitial (text : List Char) : trimEnd text <+: text := by
  obtain ⟨back, hback, -⟩ := exists_trimEnd_append text
  exact ⟨back, hback.symm⟩

/-- What is trimmed has no blank at its start. -/
theorem head_trim (text : List Char) : ∀ c ∈ (trim text).head?, isBlank c = false := by
  intro c hc
  obtain ⟨rest, hrest⟩ := trimEnd_isInitial (trimStart text)
  have hhead : (trimStart text).head? = some c := by
    rw [← hrest, List.head?_append, ← trim, Option.mem_def.mp hc]
    rfl
  exact head_trimStart text c hhead

/-- What is trimmed has no blank at its end. -/
theorem last_trim (text : List Char) : ∀ c ∈ (trim text).getLast?, isBlank c = false :=
  last_trimEnd (trimStart text)

section Blanks

variable {blanks : List Char}

/-- Blanks at the start are dropped with what is dropped there. -/
theorem trimStart_append (h : ∀ c ∈ blanks, isBlank c = true) (text : List Char) :
    trimStart (blanks ++ text) = trimStart text :=
  List.dropWhile_append_of_pos h

/-- Blanks at the end are dropped with what is dropped there. -/
theorem trimEnd_append (h : ∀ c ∈ blanks, isBlank c = true) (text : List Char) :
    trimEnd (text ++ blanks) = trimEnd text := by
  have hreverse : ∀ c ∈ blanks.reverse, isBlank c = true := by simpa using h
  simp only [trimEnd, List.reverse_append]
  rw [List.dropWhile_append_of_pos hreverse]

/-- Blanks in front do not change what a text is trimmed to. -/
theorem trim_blanks_append (h : ∀ c ∈ blanks, isBlank c = true) (text : List Char) :
    trim (blanks ++ text) = trim text := by
  rw [trim, trimStart_append h, trim]

/-- Nothing is left of blanks at the start. -/
theorem trimStart_of_blanks (h : ∀ c ∈ blanks, isBlank c = true) : trimStart blanks = [] := by
  simpa [trimStart] using trimStart_append h []

/-- Blanks behind do not change what a text is trimmed to. -/
theorem trim_append_blanks (h : ∀ c ∈ blanks, isBlank c = true) (text : List Char) :
    trim (text ++ blanks) = trim text := by
  unfold trim
  by_cases hstart : trimStart text = []
  · obtain ⟨front, hfront, hblank⟩ := exists_append_trimStart text
    rw [hstart, List.append_nil] at hfront
    rw [hstart, trimStart_append (hfront ▸ hblank), trimStart_of_blanks h]
  · have hnext : trimStart (text ++ blanks) = trimStart text ++ blanks := by
      unfold trimStart at hstart ⊢
      rw [List.dropWhile_append, if_neg (by simpa using hstart)]
    rw [hnext, trimEnd_append h]

end Blanks

/-- Trimming leaves what stands between the blanks at the ends, and this alone. -/
theorem trim_eq_iff {text core : List Char} : trim text = core ↔ IsTrimmed text core := by
  constructor
  · rintro rfl
    refine ⟨?_, head_trim text, last_trim text⟩
    obtain ⟨front, hfront, hblank⟩ := exists_append_trimStart text
    obtain ⟨back, hback, hblank'⟩ := exists_trimEnd_append (trimStart text)
    refine ⟨front, back, ?_, hblank, hblank'⟩
    rw [List.append_assoc, trim, ← hback]
    exact hfront
  · rintro ⟨⟨front, back, rfl, hfront, hback⟩, hhead, hlast⟩
    rw [trim_append_blanks hback, trim_blanks_append hfront, trim_of_ends hhead hlast]

/-- Trimming leaves nothing exactly of a text that is nothing but blanks. -/
theorem trim_eq_nil_iff {text : List Char} : trim text = [] ↔ ∀ c ∈ text, isBlank c = true := by
  constructor
  · intro h
    obtain ⟨⟨front, back, rfl, hfront, hback⟩, -, -⟩ := trim_eq_iff.mp h
    intro c hc
    rw [List.append_nil, List.mem_append] at hc
    exact hc.elim (hfront c) (hback c)
  · intro h
    exact trim_eq_iff.mpr ⟨⟨text, [], by simp, h, by simp⟩, by simp, by simp⟩

end EnvSeed.Text
