import EnvSeed.Text.Search

/-!
# The leftmost occurrence

Cutting a text at a pattern finds the occurrence with the least before it, and fails exactly if there is
no occurrence at all, which is also when none is counted.
-/

namespace EnvSeed.Text

/-- The pattern stands between `front` and `back`, and nowhere further to the left. -/
structure IsLeftmost (pattern text front back : List Char) : Prop where
  text_eq : text = front ++ pattern ++ back
  least : ∀ front' back', text = front' ++ pattern ++ back' → front.length ≤ front'.length

/-- Where a pattern is leftmost the text contains it. -/
theorem IsLeftmost.isInfix {pattern text front back : List Char} (h : IsLeftmost pattern text front back) :
    pattern <:+: text :=
  ⟨front, back, h.text_eq.symm⟩

/-- A pattern that a text begins with is leftmost there and nowhere else. -/
theorem isLeftmost_iff_of_isInitial {pattern text front back : List Char} (h : pattern <+: text) :
    IsLeftmost pattern text front back ↔ front = [] ∧ back = text.drop pattern.length := by
  obtain ⟨rest, rfl⟩ := h
  constructor
  · intro hleft
    have hlength := hleft.least [] rest rfl
    obtain rfl : front = [] := List.length_eq_zero_iff.mp (Nat.le_zero.mp hlength)
    have hback : pattern ++ rest = pattern ++ back := hleft.text_eq
    exact ⟨rfl, by simpa using (List.append_cancel_left hback).symm⟩
  · intro hcut
    obtain ⟨rfl, rfl⟩ := hcut
    exact ⟨by simp, fun _ _ _ => Nat.zero_le _⟩

/-- A pattern that a text does not begin with is leftmost where it is leftmost in the rest. -/
theorem isLeftmost_cons_iff {pattern rest front back : List Char} {c : Char} (h : ¬pattern <+: c :: rest) :
    IsLeftmost pattern (c :: rest) front back ↔
      ∃ front', front = c :: front' ∧ IsLeftmost pattern rest front' back := by
  constructor
  · intro hleft
    obtain ⟨htext, hleast⟩ := hleft
    cases front with
    | nil => exact absurd ⟨back, by simpa using htext.symm⟩ h
    | cons d front =>
      obtain ⟨rfl, hrest⟩ : c = d ∧ rest = front ++ pattern ++ back := by simpa using htext
      refine ⟨front, rfl, hrest, fun front' back' heq => ?_⟩
      have hlength := hleast (c :: front') back' (by simp [heq])
      simpa using hlength
  · intro hrest
    obtain ⟨front, rfl, htext, hleast⟩ := hrest
    refine ⟨by simp [htext], fun front' back' heq => ?_⟩
    cases front' with
    | nil => exact absurd ⟨back', by simpa using heq.symm⟩ h
    | cons d front' =>
      obtain ⟨rfl, hrest⟩ : c = d ∧ rest = front' ++ pattern ++ back' := by simpa using heq
      have hlength := hleast front' back' hrest
      simpa using hlength

/-- What was passed before the text stays in front of the cut. -/
theorem cutFrom?_eq_some_iff {pattern before text front back : List Char} :
    cutFrom? pattern before text = some (front, back) ↔
      ∃ front', front = before.reverse ++ front' ∧ IsLeftmost pattern text front' back := by
  induction text generalizing before with
  | nil =>
    by_cases hpattern : pattern = []
    · subst hpattern
      have hleft : ∀ front', IsLeftmost [] [] front' back ↔ front' = [] ∧ back = [] := fun front' =>
        isLeftmost_iff_of_isInitial List.nil_prefix
      simp only [cutFrom?, List.isEmpty_nil, if_true, Option.some.injEq, Prod.mk.injEq, hleft]
      constructor
      · intro hcut
        obtain ⟨rfl, rfl⟩ := hcut
        exact ⟨[], by simp, rfl, rfl⟩
      · intro hcut
        obtain ⟨front', rfl, rfl, rfl⟩ := hcut
        simp
    · have hempty : pattern.isEmpty = false := by simpa using hpattern
      simp only [cutFrom?, hempty, Bool.false_eq_true, if_false, reduceCtorEq, false_iff, not_exists, not_and]
      intro front' _ hleft
      have hnil := List.append_eq_nil_iff.mp hleft.text_eq.symm
      exact hpattern (List.append_eq_nil_iff.mp hnil.1).2
  | cons c rest ih =>
    by_cases hprefix : pattern <+: c :: rest
    · have htest : pattern.isPrefixOf (c :: rest) = true := List.isPrefixOf_iff_prefix.mpr hprefix
      simp only [cutFrom?, htest, if_true, Option.some.injEq, Prod.mk.injEq, isLeftmost_iff_of_isInitial hprefix]
      constructor
      · intro hcut
        obtain ⟨rfl, rfl⟩ := hcut
        exact ⟨[], by simp, rfl, rfl⟩
      · intro hcut
        obtain ⟨front', rfl, rfl, rfl⟩ := hcut
        simp
    · have htest : pattern.isPrefixOf (c :: rest) = false :=
        Bool.eq_false_iff.mpr fun htrue => hprefix (List.isPrefixOf_iff_prefix.mp htrue)
      simp only [cutFrom?, htest, Bool.false_eq_true, if_false, ih, isLeftmost_cons_iff hprefix]
      constructor
      · intro hcut
        obtain ⟨front', rfl, hleft⟩ := hcut
        exact ⟨c :: front', by simp, front', rfl, hleft⟩
      · intro hcut
        obtain ⟨_, rfl, front', rfl, hleft⟩ := hcut
        exact ⟨front', by simp, hleft⟩

/-- Cutting finds the leftmost occurrence. -/
theorem cut?_eq_some_iff {pattern text front back : List Char} :
    cut? pattern text = some (front, back) ↔ IsLeftmost pattern text front back := by
  simp [cut?, cutFrom?_eq_some_iff]

/-- A text that contains a pattern has a leftmost occurrence of it. -/
theorem exists_isLeftmost_iff {pattern text : List Char} :
    (∃ front back, IsLeftmost pattern text front back) ↔ pattern <:+: text := by
  constructor
  · rintro ⟨front, back, hleft⟩
    exact hleft.isInfix
  · intro h
    induction text with
    | nil =>
      obtain rfl := List.infix_nil.mp h
      exact ⟨[], [], (isLeftmost_iff_of_isInitial List.nil_prefix).mpr ⟨rfl, rfl⟩⟩
    | cons c rest ih =>
      by_cases hinitial : pattern <+: c :: rest
      · exact ⟨[], _, (isLeftmost_iff_of_isInitial hinitial).mpr ⟨rfl, rfl⟩⟩
      · obtain ⟨front, back, hleft⟩ := ih ((List.infix_cons_iff.mp h).resolve_left hinitial)
        exact ⟨c :: front, back, (isLeftmost_cons_iff hinitial).mpr ⟨front, rfl, hleft⟩⟩

/-- Cutting fails exactly if the text does not contain the pattern. -/
theorem cut?_eq_none_iff {pattern text : List Char} : cut? pattern text = none ↔ ¬pattern <:+: text := by
  rw [← exists_isLeftmost_iff, Option.eq_none_iff_forall_ne_some]
  simp only [← cut?_eq_some_iff, Prod.forall, not_exists, ne_eq]

/-- Whatever is put behind a leftmost occurrence, it stays leftmost. -/
theorem IsLeftmost.replace_back {pattern text front back : List Char} (h : IsLeftmost pattern text front back)
    (other : List Char) : IsLeftmost pattern (front ++ pattern ++ other) front other := by
  refine ⟨rfl, fun front' back' heq => Nat.le_of_not_lt fun hless => ?_⟩
  -- An occurrence further left ends before the leftmost one does, so the text had it already.
  have hshort : (front' ++ pattern).length ≤ (front ++ pattern).length := by
    simp only [List.length_append]
    omega
  have hinitial : front' ++ pattern <+: front ++ pattern :=
    List.prefix_of_prefix_length_le ⟨back', heq.symm⟩ ⟨other, rfl⟩ hshort
  obtain ⟨between, hbetween⟩ := hinitial
  have htext : text = front' ++ pattern ++ (between ++ back) := by
    rw [h.text_eq, ← hbetween, List.append_assoc (front' ++ pattern)]
  exact Nat.not_le_of_lt hless (h.least front' _ htext)

/-- A pattern is leftmost behind a text without its first character. -/
theorem isLeftmost_of_not_mem {c : Char} {pattern front back : List Char} (h : c ∉ front) :
    IsLeftmost (c :: pattern) (front ++ c :: pattern ++ back) front back := by
  refine ⟨rfl, ?_⟩
  induction front with
  | nil => exact fun _ _ _ => Nat.zero_le _
  | cons x front ih =>
    intro front' back' heq
    cases front' with
    | nil =>
      obtain ⟨rfl, -⟩ := List.cons.inj heq
      exact absurd List.mem_cons_self h
    | cons y front' =>
      have hlength := ih (fun hmem => h (List.mem_cons_of_mem x hmem)) front' back' (List.cons.inj heq).2
      simpa using hlength

/-- An occurrence at the start is counted and passed over. -/
theorem countFrom_of_isInitial {pattern rest : List Char} {c : Char} (h : pattern <+: c :: rest) (found : Nat) :
    countFrom pattern 0 found (c :: rest) = countFrom pattern (pattern.length - 1) (found + 1) rest := by
  rw [countFrom, if_pos (List.isPrefixOf_iff_prefix.mpr h)]

/-- Without an occurrence at the start the rest is counted. -/
theorem countFrom_of_not_isInitial {pattern rest : List Char} {c : Char} (h : ¬pattern <+: c :: rest) (found : Nat) :
    countFrom pattern 0 found (c :: rest) = countFrom pattern 0 found rest := by
  rw [countFrom, if_neg fun htest => h (List.isPrefixOf_iff_prefix.mp htest)]

/-- Occurrences that are counted stay counted. -/
theorem le_countFrom (pattern : List Char) (skip found : Nat) (text : List Char) :
    found ≤ countFrom pattern skip found text := by
  induction text generalizing skip found with
  | nil =>
    simp only [countFrom]
    split <;> omega
  | cons c rest ih =>
    cases skip with
    | succ skip => exact ih skip found
    | zero =>
      simp only [countFrom]
      split
      · exact Nat.le_of_succ_le (ih _ _)
      · exact ih _ _

/-- There is an occurrence to count exactly if there is a leftmost one. -/
theorem count_pos_iff {pattern text : List Char} :
    0 < count pattern text ↔ ∃ front back, IsLeftmost pattern text front back := by
  unfold count
  rw [exists_isLeftmost_iff]
  induction text with
  | nil => by_cases hpattern : pattern = [] <;> simp [countFrom, hpattern]
  | cons c rest ih =>
    by_cases hinitial : pattern <+: c :: rest
    · rw [countFrom_of_isInitial hinitial]
      exact iff_of_true (le_countFrom pattern _ 1 rest) hinitial.isInfix
    · rw [countFrom_of_not_isInitial hinitial, ih, List.infix_cons_iff]
      exact (or_iff_right hinitial).symm

end EnvSeed.Text
