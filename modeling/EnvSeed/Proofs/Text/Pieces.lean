/-!
# The pieces between marks

What has no mark in it and is put somewhere into a sequence goes into one of the pieces that the sequence is split
into at its marks: the one with as many marks before it as there are before the place. All other pieces stay as they
are and where they are. What ends at the first mark, or begins after the last, is found in one way only, and so is a
number that a mark ends.
-/

namespace EnvSeed.Text

variable {α : Type} [BEq α] [LawfulBEq α] {mark : α}

/-- A mark at the start ends an empty piece. -/
theorem splitOn_mark (rest : List α) : (mark :: rest).splitOn mark = [] :: rest.splitOn mark := by
  simp only [List.splitOn_eq_splitOnP, List.splitOnP_cons_eq_if_modifyHead, beq_self_eq_true, if_true]

/-- What is no mark goes to the first piece. -/
theorem splitOn_of_ne {x : α} (h : x ≠ mark) (rest : List α) :
    (x :: rest).splitOn mark = (rest.splitOn mark).modifyHead (List.cons x) := by
  simp only [List.splitOn_eq_splitOnP, List.splitOnP_cons_eq_if_modifyHead, beq_eq_false_iff_ne.mpr h,
    Bool.false_eq_true, if_false]

/-- What a mark divides is split on both sides of it. -/
theorem splitOn_append_mark (front back : List α) :
    (front ++ mark :: back).splitOn mark = front.splitOn mark ++ back.splitOn mark := by
  simp only [List.splitOn_eq_splitOnP]
  exact List.splitOnP_append_cons front back (beq_self_eq_true mark)

/-- A sequence is divided in one way only at its first mark. -/
theorem append_first_mark_inj {front other back rest : List α} (h : front ++ mark :: back = other ++ mark :: rest)
    (hfront : mark ∉ front) (hother : mark ∉ other) : front = other ∧ back = rest := by
  have hsplit := congrArg (List.splitOn mark) h
  rw [List.splitOn_append_cons_self_of_not_mem hfront, List.splitOn_append_cons_self_of_not_mem hother] at hsplit
  obtain rfl := (List.cons.inj hsplit).1
  exact ⟨rfl, (List.cons.inj (List.append_cancel_left h)).2⟩

/-- A sequence is divided in one way only at its last mark. -/
theorem append_last_mark_inj {front other back rest : List α} (h : front ++ mark :: back = other ++ mark :: rest)
    (hback : mark ∉ back) (hrest : mark ∉ rest) : front = other ∧ back = rest := by
  have hreverse : back.reverse ++ mark :: front.reverse = rest.reverse ++ mark :: other.reverse := by
    simpa using congrArg List.reverse h
  obtain ⟨hends, hstarts⟩ := append_first_mark_inj hreverse (by simpa using hback) (by simpa using hrest)
  exact ⟨List.reverse_inj.mp hstarts, List.reverse_inj.mp hends⟩

/-- What stands at the start and has no mark goes to the first piece, and to no other. -/
theorem getElem?_succ_splitOn_append {value : List α} (h : mark ∉ value) (rest : List α) (index : Nat) :
    ((value ++ rest).splitOn mark)[index + 1]? = (rest.splitOn mark)[index + 1]? := by
  induction value with
  | nil => rfl
  | cons x value ih =>
    have hx : x ≠ mark := fun heq => h (heq ▸ List.mem_cons_self)
    have hvalue : mark ∉ value := fun hmem => h (List.mem_cons_of_mem x hmem)
    rw [List.cons_append, splitOn_of_ne hx, List.getElem?_modifyHead, if_neg (Nat.succ_ne_zero index), ih hvalue]

/-- A value without marks that is put in changes no piece but the one with as many marks before it. -/
theorem getElem?_splitOn_insert {front value : List α} (h : mark ∉ value) (back : List α) {index : Nat}
    (hindex : index ≠ front.count mark) :
    ((front ++ value ++ back).splitOn mark)[index]? = ((front ++ back).splitOn mark)[index]? := by
  rw [List.append_assoc]
  induction front generalizing index with
  | nil =>
    obtain ⟨before, rfl⟩ := Nat.exists_eq_succ_of_ne_zero hindex
    exact getElem?_succ_splitOn_append h back before
  | cons x front ih =>
    simp only [List.cons_append]
    by_cases hx : x = mark
    · subst hx
      rw [splitOn_mark, splitOn_mark]
      cases index with
      | zero => rfl
      | succ before =>
        have hbefore : before ≠ front.count x := by
          intro heq
          exact hindex (by rw [List.count_cons_self, heq])
        exact ih hbefore
    · rw [List.count_cons_of_ne hx] at hindex
      rw [splitOn_of_ne hx, splitOn_of_ne hx, List.getElem?_modifyHead, List.getElem?_modifyHead, ih hindex]

/-- What is no digit is not among the digits of a number. -/
theorem not_mem_toDigits {c : Char} (h : c.isDigit = false) (n : Nat) : c ∉ Nat.toDigits 10 n := by
  intro hmem
  have hdigit := Nat.isDigit_of_mem_toDigits (by decide) (by decide) hmem
  rw [h] at hdigit
  cases hdigit

/-- Numbers with the same digits are equal. -/
theorem toDigits_inj {n m : Nat} (h : Nat.toDigits 10 n = Nat.toDigits 10 m) : n = m := by
  have hvalue := congrArg (Nat.ofDigitChars 10 · 0) h
  simpa only [Nat.ofDigitChars_ten_toDigits] using hvalue

end EnvSeed.Text
