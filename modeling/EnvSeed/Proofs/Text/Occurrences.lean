import EnvSeed.Proofs.Text.Leftmost
import Mathlib.Data.Finset.Card
import Mathlib.Order.Bounds.Basic

/-!
# Occurrences without overlaps

Occurrences of a pattern may overlap each other. Of those that do not, as many as there can be are found by
taking them from the left: whatever is chosen instead, at most one of the choices begins inside the first
occurrence, and it can be exchanged for that. So the count of occurrences is the greatest number that can be
had without an overlap.
-/

namespace EnvSeed.Text

/-- The pattern stands in the text with `start` characters before it. -/
def OccursAt (pattern text : List Char) (start : Nat) : Prop :=
  ∃ front back, text = front ++ pattern ++ back ∧ front.length = start

/-- Occurrences of the pattern, each of which ends before the next one begins. -/
structure NonOverlapping (pattern text : List Char) (starts : Finset Nat) : Prop where
  occurs : ∀ start ∈ starts, OccursAt pattern text start
  apart : ∀ start ∈ starts, ∀ next ∈ starts, start < next → start + pattern.length ≤ next

/-- The pattern occurs at the start of a text exactly if the text begins with it. -/
theorem occursAt_zero {pattern text : List Char} : OccursAt pattern text 0 ↔ pattern <+: text := by
  constructor
  · rintro ⟨front, back, rfl, hlength⟩
    obtain rfl := List.length_eq_zero_iff.mp hlength
    exact ⟨back, rfl⟩
  · rintro ⟨back, rfl⟩
    exact ⟨[], back, rfl, rfl⟩

/-- An occurrence further on is one in the rest of the text. -/
theorem occursAt_succ {pattern rest : List Char} {c : Char} {start : Nat} :
    OccursAt pattern (c :: rest) (start + 1) ↔ OccursAt pattern rest start := by
  constructor
  · rintro ⟨front, back, htext, hlength⟩
    obtain ⟨d, front, rfl⟩ := List.exists_cons_of_length_eq_add_one hlength
    obtain ⟨rfl, hrest⟩ := List.cons.inj htext
    exact ⟨front, back, hrest, Nat.succ_injective hlength⟩
  · rintro ⟨front, back, rfl, rfl⟩
    exact ⟨c :: front, back, rfl, rfl⟩

/-- Only the empty pattern occurs in the empty text, at its start. -/
theorem occursAt_nil {pattern : List Char} {start : Nat} : OccursAt pattern [] start ↔ pattern = [] ∧ start = 0 := by
  constructor
  · rintro ⟨front, back, htext, rfl⟩
    simp only [List.nil_eq, List.append_eq_nil_iff] at htext
    exact ⟨htext.1.2, by rw [htext.1.1]; rfl⟩
  · rintro ⟨rfl, rfl⟩
    exact ⟨[], [], rfl, rfl⟩

/-- Moving occurrences on keeps their number. -/
theorem card_image_succ (starts : Finset Nat) : (starts.image (· + 1)).card = starts.card :=
  Finset.card_image_of_injective starts Nat.succ_injective

namespace NonOverlapping

variable {pattern rest text : List Char} {c : Char} {starts tail : Finset Nat}

/-- Occurrences that do not overlap may be left out. -/
theorem subset {fewer : Finset Nat} (h : NonOverlapping pattern text starts) (hfewer : fewer ⊆ starts) :
    NonOverlapping pattern text fewer :=
  ⟨fun start hstart => h.occurs start (hfewer hstart),
    fun start hstart next hnext => h.apart start (hfewer hstart) next (hfewer hnext)⟩

/-- Occurrences in the rest of a text are one further on in the text. -/
theorem cons (h : NonOverlapping pattern rest tail) (c : Char) :
    NonOverlapping pattern (c :: rest) (tail.image (· + 1)) := by
  constructor
  · intro start hstart
    obtain ⟨before, hbefore, rfl⟩ := Finset.mem_image.mp hstart
    exact occursAt_succ.mpr (h.occurs before hbefore)
  · intro start hstart next hnext hless
    obtain ⟨before, hbefore, rfl⟩ := Finset.mem_image.mp hstart
    obtain ⟨after, hafter, rfl⟩ := Finset.mem_image.mp hnext
    have hapart := h.apart before hbefore after hafter (by omega)
    omega

/-- In front of occurrences that do not begin inside it there is room for one at the start. -/
theorem insert_zero (h : NonOverlapping pattern rest tail) (hinitial : pattern <+: c :: rest)
    (hroom : ∀ start ∈ tail, pattern.length - 1 ≤ start) :
    NonOverlapping pattern (c :: rest) (insert 0 (tail.image (· + 1))) := by
  constructor
  · intro start hstart
    obtain rfl | hstart := Finset.mem_insert.mp hstart
    · exact occursAt_zero.mpr hinitial
    · exact (h.cons c).occurs start hstart
  · intro start hstart next hnext hless
    have hnext' : next ∈ tail.image (· + 1) :=
      Finset.mem_of_mem_insert_of_ne hnext (Nat.ne_zero_of_lt hless)
    obtain rfl | hstart := Finset.mem_insert.mp hstart
    · obtain ⟨after, hafter, rfl⟩ := Finset.mem_image.mp hnext'
      have hle := hroom after hafter
      omega
    · exact (h.cons c).apart start hstart next hnext' hless

/-- Where there is an occurrence the text contains the pattern. -/
theorem isInfix (h : NonOverlapping pattern text starts) (hpos : 0 < starts.card) : pattern <:+: text := by
  obtain ⟨start, hstart⟩ := Finset.card_pos.mp hpos
  obtain ⟨front, back, htext, -⟩ := h.occurs start hstart
  exact ⟨front, back, htext.symm⟩

/-- Occurrences of which none is at the start of a text are those of its rest. -/
theorem exists_tail (h : NonOverlapping pattern (c :: rest) starts) (hpos : ∀ start ∈ starts, 0 < start) :
    ∃ tail : Finset Nat, NonOverlapping pattern rest tail ∧ tail.image (· + 1) = starts := by
  have himage : (starts.image (· - 1)).image (· + 1) = starts := by
    rw [Finset.image_image]
    calc starts.image ((· + 1) ∘ (· - 1)) = starts.image id :=
          Finset.image_congr fun start hstart => Nat.sub_add_cancel (hpos start hstart)
      _ = starts := Finset.image_id
  have hmem : ∀ start ∈ starts.image (· - 1), start + 1 ∈ starts := fun start hstart =>
    himage ▸ Finset.mem_image_of_mem (· + 1) hstart
  refine ⟨starts.image (· - 1), ⟨fun start hstart => ?_, fun start hstart next hnext hless => ?_⟩, himage⟩
  · exact occursAt_succ.mp (h.occurs _ (hmem start hstart))
  · have hapart := h.apart _ (hmem start hstart) _ (hmem next hnext) (by omega)
    omega

/-- At most one of them begins inside an occurrence at the start. -/
theorem card_filter_le_one (h : NonOverlapping pattern text starts) :
    (starts.filter (· ≤ pattern.length - 1)).card ≤ 1 := by
  refine Finset.card_le_one.mpr fun one hone two htwo => ?_
  rw [Finset.mem_filter] at hone htwo
  have hapart := h.apart one hone.1 two htwo.1
  have hapart' := h.apart two htwo.1 one hone.1
  omega

/-- Without the one that may begin inside an occurrence at the start, they are in the rest and leave room. -/
theorem exchange (h : NonOverlapping pattern (c :: rest) starts) :
    ∃ tail : Finset Nat, NonOverlapping pattern rest tail ∧ (∀ start ∈ tail, pattern.length - 1 ≤ start) ∧
      starts.card ≤ tail.card + 1 := by
  have hlater : ∀ start ∈ starts.filter (¬· ≤ pattern.length - 1), pattern.length - 1 < start := by
    intro start hstart
    exact Nat.lt_of_not_le (Finset.mem_filter.mp hstart).2
  obtain ⟨tail, htail, himage⟩ := (h.subset (Finset.filter_subset _ starts)).exists_tail fun start hstart =>
    Nat.zero_lt_of_lt (hlater start hstart)
  refine ⟨tail, htail, fun start hstart => ?_, ?_⟩
  · exact Nat.le_of_lt_succ (hlater (start + 1) (himage ▸ Finset.mem_image_of_mem _ hstart))
  · have hsplit := Finset.card_filter_add_card_filter_not (s := starts) (· ≤ pattern.length - 1)
    have hone := h.card_filter_le_one
    rw [← himage, card_image_succ] at hsplit
    omega

/-- In the empty text there is at most one occurrence, and that of the empty pattern. -/
theorem card_nil (h : NonOverlapping pattern [] starts) : starts.card ≤ if pattern.isEmpty then 1 else 0 := by
  have hstart : ∀ start ∈ starts, pattern = [] ∧ start = 0 := fun start hstart =>
    occursAt_nil.mp (h.occurs start hstart)
  split
  · exact Finset.card_le_one.mpr fun one hone two htwo => (hstart one hone).2.trans (hstart two htwo).2.symm
  · next hpattern =>
    have hempty : starts = ∅ := Finset.eq_empty_of_forall_notMem fun start hmem =>
      hpattern (List.isEmpty_iff.mpr (hstart start hmem).1)
    simp [hempty]

/-- No choice of occurrences without overlaps has more than are counted. -/
theorem card_le_countFrom (h : NonOverlapping pattern text starts) {skip : Nat}
    (hskip : ∀ start ∈ starts, skip ≤ start) (found : Nat) :
    found + starts.card ≤ countFrom pattern skip found text := by
  induction text generalizing skip found starts with
  | nil =>
    have hcard := h.card_nil
    simp only [countFrom]
    split <;> simp_all
  | cons c rest ih =>
    cases skip with
    | succ skip =>
      obtain ⟨tail, htail, rfl⟩ := h.exists_tail fun start hstart => Nat.zero_lt_of_lt (hskip start hstart)
      rw [card_image_succ]
      exact ih htail (fun start hstart => Nat.le_of_succ_le_succ (hskip _ (Finset.mem_image_of_mem _ hstart))) found
    | zero =>
      by_cases hinitial : pattern <+: c :: rest
      · obtain ⟨tail, htail, hroom, hcard⟩ := h.exchange
        have hcount := ih htail hroom (found + 1)
        rw [countFrom_of_isInitial hinitial]
        omega
      · have hpos : ∀ start ∈ starts, 0 < start := by
          intro start hstart
          refine Nat.pos_of_ne_zero fun hzero => hinitial ?_
          exact occursAt_zero.mp (hzero ▸ h.occurs start hstart)
        obtain ⟨tail, htail, rfl⟩ := h.exists_tail hpos
        rw [countFrom_of_not_isInitial hinitial, card_image_succ]
        exact ih htail (fun _ _ => Nat.zero_le _) found

end NonOverlapping

/-- The occurrences that are counted can be had without overlaps. -/
theorem exists_nonOverlapping_countFrom (pattern text : List Char) {skip : Nat} (hskip : skip ≤ pattern.length - 1)
    (found : Nat) : ∃ starts : Finset Nat, NonOverlapping pattern text starts ∧
      (∀ start ∈ starts, skip ≤ start) ∧ countFrom pattern skip found text = found + starts.card := by
  induction text generalizing skip found with
  | nil =>
    by_cases hpattern : pattern = []
    · subst hpattern
      obtain rfl : skip = 0 := Nat.le_zero.mp hskip
      exact ⟨{0}, ⟨by simp [occursAt_nil], by simp⟩, fun _ _ => Nat.zero_le _, by simp [countFrom]⟩
    · exact ⟨∅, ⟨by simp, by simp⟩, by simp, by simp [countFrom, hpattern]⟩
  | cons c rest ih =>
    cases skip with
    | succ skip =>
      obtain ⟨tail, htail, hlater, hcount⟩ := ih (Nat.le_of_succ_le hskip) found
      refine ⟨tail.image (· + 1), htail.cons c, by simpa using hlater, ?_⟩
      rw [card_image_succ]
      exact hcount
    | zero =>
      by_cases hinitial : pattern <+: c :: rest
      · obtain ⟨tail, htail, hroom, hcount⟩ := ih (Nat.le_refl (pattern.length - 1)) (found + 1)
        have hfirst : 0 ∉ tail.image (· + 1) := by simp
        refine ⟨_, htail.insert_zero hinitial hroom, fun _ _ => Nat.zero_le _, ?_⟩
        rw [countFrom_of_isInitial hinitial, hcount, Finset.card_insert_of_notMem hfirst, card_image_succ]
        omega
      · obtain ⟨tail, htail, -, hcount⟩ := ih (Nat.zero_le _) found
        refine ⟨_, htail.cons c, fun _ _ => Nat.zero_le _, ?_⟩
        rw [countFrom_of_not_isInitial hinitial, hcount, card_image_succ]

/-- The count is the greatest number of occurrences that do not overlap. -/
theorem isGreatest_count (pattern text : List Char) :
    IsGreatest {number | ∃ starts, NonOverlapping pattern text starts ∧ starts.card = number} (count pattern text) := by
  constructor
  · obtain ⟨starts, hstarts, -, hcount⟩ := exists_nonOverlapping_countFrom pattern text (Nat.zero_le _) 0
    exact ⟨starts, hstarts, by rw [count, hcount, Nat.zero_add]⟩
  · rintro number ⟨starts, hstarts, rfl⟩
    have hle := hstarts.card_le_countFrom (fun _ _ => Nat.zero_le _) 0
    rwa [Nat.zero_add] at hle

end EnvSeed.Text
