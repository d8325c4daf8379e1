import EnvSeed.Proofs.Text.Occurrences
import EnvSeed.Seeding.Expansion

/-!
# Expanding

The value goes behind the leftmost marker, and everything else of the template stays where it is. A marker that
is leftmost stays so whatever is put behind it, so an expansion that is expanded again has the second value in
front of the first, behind the same marker.
-/

namespace EnvSeed.Expansion

open Text (IsLeftmost NonOverlapping)

variable {template marker value : String} {before after : List Char}

/-- An expansion has found the marker exactly if the template has it. -/
theorem markerFound_of :
    (Expansion.of template marker value).markerFound = true ↔
      ∃ before after, IsLeftmost marker.toList template.toList before after := by
  rw [← Text.count_pos_iff, markerFound, decide_eq_true_eq]
  rfl

/-- Around the leftmost marker an expansion has the text of the template, and behind it the value. -/
theorem content_of_isLeftmost (h : IsLeftmost marker.toList template.toList before after) :
    (Expansion.of template marker value).content =
      String.ofList (before ++ marker.toList ++ value.toList ++ after) := by
  simp only [Expansion.of, characters, Text.cut?_eq_some_iff.mpr h]

/-- A template without the marker stays as it is. -/
theorem of_unmarked (h : ¬marker.toList <:+: template.toList) (value : String) :
    (Expansion.of template marker value).markerFound = false ∧
      (Expansion.of template marker value).content = template := by
  constructor
  · rw [Bool.eq_false_iff, Ne, markerFound_of, Text.exists_isLeftmost_iff]
    exact h
  · simp only [Expansion.of, characters, Text.cut?_eq_none_iff.mpr h, String.ofList_toList]

/-- An expansion has the marker where its template has it, with the value at the start of what follows. -/
theorem isLeftmost_content (h : IsLeftmost marker.toList template.toList before after) (value : String) :
    IsLeftmost marker.toList (Expansion.of template marker value).content.toList before (value.toList ++ after) := by
  rw [content_of_isLeftmost h, String.toList_ofList, List.append_assoc]
  exact h.replace_back (value.toList ++ after)

/-- Expanding an expansion puts the second value in front of the first, and finds the marker if that did. -/
theorem of_content (template marker first second : String) :
    (Expansion.of (Expansion.of template marker first).content marker second).content =
        (Expansion.of template marker (second ++ first)).content ∧
      (Expansion.of (Expansion.of template marker first).content marker second).markerFound =
        (Expansion.of template marker first).markerFound := by
  by_cases hmarked : marker.toList <:+: template.toList
  · obtain ⟨before, after, hleft⟩ := Text.exists_isLeftmost_iff.mpr hmarked
    have hleft' := isLeftmost_content hleft first
    constructor
    · rw [content_of_isLeftmost hleft', content_of_isLeftmost hleft]
      simp only [String.toList_append, List.append_assoc]
    · exact (markerFound_of.mpr ⟨_, _, hleft'⟩).trans (markerFound_of.mpr ⟨_, _, hleft⟩).symm
  · have hfirst := of_unmarked hmarked first
    rw [hfirst.2, hfirst.1]
    exact ⟨(of_unmarked hmarked second).2.trans (of_unmarked hmarked (second ++ first)).2.symm,
      (of_unmarked hmarked second).1⟩

/-- What is expanded with nothing is the template. -/
theorem content_of_empty (template marker : String) : (Expansion.of template marker "").content = template := by
  by_cases hmarked : marker.toList <:+: template.toList
  · obtain ⟨before, after, hleft⟩ := Text.exists_isLeftmost_iff.mpr hmarked
    rw [content_of_isLeftmost hleft, String.toList_empty, List.append_nil, ← hleft.text_eq, String.ofList_toList]
  · exact (of_unmarked hmarked "").2

/-- The marker is found exactly if the template contains it, the empty marker always. Then the value stands behind
its leftmost occurrence, with the text of the template before and after it; otherwise the template stays as it is.
As many occurrences are reported as there can be without two of them overlapping, and so at least one exactly if the
marker is found. The bytes are those of the template and, if the marker is found, those of the value. -/
theorem content_and_occurrences_of (template marker value : String) :
    let expansion := Expansion.of template marker value
    (expansion.markerFound = true ↔ marker.toList <:+: template.toList) ∧
    (if expansion.markerFound then
      ∃ before after, IsLeftmost marker.toList template.toList before after ∧
        expansion.content = String.ofList before ++ marker ++ value ++ String.ofList after
    else expansion.content = template) ∧
    IsGreatest {number | ∃ starts, NonOverlapping marker.toList template.toList starts ∧ starts.card = number}
      expansion.occurrences ∧
    (1 ≤ expansion.occurrences ↔ expansion.markerFound = true) ∧
    expansion.content.utf8ByteSize =
      template.utf8ByteSize + if expansion.markerFound then value.utf8ByteSize else 0 := by
  intro expansion
  have hgreatest := Text.isGreatest_count marker.toList template.toList
  have hpos : 1 ≤ expansion.occurrences ↔ expansion.markerFound = true := decide_eq_true_iff.symm
  have hfound : expansion.markerFound = true ↔ marker.toList <:+: template.toList :=
    markerFound_of.trans Text.exists_isLeftmost_iff
  by_cases hmarked : marker.toList <:+: template.toList
  · obtain ⟨before, after, hleft⟩ := Text.exists_isLeftmost_iff.mpr hmarked
    have hcontent : expansion.content = String.ofList before ++ marker ++ value ++ String.ofList after := by
      simp only [expansion, content_of_isLeftmost hleft, String.ofList_append, String.ofList_toList]
    have htemplate : template = String.ofList before ++ marker ++ String.ofList after := by
      simpa only [String.ofList_append, String.ofList_toList] using congrArg String.ofList hleft.text_eq
    refine ⟨hfound, ?_, hgreatest, hpos, ?_⟩
    · rw [if_pos (hfound.mpr hmarked)]
      exact ⟨before, after, hleft, hcontent⟩
    · have hsize := congrArg String.utf8ByteSize htemplate
      rw [if_pos (hfound.mpr hmarked), hcontent]
      simp only [String.utf8ByteSize_append] at hsize ⊢
      omega
  · obtain ⟨hnot, hcontent⟩ := of_unmarked hmarked value
    have hcondition : ¬expansion.markerFound = true := Bool.not_eq_true _ ▸ hnot
    exact ⟨hfound, by rwa [if_neg hcondition], hgreatest, hpos, by rw [if_neg hcondition, hcontent, Nat.add_zero]⟩

end EnvSeed.Expansion
