import EnvSeed.Environment
import EnvSeed.Proofs.Text.Bytes

/-!
# A variable without a value

A name can have no value, or the empty one. Two environments of one user that differ in this alone come about when a
setting with nothing behind its equals sign is put among others none of which gives the name a value.
-/

namespace EnvSeed

/-- What starts other bytes is the beginning of them. -/
theorem isInitial_of_afterStart? {start bytes rest : ByteArray} (h : afterStart? start bytes = some rest) :
    start.data.toList <+: bytes.data.toList := by
  unfold afterStart? at h
  split at h
  · next hstart =>
    rw [← hstart, ByteArray.data_extract, Array.toList_extract]
    simp [List.take_prefix]
  · cases h

namespace Environment

/-- The name has no value in the first environment and the empty one in the second. Every other name has one
value in both or none, and the user is the same. -/
structure EmptyFor (name : String) (unset empty : Environment) : Prop where
  value?_unset : unset.value? name = none
  value?_empty : empty.value? name = some .empty
  value?_eq : ∀ other, other ≠ name → empty.value? other = unset.value? other
  userHome?_eq : empty.userHome? = unset.userHome?

namespace EmptyFor

variable {name : String} {unset empty : Environment}

/-- The name means no text in the first environment. -/
theorem text?_unset (h : EmptyFor name unset empty) : unset.text? name = none := by
  rw [text?, h.value?_unset]
  rfl

/-- The name means the empty text in the second environment. -/
theorem text?_empty (h : EmptyFor name unset empty) : empty.text? name = some "" := by
  rw [text?, h.value?_empty]
  exact Text.fromUTF8?_toUTF8 ""

/-- Every other name means one text in both. -/
theorem text?_eq (h : EmptyFor name unset empty) {other : String} (hne : other ≠ name) :
    empty.text? other = unset.text? other := by
  rw [text?, text?, h.value?_eq other hne]

/-- If an empty text is taken for none, every name means one text in both. -/
theorem filter_text? (h : EmptyFor name unset empty) (other : String) :
    (empty.text? other).filter (!·.isEmpty) = (unset.text? other).filter (!·.isEmpty) := by
  by_cases hne : other = name
  · rw [hne, h.text?_unset, h.text?_empty]
    rfl
  · rw [h.text?_eq hne]

/-- If an empty value is taken for none, every name has one value in both or none. -/
theorem filter_value? (h : EmptyFor name unset empty) (other : String) :
    (empty.value? other).filter (!·.isEmpty) = (unset.value? other).filter (!·.isEmpty) := by
  by_cases hne : other = name
  · rw [hne, h.value?_unset, h.value?_empty]
    rfl
  · rw [h.value?_eq other hne]

/-- The home directory is the same, whatever the name is. -/
theorem home?_eq (h : EmptyFor name unset empty) : empty.home? = unset.home? := by
  rw [home?, home?, h.filter_value?, h.userHome?_eq]

end EmptyFor

/-- The bytes of a setting. -/
theorem toList_setting (name : String) (value : ByteArray) :
    (setting name value).data.toList = name.toUTF8.data.toList ++ [0x3d] ++ value.data.toList := by
  unfold setting
  rw [ByteArray.data_append, ByteArray.data_append, Array.toList_append, Array.toList_append]
  rfl

/-- An empty setting gives no other name a value, as long as there is no equals sign in the name. -/
theorem afterStart?_setting_of_ne {name other : String} (hequals : '=' ∉ name.toList) (hne : other ≠ name) :
    afterStart? (setting other .empty) (setting name .empty) = none := by
  cases hstart : afterStart? (setting other .empty) (setting name .empty) with
  | none => rfl
  | some rest =>
    have hinitial := isInitial_of_afterStart? hstart
    simp only [toList_setting, ByteArray.data_empty, List.append_nil, List.prefix_concat_iff] at hinitial
    obtain heq | hshort := hinitial
    · have hbytes := List.append_cancel_right heq
      exact absurd (String.toByteArray_inj.mp (ByteArray.ext (Array.toList_inj.mp hbytes))) hne
    -- A shorter name would end inside this one, and its equals sign would stand there.
    · have hmem : 0x3d ∈ name.toUTF8.data.toList := hshort.subset (by simp)
      rw [← String.ofList_toList (s := name)] at hmem
      exact absurd (Text.mem_of_mem_toUTF8 (by decide) hmem) hequals

/-- An empty setting of a name that has no value makes its value empty, and changes no other. -/
theorem emptyFor_insert {name : String} {before after : List ByteArray} {home : Option ByteArray} (hname : name ≠ "")
    (hnul : '\x00' ∉ name.toList) (hequals : '=' ∉ name.toList)
    (hunset : value? ⟨before ++ after, home⟩ name = none) :
    EmptyFor name ⟨before ++ after, home⟩ ⟨before ++ setting name .empty :: after, home⟩ := by
  have hsearched : (name.isEmpty || name.toList.any (· == '\x00')) = false := by
    have hnul' : name.toList.any (· == '\x00') = false := by
      rw [List.any_eq_false]
      intro c hc heq
      exact hnul (eq_of_beq heq ▸ hc)
    rw [hnul', Bool.or_false]
    simpa using hname
  have hsearch (settings : List ByteArray) :
      value? ⟨settings, home⟩ name = settings.findSome? (afterStart? (setting name .empty)) := by
    simp only [value?, hsearched, Bool.false_eq_true, if_false]
  have hself : afterStart? (setting name .empty) (setting name .empty) = some .empty := by
    simp [afterStart?]
  refine ⟨hunset, ?_, fun other hne => ?_, rfl⟩
  · rw [hsearch, List.findSome?_append, Option.or_eq_none_iff] at hunset
    rw [hsearch, List.findSome?_append, hunset.1, Option.none_or, List.findSome?_cons, hself]
  · simp only [value?, List.findSome?_append, List.findSome?_cons, afterStart?_setting_of_ne hequals hne]

end Environment

end EnvSeed
