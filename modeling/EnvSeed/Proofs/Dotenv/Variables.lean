import EnvSeed.Proofs.Dotenv.Yields
import EnvSeed.Proofs.Environment
import Mathlib.Data.List.Forall2

/-!
# A variable that is empty

In a dotenv file a variable means its value in the environment, also if that is empty, and only without one the
value of an entry. So a variable that is empty hides the entries of its name where one without a value lets them
through. No key is set by that, and one that is set can only be lost if an entry reads the variable behind an
entry that assigns it, and the key is not the variable itself.
-/

namespace EnvSeed.Dotenv

/-- What a part stands for. -/
def Part.text (meaning : String → String) : Part → String
  | literal c => String.singleton c
  | variableNamed name => meaning name

/-- A value is what its parts stand for, one after the other. -/
theorem evaluate_eq_join (meaning : String → String) (parts : List Part) :
    evaluate meaning parts = String.join (parts.map (Part.text meaning)) := by
  have hfold : evaluate meaning parts = parts.foldl (fun text part => text ++ part.text meaning) "" := by
    unfold evaluate
    congr 1
    funext text part
    cases part with
    | literal c => exact String.push_eq_append c
    | variableNamed name => rfl
  rw [hfold, String.join_eq_foldl, List.foldl_map]

/-- Texts are empty together if each of them is. -/
theorem join_eq_empty_iff (texts : List String) : String.join texts = "" ↔ ∀ text ∈ texts, text = "" := by
  induction texts with
  | nil => simp
  | cons text rest ih => simp [ih]

/-- A value depends on what its own variables mean, and on no other. -/
theorem evaluate_congr {meaning other : String → String} {parts : List Part}
    (h : ∀ name, .variableNamed name ∈ parts → meaning name = other name) :
    evaluate meaning parts = evaluate other parts := by
  rw [evaluate_eq_join, evaluate_eq_join]
  congr 1
  apply List.map_congr_left
  intro part hpart
  cases part with
  | literal c => rfl
  | variableNamed name => exact h name hpart

/-- A value that is empty stays so when no variable gets longer than nothing. -/
theorem evaluate_eq_empty {meaning other : String → String} {parts : List Part}
    (h : ∀ name, meaning name = "" → other name = "") (hempty : evaluate meaning parts = "") :
    evaluate other parts = "" := by
  rw [evaluate_eq_join, join_eq_empty_iff, List.forall_mem_map] at hempty ⊢
  intro part hpart
  cases part with
  | literal c => exact hempty _ hpart
  | variableNamed name => exact h name (hempty _ hpart)

/-- The value of an entry refers to the variable. -/
def Entry.Reads (name : String) (entry : Entry) : Prop :=
  .variableNamed name ∈ entry.value

/-- The same key twice, the first time without a value if the second is without one. -/
def Fainter (faint full : String × String) : Prop :=
  faint.1 = full.1 ∧ (full.2 = "" → faint.2 = "")

/-- The values give a key no value but the empty one. -/
def Values.Lack (key : String) (values : Values) : Prop :=
  ∀ pair ∈ values, pair.1 = key → pair.2 = ""

/-- A key is set unless the values lack it. -/
theorem keyDefined_iff (environment : Environment) (key : String) (entries : List Entry) :
    (summarize environment key entries).keyDefined = true ↔ ¬ (values environment entries).Lack key := by
  simp [summarize, Values.Lack]

/-- A key that the entries set in one environment they set in the other. -/
def KeepsKey (environment other : Environment) (key : String) (entries : List Entry) : Prop :=
  (summarize environment key entries).keyDefined = true → (summarize other key entries).keyDefined = true

variable {name : String} {unset empty : Environment}

section Fainter

variable {faint full : Values}

/-- What is found among fuller values is found as empty among fainter ones if it is empty. -/
theorem find?_eq_empty (h : List.Forall₂ Fainter faint full) (key : String)
    (hempty : (full.find? (·.1 = key)).elim "" (·.2) = "") : (faint.find? (·.1 = key)).elim "" (·.2) = "" := by
  induction h with
  | nil => rfl
  | @cons one two rest rest' hpair _ ih =>
    obtain ⟨hkey, hvalue⟩ := hpair
    by_cases htwo : two.1 = key
    · rw [List.find?_cons_of_pos (by simpa using htwo)] at hempty
      rw [List.find?_cons_of_pos (by simpa using hkey.trans htwo)]
      exact hvalue hempty
    · rw [List.find?_cons_of_neg (by simpa using htwo)] at hempty
      rw [List.find?_cons_of_neg (by simpa [hkey] using htwo)]
      exact ih hempty

/-- A key that is lacking among fuller values is lacking among fainter ones. -/
theorem lack_of_fainter (h : List.Forall₂ Fainter faint full) {key : String} (hlack : full.Lack key) :
    faint.Lack key := by
  induction h with
  | nil => exact hlack
  | @cons one two rest rest' hpair _ ih =>
    obtain ⟨hname, hvalue⟩ := hpair
    intro pair hmem hkey
    obtain rfl | hmem := List.mem_cons.mp hmem
    · exact hvalue (hlack two List.mem_cons_self (hname.symm.trans hkey))
    · exact ih (fun other hother => hlack other (List.mem_cons_of_mem two hother)) pair hmem hkey

/-- What means nothing where the variable has no value means nothing where it is empty. -/
theorem meaning_eq_empty (h : unset.EmptyFor name empty) (hvalues : List.Forall₂ Fainter faint full)
    (other : String) (hempty : meaning unset full other = "") : meaning empty faint other = "" := by
  unfold meaning at hempty ⊢
  by_cases hname : other = name
  · rw [hname, h.text?_empty]
  · rw [h.text?_eq hname]
    cases htext : unset.text? other with
    | some text => rwa [htext] at hempty
    | none =>
      rw [htext] at hempty
      exact find?_eq_empty hvalues other hempty

/-- One entry more leaves the values fainter where the variable is empty. -/
theorem fainter_define (h : unset.EmptyFor name empty) (hvalues : List.Forall₂ Fainter faint full) (entry : Entry) :
    List.Forall₂ Fainter (define empty faint entry) (define unset full entry) :=
  .cons ⟨rfl, evaluate_eq_empty (meaning_eq_empty h hvalues)⟩ hvalues

/-- Any entries leave the values fainter where the variable is empty. -/
theorem fainter_foldl (h : unset.EmptyFor name empty) (hvalues : List.Forall₂ Fainter faint full)
    (entries : List Entry) :
    List.Forall₂ Fainter (entries.foldl (define empty) faint) (entries.foldl (define unset) full) := by
  induction entries generalizing faint full with
  | nil => exact hvalues
  | cons entry rest ih => exact ih (fainter_define h hvalues entry)

end Fainter

/-- No key is set where the variable is empty and not where it has no value. -/
theorem keepsKey_of_empty (h : unset.EmptyFor name empty) (key : String) (entries : List Entry) :
    KeepsKey empty unset key entries := by
  have hvalues : List.Forall₂ Fainter (values empty entries) (values unset entries) := fainter_foldl h .nil entries
  rw [KeepsKey, keyDefined_iff, keyDefined_iff]
  exact mt (lack_of_fainter hvalues)

/-- A file has one summary either way exactly if the key is not lost where the variable is empty. -/
theorem summarize_eq_iff (h : unset.EmptyFor name empty) (key : String) (entries : List Entry) :
    summarize empty key entries = summarize unset key entries ↔ KeepsKey unset empty key entries := by
  constructor
  · intro heq hset
    rwa [heq]
  · intro hkeeps
    have hset : (summarize empty key entries).keyDefined = (summarize unset key entries).keyDefined :=
      Bool.eq_iff_iff.mpr ⟨keepsKey_of_empty h key entries, hkeeps⟩
    exact congrArg (Summary.mk entries.length) hset

/-- Where no entry of its name has a value so far, the variable means nothing either way. -/
theorem meaning_eq (h : unset.EmptyFor name empty) {earlier : Values}
    (hlack : earlier.Lack name) (other : String) :
    meaning empty earlier other = meaning unset earlier other := by
  unfold meaning
  by_cases heq : other = name
  · rw [heq, h.text?_empty, h.text?_unset]
    cases hfind : earlier.find? (·.1 = name) with
    | none => rfl
    | some pair =>
      have hkey : pair.1 = name := by simpa using List.find?_some hfind
      exact (hlack pair (List.mem_of_find?_eq_some hfind) hkey).symm
  · rw [h.text?_eq heq]

/-- An entry that does not read the variable, or reads it where no entry of its name has a value so far, has one
value either way. -/
theorem define_eq (h : unset.EmptyFor name empty) {earlier : Values} {entry : Entry}
    (hlack : entry.Reads name → earlier.Lack name) :
    define empty earlier entry = define unset earlier entry := by
  have hvalue : evaluate (meaning empty earlier) entry.value = evaluate (meaning unset earlier) entry.value := by
    apply evaluate_congr
    intro other hother
    by_cases heq : other = name
    · exact meaning_eq h (hlack (heq ▸ hother)) other
    · unfold meaning
      rw [h.text?_eq heq]
  unfold define
  rw [hvalue]

/-- Entries none of which reads the variable behind one that assigns it have one value each either way. -/
theorem foldl_define_eq (h : unset.EmptyFor name empty) {entries : List Entry} {earlier : Values}
    (hearlier : ∀ entry ∈ entries, entry.Reads name → earlier.Lack name)
    (hentries : entries.Pairwise fun entry later => entry.key = name → ¬ later.Reads name) :
    entries.foldl (define empty) earlier = entries.foldl (define unset) earlier := by
  induction entries generalizing earlier with
  | nil => rfl
  | cons entry rest ih =>
    obtain ⟨hentry, hrest⟩ := List.pairwise_cons.mp hentries
    rw [List.foldl_cons, List.foldl_cons, define_eq h (hearlier entry List.mem_cons_self)]
    refine ih (fun later hlater hreads pair hpair hkey => ?_) hrest
    obtain rfl | hpair := List.mem_cons.mp hpair
    · exact absurd hreads (hentry later hlater hkey)
    · exact hearlier later (List.mem_cons_of_mem _ hlater) hreads pair hpair hkey

/-- If no entry reads the variable behind one that assigns it, a file has one summary either way. -/
theorem summarize_eq_of_pairwise (h : unset.EmptyFor name empty) (key : String) {entries : List Entry}
    (hentries : entries.Pairwise fun entry later => entry.key = name → ¬ later.Reads name) :
    summarize empty key entries = summarize unset key entries := by
  have hvalues : values empty entries = values unset entries :=
    foldl_define_eq h (fun _ _ _ _ hpair => nomatch hpair) hentries
  unfold summarize
  rw [hvalues]

/-- As long as the entries lack the variable they mean the same either way. So if they lack it to the end where it is
empty, they do where it has no value. -/
theorem lack_foldl (h : unset.EmptyFor name empty) {entries : List Entry} {earlier : Values}
    (hlack : (entries.foldl (define empty) earlier).Lack name) :
    (entries.foldl (define unset) earlier).Lack name := by
  induction entries generalizing earlier with
  | nil => exact hlack
  | cons entry rest ih =>
    -- No later entry takes a value back, so there is none to begin with.
    obtain ⟨later, hlater⟩ := foldl_define empty (entry :: rest) earlier
    have hearlier : earlier.Lack name := fun pair hpair => hlack pair (hlater ▸ List.mem_append_right later hpair)
    rw [List.foldl_cons, define_eq h fun _ => hearlier] at hlack
    exact ih hlack

/-- A key that is the variable itself is not lost. -/
theorem keepsKey_of_key_eq (h : unset.EmptyFor name empty) (entries : List Entry) :
    KeepsKey unset empty name entries := by
  rw [KeepsKey, keyDefined_iff, keyDefined_iff]
  exact mt (lack_foldl h)

end EnvSeed.Dotenv
