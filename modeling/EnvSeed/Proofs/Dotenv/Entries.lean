import EnvSeed.Proofs.Dotenv.Yields
import EnvSeed.Proofs.Text.Trimming

/-!
# What an entry is read from

An entry comes from one logical line: its key stands there, and its value is read from what follows the equals sign.
So every entry has a name of the grammar of keys, and every name of that grammar is the name of an entry that some
file has.
-/

namespace EnvSeed.Dotenv

namespace Cursor

variable {cursor value : Cursor} {key : String}

/-- Passing over blanks leaves an ending of the line. -/
theorem skipBlanks_rest_isSuffix (cursor : Cursor) : cursor.skipBlanks.rest <:+ cursor.rest :=
  List.dropWhile_suffix _

/-- A key that is read is one of the grammar, and what follows it is an ending of the line. -/
theorem isKey_of_key? (h : cursor.key? = some (key, value)) :
    isKey key.toList = true ∧ value.rest <:+ cursor.rest := by
  unfold key? at h
  split at h
  · next hstart =>
    obtain ⟨rfl, rfl⟩ := Prod.mk.inj (Option.some.inj h)
    refine ⟨?_, List.dropWhile_suffix _⟩
    rw [String.toList_ofList]
    cases hrest : cursor.rest with
    | nil => simp [hrest] at hstart
    | cons c rest =>
      -- What may begin a key may go on with it, so the first character is part of the name.
      have hc : isKeyStart c = true := by simpa [hrest] using hstart
      have hrestOf : isKeyRest c = true := by
        simp only [isKeyStart, isKeyRest, Char.isAlphanum, Bool.or_eq_true] at hc ⊢
        exact .inl (hc.imp_left .inl)
      rw [List.takeWhile_cons_of_pos hrestOf]
      simp [isKey, hc, hrestOf]
  · cases h

/-- An equals sign that is passed over leaves an ending of the line. -/
theorem rest_isSuffix_of_equals? (h : cursor.equals? = some value) : value.rest <:+ cursor.rest := by
  unfold equals? at h
  split at h
  · next rest hrest =>
    obtain rfl := Option.some.inj h
    rw [hrest]
    exact List.suffix_cons '=' rest
  · cases h

/-- A key with an equals sign behind it is one of the grammar, and its value an ending of the line. -/
theorem isKey_of_keyEquals (h : cursor.keyEquals = .ok (key, value)) :
    isKey key.toList = true ∧ value.rest <:+ cursor.rest := by
  unfold keyEquals at h
  split at h
  · cases h
  · next name after hname =>
    split at h
    · cases h
    · next found hfound =>
      obtain ⟨rfl, rfl⟩ := Prod.mk.inj (Except.ok.inj h)
      obtain ⟨hkey, hafter⟩ := isKey_of_key? hname
      exact ⟨hkey, (rest_isSuffix_of_equals? hfound).trans ((skipBlanks_rest_isSuffix after).trans hafter)⟩

/-- The same with blanks passed over before the value. -/
theorem isKey_of_keyEquals_map
    (h : (cursor.keyEquals.map fun (key, value) => (key, value.skipBlanks)) = .ok (key, value)) :
    isKey key.toList = true ∧ value.rest <:+ cursor.rest := by
  cases hread : cursor.keyEquals with
  | error index =>
    rw [hread] at h
    cases h
  | ok found =>
    rw [hread] at h
    obtain ⟨name, after⟩ := found
    obtain ⟨rfl, rfl⟩ := Prod.mk.inj (Except.ok.inj h)
    obtain ⟨hkey, hrest⟩ := isKey_of_keyEquals hread
    exact ⟨hkey, (skipBlanks_rest_isSuffix after).trans hrest⟩

/-- The key of an assignment is one of the grammar, also where it is the word `export`, and its value is an ending of
the line. -/
theorem isKey_of_assignment (h : cursor.assignment = .ok (key, value)) :
    isKey key.toList = true ∧ value.rest <:+ cursor.rest := by
  unfold assignment at h
  split at h
  · next after hexport =>
    obtain ⟨hkey, hafter⟩ := isKey_of_key? hexport
    have hskipped : after.skipBlanks.rest <:+ cursor.rest := (skipBlanks_rest_isSuffix after).trans hafter
    split at h
    · next found hfound =>
      obtain ⟨rfl, rfl⟩ := Prod.mk.inj (Except.ok.inj h)
      exact ⟨hkey, (skipBlanks_rest_isSuffix found).trans ((rest_isSuffix_of_equals? hfound).trans hskipped)⟩
    · obtain ⟨hkey', hrest⟩ := isKey_of_keyEquals_map h
      exact ⟨hkey', hrest.trans hskipped⟩
  · exact isKey_of_keyEquals_map h

end Cursor

/-- The entry of a line has a key of the grammar, and a value that is empty or read from a part of the line. -/
theorem entry_of_readEntry {line : List Char} {entry : Entry} (h : readEntry line = .ok (some entry)) :
    isKey entry.key.toList = true ∧
      (entry.value = [] ∨ ∃ text, text <:+: line ∧ readValue text = .ok entry.value) := by
  unfold readEntry at h
  simp only at h
  split at h
  · cases h
  · split at h
    · cases h
    · next key value hassignment =>
      obtain ⟨hkey, hrest⟩ := Cursor.isKey_of_assignment hassignment
      split at h
      · obtain rfl := Option.some.inj (Except.ok.inj h)
        exact ⟨hkey, .inl rfl⟩
      · cases hvalue : readValue value.rest with
        | error fault =>
          rw [hvalue] at h
          cases h
        | ok parts =>
          rw [hvalue] at h
          obtain rfl := Option.some.inj (Except.ok.inj h)
          have htrimmed : value.rest <:+ Text.trimEnd line := hrest.trans (Cursor.skipBlanks_rest_isSuffix _)
          exact ⟨hkey, .inr ⟨value.rest, htrimmed.isInfix.trans (Text.trimEnd_isInitial line).isInfix, hvalue⟩⟩

/-- An entry of some lines is the entry of one of them. -/
theorem exists_of_mem_entriesOf {lines : List (List Char)} {entry : Entry} (h : entry ∈ entriesOf lines) :
    ∃ line ∈ lines, readEntry line = .ok (some entry) := by
  induction lines with
  | nil => simp [entriesOf] at h
  | cons line rest ih =>
    cases hline : readEntry line with
    | error fault => simp [entriesOf, hline] at h
    | ok found =>
      cases found with
      | none =>
        simp only [entriesOf, hline] at h
        obtain ⟨other, hother, hread⟩ := ih h
        exact ⟨other, List.mem_cons_of_mem line hother, hread⟩
      | some first =>
        simp only [entriesOf, hline] at h
        obtain rfl | hrest := List.mem_cons.mp h
        · exact ⟨line, List.mem_cons_self, hline⟩
        · obtain ⟨other, hother, hread⟩ := ih hrest
          exact ⟨other, List.mem_cons_of_mem line hother, hread⟩

/-- An entry of a file that can be read is the entry of one of its logical lines. -/
theorem exists_line_of_mem {bytes : ByteArray} {entries : List Entry} (h : parse bytes = .ok entries) {entry : Entry}
    (hentry : entry ∈ entries) : ∃ line ∈ (readLines bytes).done, readEntry line = .ok (some entry) := by
  rw [← entriesBeforeFault_of_parse h] at hentry
  obtain ⟨line, hline, hread⟩ := exists_of_mem_entriesOf hentry
  exact ⟨line, List.mem_reverse.mp hline, hread⟩

/-- The values have the keys of the entries, last first. -/
theorem keys_foldl_define (environment : Environment) (entries : List Entry) (earlier : Values) :
    (entries.foldl (define environment) earlier).map Prod.fst =
      (entries.map Entry.key).reverse ++ earlier.map Prod.fst := by
  induction entries generalizing earlier with
  | nil => rfl
  | cons entry rest ih =>
    rw [List.foldl_cons, ih]
    simp [define]

/-- A key that is set is the key of an entry. -/
theorem exists_entry_of_keyDefined {environment : Environment} {key : String} {entries : List Entry}
    (h : (summarize environment key entries).keyDefined = true) : ∃ entry ∈ entries, entry.key = key := by
  obtain ⟨⟨name, value⟩, hmem, htest⟩ := List.any_eq_true.mp h
  have hname : name = key := by simp_all
  have hkeys : name ∈ (values environment entries).map Prod.fst := List.mem_map_of_mem hmem
  rw [values, keys_foldl_define, List.map_nil, List.append_nil, List.mem_reverse] at hkeys
  obtain ⟨entry, hentry, hkey⟩ := List.mem_map.mp hkeys
  exact ⟨entry, hentry, hkey.trans hname⟩

/-- The names of the grammar of keys are those that some file sets to a value that is not empty, in any one
environment. -/
theorem isKey_iff_exists_keyDefined (environment : Environment) (key : String) :
    isKey key.toList = true ↔
      ∃ bytes entries, parse bytes = .ok entries ∧ (summarize environment key entries).keyDefined = true := by
  constructor
  · intro hkey
    have hvalue : ∀ c ∈ ['x'], isBare c = true := List.forall_mem_singleton.mpr (by decide)
    have hparse := parse_of_line hkey hvalue (by decide) (List.mem_cons_self : [] ∈ lineEndings)
    have htext : evaluate (meaning environment []) (['x'].map Part.literal) = "x" := evaluate_literal _ ['x']
    refine ⟨_, _, hparse, ?_⟩
    simp only [summarize, values, define, List.foldl_cons, List.foldl_nil, htext, String.ofList_toList]
    simp
  · rintro ⟨bytes, entries, hparse, hdefined⟩
    obtain ⟨entry, hentry, rfl⟩ := exists_entry_of_keyDefined hdefined
    obtain ⟨line, -, hread⟩ := exists_line_of_mem hparse hentry
    exact (entry_of_readEntry hread).1

end EnvSeed.Dotenv
