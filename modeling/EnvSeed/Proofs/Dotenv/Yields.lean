import EnvSeed.Proofs.Dotenv.Assignment

/-!
# What a file yields

A dotenv file yields its entries with their values, in order, up to its first fault. A line that assigns a
bare value to a key yields exactly that, whatever the file yields before it and whatever comes after it.
-/

namespace EnvSeed.Dotenv

/-- The keys and values that a file yields, in order, up to its first fault. -/
def yields (environment : Environment) (bytes : ByteArray) : List (String × String) :=
  (values environment (entriesBeforeFault bytes)).reverse

/-- The end of a text, or a line feed with or without a carriage return before it. -/
def AtLineEnd (text : List Char) : Prop :=
  text = [] ∨ (∃ rest, text = '\n' :: rest) ∨ ∃ rest, text = '\r' :: '\n' :: rest

/-- Further entries change nothing about the values of those before them. -/
theorem foldl_define (environment : Environment) (entries : List Entry) (earlier : Values) :
    ∃ later, entries.foldl (define environment) earlier = later ++ earlier := by
  induction entries generalizing earlier with
  | nil => exact ⟨[], rfl⟩
  | cons entry rest ih =>
    obtain ⟨later, hlater⟩ := ih (define environment earlier entry)
    refine ⟨later ++ [(entry.key, evaluate (meaning environment earlier) entry.value)], ?_⟩
    rw [List.foldl_cons, hlater, define, List.append_assoc, List.singleton_append]

/-- Characters pushed one after the other are appended as a text. -/
theorem foldl_push (text : List Char) (start : String) :
    text.foldl String.push start = start ++ String.ofList text := by
  induction text generalizing start with
  | nil => simp
  | cons c rest ih => rw [List.foldl_cons, ih, String.push_eq_append, String.ofList_cons, String.append_assoc]

/-- The value of literal parts is their text, in any environment. -/
theorem evaluate_literal (meaning : String → String) (text : List Char) :
    evaluate meaning (text.map Part.literal) = String.ofList text := by
  have hpush : evaluate meaning (text.map Part.literal) = text.foldl String.push "" := List.foldl_map
  rw [hpush, foldl_push, String.empty_append]

/-- Entries, one that is a text, and more entries have the values of the first, that text, and more values. -/
theorem values_literal_between (environment : Environment) (entries later : List Entry) (key : String)
    (text : List Char) :
    ∃ more, (values environment (entries ++ ⟨key, text.map Part.literal⟩ :: later)).reverse =
      (values environment entries).reverse ++ (key, String.ofList text) :: more := by
  obtain ⟨more, hmore⟩ := foldl_define environment later
    ((key, String.ofList text) :: values environment entries)
  refine ⟨more.reverse, ?_⟩
  have hvalues : values environment (entries ++ ⟨key, text.map Part.literal⟩ :: later) =
      later.foldl (define environment) ((key, String.ofList text) :: values environment entries) := by
    simp only [values, List.foldl_append, List.foldl_cons, define, evaluate_literal]
  rw [hvalues, hmore]
  simp

/-- A text at the end of a line begins with an ending, and what follows one that is not the end of the text
comes on a line of its own. -/
theorem AtLineEnd.cases {text : List Char} (h : AtLineEnd text) :
    ∃ ending ∈ lineEndings, ∃ rest, text = ending ++ rest ∧
      (rest = [] ∨ ∃ ended, ending = ended ++ ['\n']) := by
  rcases h with rfl | ⟨rest, rfl⟩ | ⟨rest, rfl⟩
  · exact ⟨[], by simp [lineEndings], [], rfl, .inl rfl⟩
  · exact ⟨['\n'], by simp [lineEndings], rest, rfl, .inr ⟨[], rfl⟩⟩
  · exact ⟨['\r', '\n'], by simp [lineEndings], rest, rfl, .inr ⟨['\r'], rfl⟩⟩

/-- A text that ends with a line feed is written with bytes that do. -/
theorem endsLine_of_feed (text : List Char) : EndsLine (String.ofList (text ++ ['\n'])).toUTF8 := by
  refine .inr ⟨(String.ofList text).toUTF8.data.toList, ?_⟩
  rw [Text.toList_toUTF8, List.flatMap_append, ← Text.toList_toUTF8]
  rfl

/-- After a file that can be read and ends its last line, an assignment of a bare value up to the end of its
line yields the key with the value, before anything that follows. -/
theorem yields_line {front : ByteArray} {entries : List Entry} (hends : EndsLine front)
    (hfront : parse front = .ok entries) (environment : Environment) {key value after : List Char}
    (hkey : isKey key = true) (hvalue : ∀ c ∈ value, isBare c = true) (hne : value ≠ []) (hafter : AtLineEnd after) :
    ∃ more, yields environment (front ++ (String.ofList (key ++ '=' :: value ++ after)).toUTF8) =
      yields environment front ++ (String.ofList key, String.ofList value) :: more := by
  obtain ⟨ending, hending, rest, rfl, hrest⟩ := hafter.cases
  have hline := parse_of_line hkey hvalue hne hending
  have hentries : ∃ later, entriesBeforeFault (String.ofList (key ++ '=' :: value ++ (ending ++ rest))).toUTF8 =
      ⟨String.ofList key, value.map Part.literal⟩ :: later := by
    rw [← List.append_assoc]
    rcases hrest with rfl | ⟨ended, rfl⟩
    · exact ⟨[], by rw [List.append_nil, entriesBeforeFault_of_parse hline]⟩
    · have hlineEnds := endsLine_of_feed (key ++ '=' :: value ++ ended)
      rw [List.append_assoc _ ended] at hlineEnds
      rw [Text.toUTF8_ofList_append, entriesBeforeFault_append hlineEnds hline]
      exact ⟨_, rfl⟩
  obtain ⟨later, hlater⟩ := hentries
  unfold yields
  rw [entriesBeforeFault_append hends hfront, hlater, entriesBeforeFault_of_parse hfront]
  exact values_literal_between environment entries later (String.ofList key) value

/-- A file that can be read and yields a value for the key that is not empty defines the key. -/
theorem keyDefined_of_mem_yields {environment : Environment} {bytes : ByteArray} {entries : List Entry}
    {key value : String} (h : parse bytes = .ok entries) (hmem : (key, value) ∈ yields environment bytes)
    (hne : value.isEmpty = false) : (summarize environment key entries).keyDefined = true := by
  unfold yields at hmem
  rw [entriesBeforeFault_of_parse h, List.mem_reverse] at hmem
  exact List.any_eq_true.mpr ⟨(key, value), hmem, by simp [hne]⟩

end EnvSeed.Dotenv
