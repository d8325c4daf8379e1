import EnvSeed.Command.Outcome
import EnvSeed.Proofs.Text.Bytes

/-!
# A log level in front of other arguments

Arguments are read the same whichever log level is set, word by word and so to the end. A level that can be read is
a plain word, so an option in front of the arguments sets it, and has no part in what else they ask for.
-/

namespace EnvSeed

/-- A level that can be read does not begin with a dash. -/
theorem LevelFilter.ne_dash_of_parse {level : String} {filter : LevelFilter} (h : parse level = .ok filter)
    (rest : List Char) : level.toList ≠ '-' :: rest := by
  intro hdash
  have hnumber : ofNumber? ('-' :: rest) = none := by simp [ofNumber?]
  have hlower : '-'.toLower = '-' := by decide
  have hname : ofName? ('-' :: rest) = none := by simp [ofName?, all, Level.all, name, Level.name, hlower]
  simp only [parse, hdash, hnumber, hname] at h
  split at h <;> cases h

/-- Only a dash at its start makes a word more than plain. -/
theorem Word.of_plain {word : List UInt8} (h : ∀ rest, word ≠ 0x2d :: rest) : Word.of word = .plain := by
  unfold Word.of
  split
  · exact absurd rfl (h _)
  · exact absurd rfl (h _)
  · exact absurd rfl (h _)
  · rfl

/-- A level that can be read is a plain word. -/
theorem Word.of_level {level : String} {filter : LevelFilter} (h : LevelFilter.parse level = .ok filter) :
    Word.of level.toUTF8.data.toList = .plain := by
  have hbytes : level.toUTF8.data.toList = level.toList.flatMap String.utf8EncodeChar := by
    rw [← Text.toList_toUTF8, String.ofList_toList]
  refine Word.of_plain fun rest hdash => ?_
  rw [hbytes] at hdash
  cases hlevel : level.toList with
  | nil => simp [hlevel] at hdash
  | cons c more =>
    -- The first byte is one of the first character, which would be the dash.
    obtain ⟨byte, bytes, hchar⟩ := List.exists_cons_of_ne_nil (String.utf8EncodeChar_ne_nil (c := c))
    simp only [hlevel, List.flatMap_cons, hchar, List.cons_append, List.cons.injEq] at hdash
    have hmem : 0x2d ∈ String.utf8EncodeChar c := by simp [hchar, hdash.1]
    have hcode : c.toNat = '-'.toNat := Text.toNat_of_mem_utf8EncodeChar (by decide) hmem
    exact LevelFilter.ne_dash_of_parse h more (hlevel.trans (congrArg (· :: more) (Char.toNat_inj.mp hcode)))

namespace Arguments

/-- The arguments with a log level. -/
def withLevel (level : String) (arguments : Arguments) : Arguments :=
  { arguments with logLevel := some level }

/-- The words that ask for a log level, in front of others. -/
def atLevel (level : String) (words : List ByteArray) : List ByteArray :=
  "--log-level".toUTF8 :: level.toUTF8 :: words

section

variable (arguments : Arguments)

/-- An option gets its value whichever log level is set, unless it is one too, which is refused. -/
theorem assign_withLevel (setting : Setting) (value : List UInt8) :
    ∃ result : Except Refusal Arguments, ∀ level,
      (arguments.withLevel level).assign setting value = result.map (withLevel level) := by
  have hmap (old : Option Path) (set : Option Path → Arguments) (level : String) :
      (once old (path value)).map (fun new => (set new).withLevel level) =
        ((once old (path value)).map set).map (withLevel level) := by
    cases once old (path value) <;> rfl
  cases setting with
  | config => exact ⟨arguments.assign .config value, hmap arguments.config fun config => { arguments with config }⟩
  | keys => exact ⟨arguments.assign .keys value, hmap arguments.keys fun keys => { arguments with keys }⟩
  | template =>
    exact ⟨arguments.assign .template value, hmap arguments.template fun template => { arguments with template }⟩
  | output => exact ⟨arguments.assign .output value, hmap arguments.output fun output => { arguments with output }⟩
  | logLevel => exact ⟨.error .argumentConflict, fun _ => rfl⟩

/-- The option before is settled whichever log level is set. -/
theorem settle_withLevel (pending : Option Pending) :
    ∃ result : Except Refusal Arguments, ∀ level,
      (arguments.withLevel level).settle pending = result.map (withLevel level) := by
  match pending with
  | none => exact ⟨.ok arguments, fun _ => rfl⟩
  | some ⟨_, none⟩ => exact ⟨.error .invalidValue, fun _ => rfl⟩
  | some ⟨setting, some value⟩ => exact arguments.assign_withLevel setting value

/-- An option that takes a value is read whichever log level is set. -/
theorem readSetting_withLevel (setting : Setting) (value : Option (List UInt8)) :
    ∃ result : Except Refusal (Arguments × Option Pending), ∀ level,
      (arguments.withLevel level).readSetting setting value = result.map (Prod.map (withLevel level) id) := by
  cases value with
  | none => exact ⟨.ok (arguments, some ⟨setting, none⟩), fun _ => rfl⟩
  | some value =>
    obtain ⟨result, hassign⟩ := arguments.assign_withLevel setting value
    refine ⟨result.map fun next => (next, none), fun level => ?_⟩
    rw [readSetting, hassign]
    cases result <;> rfl

/-- Any option is read whichever log level is set. -/
theorem readFlag_withLevel (pending : Option Pending) (flag : Flag) (value : Option (List UInt8)) :
    ∃ result : Except Refusal (Arguments × Option Pending), ∀ level,
      (arguments.withLevel level).readFlag pending flag value = result.map (Prod.map (withLevel level) id) := by
  obtain ⟨settled, hsettle⟩ := arguments.settle_withLevel pending
  have hmany (refusal : Refusal) : ∃ result : Except Refusal (Arguments × Option Pending), ∀ level : String,
      Except.error refusal = result.map (Prod.map (withLevel level) id) := ⟨.error refusal, fun _ => rfl⟩
  cases settled with
  | error refusal =>
    simp only [readFlag, hsettle]
    cases flag with
    | setting setting => exact hmany refusal
    | replace => cases value <;> exact hmany _
    | help => cases value <;> exact hmany _
  | ok next =>
    simp only [readFlag, hsettle]
    cases flag with
    | setting setting => exact next.readSetting_withLevel setting value
    | replace =>
      cases value with
      | none =>
        refine ⟨next.setReplace.map fun next => (next, none), fun level => ?_⟩
        obtain ⟨config, keys, template, output, logLevel, replace⟩ := next
        cases replace <;> rfl
      | some value => exact hmany .tooManyValues
    | help => cases value <;> exact hmany _

/-- A word is read whichever log level is set. -/
theorem readWord_withLevel (pending : Option Pending) (word : List UInt8) :
    ∃ result : Except Refusal (Arguments × Option Pending), ∀ level,
      (arguments.withLevel level).readWord pending word = result.map (Prod.map (withLevel level) id) := by
  unfold readWord
  split
  · exact ⟨.error .unknownArgument, fun _ => rfl⟩
  · split
    · exact ⟨.error .unknownArgument, fun _ => rfl⟩
    · exact arguments.readFlag_withLevel pending _ _
  · split
    · exact ⟨.error .unknownArgument, fun _ => rfl⟩
    · exact arguments.readFlag_withLevel pending .help none
    · exact arguments.readFlag_withLevel pending _ _
  · split
    · next setting => exact ⟨.ok (arguments, some ⟨setting, some word⟩), fun _ => rfl⟩
    · exact ⟨.error .unknownArgument, fun _ => rfl⟩

end

/-- A word that does not end the options is read before the others. -/
theorem readFrom_cons {word : List UInt8} {rest : List (List UInt8)} (h : Word.of word = .separator → rest ≠ [])
    (arguments : Arguments) (pending : Option Pending) :
    readFrom arguments pending (word :: rest) =
      (arguments.readWord pending word).bind fun next => readFrom next.1 next.2 rest := by
  rw [readFrom]
  · cases arguments.readWord pending word <;> rfl
  · exact h

/-- Either a word ends the options, or it is read before the others. -/
theorem readFrom_cons_cases (word : List UInt8) (rest : List (List UInt8)) :
    (∀ arguments pending, readFrom arguments pending (word :: rest) = arguments.settle pending) ∨
      ∀ arguments pending, readFrom arguments pending (word :: rest) =
        (arguments.readWord pending word).bind fun next => readFrom next.1 next.2 rest := by
  by_cases hend : Word.of word = .separator ∧ rest = []
  · obtain ⟨hword, rfl⟩ := hend
    exact .inl fun arguments pending => by simp only [readFrom, hword]
  · exact .inr (readFrom_cons fun hword hrest => hend ⟨hword, hrest⟩)

/-- All words are read whichever log level is set. -/
theorem readFrom_withLevel (arguments : Arguments) (pending : Option Pending) (words : List (List UInt8)) :
    ∃ result : Except Refusal Arguments, ∀ level,
      (arguments.withLevel level).readFrom pending words = result.map (withLevel level) := by
  induction words generalizing arguments pending with
  | nil => exact arguments.settle_withLevel pending
  | cons word rest ih =>
    obtain hend | hnext := readFrom_cons_cases word rest
    · simp only [hend]
      exact arguments.settle_withLevel pending
    · obtain ⟨result, hword⟩ := arguments.readWord_withLevel pending word
      simp only [hnext, hword]
      cases result with
      | error refusal => exact ⟨.error refusal, fun _ => rfl⟩
      | ok next => exact ih next.1 next.2

/-- A value that waits for the next option can be assigned at once. -/
theorem readFrom_of_assign {arguments assigned : Arguments} {setting : Setting} {value : List UInt8}
    (h : arguments.assign setting value = .ok assigned) (words : List (List UInt8)) :
    arguments.readFrom (some ⟨setting, some value⟩) words = assigned.readFrom none words := by
  have hsettle : arguments.settle (some ⟨setting, some value⟩) = assigned.settle none := h
  cases words with
  | nil => exact hsettle
  | cons word rest =>
    obtain hend | hnext := readFrom_cons_cases word rest
    · rw [hend, hend, hsettle]
    · rw [hnext, hnext]
      simp only [readWord, readFlag, hsettle]

/-- A log level in front of words has no part in what else they ask for. -/
theorem parse_atLevel (words : List ByteArray) :
    ∃ result : Except Refusal Arguments, ∀ level filter, LevelFilter.parse level = .ok filter →
      parse (atLevel level words) = result.map (withLevel level) := by
  obtain ⟨result, hrest⟩ := readFrom_withLevel {} none (words.map (·.data.toList))
  refine ⟨result, fun level filter hlevel => ?_⟩
  have hassign : ({} : Arguments).assign .logLevel level.toUTF8.data.toList = .ok (withLevel level {}) := by
    simp only [assign, Arguments.level, Text.fromUTF8?_toArray]
    rfl
  have hname : Word.of "--log-level".toUTF8.data.toList = .long "log-level".toUTF8.data.toList none := rfl
  have hflag : Flag.ofName? "log-level".toUTF8.data.toList = some (.setting .logLevel) := by decide +kernel
  rw [← hrest, ← readFrom_of_assign hassign]
  simp only [parse, atLevel, List.map_cons, readFrom, readWord, hname, hflag, Word.of_level hlevel]
  rfl

end Arguments

end EnvSeed
