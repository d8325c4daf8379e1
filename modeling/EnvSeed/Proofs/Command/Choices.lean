import EnvSeed.Proofs.Command.LevelOption
import Mathlib.Data.List.Forall2

/-!
# Choices and the words for them

Whoever calls the command chooses values for some options, and whether to replace. A choice can be put into words in
several ways, and the words for several choices follow one another in any order. Read one choice at a time, the words
give exactly what was chosen, however each choice was put.
-/

namespace EnvSeed

/-- What arguments can ask for: a value for an option, or the replacing write mode. -/
inductive Choice
  | value (setting : Setting) (bytes : ByteArray)
  | replace
  deriving DecidableEq

/-- The values of an option: any text for a log level, and any bytes for a path, but at least one. -/
def Setting.Takes : Setting → ByteArray → Prop
  | logLevel, bytes => ∃ text : String, bytes = text.toUTF8
  | _, bytes => bytes ≠ .empty

/-- Bytes that can be a value in a word of its own: they begin with no dash, or are a single one. -/
def IsOwnWord (bytes : ByteArray) : Prop :=
  bytes = "-".toUTF8 ∨ bytes.data.toList.head? ≠ some 0x2d

namespace Choice

/-- The option of a choice. -/
def flag : Choice → Flag
  | value setting _ => .setting setting
  | replace => .replace

/-- The value of a choice is one that its option takes. -/
def IsTaken : Choice → Prop
  | value setting bytes => setting.Takes bytes
  | replace => True

/-- The words by which a choice can be made: the name or the letter of its option, and the value in the next word, behind
an equals sign, or directly behind the letter. -/
inductive SpelledBy : Choice → List ByteArray → Prop
  | replace : SpelledBy replace ["--replace".toUTF8]
  | nameNext {setting : Setting} {bytes : ByteArray} (hbytes : IsOwnWord bytes) :
      SpelledBy (value setting bytes) [s!"--{setting.longName}".toUTF8, bytes]
  | nameEquals {setting : Setting} {bytes : ByteArray} :
      SpelledBy (value setting bytes) [s!"--{setting.longName}=".toUTF8 ++ bytes]
  | letterNext {setting : Setting} {bytes : ByteArray} {letter : UInt8} (hletter : setting.letter? = some letter)
      (hbytes : IsOwnWord bytes) : SpelledBy (value setting bytes) [⟨#[0x2d, letter]⟩, bytes]
  | letterEquals {setting : Setting} {bytes : ByteArray} {letter : UInt8} (hletter : setting.letter? = some letter) :
      SpelledBy (value setting bytes) [⟨#[0x2d, letter, 0x3d]⟩ ++ bytes]
  | letterAttached {setting : Setting} {bytes : ByteArray} {letter : UInt8}
      (hletter : setting.letter? = some letter) (hbytes : bytes.data.toList.head? ≠ some 0x3d) :
      SpelledBy (value setting bytes) [⟨#[0x2d, letter]⟩ ++ bytes]

end Choice

section Words

/-- A name without an equals sign is split off at the first one. -/
theorem splitEquals_append {name : List UInt8} (h : 0x3d ∉ name) (value : List UInt8) :
    splitEquals (name ++ 0x3d :: value) = (name, some value) := by
  have hname : ∀ byte ∈ name, decide (byte ≠ 0x3d) = true :=
    fun byte hbyte => by simpa using fun heq : byte = 0x3d => h (heq ▸ hbyte)
  rw [splitEquals, List.dropWhile_append_of_pos hname, List.takeWhile_append_of_pos hname]
  simp

/-- The name of an option has no equals sign. -/
theorem Setting.equals_not_mem_longName (setting : Setting) : 0x3d ∉ setting.longName.toUTF8.data.toList := by
  cases setting <;> decide +kernel

/-- An option is found by its name. -/
theorem Flag.ofName?_longName (setting : Setting) : ofName? setting.longName.toUTF8.data.toList = some (.setting setting) := by
  cases setting <;> decide +kernel

/-- An option is found by its letter. -/
theorem Flag.ofLetter?_letter {setting : Setting} {letter : UInt8} (h : setting.letter? = some letter) :
    ofLetter? letter = some (.setting setting) := by
  cases setting <;> simp only [Setting.letter?, Option.some.injEq, reduceCtorEq] at h <;> subst h <;> decide +kernel

/-- Two dashes and the name of an option are the option by its name. -/
theorem Word.of_name (setting : Setting) :
    Word.of s!"--{setting.longName}".toUTF8.data.toList = .long setting.longName.toUTF8.data.toList none := by
  cases setting <;> rfl

/-- Two dashes, the name of an option, an equals sign and a value are the option by its name with the value. -/
theorem Word.of_nameEquals (setting : Setting) (value : List UInt8) :
    Word.of (s!"--{setting.longName}=".toUTF8.data.toList ++ value) =
      .long setting.longName.toUTF8.data.toList (some value) := by
  have hbytes : s!"--{setting.longName}=".toUTF8.data.toList ++ value =
      0x2d :: 0x2d :: (setting.longName.toUTF8.data.toList ++ 0x3d :: value) := by
    cases setting <;> rfl
  have hne : setting.longName.toUTF8.data.toList ++ 0x3d :: value ≠ [] := by simp
  have hword (rest : List UInt8) (h : rest ≠ []) :
      Word.of (0x2d :: 0x2d :: rest) = .long (splitEquals rest).1 (splitEquals rest).2 := by
    cases rest with
    | nil => exact absurd rfl h
    | cons => rfl
  rw [hbytes, hword _ hne, splitEquals_append setting.equals_not_mem_longName]

/-- A dash and the letter of an option are the option by its letter, with what follows it. -/
theorem Word.of_letter {setting : Setting} {letter : UInt8} (h : setting.letter? = some letter)
    (attached : List UInt8) : Word.of (0x2d :: letter :: attached) = .short letter attached := by
  cases setting <;> simp only [Setting.letter?, Option.some.injEq, reduceCtorEq] at h <;> subst h <;> rfl

/-- A value that can be a word of its own is a plain word. -/
theorem Word.of_isOwnWord {bytes : ByteArray} (h : IsOwnWord bytes) : Word.of bytes.data.toList = .plain := by
  obtain rfl | hhead := h
  · rfl
  · exact of_plain fun rest hdash => hhead (by rw [hdash]; rfl)

/-- Bytes behind a letter are a value, unless there are none or they begin with an equals sign. -/
theorem attachedValue?_of_head {bytes : List UInt8} (hne : bytes ≠ []) (hhead : bytes.head? ≠ some 0x3d) :
    attachedValue? bytes = some bytes := by
  unfold attachedValue?
  split
  · exact absurd rfl hne
  · exact absurd rfl hhead
  · rfl

/-- Bytes that are not the empty ones have a first one. -/
theorem toList_ne_nil {bytes : ByteArray} (h : bytes ≠ .empty) : bytes.data.toList ≠ [] :=
  fun hnil => h (ByteArray.ext (Array.toList_eq_nil_iff.mp hnil))

/-- An option with a letter takes a path, which is not empty. -/
theorem Setting.ne_nil_of_letter {setting : Setting} {letter : UInt8} {bytes : ByteArray}
    (hletter : setting.letter? = some letter) (htakes : setting.Takes bytes) : bytes.data.toList ≠ [] := by
  cases setting with
  | logLevel => cases hletter
  | config => exact toList_ne_nil htakes
  | keys => exact toList_ne_nil htakes
  | template => exact toList_ne_nil htakes
  | output => exact toList_ne_nil htakes

end Words

namespace Arguments

/-- The value that an option has, in bytes. -/
def given? (arguments : Arguments) : Setting → Option ByteArray
  | .config => arguments.config.map Path.bytes
  | .keys => arguments.keys.map Path.bytes
  | .template => arguments.template.map Path.bytes
  | .output => arguments.output.map Path.bytes
  | .logLevel => arguments.logLevel.map String.toUTF8

/-- The arguments ask for a choice. -/
def AsksFor (arguments : Arguments) : Choice → Prop
  | .value setting bytes => arguments.given? setting = some bytes
  | .replace => arguments.replace = true

/-- Make a choice. -/
def choose (arguments : Arguments) : Choice → Except Refusal Arguments
  | .value setting bytes => arguments.assign setting bytes.data.toList
  | .replace => arguments.setReplace

/-- A field without a path takes one with its bytes. -/
theorem once_path {old : Option Path} {bytes : ByteArray} (hnone : old.map Path.bytes = none) (h : bytes ≠ .empty) :
    once old (path bytes.data.toList) = .ok (some ⟨bytes⟩) := by
  obtain rfl := Option.map_eq_none_iff.mp hnone
  rw [path, if_neg (by simpa using toList_ne_nil h), Array.toArray_toList]
  rfl

/-- An option without a value takes one, and nothing else changes. -/
theorem assign_of_takes {arguments : Arguments} {setting : Setting} {bytes : ByteArray}
    (hnone : arguments.given? setting = none) (htakes : setting.Takes bytes) :
    ∃ next, arguments.assign setting bytes.data.toList = .ok next ∧ next.replace = arguments.replace ∧
      ∀ other, next.given? other = if other = setting then some bytes else arguments.given? other := by
  cases setting with
  | config =>
    refine ⟨{ arguments with config := some ⟨bytes⟩ }, ?_, rfl, fun other => by cases other <;> rfl⟩
    rw [assign, once_path hnone htakes]
    rfl
  | keys =>
    refine ⟨{ arguments with keys := some ⟨bytes⟩ }, ?_, rfl, fun other => by cases other <;> rfl⟩
    rw [assign, once_path hnone htakes]
    rfl
  | template =>
    refine ⟨{ arguments with template := some ⟨bytes⟩ }, ?_, rfl, fun other => by cases other <;> rfl⟩
    rw [assign, once_path hnone htakes]
    rfl
  | output =>
    refine ⟨{ arguments with output := some ⟨bytes⟩ }, ?_, rfl, fun other => by cases other <;> rfl⟩
    rw [assign, once_path hnone htakes]
    rfl
  | logLevel =>
    obtain ⟨text, rfl⟩ := htakes
    have hlevel : arguments.logLevel = none := Option.map_eq_none_iff.mp hnone
    refine ⟨{ arguments with logLevel := some text }, ?_, rfl, fun other => by cases other <;> rfl⟩
    rw [assign, hlevel, level, Text.fromUTF8?_toArray]
    rfl

/-- A choice can be made if none was made for its option yet, and is then the only one to come in. -/
theorem choose_of_new {arguments : Arguments} {choice : Choice}
    (hnew : ∀ other, arguments.AsksFor other → other.flag ≠ choice.flag) (htaken : choice.IsTaken) :
    ∃ next, arguments.choose choice = .ok next ∧
      ∀ other, next.AsksFor other ↔ arguments.AsksFor other ∨ other = choice := by
  cases choice with
  | value setting bytes =>
    have hnone : arguments.given? setting = none := by
      refine Option.eq_none_iff_forall_ne_some.mpr fun given hgiven => ?_
      exact hnew (.value setting given) hgiven rfl
    obtain ⟨next, hassign, hreplace, hgiven⟩ := assign_of_takes hnone htaken
    refine ⟨next, hassign, fun other => ?_⟩
    cases other with
    | value other more =>
      rw [AsksFor, AsksFor, hgiven]
      by_cases hother : other = setting
      · subst hother
        simp [hnone, eq_comm]
      · simp [hother]
    | replace => simp [AsksFor, hreplace]
  | replace =>
    have hreplace : arguments.replace = false := Bool.eq_false_iff.mpr fun htrue => hnew .replace htrue rfl
    refine ⟨{ arguments with replace := true }, by simp [choose, setReplace, hreplace], fun other => ?_⟩
    cases other with
    | value other more => simp [AsksFor, given?]
    | replace => simp [AsksFor]

/-- A word names an option, with a value in it or none. -/
structure Names (word : List UInt8) (setting : Setting) (value : Option (List UInt8)) : Prop where
  ne_separator : Word.of word ≠ .separator
  readWord_eq : ∀ (arguments : Arguments) (pending : Option Pending),
    arguments.readWord pending word = arguments.readFlag pending (.setting setting) value

/-- A word that begins with two dashes names the option of its name. -/
theorem names_of_long {word name : List UInt8} {value : Option (List UInt8)} {setting : Setting}
    (hword : Word.of word = .long name value) (hflag : Flag.ofName? name = some (.setting setting)) :
    Names word setting value :=
  ⟨by simp [hword], fun arguments pending => by simp only [readWord, hword, hflag]⟩

/-- A word that begins with one dash names the option of its letter. -/
theorem names_of_short {word attached : List UInt8} {letter : UInt8} {setting : Setting}
    (hword : Word.of word = .short letter attached) (hflag : Flag.ofLetter? letter = some (.setting setting)) :
    Names word setting (attachedValue? attached) :=
  ⟨by simp [hword], fun arguments pending => by simp only [readWord, hword, hflag]⟩

section

variable {arguments next : Arguments} {setting : Setting} {word : List UInt8} {bytes : ByteArray}

/-- A word with an option and its value has the option take the value. -/
theorem readFrom_attached (hword : Names word setting (some bytes.data.toList))
    (hchoose : arguments.choose (.value setting bytes) = .ok next) (rest : List (List UInt8)) :
    arguments.readFrom none (word :: rest) = next.readFrom none rest := by
  have hassign : arguments.assign setting bytes.data.toList = .ok next := hchoose
  rw [readFrom_cons (fun hseparator => absurd hseparator hword.ne_separator), hword.readWord_eq]
  simp only [readFlag, settle, bind, Except.bind, readSetting, hassign]
  rfl

/-- A word with an option and a word that can be its value have the option take the value. -/
theorem readFrom_detached (hword : Names word setting none) (hbytes : IsOwnWord bytes)
    (hchoose : arguments.choose (.value setting bytes) = .ok next) (rest : List (List UInt8)) :
    arguments.readFrom none (word :: bytes.data.toList :: rest) = next.readFrom none rest := by
  have hvalue := Word.of_isOwnWord hbytes
  have hwaits : arguments.readFrom none (word :: bytes.data.toList :: rest) =
      arguments.readFrom (some ⟨setting, some bytes.data.toList⟩) rest := by
    rw [readFrom_cons (fun hseparator => absurd hseparator hword.ne_separator), hword.readWord_eq]
    simp only [readFlag, settle, bind, Except.bind, readSetting]
    rw [readFrom_cons (fun hseparator => absurd hseparator (by simp [hvalue]))]
    simp only [readWord, hvalue, Except.bind]
  rw [hwaits, readFrom_of_assign hchoose]

end

/-- Words that spell a choice make it, whatever words follow. -/
theorem readFrom_of_spelledBy {arguments next : Arguments} {choice : Choice} {words : List ByteArray}
    (hspelled : choice.SpelledBy words) (htaken : choice.IsTaken) (hchoose : arguments.choose choice = .ok next)
    (rest : List (List UInt8)) :
    arguments.readFrom none (words.map (·.data.toList) ++ rest) = next.readFrom none rest := by
  cases hspelled with
  | replace =>
    have hset : arguments.setReplace = .ok next := hchoose
    have hword : Word.of "--replace".toUTF8.data.toList = .long "replace".toUTF8.data.toList none := rfl
    have hflag : Flag.ofName? "replace".toUTF8.data.toList = some .replace := by decide +kernel
    have hseparator : Word.of "--replace".toUTF8.data.toList ≠ .separator := by
      rw [hword]
      simp
    rw [List.map_singleton, List.singleton_append, readFrom_cons (fun heq => absurd heq hseparator)]
    simp only [readWord, hword, hflag, readFlag, settle, bind, Except.bind, hset]
    rfl
  | @nameNext setting bytes hbytes =>
    have hword := names_of_long (Word.of_name setting) (Flag.ofName?_longName setting)
    exact readFrom_detached hword hbytes hchoose rest
  | @nameEquals setting bytes =>
    have hword := names_of_long (Word.of_nameEquals setting bytes.data.toList) (Flag.ofName?_longName setting)
    rw [List.map_singleton, ByteArray.toList_data_append]
    exact readFrom_attached hword hchoose rest
  | @letterNext setting bytes letter hletter hbytes =>
    have hword := names_of_short (Word.of_letter hletter []) (Flag.ofLetter?_letter hletter)
    exact readFrom_detached hword hbytes hchoose rest
  | @letterEquals setting bytes letter hletter =>
    have hword := names_of_short (Word.of_letter hletter (0x3d :: bytes.data.toList)) (Flag.ofLetter?_letter hletter)
    rw [List.map_singleton, ByteArray.toList_data_append]
    exact readFrom_attached hword hchoose rest
  | @letterAttached setting bytes letter hletter hhead =>
    have hword := names_of_short (Word.of_letter hletter bytes.data.toList) (Flag.ofLetter?_letter hletter)
    rw [attachedValue?_of_head (Setting.ne_nil_of_letter hletter htaken) hhead] at hword
    rw [List.map_singleton, ByteArray.toList_data_append]
    exact readFrom_attached hword hchoose rest

/-- Words that spell choices, at most one for each option, make just these choices. -/
theorem readFrom_of_choices {arguments : Arguments} {choices : List Choice} {pieces : List (List ByteArray)}
    (hspelled : List.Forall₂ Choice.SpelledBy choices pieces) (honce : (choices.map Choice.flag).Nodup)
    (htaken : ∀ choice ∈ choices, choice.IsTaken)
    (hnew : ∀ choice ∈ choices, ∀ other, arguments.AsksFor other → other.flag ≠ choice.flag) :
    ∃ read, arguments.readFrom none (pieces.flatten.map (·.data.toList)) = .ok read ∧
      ∀ choice, read.AsksFor choice ↔ arguments.AsksFor choice ∨ choice ∈ choices := by
  induction hspelled generalizing arguments with
  | nil => exact ⟨arguments, rfl, fun choice => by simp⟩
  | @cons choice words choices pieces hwords _ ih =>
    rw [List.map_cons, List.nodup_cons] at honce
    obtain ⟨next, hchoose, hnext⟩ := choose_of_new (hnew choice List.mem_cons_self) (htaken choice List.mem_cons_self)
    -- What comes next is new: it is neither an older choice nor this one.
    have hlater : ∀ later ∈ choices, ∀ other, next.AsksFor other → other.flag ≠ later.flag := by
      intro later hlater other hasked
      obtain hold | rfl := (hnext other).mp hasked
      · exact hnew later (List.mem_cons_of_mem _ hlater) other hold
      · exact fun hflag => honce.1 (hflag ▸ List.mem_map_of_mem hlater)
    obtain ⟨read, hread, hasked⟩ := ih honce.2 (fun later h => htaken later (List.mem_cons_of_mem _ h)) hlater
    refine ⟨read, ?_, fun other => ?_⟩
    · rw [List.flatten_cons, List.map_append,
        readFrom_of_spelledBy hwords (htaken choice List.mem_cons_self) hchoose, hread]
    · rw [hasked, hnext, List.mem_cons, or_assoc]

/-- Words that spell choices, in any order and each choice in any of its spellings, are read as just these choices:
an option has the value that was chosen for it, one for which none was chosen has none, and the write mode is the
replacing one if that was chosen. The options are used at most once each. -/
theorem parse_of_choices {choices : List Choice} {pieces : List (List ByteArray)}
    (hspelled : List.Forall₂ Choice.SpelledBy choices pieces) (honce : (choices.map Choice.flag).Nodup)
    (htaken : ∀ choice ∈ choices, choice.IsTaken) :
    ∃ arguments, parse pieces.flatten = .ok arguments ∧
      (∀ path, arguments.config = some path ↔ .value .config path.bytes ∈ choices) ∧
      (∀ path, arguments.overrides.keyFile = some path ↔ .value .keys path.bytes ∈ choices) ∧
      (∀ path, arguments.overrides.template = some path ↔ .value .template path.bytes ∈ choices) ∧
      (∀ path, arguments.overrides.output = some path ↔ .value .output path.bytes ∈ choices) ∧
      (∀ level, arguments.overrides.logLevel = some level ↔ .value .logLevel level.toUTF8 ∈ choices) ∧
      arguments.overrides.writeMode = if .replace ∈ choices then some .replace else none := by
  have hnothing (choice : Choice) : ¬ ({} : Arguments).AsksFor choice := by
    cases choice with
    | value setting bytes => cases setting <;> exact nofun
    | replace => exact nofun
  obtain ⟨arguments, hread, hasked⟩ := readFrom_of_choices hspelled honce htaken
    fun _ _ other hother => absurd hother (hnothing other)
  have hchosen (choice : Choice) : choice ∈ choices ↔ arguments.AsksFor choice := by
    rw [hasked, or_iff_right (hnothing choice)]
  have hpath (field : Option Path) (path : Path) :
      field = some path ↔ field.map Path.bytes = some path.bytes := by
    have hinjective : Function.Injective Path.bytes := fun ⟨_⟩ ⟨_⟩ h => congrArg Path.mk h
    exact (Option.map_injective hinjective).eq_iff.symm
  have hlevel (level : String) :
      arguments.logLevel = some level ↔ arguments.logLevel.map String.toUTF8 = some level.toUTF8 := by
    have hinjective : Function.Injective String.toUTF8 := fun _ _ h => String.toByteArray_inj.mp h
    exact (Option.map_injective hinjective).eq_iff.symm
  refine ⟨arguments, hread, fun path => ?_, fun path => ?_, fun path => ?_, fun path => ?_, fun level => ?_, ?_⟩
  · rw [hchosen]
    exact hpath arguments.config path
  · rw [hchosen]
    exact hpath arguments.keys path
  · rw [hchosen]
    exact hpath arguments.template path
  · rw [hchosen]
    exact hpath arguments.output path
  · rw [hchosen]
    exact hlevel level
  · have hreplace : Choice.replace ∈ choices ↔ arguments.replace = true := hchosen .replace
    simp only [overrides, hreplace]

/-- Values that look like options, separators and nothing at all, and a path that is no text. -/
theorem parse_of_choices_lookalikes :
    let words := ["-o".toUTF8, "-".toUTF8, "--replace".toUTF8, "--keys==a b".toUTF8, "--log-level".toUTF8, "".toUTF8,
      "-c--keys=x".toUTF8, "-t=".toUTF8 ++ ⟨#[0xff]⟩]
    ∃ arguments, parse words = .ok arguments ∧ arguments.config = some (.ofString "--keys=x") ∧
      arguments.overrides.keyFile = some (.ofString "=a b") ∧ arguments.overrides.template = some ⟨⟨#[0xff]⟩⟩ ∧
      arguments.overrides.output = some (.ofString "-") ∧ arguments.overrides.logLevel = some "" ∧
      arguments.overrides.writeMode = some .replace := by
  intro words
  let choices : List Choice := [.value .output "-".toUTF8, .replace, .value .keys "=a b".toUTF8,
    .value .logLevel "".toUTF8, .value .config "--keys=x".toUTF8, .value .template ⟨#[0xff]⟩]
  let pieces := [["-o".toUTF8, "-".toUTF8], ["--replace".toUTF8], ["--keys==a b".toUTF8],
    ["--log-level".toUTF8, "".toUTF8], ["-c--keys=x".toUTF8], ["-t=".toUTF8 ++ ⟨#[0xff]⟩]]
  have hspelled : List.Forall₂ Choice.SpelledBy choices pieces := by
    refine .cons (.letterNext rfl (.inl rfl)) (.cons .replace (.cons ?_ (.cons ?_ (.cons ?_ (.cons ?_ .nil)))))
    · exact .nameEquals
    · exact .nameNext (.inr (by decide))
    · exact .letterAttached rfl (by decide)
    · exact .letterEquals rfl
  have htaken : ∀ choice ∈ choices, choice.IsTaken := by
    have houtput : "-".toUTF8 ≠ .empty := by decide
    have hkeys : "=a b".toUTF8 ≠ .empty := by decide
    have hconfig : "--keys=x".toUTF8 ≠ .empty := by decide
    have htemplate : (⟨#[0xff]⟩ : ByteArray) ≠ .empty := by decide
    simp only [choices, List.forall_mem_cons]
    exact ⟨houtput, trivial, hkeys, ⟨"", rfl⟩, hconfig, htemplate, nofun⟩
  obtain ⟨arguments, hparse, hconfig, hkeys, htemplate, houtput, hlevel, hmode⟩ :=
    parse_of_choices hspelled (by decide) htaken
  exact ⟨arguments, hparse, (hconfig _).mpr (by decide), (hkeys _).mpr (by decide), (htemplate _).mpr (by decide),
    (houtput _).mpr (by decide), (hlevel _).mpr (by decide), hmode.trans (by decide)⟩

end Arguments

end EnvSeed
