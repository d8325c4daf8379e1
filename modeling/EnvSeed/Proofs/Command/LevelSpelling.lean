import EnvSeed.Proofs.Command.Stages
import EnvSeed.Proofs.Seeding.Stages
import Mathlib.Data.List.Forall2

/-!
# The spellings of log levels

A level is spelled by its rank, in digits of any number and with at most one plus sign before them, or by its name,
each letter small or capital. These spellings and no others are read, each as the level it spells. Every other text
ends an invocation before anything is logged, and a text that is read never does.
-/

namespace EnvSeed

namespace LevelFilter

/-- A number, written in digits with any number of zeros in front. -/
structure IsNumeral (digits : List Char) (number : Nat) : Prop where
  ne_nil : digits ≠ []
  isDigit : ∀ c ∈ digits, c.isDigit = true
  value : Nat.ofDigitChars 10 digits 0 = number

/-- A letter as it stands in a name, or its capital. -/
def IsCaseOf (c letter : Char) : Prop :=
  c = letter ∨ c = letter.toUpper

/-- The spellings of a filter. -/
inductive SpelledBy (filter : LevelFilter) : List Char → Prop
  | rank {digits : List Char} (h : IsNumeral digits filter.rank) : SpelledBy filter digits
  | signedRank {digits : List Char} (h : IsNumeral digits filter.rank) : SpelledBy filter ('+' :: digits)
  | name {letters : List Char} (h : List.Forall₂ IsCaseOf letters filter.name.toList) : SpelledBy filter letters

/-- Every filter is listed. -/
theorem mem_all (filter : LevelFilter) : filter ∈ all := by
  cases filter with
  | off => decide
  | upTo level => cases level <;> decide

/-- What can be decided of one filter can be decided of all, for they are listed. -/
instance {P : LevelFilter → Prop} [DecidablePred P] : Decidable (∀ filter, P filter) :=
  decidable_of_iff (∀ filter ∈ all, P filter) (forall_congr' fun filter => imp_iff_right (mem_all filter))

section Numerals

/-- More digits do not make a number smaller. -/
theorem le_ofDigitChars (digits : List Char) (number : Nat) : number ≤ Nat.ofDigitChars 10 digits number := by
  induction digits generalizing number with
  | nil => exact Nat.le_refl number
  | cons c rest ih =>
    rw [Nat.ofDigitChars_cons]
    exact Nat.le_trans (by omega) (ih _)

/-- After its zeros a number has at most one digit exactly if it is below ten. -/
theorem smallNumber?_eq {digits : List Char} (h : ∀ c ∈ digits, c.isDigit = true) :
    smallNumber? digits =
      if Nat.ofDigitChars 10 digits 0 < 10 then some (Nat.ofDigitChars 10 digits 0) else none := by
  induction digits with
  | nil => rfl
  | cons c rest ih =>
    by_cases hzero : c = '0'
    · -- A zero in front changes neither side.
      subst hzero
      exact ih fun d hd => h d (List.mem_cons_of_mem _ hd)
    · have hdrop : (c :: rest).dropWhile (· = '0') = c :: rest := by simp [hzero]
      obtain ⟨hlow, hhigh⟩ := Char.isDigit_iff_toNat.mp (h c List.mem_cons_self)
      have hpos : c.toNat ≠ '0'.toNat := fun heq => hzero (Char.toNat_inj.mp heq)
      have hnine : '9'.toNat = '0'.toNat + 9 := rfl
      rw [smallNumber?, hdrop]
      cases rest with
      | nil =>
        have hvalue : Nat.ofDigitChars 10 [c] 0 = c.toNat - '0'.toNat := by simp [Nat.ofDigitChars_cons]
        rw [hvalue, if_pos (by omega)]
      | cons d more =>
        have hten : 10 ≤ Nat.ofDigitChars 10 (c :: d :: more) 0 := by
          rw [Nat.ofDigitChars_cons, Nat.ofDigitChars_cons]
          exact Nat.le_trans (by omega) (le_ofDigitChars more _)
        rw [if_neg (Nat.not_lt.mpr hten)]

/-- The filters stand in the order of their ranks. -/
theorem getElem?_all_eq_some_iff {number : Nat} {filter : LevelFilter} :
    all[number]? = some filter ↔ number = filter.rank := by
  constructor
  · intro h
    obtain ⟨hlt, hfilter⟩ := List.getElem?_eq_some_iff.mp h
    subst hfilter
    have hlength : all.length = 6 := rfl
    rw [hlength] at hlt
    revert number
    decide
  · rintro rfl
    have hrank : ∀ filter : LevelFilter, all[filter.rank]? = some filter := by decide
    exact hrank filter

/-- The number of digits is a filter exactly if it is the rank of one. -/
theorem ofDigits_eq_some_iff {digits : List Char} {filter : LevelFilter} :
    (if digits.isEmpty || !digits.all Char.isDigit then none else (smallNumber? digits).bind (all[·]?)) = some filter ↔
      IsNumeral digits filter.rank := by
  by_cases hdigits : digits ≠ [] ∧ ∀ c ∈ digits, c.isDigit = true
  · obtain ⟨hne, hall⟩ := hdigits
    have hsmall : ∀ filter : LevelFilter, filter.rank < 10 := by decide
    rw [if_neg (by simpa [hne] using hall), smallNumber?_eq hall]
    constructor
    · intro h
      split at h
      · exact ⟨hne, hall, getElem?_all_eq_some_iff.mp h⟩
      · cases h
    · intro h
      rw [h.value, if_pos (hsmall filter)]
      exact getElem?_all_eq_some_iff.mpr rfl
  · rw [if_pos (by simpa [-not_and, not_and_or] using hdigits)]
    exact iff_of_false nofun fun h => hdigits ⟨h.ne_nil, h.isDigit⟩

/-- A plus sign is no digit. -/
theorem not_isNumeral_plus (digits : List Char) (number : Nat) : ¬ IsNumeral ('+' :: digits) number :=
  fun h => absurd (h.isDigit '+' List.mem_cons_self) (by decide)

/-- A text is read as a number exactly if it is one, with at most one plus sign before it. -/
theorem ofNumber?_eq_some_iff {text : List Char} {filter : LevelFilter} :
    ofNumber? text = some filter ↔
      IsNumeral text filter.rank ∨ ∃ digits, text = '+' :: digits ∧ IsNumeral digits filter.rank := by
  unfold ofNumber?
  split
  · next digits =>
    rw [ofDigits_eq_some_iff]
    constructor
    · exact fun h => .inr ⟨digits, rfl, h⟩
    · rintro (h | ⟨_, heq, h⟩)
      · exact absurd h (not_isNumeral_plus digits _)
      · rwa [(List.cons.inj heq).2]
  · next hplus =>
    rw [ofDigits_eq_some_iff]
    constructor
    · exact .inl
    · rintro (h | ⟨digits, heq, -⟩)
      · exact h
      · exact absurd heq (hplus digits)

end Numerals

section Names

/-- What becomes of a character when it is made small. -/
theorem toNat_toLower (c : Char) :
    c.toLower.toNat = if 65 ≤ c.toNat ∧ c.toNat ≤ 90 then c.toNat + 32 else c.toNat := by
  have hval : ('a'.val - 'A'.val).toNat = 32 := rfl
  unfold Char.toLower
  split
  · next h =>
    have hrange : 65 ≤ c.toNat ∧ c.toNat ≤ 90 := h
    rw [if_pos hrange, Char.toNat_mk, UInt32.toNat_add, hval, Char.toNat_val]
    omega
  · next h => exact (if_neg h).symm

/-- What becomes of a character when it is made a capital. -/
theorem toNat_toUpper (c : Char) :
    c.toUpper.toNat = if 97 ≤ c.toNat ∧ c.toNat ≤ 122 then c.toNat - 32 else c.toNat := by
  have hval : ('A'.val - 'a'.val).toNat = 2 ^ 32 - 32 := rfl
  unfold Char.toUpper
  split
  · next h =>
    have hrange : 97 ≤ c.toNat ∧ c.toNat ≤ 122 := h
    rw [if_pos hrange, Char.toNat_mk, UInt32.toNat_add, hval, Char.toNat_val]
    omega
  · next h => exact (if_neg h).symm

/-- The small letters by their numbers. -/
theorem isLower_iff_toNat {c : Char} : c.isLower = true ↔ 97 ≤ c.toNat ∧ c.toNat ≤ 122 := by
  have hrange : c.isLower = (decide (97 ≤ c.toNat) && decide (c.toNat ≤ 122)) := rfl
  rw [hrange, Bool.and_eq_true, decide_eq_true_eq, decide_eq_true_eq]

/-- The letters of a name are small. -/
theorem isLower_of_mem_name {filter : LevelFilter} : ∀ letter ∈ filter.name.toList, letter.isLower = true := by
  have hall : ∀ filter : LevelFilter, filter.name.toList.all Char.isLower = true := by decide
  exact List.all_eq_true.mp (hall filter)

/-- What becomes a small letter is that letter or its capital. -/
theorem toLower_eq_iff {c letter : Char} (h : letter.isLower = true) : c.toLower = letter ↔ IsCaseOf c letter := by
  have hsmall := isLower_iff_toNat.mp h
  rw [IsCaseOf, ← Char.toNat_inj, ← Char.toNat_inj, ← Char.toNat_inj, toNat_toLower, toNat_toUpper, if_pos hsmall]
  split <;> omega

/-- What becomes small letters has them one by one in either case. -/
theorem map_toLower_eq_iff {text letters : List Char} (h : ∀ letter ∈ letters, letter.isLower = true) :
    text.map Char.toLower = letters ↔ List.Forall₂ IsCaseOf text letters := by
  induction letters generalizing text with
  | nil => simp
  | cons letter rest ih =>
    cases text with
    | nil => simp
    | cons c text =>
      rw [List.map_cons, List.cons.injEq, List.forall₂_cons, toLower_eq_iff (h letter List.mem_cons_self),
        ih fun other hother => h other (List.mem_cons_of_mem _ hother)]

/-- A text is read as a name exactly if it is one in some case. -/
theorem ofName?_eq_some_iff {text : List Char} {filter : LevelFilter} :
    ofName? text = some filter ↔ List.Forall₂ IsCaseOf text filter.name.toList := by
  rw [← map_toLower_eq_iff isLower_of_mem_name]
  constructor
  · intro h
    unfold ofName? at h
    have hname := List.find?_some h
    exact (of_decide_eq_true hname).symm
  · intro h
    -- No two names are equal, so the search for a name ends at its own filter.
    have hfound : ∀ filter : LevelFilter,
        all.find? (fun other => other.name.toList = filter.name.toList) = some filter := by decide
    rw [ofName?, h, hfound]

/-- A name begins with a letter. -/
theorem head_of_name {text : List Char} {filter : LevelFilter}
    (h : List.Forall₂ IsCaseOf text filter.name.toList) : ∃ c rest, text = c :: rest ∧ 65 ≤ c.toNat := by
  have hname : ∀ filter : LevelFilter, filter.name.toList ≠ [] := by decide
  obtain ⟨letter, letters, hletters⟩ := List.exists_cons_of_ne_nil (hname filter)
  have hlower := isLower_of_mem_name letter (hletters ▸ List.mem_cons_self)
  rw [hletters] at h
  cases h with
  | @cons c _ rest _ hcase =>
    refine ⟨c, rest, rfl, ?_⟩
    have hsmall := (toLower_eq_iff hlower).mpr hcase
    rw [← Char.toNat_inj, toNat_toLower] at hsmall
    have hrange := isLower_iff_toNat.mp hlower
    split at hsmall <;> omega

/-- A name is no number. -/
theorem ofNumber?_of_name {text : List Char} {filter : LevelFilter}
    (h : List.Forall₂ IsCaseOf text filter.name.toList) : ofNumber? text = none := by
  obtain ⟨c, rest, rfl, hletter⟩ := head_of_name h
  refine Option.eq_none_iff_forall_ne_some.mpr fun other hother => ?_
  have hnine : '9'.toNat = 57 := rfl
  obtain hdigits | ⟨digits, hplus, -⟩ := ofNumber?_eq_some_iff.mp hother
  · have hdigit := Char.isDigit_iff_toNat.mp (hdigits.isDigit c List.mem_cons_self)
    omega
  · obtain ⟨rfl, -⟩ := List.cons.inj hplus
    exact absurd hletter (by decide)

end Names

section

variable {text : String} {filter : LevelFilter}

/-- A text is read as a filter exactly if it spells it. -/
theorem parse_eq_ok_iff : parse text = .ok filter ↔ filter.SpelledBy text.toList := by
  have hread : parse text = .ok filter ↔ (ofNumber? text.toList).or (ofName? text.toList) = some filter := by
    unfold parse
    split
    · next hempty =>
      have hunread : ∀ filter : LevelFilter, (ofNumber? "".toList).or (ofName? "".toList) ≠ some filter := by decide
      rw [String.isEmpty_iff.mp hempty]
      exact iff_of_false nofun (hunread filter)
    · cases (ofNumber? text.toList).or (ofName? text.toList) <;> simp
  rw [hread, Option.or_eq_some_iff, ofNumber?_eq_some_iff, ofName?_eq_some_iff]
  constructor
  · rintro ((h | ⟨digits, hplus, h⟩) | ⟨-, h⟩)
    · exact .rank h
    · exact hplus ▸ .signedRank h
    · exact .name h
  · intro h
    generalize text.toList = letters at h ⊢
    cases h with
    | rank h => exact .inl (.inl h)
    | signedRank h => exact .inl (.inr ⟨_, rfl, h⟩)
    | name h => exact .inr ⟨ofNumber?_of_name h, h⟩

/-- What is said of a text that spells no filter. -/
def rejection (text : String) : Failure :=
  .logger (if text.isEmpty then "log level must not be empty" else s!"unrecognised log level: '{text}'")

/-- A text that spells no filter is rejected, and no other text is. -/
theorem parse_eq_error_iff {failure : Failure} :
    parse text = .error failure ↔ failure = rejection text ∧ ∀ filter : LevelFilter, ¬ filter.SpelledBy text.toList := by
  have hcases : (∃ filter, parse text = .ok filter) ∨ parse text = .error (rejection text) := by
    unfold parse rejection
    split
    · exact .inr rfl
    · split
      · next filter _ => exact .inl ⟨filter, rfl⟩
      · exact .inr rfl
  constructor
  · intro h
    obtain ⟨filter, hfilter⟩ | hrejected := hcases
    · rw [hfilter] at h
      cases h
    · rw [hrejected] at h
      refine ⟨(Except.error.inj h).symm, fun filter hspelled => ?_⟩
      rw [parse_eq_ok_iff.mpr hspelled] at hrejected
      cases hrejected
  · rintro ⟨rfl, hnone⟩
    obtain ⟨filter, hfilter⟩ | hrejected := hcases
    · exact absurd (parse_eq_ok_iff.mp hfilter) (hnone filter)
    · exact hrejected

end

end LevelFilter

/-- What keeps a key file from being read has nothing to do with the log level. -/
theorem KeyFile.load_ne_logger {files : FileSystem} {path : Path} {failure : Failure}
    (h : load files path = .error failure) (reason : String) : failure ≠ .logger reason := by
  unfold load at h
  split at h
  · rw [← Except.error.inj h]
    exact nofun
  · split at h
    · next fault _ =>
      rw [← Except.error.inj h]
      cases fault <;> exact nofun
    · cases h

/-- What keeps a run from its report has nothing to do with the log level. -/
theorem Seeding.run_ne_logger {environment : Environment} {files : FileSystem} {plan : Plan}
    {override : Option String} {failure : Failure} (h : (run environment files plan override).result = .error failure)
    (reason : String) : failure ≠ .logger reason := by
  have hcourse := course_run environment files plan override
  generalize run environment files plan override = seeding at h hcourse
  cases hcourse with
  | noKeys hkeys =>
    obtain rfl := Except.error.inj h
    exact KeyFile.load_ne_logger hkeys reason
  | noTemplate _ htemplate =>
    obtain rfl := Except.error.inj h
    unfold readTemplate at htemplate
    split at htemplate
    · rw [← Except.error.inj htemplate]
      exact nofun
    · cases htemplate
  | @refused _ fault =>
    obtain rfl := Except.error.inj h
    cases fault <;> exact nofun
  | written => cases h

namespace Command

open LevelFilter (SpelledBy rejection)

/-- An invocation whose log level was accepted logs by it: what it tells begins with the events that the filter
shows, and if a failure ends it, then it is not one about the level. -/
def LogsBy (filter : LevelFilter) (plan : Plan) (outcome : Outcome) : Prop :=
  ∃ told ending, outcome.stderr = Event.log filter (configLoaded plan :: told) ++ ending ∧
    (ending = "" ∨ ∃ failure : Failure, ending = s!"error: {failure.message}\n" ∧ ∀ reason, failure ≠ .logger reason)

/-- The end of a run is no failure about the level. -/
theorem logsBy_finish (accepts : Bool) (filter : LevelFilter) (environment : Environment) (files : FileSystem)
    (plan : Plan) (override : Option String) :
    LogsBy filter plan (finish accepts filter plan (Seeding.run environment files plan override)) := by
  have hrun := @Seeding.run_ne_logger environment files plan override
  generalize Seeding.run environment files plan override = seeding at hrun ⊢
  refine ⟨seeding.events, ?_⟩
  unfold finish
  cases hresult : seeding.result with
  | error failure => exact ⟨errorLine failure, rfl, .inr ⟨failure, rfl, hrun hresult⟩⟩
  | ok report =>
    cases accepts with
    | true => exact ⟨"", String.append_empty.symm, .inl rfl⟩
    | false => exact ⟨errorLine _, rfl, .inr ⟨_, rfl, nofun⟩⟩

section

variable {environment : Environment} {files : FileSystem} {accepts : Bool} {words : List ByteArray}
  {arguments : Arguments} {plan : Plan}

/-- A level that is rejected ends an invocation before anything is logged. -/
theorem run_of_rejected {failure : Failure} (hwords : Arguments.parse words = .ok arguments)
    (hplan : Plan.load environment files arguments.config arguments.overrides = .ok plan)
    (hlevel : LevelFilter.parse plan.logLevel = .error failure) :
    run environment files accepts words = failed files "" failure := by
  simp only [run, hwords, execute, hplan, hlevel]

/-- A level that is accepted is logged by. -/
theorem logsBy_of_accepted {filter : LevelFilter} (hwords : Arguments.parse words = .ok arguments)
    (hplan : Plan.load environment files arguments.config arguments.overrides = .ok plan)
    (hlevel : LevelFilter.parse plan.logLevel = .ok filter) :
    LogsBy filter plan (run environment files accepts words) := by
  cases hgiven : Secret.given environment plan.overrideVar with
  | error failure =>
    have hstop : run environment files accepts words =
        failed files (Event.log filter [configLoaded plan]) failure := by
      simp only [run, hwords, execute, hplan, hlevel, hgiven]
    refine ⟨[], errorLine failure, by rw [hstop]; rfl, .inr ⟨failure, rfl, ?_⟩⟩
    unfold Secret.given at hgiven
    split at hgiven
    · cases hgiven
    · split at hgiven
      · rw [← Except.error.inj hgiven]
        simp
      · cases hgiven
  | ok override =>
    rw [run_of_given accepts hwords hplan hlevel hgiven]
    exact logsBy_finish accepts filter environment files plan override

end

/-- The levels that are accepted are those that spell a filter: its rank, or its name in any case, and nothing
around it. Every other text is rejected with a failure that names it. An invocation that has loaded its plan takes
up the level in the same way. A level that is rejected ends it with the same failure, and with nothing logged,
nothing printed and no file changed. With a level that is accepted it logs, and no later failure is one about
the level. -/
theorem accepted_iff_spelledBy (text : String) :
    (∀ filter, LevelFilter.parse text = .ok filter ↔ filter.SpelledBy text.toList) ∧
    (∀ failure, LevelFilter.parse text = .error failure ↔
      failure = rejection text ∧ ∀ filter : LevelFilter, ¬ filter.SpelledBy text.toList) ∧
    ∀ (environment : Environment) (files : FileSystem) (accepts : Bool) (words : List ByteArray)
      (arguments : Arguments) (plan : Plan), Arguments.parse words = .ok arguments →
      Plan.load environment files arguments.config arguments.overrides = .ok plan → plan.logLevel = text →
      let outcome := run environment files accepts words
      ((∀ filter : LevelFilter, ¬ filter.SpelledBy text.toList) →
        outcome = ⟨1, "", s!"error: {(rejection text).message}\n", files⟩) ∧
      ∀ filter : LevelFilter, filter.SpelledBy text.toList → LogsBy filter plan outcome := by
  refine ⟨fun filter => LevelFilter.parse_eq_ok_iff, fun failure => LevelFilter.parse_eq_error_iff, ?_⟩
  rintro environment files accepts words arguments plan hwords hplan rfl outcome
  constructor
  · intro hnone
    have hlevel := LevelFilter.parse_eq_error_iff.mpr ⟨rfl, hnone⟩
    exact (run_of_rejected hwords hplan hlevel).trans (by rw [failed, errorLine, String.empty_append])
  · intro filter hspelled
    exact logsBy_of_accepted hwords hplan (LevelFilter.parse_eq_ok_iff.mpr hspelled)

/-- A number that only a word of 64 bits would take for 5, and 5 with more zeros than such a word has digits. -/
theorem accepted_iff_spelledBy_long_numbers :
    let files := Seeding.sampleFiles "PRIVATE_KEY=\n"
    let zeros := "+000000000000000000000005"
    let beyond := "18446744073709551621"
    let runAt (level : String) := run ⟨[], none⟩ files true ["--log-level".toUTF8, level.toUTF8]
    (LevelFilter.upTo .trace).SpelledBy zeros.toList ∧ (∃ plan, LogsBy (.upTo .trace) plan (runAt zeros)) ∧
      runAt beyond = ⟨1, "", s!"error: logger error: unrecognised log level: '{beyond}'\n", files⟩ := by
  intro files zeros beyond runAt
  have hplan : Plan.load ⟨[], none⟩ files none { logLevel := some zeros } = .ok { logLevel := zeros } :=
    eq_ok_of_toOption (by decide +kernel)
  have hplan' : Plan.load ⟨[], none⟩ files none { logLevel := some beyond } = .ok { logLevel := beyond } :=
    eq_ok_of_toOption (by decide +kernel)
  have hwords : Arguments.parse ["--log-level".toUTF8, zeros.toUTF8] = .ok { logLevel := some zeros } :=
    eq_ok_of_toOption (by decide +kernel)
  have hwords' : Arguments.parse ["--log-level".toUTF8, beyond.toUTF8] = .ok { logLevel := some beyond } :=
    eq_ok_of_toOption (by decide +kernel)
  obtain ⟨hread, -, hrun⟩ := accepted_iff_spelledBy zeros
  obtain ⟨hread', -, hrun'⟩ := accepted_iff_spelledBy beyond
  have hspelled : (LevelFilter.upTo .trace).SpelledBy zeros.toList :=
    (hread _).mp (eq_ok_of_toOption (by decide +kernel))
  have hnone (filter : LevelFilter) : ¬ filter.SpelledBy beyond.toList := by
    have hrejected : (LevelFilter.parse beyond).toOption = none := by decide +kernel
    intro hfilter
    rw [(hread' filter).mpr hfilter] at hrejected
    cases hrejected
  exact ⟨hspelled, ⟨_, (hrun _ _ true _ _ _ hwords hplan rfl).2 _ hspelled⟩,
    (hrun' _ _ true _ _ _ hwords' hplan' rfl).1 hnone⟩

end Command

end EnvSeed
