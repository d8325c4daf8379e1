import EnvSeed.Proofs.Command.FirstFailure
import EnvSeed.Proofs.Seeding.KeyGrammar

/-!
# Failures tell nothing of a key

What is said of a malformed key file depends on the number of its lines and, of the first two, on what stands up to
the first separator and on whether anything but blanks follows it. So files that differ in their keys alone are both
read, or both refused in the same words, and these are also all that an invocation tells of them.
-/

namespace EnvSeed

open Text (IsLeftmost isBlank)

/-- A result without its value. -/
def verdict {ε α : Type} (result : Except ε α) : Except ε Unit :=
  result.map fun _ => ()

/-- Two results with one verdict are the same failure, or both have a value. -/
theorem verdict_cases {ε α : Type} {result other : Except ε α} (h : verdict other = verdict result) :
    (∃ fault, result = .error fault ∧ other = .error fault) ∨
      ∃ value value', result = .ok value ∧ other = .ok value' := by
  cases result with
  | error fault =>
    cases other with
    | error fault' => exact .inl ⟨fault, rfl, congrArg Except.error (Except.error.inj h)⟩
    | ok value => cases h
  | ok value =>
    cases other with
    | error fault => cases h
    | ok value' => exact .inr ⟨value, value', rfl, rfl⟩

namespace KeyFile

/-- Two lines with the same up to the first separator, and both or neither with more than blanks behind it; or two
lines without a separator, whatever stands in them. -/
inductive SameOpening (line other : List Char) : Prop
  | bare (hnone : ¬separator <:+: line) (hnone' : ¬separator <:+: other)
  | labelled {before after after' : List Char} (hcut : IsLeftmost separator line before after)
      (hcut' : IsLeftmost separator other before after')
      (hblank : (∀ c ∈ after, isBlank c = true) ↔ ∀ c ∈ after', isBlank c = true)

/-- Two texts whose first two lines have the same openings, or both of less than two lines and of as many. -/
inductive SameOpenings (text other : List Char) : Prop
  | short (hnumber : (Text.lines other).length = (Text.lines text).length) (hshort : (Text.lines text).length < 2)
  | long {first second first' second' : List Char} {more more' : List (List Char)}
      (hlines : Text.lines text = first :: second :: more) (hlines' : Text.lines other = first' :: second' :: more')
      (hfirst : SameOpening first first') (hsecond : SameOpening second second')

/-- Lines with the same opening are refused alike, or both have a value. -/
theorem verdict_labelled {line other : List Char} (h : SameOpening line other) (accepted : List String) :
    verdict (labelled accepted other) = verdict (labelled accepted line) := by
  cases h with
  | bare hnone hnone' =>
    simp only [labelled, Text.cut?_eq_none_iff.mpr hnone, Text.cut?_eq_none_iff.mpr hnone']
  | @labelled before after after' hcut hcut' hblank =>
    have hempty : (Text.trim after').isEmpty = (Text.trim after).isEmpty := by
      rw [Bool.eq_iff_iff, List.isEmpty_iff, List.isEmpty_iff, Text.trim_eq_nil_iff, Text.trim_eq_nil_iff]
      exact hblank.symm
    simp only [labelled, Text.cut?_eq_some_iff.mpr hcut, Text.cut?_eq_some_iff.mpr hcut', hempty]
    split
    · rfl
    · split <;> rfl

/-- A text of less than two lines is refused for their number. -/
theorem parse_of_short {text : List Char} (h : (Text.lines text).length < 2) :
    parse text = .error (.tooFewLines (Text.lines text).length) := by
  unfold parse
  split
  · next first second more hlines =>
    rw [hlines, List.length_cons, List.length_cons] at h
    omega
  · rfl

/-- Texts whose lines have the same openings are refused alike, or both read. -/
theorem verdict_parse {text other : List Char} (h : SameOpenings text other) :
    verdict (parse other) = verdict (parse text) := by
  cases h with
  | short hnumber hshort =>
    rw [parse_of_short hshort, parse_of_short (hnumber ▸ hshort), hnumber]
  | long hlines hlines' hfirst hsecond =>
    simp only [parse, hlines, hlines']
    obtain ⟨fault, hone, htwo⟩ | ⟨_, _, hone, htwo⟩ := verdict_cases (verdict_labelled hfirst publicLabels)
    · simp only [hone, htwo]
    · obtain ⟨fault, hone', htwo'⟩ | ⟨_, _, hone', htwo'⟩ := verdict_cases (verdict_labelled hsecond privateLabels)
      · simp only [hone, htwo, hone', htwo']
      · simp only [hone, htwo, hone', htwo']
        rfl

/-- Files whose texts have the same openings are refused alike, or both loaded. -/
theorem verdict_load {text other : String} {files files' : FileSystem} {path : Path}
    (h : SameOpenings text.toList other.toList) (hread : files.readText path = .ok text)
    (hread' : files'.readText path = .ok other) : verdict (load files' path) = verdict (load files path) := by
  simp only [load, hread, hread']
  obtain ⟨fault, hone, htwo⟩ | ⟨_, _, hone, htwo⟩ := verdict_cases (verdict_parse h)
  · simp only [hone, htwo]
  · simp only [hone, htwo]
    rfl

end KeyFile

namespace Command

/-- The words of an invocation are acted on, and its first stages come to a plan, a filter and an override. -/
structure Prepared (environment : Environment) (files : FileSystem) (words : List ByteArray) (plan : Plan)
    (filter : LevelFilter) (override : Option String) : Prop where
  loaded : ∃ arguments, Arguments.parse words = .ok arguments ∧
    Plan.load environment files arguments.config arguments.overrides = .ok plan
  level : LevelFilter.parse plan.logLevel = .ok filter
  given : Secret.given environment plan.overrideVar = .ok override

/-- An invocation that comes to the run and cannot load its key file tells the plan and the failure. -/
theorem run_of_noKeys {environment : Environment} {files : FileSystem} {words : List ByteArray} {plan : Plan}
    {filter : LevelFilter} {override : Option String} {failure : Failure}
    (h : Prepared environment files words plan filter override)
    (hkeys : KeyFile.load files plan.keyFile = .error failure) (accepts : Bool) :
    run environment files accepts words = failed files (Event.log filter [configLoaded plan]) failure := by
  obtain ⟨⟨arguments, hwords, hplan⟩, hlevel, hgiven⟩ := h
  have hstop : Stop environment files arguments [settingsFile arguments, plan.keyFile]
      (Event.log filter [configLoaded plan]) failure := .seeding hplan hlevel hgiven (.keyFile hkeys)
  exact run_of_stop hwords hstop (.refl _ files) accepts

/-- Two texts of key files whose first two lines have the same openings, whatever else stands in these and in later
lines, are both loaded or refused with the same failure. Where they are refused, every run with either of them ends
with this failure, and every invocation that comes to the run prints it behind a log that tells the plan alone. -/
theorem failure_of_sameOpenings {text other : String} {files files' : FileSystem} {path : Path}
    (h : KeyFile.SameOpenings text.toList other.toList) (hread : files.readText path = .ok text)
    (hread' : files'.readText path = .ok other) :
    verdict (KeyFile.load files' path) = verdict (KeyFile.load files path) ∧
    ∀ failure, KeyFile.load files path = .error failure → ∀ ground ∈ [files, files'],
      (∀ environment plan override, plan.keyFile = path →
        Seeding.run environment ground plan override = ⟨.error failure, [], ground⟩) ∧
      ∀ environment words plan filter override accepts, Prepared environment ground words plan filter override →
        plan.keyFile = path → run environment ground accepts words =
          ⟨1, "", Event.log filter [configLoaded plan] ++ s!"error: {failure.message}\n", ground⟩ := by
  have hverdict := KeyFile.verdict_load h hread hread'
  refine ⟨hverdict, fun failure hfailure ground hground => ?_⟩
  have hkeys : KeyFile.load ground path = .error failure := by
    obtain ⟨fault, hone, htwo⟩ | ⟨keys, _, hone, -⟩ := verdict_cases hverdict
    · obtain rfl : failure = fault := Except.error.inj (hfailure.symm.trans hone)
      rw [List.mem_pair] at hground
      rcases hground with rfl | rfl
      · exact hone
      · exact htwo
    · rw [hfailure] at hone
      cases hone
  constructor
  · rintro environment plan override rfl
    have hstop : Seeding.Stop ground plan override [plan.keyFile] [] failure := .keyFile hkeys
    exact Seeding.run_of_stop hstop (.refl _ ground)
  · rintro environment words plan filter override accepts hprepared rfl
    exact run_of_noKeys hprepared hkeys accepts

/-- Two public keys, of which one has a separator in it, and two private keys, one without a label and one behind a
label and half a separator. -/
theorem failure_of_sameOpenings_bare :
    let holding (text : String) := (Seeding.sampleFiles "").store Seeding.sampleKeyFile (.file text.toUTF8 0o600)
    let first := holding "Public Key (Address): a: b\nk3\n"
    let second := holding "Public Key (Address): c\nPrivate Key:d\r\nx"
    let failure : Failure := .malformedKeyFile (.ofString "keys.txt") 2 "missing \x27label: value\x27 separator"
    let log := " INFO config loaded key_file=keys.txt template=.env.sample output=.env mode=append\n"
    run ⟨[], none⟩ first true [] = ⟨1, "", log ++ s!"error: {failure.message}\n", first⟩ ∧
      run ⟨[], none⟩ second true [] = ⟨1, "", log ++ s!"error: {failure.message}\n", second⟩ := by
  intro holding first second failure log
  let label := "Public Key (Address)".toList
  have hlines : Text.lines "Public Key (Address): a: b\nk3\n".toList =
      ["Public Key (Address): a: b".toList, ['k', '3']] := by decide +kernel
  have hlines' : Text.lines "Public Key (Address): c\nPrivate Key:d\r\nx".toList =
      ["Public Key (Address): c".toList, "Private Key:d".toList, ['x']] := by decide +kernel
  have hcut : IsLeftmost KeyFile.separator "Public Key (Address): a: b".toList label ['a', ':', ' ', 'b'] :=
    Text.cut?_eq_some_iff.mp (by decide +kernel)
  have hcut' : IsLeftmost KeyFile.separator "Public Key (Address): c".toList label ['c'] :=
    Text.cut?_eq_some_iff.mp (by decide +kernel)
  have hblank : ¬∀ c ∈ ['a', ':', ' ', 'b'], isBlank c = true := fun h => absurd (h 'a' (by simp)) (by decide)
  have hblank' : ¬∀ c ∈ ['c'], isBlank c = true := fun h => absurd (h 'c' (by simp)) (by decide)
  have hfirst : KeyFile.SameOpening "Public Key (Address): a: b".toList "Public Key (Address): c".toList :=
    .labelled hcut hcut' (iff_of_false hblank hblank')
  have hsecond : KeyFile.SameOpening ['k', '3'] "Private Key:d".toList := .bare (by decide +kernel) (by decide +kernel)
  have hread : first.readText (.ofString "keys.txt") = .ok "Public Key (Address): a: b\nk3\n" :=
    eq_ok_of_toOption (by decide +kernel)
  have hread' : second.readText (.ofString "keys.txt") = .ok "Public Key (Address): c\nPrivate Key:d\r\nx" :=
    eq_ok_of_toOption (by decide +kernel)
  have hkeys : KeyFile.load first (.ofString "keys.txt") = .error failure := by decide +kernel
  have hlog : Event.log (.upTo .info) [configLoaded {}] = log := by decide +kernel
  have hplan : Plan.load ⟨[], none⟩ first none {} = .ok {} := eq_ok_of_toOption (by decide +kernel)
  have hplan' : Plan.load ⟨[], none⟩ second none {} = .ok {} := eq_ok_of_toOption (by decide +kernel)
  have hlevel : LevelFilter.parse "info" = .ok (.upTo .info) := eq_ok_of_toOption (by decide +kernel)
  obtain ⟨-, hruns⟩ := failure_of_sameOpenings (.long hlines hlines' hfirst hsecond) hread hread'
  have hone := (hruns failure hkeys first (by simp)).2 ⟨[], none⟩ [] {} _ none true ⟨⟨{}, rfl, hplan⟩, hlevel, rfl⟩ rfl
  have htwo := (hruns failure hkeys second (by simp)).2 ⟨[], none⟩ [] {} _ none true ⟨⟨{}, rfl, hplan'⟩, hlevel, rfl⟩ rfl
  rw [← hlog]
  exact ⟨hone, htwo⟩

end Command

end EnvSeed
