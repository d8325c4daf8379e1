import EnvSeed.Proofs.Seeding.Rendering
import EnvSeed.Proofs.Text.Pieces

/-!
# Reports read back from their text

Where no name, path or key in it breaks a line, the text of a report falls into its lines in one way, and each line
into its parts, whatever stands in them: what is free text has a fixed wording on at most one side that it could run
into. So reports with one text agree in all that is told in lines of their own. Only of the marker, the template and
the key that is checked the text does not tell where they begin and end.
-/

namespace EnvSeed

namespace Text

/-- A text without a line feed. -/
def IsOneLine (text : String) : Prop :=
  '\n' ∉ text.toList

instance (text : String) : Decidable (IsOneLine text) :=
  inferInstanceAs (Decidable ('\n' ∉ text.toList))

/-- Texts one after the other are on one line exactly if each of them is. -/
theorem isOneLine_append {text more : String} : IsOneLine (text ++ more) ↔ IsOneLine text ∧ IsOneLine more := by
  rw [IsOneLine, String.toList_append, List.mem_append, not_or]
  exact Iff.rfl

/-- A number is on one line. -/
theorem isOneLine_repr (n : Nat) : IsOneLine n.repr := by
  rw [IsOneLine, Nat.toList_repr]
  exact not_mem_toDigits rfl n

/-- What begins with different characters is different, whatever follows. -/
theorem append_ne_append {opening other : String} {c d : Char} (hopening : opening.toList.head? = some c)
    (hother : other.toList.head? = some d) (hne : c ≠ d) (rest more : String) : opening ++ rest ≠ other ++ more := by
  intro h
  have hhead := congrArg (·.toList.head?) h
  simp only [String.toList_append, List.head?_append, hopening, hother, Option.some_or, Option.some.injEq] at hhead
  exact hne hhead

end Text

/-- A path that is text on one line. -/
def Path.IsOneLine (path : Path) : Prop :=
  ∃ text, path = .ofString text ∧ Text.IsOneLine text

namespace Path.IsOneLine

/-- Such a path shows on one line. -/
theorem display {path : Path} (h : path.IsOneLine) : Text.IsOneLine path.display := by
  obtain ⟨text, rfl, htext⟩ := h
  rwa [display_ofString]

/-- Such paths are equal if they show as the same text. -/
theorem eq_of_display_eq {path other : Path} (h : path.IsOneLine) (hother : other.IsOneLine)
    (heq : path.display = other.display) : path = other := by
  obtain ⟨text, rfl, -⟩ := h
  obtain ⟨text', rfl, -⟩ := hother
  rw [display_ofString, display_ofString] at heq
  rw [heq]

end Path.IsOneLine

/-- A source whose path or variable is text on one line. -/
def SecretSource.IsOneLine : SecretSource → Prop
  | keyFile path => path.IsOneLine
  | environment name => Text.IsOneLine name

namespace SecretSource.IsOneLine

/-- Such a source shows on one line. -/
theorem text {source : SecretSource} (h : source.IsOneLine) : Text.IsOneLine source.text := by
  cases source with
  | keyFile path => exact Text.isOneLine_append.mpr ⟨by decide, Path.IsOneLine.display h⟩
  | environment name => exact Text.isOneLine_append.mpr ⟨by decide, h⟩

/-- Such sources are equal if they show as the same text. -/
theorem eq_of_text_eq {source other : SecretSource} (h : source.IsOneLine) (hother : other.IsOneLine)
    (heq : source.text = other.text) : source = other := by
  cases source with
  | keyFile path =>
    cases other with
    | keyFile path' =>
      have hpath : path.display = path'.display := (String.append_right_inj "key file ").mp heq
      rw [Path.IsOneLine.eq_of_display_eq h hother hpath]
    | environment name => exact absurd heq (Text.append_ne_append rfl rfl (by decide) _ _)
  | environment name =>
    cases other with
    | keyFile path' => exact absurd heq (Text.append_ne_append rfl rfl (by decide) _ _)
    | environment name' =>
      have hname : name = name' := (String.append_right_inj "environment variable ").mp heq
      rw [hname]

end SecretSource.IsOneLine

namespace Report

/-- A report whose texts are each on one line. -/
structure IsOneLine (report : Report) : Prop where
  verificationKey : Text.IsOneLine report.verificationKey
  source : report.source.IsOneLine
  fingerprint : Text.IsOneLine report.fingerprint
  template : report.template.IsOneLine
  output : report.output.IsOneLine
  marker : Text.IsOneLine report.marker
  checkedKey : ∀ key ∈ report.checkedKey, Text.IsOneLine key

/-- Lines are read back from their text. -/
theorem text_inj {lines more : List String} (hlines : ∀ line ∈ lines, Text.IsOneLine line)
    (hmore : ∀ line ∈ more, Text.IsOneLine line) (h : text lines = text more) : lines = more := by
  have hcons (line : String) (rest : List String) :
      (text (line :: rest)).toList = line.toList ++ '\n' :: (text rest).toList := by
    rw [text_cons, String.toList_append, String.toList_append, List.append_assoc]
    rfl
  have hne (line : String) (rest : List String) : text [] ≠ text (line :: rest) := by
    intro hempty
    have hlist := (congrArg String.toList hempty).trans (hcons line rest)
    exact List.append_ne_nil_of_right_ne_nil _ (List.cons_ne_nil _ _) hlist.symm
  induction lines generalizing more with
  | nil =>
    cases more with
    | nil => rfl
    | cons line rest => exact absurd h (hne line rest)
  | cons line rest ih =>
    cases more with
    | nil => exact absurd h.symm (hne line rest)
    | cons line' rest' =>
      have hlist := congrArg String.toList h
      rw [hcons, hcons] at hlist
      obtain ⟨hline, hrest⟩ := Text.append_first_mark_inj hlist (hlines line List.mem_cons_self)
        (hmore line' List.mem_cons_self)
      rw [String.toList_inj.mp hline, ih (fun other hother => hlines other (List.mem_cons_of_mem _ hother))
        (fun other hother => hmore other (List.mem_cons_of_mem _ hother)) (String.toList_inj.mp hrest)]

/-- The number of entries that the text tells, if it tells of a check. -/
def entriesTold (report : Report) : Option Nat :=
  match report.outputCheck, report.checkedKey with
  | some check, some _ => some check.entries
  | _, _ => none

section

variable {report other : Report}

/-- The line about a check begins with the number of entries. -/
theorem checkLines_cases (report : Report) :
    (report.entriesTold = none ∧ report.checkLines = []) ∨
    ∃ entries key keyDefined, report.entriesTold = some entries ∧ report.checkedKey = some key ∧
      report.checkLines = ["  dotenv check   : " ++ entries.repr ++ " entries, " ++ key ++ " " ++ state keyDefined] := by
  cases hcheck : report.outputCheck with
  | none => exact .inl (by simp only [entriesTold, checkLines, hcheck, and_self])
  | some check =>
    cases hkey : report.checkedKey with
    | none => exact .inl (by simp only [entriesTold, checkLines, hcheck, hkey, and_self])
    | some key =>
      refine .inr ⟨check.entries, key, check.keyDefined, by simp only [entriesTold, hcheck, hkey], rfl, ?_⟩
      rw [checkLines_of_summary hkey hcheck]
      rfl

/-- The line about a check begins with a blank. -/
theorem head_checkLines (report : Report) : ∀ line ∈ report.checkLines, line.toList.head? = some ' ' := by
  obtain ⟨-, hlines⟩ | ⟨entries, key, keyDefined, -, -, hlines⟩ := report.checkLines_cases
  · simp [hlines]
  · rw [hlines]
    intro line hline
    rw [List.mem_singleton.mp hline]
    simp only [String.toList_append, List.append_assoc]
    rfl

/-- The line about a marker begins with an exclamation mark. -/
theorem head_markerLines (report : Report) : ∀ line ∈ report.markerLines, line.toList.head? = some '!' := by
  intro line hline
  unfold markerLines at hline
  split at hline
  · cases hline
  · rw [List.mem_singleton.mp hline]
    simp only [toString, String.toList_append, List.append_assoc]
    rfl

/-- The line about a marker is there exactly if the marker was not found. -/
theorem markerLines_eq_nil_iff : report.markerLines = [] ↔ report.markerFound = true := by
  unfold markerLines
  cases report.markerFound <;> simp

/-- The lines about the check and the marker are told apart by how they begin. -/
theorem checkLines_eq_of_append_eq
    (h : report.checkLines ++ report.markerLines = other.checkLines ++ other.markerLines) :
    report.checkLines = other.checkLines ∧ report.markerLines = other.markerLines := by
  have hfilter (report : Report) :
      (report.checkLines ++ report.markerLines).filter (fun line => line.toList.head? = some ' ') =
        report.checkLines := by
    have hcheck : report.checkLines.filter (fun line => line.toList.head? = some ' ') = report.checkLines :=
      List.filter_eq_self.mpr fun line hline => by simp [report.head_checkLines line hline]
    have hmarker : report.markerLines.filter (fun line => line.toList.head? = some ' ') = [] :=
      List.filter_eq_nil_iff.mpr fun line hline => by simp [report.head_markerLines line hline]
    rw [List.filter_append, hcheck, hmarker, List.append_nil]
  have hcheck : report.checkLines = other.checkLines := by rw [← hfilter report, h, hfilter other]
  rw [hcheck] at h
  exact ⟨hcheck, List.append_cancel_left h⟩

/-- The line about a check tells the number of entries, whatever the key is. -/
theorem entriesTold_eq (h : report.checkLines = other.checkLines) : report.entriesTold = other.entriesTold := by
  obtain ⟨htold, hlines⟩ | ⟨entries, key, keyDefined, htold, -, hlines⟩ := report.checkLines_cases
  · obtain ⟨htold', -⟩ | ⟨_, _, _, -, -, hlines'⟩ := other.checkLines_cases
    · rw [htold, htold']
    · rw [hlines, hlines'] at h
      cases h
  · obtain ⟨-, hlines'⟩ | ⟨entries', key', keyDefined', htold', -, hlines'⟩ := other.checkLines_cases
    · rw [hlines, hlines'] at h
      cases h
    · rw [hlines, hlines', List.singleton_inj] at h
      have hblank : " entries, ".toList = ' ' :: "entries, ".toList := rfl
      have hlist := congrArg String.toList h
      simp only [String.toList_append, List.append_assoc, Nat.toList_repr, hblank, List.cons_append] at hlist
      -- The digits of the number end at the first blank.
      obtain ⟨hdigits, -⟩ := Text.append_first_mark_inj (List.append_cancel_left hlist)
        (Text.not_mem_toDigits rfl entries) (Text.not_mem_toDigits rfl entries')
      rw [htold, htold', Text.toDigits_inj hdigits]

/-- The line about the output by its parts. -/
theorem outputLine_eq (report : Report) : report.outputLine = "  output         : " ++ report.output.display ++ " (" ++
    (report.writeMode.name ++ (", " ++ report.bytesWritten.repr)) ++ " bytes)" := by
  have hparts : report.outputLine = "  output         : " ++ report.output.display ++ " (" ++
      report.writeMode.name ++ ", " ++ report.bytesWritten.repr ++ " bytes)" := rfl
  rw [hparts]
  simp only [String.append_assoc]

/-- The line about an output tells the mode and the number of bytes. -/
theorem written_eq_of_outputLine_eq (houtput : report.output = other.output)
    (h : report.outputLine = other.outputLine) :
    report.writeMode = other.writeMode ∧ report.bytesWritten = other.bytesWritten := by
  rw [outputLine_eq, outputLine_eq, houtput, String.append_left_inj, String.append_right_inj] at h
  have hmode : report.writeMode = other.writeMode := by
    cases hone : report.writeMode <;> cases htwo : other.writeMode
    · rfl
    · rw [hone, htwo] at h
      exact absurd h (Text.append_ne_append rfl rfl (by decide) _ _)
    · rw [hone, htwo] at h
      exact absurd h (Text.append_ne_append rfl rfl (by decide) _ _)
    · rfl
  rw [hmode, String.append_right_inj, String.append_right_inj] at h
  have hdigits := congrArg String.toList h
  rw [Nat.toList_repr, Nat.toList_repr] at hdigits
  exact ⟨hmode, Text.toDigits_inj hdigits⟩

/-- Every line of such a report is one line. -/
theorem IsOneLine.lines (h : report.IsOneLine) : ∀ line ∈ report.lines, Text.IsOneLine line := by
  have hhead : ∀ line ∈ report.headLines, Text.IsOneLine line := by
    have hwording : Text.IsOneLine "✓ " ∧ Text.IsOneLine " bootstrapped" ∧ Text.IsOneLine "  public key     : " ∧
        Text.IsOneLine "  private key    : from " := by decide
    simp [headLines, toString, Text.isOneLine_append, h.output.display, h.verificationKey, h.source.text, hwording]
  have hfingerprint : Text.IsOneLine ("  fingerprint    : " ++ report.fingerprint) :=
    Text.isOneLine_append.mpr ⟨by decide, h.fingerprint⟩
  have houtput : Text.IsOneLine report.outputLine := by
    have hmode : Text.IsOneLine report.writeMode.name := by cases report.writeMode <;> decide
    have hwording : Text.IsOneLine "  output         : " ∧ Text.IsOneLine " (" ∧ Text.IsOneLine ", " ∧
        Text.IsOneLine " bytes)" := by decide
    simp [outputLine_eq, Text.isOneLine_append, Text.isOneLine_repr, h.output.display, hmode, hwording]
  have hcheck : ∀ line ∈ report.checkLines, Text.IsOneLine line := by
    obtain ⟨-, hlines⟩ | ⟨entries, key, keyDefined, -, hkey, hlines⟩ := report.checkLines_cases
    · simp [hlines]
    · have hstate : Text.IsOneLine (state keyDefined) := by cases keyDefined <;> decide
      have hwording : Text.IsOneLine "  dotenv check   : " ∧ Text.IsOneLine " entries, " ∧ Text.IsOneLine " " := by
        decide
      simp [hlines, Text.isOneLine_append, Text.isOneLine_repr, h.checkedKey key hkey, hstate, hwording]
  have hmarker : ∀ line ∈ report.markerLines, Text.IsOneLine line := by
    have hwording : Text.IsOneLine "! marker '" ∧ Text.IsOneLine "' not found in " ∧
        Text.IsOneLine "; template written unchanged" := by decide
    unfold markerLines
    split
    · exact nofun
    · simp [toString, Text.isOneLine_append, h.marker, h.template.display, hwording]
  rw [lines_eq, List.forall_mem_append, List.forall_mem_cons, List.forall_mem_cons, List.forall_mem_append]
  exact ⟨hhead, hfingerprint, houtput, hcheck, hmarker⟩

end

/-- Reports whose names, paths and keys are text on one line each, and which have one text, have the same output,
public key, source of the secret, fingerprint, mode and number of bytes. Both found the marker or both did not. And
both tell of a check, with the same number of entries, or neither does. -/
theorem eq_of_render_eq {one two : Report} (hone : one.IsOneLine) (htwo : two.IsOneLine)
    (h : one.render = two.render) :
    one.output = two.output ∧ one.verificationKey = two.verificationKey ∧ one.source = two.source ∧
    one.fingerprint = two.fingerprint ∧ one.writeMode = two.writeMode ∧ one.bytesWritten = two.bytesWritten ∧
    one.markerFound = two.markerFound ∧ one.entriesTold = two.entriesTold := by
  have hlines : one.lines = two.lines := text_inj hone.lines htwo.lines h
  rw [lines_eq, lines_eq] at hlines
  simp only [headLines, List.cons_append, List.nil_append, List.cons.injEq] at hlines
  obtain ⟨hbanner, hkey, hsource, hfingerprint, houtputLine, hrest⟩ := hlines
  obtain ⟨hcheck, hmarker⟩ := checkLines_eq_of_append_eq hrest
  have houtput : one.output = two.output := by
    refine hone.output.eq_of_display_eq htwo.output ?_
    exact (String.append_right_inj "✓ ").mp ((String.append_left_inj " bootstrapped").mp hbanner)
  obtain ⟨hmode, hbytes⟩ := written_eq_of_outputLine_eq houtput houtputLine
  refine ⟨houtput, (String.append_right_inj _).mp hkey, ?_, (String.append_right_inj _).mp hfingerprint, hmode,
    hbytes, ?_, entriesTold_eq hcheck⟩
  · exact hone.source.eq_of_text_eq htwo.source ((String.append_right_inj "  private key    : from ").mp hsource)
  · rw [Bool.eq_iff_iff, ← markerLines_eq_nil_iff, ← markerLines_eq_nil_iff, hmarker]

/-- Two reports with one text, which differ in the marker, the template, the key and whether it is set. -/
theorem eq_of_render_eq_moved_wording :
    let one : Report := ⟨"a (append, 4 bytes)", .environment "V", "00", .ofString "t' not found in t",
      .ofString "x bootstrapped", .append, "M", false, 4, some ⟨1, true⟩, some "K not"⟩
    let two : Report := ⟨"a (append, 4 bytes)", .environment "V", "00", .ofString "t",
      .ofString "x bootstrapped", .append, "M' not found in t", false, 4, some ⟨1, false⟩, some "K"⟩
    one ≠ two ∧ one.IsOneLine ∧ two.IsOneLine ∧ one.render = two.render ∧ one.output = two.output ∧
      one.source = two.source ∧ one.entriesTold = two.entriesTold := by
  intro one two
  have hpath (text : String) (h : Text.IsOneLine text) : (Path.ofString text).IsOneLine := ⟨text, rfl, h⟩
  have hvariable : Text.IsOneLine "V" := by decide
  have hone : one.IsOneLine :=
    ⟨by decide, hvariable, by decide, hpath _ (by decide), hpath _ (by decide), by decide, by decide⟩
  have htwo : two.IsOneLine :=
    ⟨by decide, hvariable, by decide, hpath _ (by decide), hpath _ (by decide), by decide, by decide⟩
  have hrender : one.render = two.render := by decide +kernel
  obtain ⟨houtput, -, hsource, -, -, -, -, hentries⟩ := eq_of_render_eq hone htwo hrender
  exact ⟨by decide +kernel, hone, htwo, hrender, houtput, hsource, hentries⟩

end Report

end EnvSeed
