import EnvSeed.Seeding.Report

/-!
# The text of a report

The text of a report comes in five pieces: what stands above the fingerprint, the fingerprint, the line about the
output, the line about the check of the output, and the line about the marker. Of a secret only the second and
the fourth piece can tell anything.
-/

namespace EnvSeed

namespace Report

/-- Lines, each with its end. -/
def text (lines : List String) : String :=
  String.join (lines.map (· ++ "\n"))

/-- The text of lines and more lines. -/
theorem text_append (lines more : List String) : text (lines ++ more) = text lines ++ text more := by
  simp only [text, List.map_append, String.join_append]

/-- The text of a line and more lines. -/
theorem text_cons (line : String) (lines : List String) : text (line :: lines) = line ++ "\n" ++ text lines := by
  simp only [text, List.map_cons, String.join_cons]

/-- The lines above the fingerprint. -/
def headLines (report : Report) : List String :=
  [s!"✓ {report.output.display} bootstrapped", s!"  public key     : {report.verificationKey}",
    s!"  private key    : from {report.source.text}"]

/-- The line about the output. -/
def outputLine (report : Report) : String :=
  s!"  output         : {report.output.display} ({report.writeMode.name}, {report.bytesWritten} bytes)"

/-- What stands in front of the fingerprint. -/
def opening (report : Report) : String :=
  text report.headLines ++ "  fingerprint    : "

/-- What stands between the fingerprint and the check of the output. -/
def middle (report : Report) : String :=
  "\n" ++ report.outputLine ++ "\n"

/-- The lines of a report by what they are about. -/
theorem lines_eq (report : Report) : report.lines =
    report.headLines ++ (("  fingerprint    : " ++ report.fingerprint) :: report.outputLine ::
      (report.checkLines ++ report.markerLines)) := rfl

/-- The five pieces of the text of a report. -/
theorem render_eq (report : Report) : report.render =
    report.opening ++ report.fingerprint ++ report.middle ++ text report.checkLines ++ text report.markerLines := by
  calc
    report.render = text report.lines := rfl
    _ = text report.headLines ++ ("  fingerprint    : " ++ report.fingerprint ++ "\n" ++
          (report.outputLine ++ "\n" ++ (text report.checkLines ++ text report.markerLines))) := by
        rw [lines_eq, text_append, text_cons, text_cons, text_append]
    _ = report.opening ++ report.fingerprint ++ report.middle ++ text report.checkLines ++
          text report.markerLines := by
        simp only [opening, middle, String.append_assoc]

/-- Reports that differ in the fingerprint and the check alone have the other three pieces in common. -/
theorem pieces_eq {report other : Report}
    (h : { report with fingerprint := other.fingerprint, outputCheck := other.outputCheck } = other) :
    other.opening = report.opening ∧ other.middle = report.middle ∧ other.markerLines = report.markerLines := by
  rw [← h]
  exact ⟨rfl, rfl, rfl⟩

/-- How a line says whether the key is set. -/
def state (keyDefined : Bool) : String :=
  if keyDefined then "set" else "not set"

/-- What is said of a key that is set is not said of one that is not. -/
theorem state_injective {one two : Bool} (h : state one = state two) : one = two := by
  revert one two
  decide

/-- With a summary and a key there is one line about the check. -/
theorem checkLines_of_summary {report : Report} {key : String} {summary : Dotenv.Summary}
    (hkey : report.checkedKey = some key) (hcheck : report.outputCheck = some summary) :
    report.checkLines =
      [s!"  dotenv check   : {summary.entries} entries, {key} " ++ state summary.keyDefined] := by
  simp only [checkLines, hkey, hcheck]
  rfl

/-- The line about a check tells whether the key is set. -/
theorem summary_eq_of_render_eq {report : Report} {key : String} {one two : Dotenv.Summary}
    (hkey : report.checkedKey = some key) (hentries : one.entries = two.entries)
    (h : { report with outputCheck := some one }.render = { report with outputCheck := some two }.render) :
    one = two := by
  have hlines (summary : Dotenv.Summary) : { report with outputCheck := some summary }.checkLines =
      [s!"  dotenv check   : {summary.entries} entries, {key} " ++ state summary.keyDefined] :=
    checkLines_of_summary hkey rfl
  obtain ⟨hopening, hmiddle, hmarker⟩ :=
    @pieces_eq { report with outputCheck := some one } { report with outputCheck := some two } rfl
  rw [render_eq, render_eq, hopening, hmiddle, hmarker, String.append_left_inj, String.append_right_inj,
    hlines, hlines, text_cons, text_cons, String.append_left_inj, String.append_left_inj, hentries,
    String.append_right_inj] at h
  cases one
  cases two
  exact congr (congrArg Dotenv.Summary.mk hentries) (state_injective h)

end Report

end EnvSeed
