import EnvSeed.Proofs.Dotenv.Faults
import EnvSeed.Proofs.Dotenv.Literal
import EnvSeed.Proofs.Seeding.Stages

/-!
# The check of an output that is appended to

A dotenv file that can be read and ends its last line has no say in whether what is appended to it can be read, and
its entries are counted with those that are appended. It can change what these evaluate to, but only where they read
a variable.
-/

namespace EnvSeed

namespace Dotenv

/-- What is counted and looked up in two files together. -/
def Summary.plus (first second : Summary) : Summary :=
  ⟨first.entries + second.entries, first.keyDefined || second.keyDefined⟩

/-- What is made of a file that begins with one of the summary `first` and goes on with `rest`: it has a summary if
`rest` alone has one, and then the entries of both; without a dollar sign in `rest` it is the sum of the two. -/
structure SumsUp (first : Summary) (rest : ByteArray) (alone whole : Option Summary) : Prop where
  entries : whole.map Summary.entries = alone.map fun second => first.entries + second.entries
  literal : 0x24 ∉ rest.data.toList → whole = alone.map first.plus

/-- Values of entries that read no variable are the same behind any others. -/
theorem foldl_define_of_not_reads (environment : Environment) {entries : List Entry}
    (h : ∀ entry ∈ entries, ∀ name, ¬entry.Reads name) (earlier : Values) :
    entries.foldl (define environment) earlier = values environment entries ++ earlier := by
  -- Whatever comes before an entry, its value is the one that it has by itself.
  have hdefine (before : Values) : ∀ entry ∈ entries, define environment before entry =
      define environment [] entry ++ before := by
    intro entry hentry
    have hvalue : evaluate (meaning environment before) entry.value = evaluate (meaning environment []) entry.value :=
      evaluate_congr fun name hname => absurd hname (h entry hentry name)
    rw [define, hvalue]
    rfl
  unfold values
  induction entries generalizing earlier with
  | nil => rfl
  | cons entry rest ih =>
    have hrest : ∀ other ∈ rest, ∀ name, ¬other.Reads name := fun other hother =>
      h other (List.mem_cons_of_mem entry hother)
    have hstep (before : Values) := ih hrest (define environment before entry) fun before' other hother =>
      hdefine before' other (List.mem_cons_of_mem entry hother)
    rw [List.foldl_cons, List.foldl_cons, hstep earlier, hstep [], hdefine earlier entry List.mem_cons_self,
      List.append_assoc]

/-- Entries behind others are counted with them. -/
theorem entries_summarize_append (environment : Environment) (key : String) (entries more : List Entry) :
    (summarize environment key (entries ++ more)).entries =
      (summarize environment key entries).entries + (summarize environment key more).entries :=
  List.length_append

/-- Entries that read no variable set a key if they do so behind others, or those do. -/
theorem summarize_append {environment : Environment} {key : String} {entries more : List Entry}
    (h : ∀ entry ∈ more, ∀ name, ¬entry.Reads name) :
    summarize environment key (entries ++ more) =
      (summarize environment key entries).plus (summarize environment key more) := by
  have hvalues : values environment (entries ++ more) = values environment more ++ values environment entries := by
    rw [values, List.foldl_append, foldl_define_of_not_reads environment h]
    rfl
  simp only [summarize, Summary.plus, hvalues, List.any_append, List.length_append, Bool.or_comm]

/-- The summaries of a file, of what it goes on with, and of both together sum up. -/
theorem sumsUp_parse (environment : Environment) (key : String) {front : ByteArray} {entries : List Entry}
    (hends : EndsLine front) (hfront : parse front = .ok entries) (rest : ByteArray) :
    SumsUp (summarize environment key entries) rest ((parse rest).toOption.map (summarize environment key))
      ((parse (front ++ rest)).toOption.map (summarize environment key)) := by
  rw [parse_append hends hfront rest]
  cases hrest : parse rest with
  | error fault => exact ⟨rfl, fun _ => rfl⟩
  | ok more =>
    refine ⟨congrArg some (entries_summarize_append environment key entries more), fun hbytes => ?_⟩
    exact congrArg some (summarize_append fun entry hentry => not_reads_of_not_mem hbytes hrest hentry)

end Dotenv

namespace Seeding

open Dotenv (EndsLine SumsUp inspect)

/-- Take a file that ends its last line, or is empty, and has a summary. Inspecting a file that begins with it sums up
its summary and the one of the rest alone. So does the check of a run that appends to an output with its content: what
is appended, the expansion of the template, adds its own entries to it. -/
theorem outputCheck_of_append {environment : Environment} {files : FileSystem} {path : Path} {key : String}
    {front : ByteArray} {summary : Dotenv.Summary} (hends : EndsLine front) (hread : files.read path = .ok front)
    (hsummary : (inspect environment files path key).1 = some summary) {rest : ByteArray} {files' : FileSystem}
    {path' : Path} (hrest : files'.read path' = .ok rest) :
    let alone := (inspect environment files' path' key).1
    (∀ (both : FileSystem) (path : Path), both.read path = .ok (front ++ rest) →
      SumsUp summary rest alone (inspect environment both path key).1) ∧
    ∀ (ground : FileSystem) (plan : Plan) (override : Option String) (draft : Draft) (place : Location),
      draft.ReadFrom ground plan override → draft.data plan = rest → plan.writeMode = .append →
      ground.writeTarget plan.output = .ok place → ground.IsRegular place → ground.contentAt place = front →
      checkedKey? plan.marker = some key →
      ∃ report, (run environment ground plan override).result = .ok report ∧
        SumsUp summary rest alone report.outputCheck := by
  intro alone
  have hwhole (both : FileSystem) (path : Path) (hboth : both.read path = .ok (front ++ rest)) :
      SumsUp summary rest alone (inspect environment both path key).1 := by
    rw [Dotenv.summary_inspect hread] at hsummary
    obtain ⟨entries, hentries, rfl⟩ := Option.map_eq_some_iff.mp hsummary
    have hfront : Dotenv.parse front = .ok entries := eq_ok_of_toOption hentries
    have halone : alone = _ := Dotenv.summary_inspect hrest
    rw [Dotenv.summary_inspect hboth, halone]
    exact Dotenv.sumsUp_parse environment key hends hfront rest
  refine ⟨hwhole, fun ground plan override draft place hdraft hdata happend htarget hregular hcontent hkey => ?_⟩
  have hwrite := FileSystem.tryWrite_of_regular plan.writeMode (draft.data plan) htarget hregular
  have hopen := FileSystem.open?_tryWrite_of_regular plan.writeMode (draft.data plan) htarget hregular
  rw [hwrite, happend, hdata, hcontent] at hopen
  have hcheck := hwhole _ plan.output (by rw [FileSystem.read, hopen]; rfl)
  refine ⟨_, congrArg Seeding.result (run_of_written hdraft hwrite), ?_⟩
  rw [report, summary_check hkey, happend, hdata, hcontent]
  exact hcheck

/-- An output whose first value goes over two lines, with a number sign at the start of the second one, and a value
over two lines that is appended to it. -/
theorem outputCheck_of_append_quoted :
    let front := "A=\x22x\n# y\x22 # z\nB=1 \n".toUTF8
    let rest := "C=\x27\n\x27\nPRIVATE_KEY=b\n".toUTF8
    let before := FileSystem.fresh.store sampleOutput (.file front 0o600)
    let appended := FileSystem.fresh.store sampleOutput (.file rest 0o600)
    let ground := (sampleFiles "C=\x27\n\x27\nPRIVATE_KEY=\n").store sampleOutput (.file front 0o600)
    (inspect ⟨[], none⟩ before (.ofString ".env") "PRIVATE_KEY").1 = some ⟨2, false⟩ ∧
      (inspect ⟨[], none⟩ appended (.ofString ".env") "PRIVATE_KEY").1 = some ⟨2, true⟩ ∧
      ∃ report, (run ⟨[], none⟩ ground {} none).result = .ok report ∧ report.outputCheck = some ⟨4, true⟩ := by
  intro front rest before appended ground
  have hbefore : (inspect ⟨[], none⟩ before (.ofString ".env") "PRIVATE_KEY").1 = some ⟨2, false⟩ := by decide +kernel
  have happended : (inspect ⟨[], none⟩ appended (.ofString ".env") "PRIVATE_KEY").1 = some ⟨2, true⟩ := by decide +kernel
  have hread : before.read (.ofString ".env") = .ok front := eq_ok_of_toOption (by decide +kernel)
  have hrest : appended.read (.ofString ".env") = .ok rest := eq_ok_of_toOption (by decide +kernel)
  have hdraft : Draft.ReadFrom ground {} none
      ⟨⟨"a", "b"⟩, "C=\x27\n\x27\nPRIVATE_KEY=\n", ⟨"b", .keyFile (.ofString "keys.txt")⟩⟩ :=
    ⟨eq_ok_of_toOption (by decide +kernel), eq_ok_of_toOption (by decide +kernel), by decide +kernel⟩
  have hregular : ground.IsRegular sampleOutput := .inr ⟨front, 0o600, by decide +kernel⟩
  have htarget : ground.writeTarget (.ofString ".env") = .ok sampleOutput := eq_ok_of_toOption (by decide +kernel)
  obtain ⟨report, hreport, hsum⟩ := (outputCheck_of_append (by decide +kernel) hread hbefore hrest).2 ground {} none _
    sampleOutput hdraft (by decide +kernel) rfl htarget hregular (by decide +kernel) (by decide +kernel)
  refine ⟨hbefore, happended, report, hreport, ?_⟩
  rw [hsum.literal (by decide +kernel), happended]
  rfl

end Seeding

end EnvSeed
