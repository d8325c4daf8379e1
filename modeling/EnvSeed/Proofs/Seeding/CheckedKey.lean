import EnvSeed.Plan.Load
import EnvSeed.Proofs.Dotenv.Entries
import EnvSeed.Proofs.Dotenv.Faults
import EnvSeed.Proofs.Dotenv.Yields
import EnvSeed.Proofs.Seeding.Rendering
import EnvSeed.Proofs.Seeding.Stages

/-!
# The key that an output is checked for

Whatever stands before the equals sign at the end of a marker is taken for a key, though it need not be one: a marker
may begin with `export`, or with what ends the line before. The check of such a key counts the entries of the output
and never finds the key, also where the output sets what the marker assigns.
-/

namespace EnvSeed.Seeding

/-- A marker is checked for what stands before the equals sign at its end. -/
theorem checkedKey?_eq_some_iff {marker key : String} : checkedKey? marker = some key ↔ marker = key ++ "=" := by
  constructor
  · intro h
    unfold checkedKey? at h
    split at h
    · next rest hreverse =>
      obtain rfl := Option.some.inj h
      have hmarker : marker.toList = rest.reverse ++ ['='] := by
        rw [← List.reverse_reverse marker.toList, hreverse, List.reverse_cons]
      rw [← String.toList_inj, hmarker, String.toList_append, String.toList_ofList]
      rfl
    · cases h
  · rintro rfl
    simp [checkedKey?]

variable {environment : Environment} {files : FileSystem} {plan : Plan} {override : Option String}

/-- A check comes to a summary exactly if the marker has a key and what is in the output is read to entries. -/
theorem check_eq_some_iff {bytes : ByteArray} (hread : files.read plan.output = .ok bytes) {summary : Dotenv.Summary} :
    (check environment files plan).1 = some summary ↔ ∃ key entries, plan.marker = key ++ "=" ∧
      Dotenv.parse bytes = .ok entries ∧ summary = Dotenv.summarize environment key entries := by
  simp only [← checkedKey?_eq_some_iff]
  constructor
  · intro h
    cases hkey : checkedKey? plan.marker with
    | none =>
      rw [check, hkey] at h
      cases h
    | some key =>
      rw [summary_check hkey, Dotenv.summary_inspect hread, Option.map_eq_some_iff] at h
      obtain ⟨entries, hentries, rfl⟩ := h
      exact ⟨key, entries, rfl, eq_ok_of_toOption hentries, rfl⟩
  · rintro ⟨key, entries, hkey, hparse, rfl⟩
    rw [summary_check hkey, Dotenv.summary_inspect hread, hparse]
    rfl

/-- Entries never set what is not a key. -/
theorem keyDefined_eq_false {key : String} {bytes : ByteArray} {entries : List Dotenv.Entry}
    (hkey : Dotenv.isKey key.toList = false) (hparse : Dotenv.parse bytes = .ok entries) :
    (Dotenv.summarize environment key entries).keyDefined = false := by
  cases hdefined : (Dotenv.summarize environment key entries).keyDefined with
  | false => rfl
  | true =>
    have hexists := (Dotenv.isKey_iff_exists_keyDefined environment key).mpr ⟨bytes, entries, hparse, hdefined⟩
    rw [hexists] at hkey
    cases hkey

/-- The output of a run that brings a report can be read back. Its check comes to a summary exactly if the marker ends
with an equals sign and what is in the output is read to entries. Some file sets what stands before the equals sign
exactly if it is a key; if it is none, every report with a summary says that it is not set. -/
theorem outputCheck_eq_some_iff {report : Report} (h : (run environment files plan override).result = .ok report) :
    ∃ bytes, (run environment files plan override).files.read plan.output = .ok bytes ∧
      (∀ summary, report.outputCheck = some summary ↔ ∃ key entries, plan.marker = key ++ "=" ∧
        Dotenv.parse bytes = .ok entries ∧ summary = Dotenv.summarize environment key entries) ∧
      ∀ key, plan.marker = key ++ "=" →
        (Dotenv.isKey key.toList = true ↔ ∃ other entries, Dotenv.parse other = .ok entries ∧
          (Dotenv.summarize environment key entries).keyDefined = true) ∧
        (Dotenv.isKey key.toList = false → ∀ summary, report.outputCheck = some summary →
          s!"  dotenv check   : {summary.entries} entries, {key} not set" ∈ report.lines) := by
  obtain ⟨draft, -, hwrite, rfl⟩ := written_of_ok h
  have hwritten := congrArg WriteAttempt.result hwrite
  obtain ⟨bytes, hread⟩ := FileSystem.read_tryWrite hwritten
  rw [hwrite] at hread
  refine ⟨bytes, hread, fun summary => check_eq_some_iff hread, fun key hmarker =>
    ⟨Dotenv.isKey_iff_exists_keyDefined environment key, fun hkey summary hsummary => ?_⟩⟩
  obtain ⟨key', entries, hmarker', hparse, hsum⟩ := (check_eq_some_iff hread).mp hsummary
  have hchecked : checkedKey? plan.marker = some key := checkedKey?_eq_some_iff.mpr hmarker
  have hsame : key = key' := Option.some.inj (hchecked.symm.trans (checkedKey?_eq_some_iff.mpr hmarker'))
  have hdefined : summary.keyDefined = false := by
    rw [hsum, ← hsame, keyDefined_eq_false hkey hparse]
  have hstate : " not set" = " " ++ Report.state false := by decide
  refine List.mem_append_left _ (List.mem_append_right _ ?_)
  rw [Report.checkLines_of_summary hchecked hsummary, hdefined, List.mem_singleton]
  exact (congrArg (HAppend.hAppend _) hstate).trans String.append_assoc.symm

/-- A marker that begins with a line feed and ends with two equals signs, where the output sets a key to a text that
begins with one. -/
theorem outputCheck_eq_some_iff_feed :
    let plan : Plan := { marker := "\nB==" }
    let files := sampleFiles "A=1\nB==\n"
    (∃ report, (run ⟨[], none⟩ files plan none).result = .ok report ∧ report.outputCheck = some ⟨2, false⟩ ∧
      "  dotenv check   : 2 entries, \nB= not set" ∈ report.lines) ∧
      Dotenv.yields ⟨[], none⟩ ((run ⟨[], none⟩ files plan none).files.contentAt sampleOutput) = [("A", "1"), ("B", "=b")] := by
  intro plan files
  have hrun : ((run ⟨[], none⟩ files plan none).result.toOption.bind Report.outputCheck) = some ⟨2, false⟩ := by
    decide +kernel
  obtain ⟨report, hreport, hcheck⟩ := Option.bind_eq_some_iff.mp hrun
  obtain ⟨-, -, -, hkeys⟩ := outputCheck_eq_some_iff (eq_ok_of_toOption hreport)
  have hline := (hkeys "\nB=" (by decide)).2 (by decide) ⟨2, false⟩ hcheck
  exact ⟨⟨report, eq_ok_of_toOption hreport, hcheck, hline⟩, by decide +kernel⟩

/-- A marker that exports its key: the output sets the key to the secret, but the check is for another name, which no
entry can have. -/
theorem outputCheck_export :
    let settings := "[secret]\nmarker = \x22export PRIVATE_KEY=\x22\n".toUTF8
    let files := (sampleFiles "export PRIVATE_KEY=\n").store
      ["tmp".toUTF8, "work".toUTF8, "envboot.toml".toUTF8] (.file settings 0o644)
    ∃ plan report, Plan.load ⟨[], none⟩ files none {} = .ok plan ∧ (run ⟨[], none⟩ files plan none).result = .ok report ∧
      report.outputCheck = some ⟨1, false⟩ ∧
      "  dotenv check   : 1 entries, export PRIVATE_KEY not set" ∈ report.lines ∧
      (¬∃ key, Dotenv.isKey key.toList = true ∧ plan.marker = key ++ "=") ∧
      Dotenv.yields ⟨[], none⟩ ((run ⟨[], none⟩ files plan none).files.contentAt sampleOutput) = [("PRIVATE_KEY", "b")] := by
  intro settings files
  have hplan : Plan.load ⟨[], none⟩ files none {} = .ok { marker := "export PRIVATE_KEY=" } :=
    eq_ok_of_toOption (by decide +kernel)
  have hrun : ((run ⟨[], none⟩ files { marker := "export PRIVATE_KEY=" } none).result.toOption.map fun report =>
      (report.outputCheck, report.checkLines)) =
      some (some ⟨1, false⟩, ["  dotenv check   : 1 entries, export PRIVATE_KEY not set"]) := by
    decide +kernel
  obtain ⟨report, hreport, heq⟩ := Option.map_eq_some_iff.mp hrun
  obtain ⟨hcheck, hlines⟩ := Prod.mk.inj heq
  refine ⟨_, report, hplan, eq_ok_of_toOption hreport, hcheck, ?_, ?_, by decide +kernel⟩
  · exact List.mem_append_left _ (List.mem_append_right _ (hlines ▸ List.mem_singleton.mpr rfl))
  · rintro ⟨key, hkey, hmarker⟩
    have hchecked := checkedKey?_eq_some_iff.mpr hmarker
    have hname : checkedKey? "export PRIVATE_KEY=" = some "export PRIVATE_KEY" := by decide
    obtain rfl : "export PRIVATE_KEY" = key := Option.some.inj (hname.symm.trans hchecked)
    revert hkey
    decide

end EnvSeed.Seeding
