import EnvSeed.Proofs.Dotenv.Faults
import EnvSeed.Proofs.Dotenv.Yields
import EnvSeed.Proofs.Seeding.Expanding
import EnvSeed.Proofs.Seeding.Stages

/-!
# The output defines the key

A marker that ends with an equals sign makes an assignment of the secret. If what stands before it in the
output can be read and ends its last line, the assignment is read as it was meant: the key has the secret
as its value, and the check of the output finds it.
-/

namespace EnvSeed

open Text (IsLeftmost)

namespace Seeding

/-- A marker that is a key and an equals sign is checked for that key. -/
theorem checkedKey?_assignment (key : List Char) :
    checkedKey? (String.ofList (key ++ ['='])) = some (String.ofList key) := by
  simp [checkedKey?]

/-- A check that comes to a summary has read the file and counted its entries. -/
theorem parse_of_check {environment : Environment} {files : FileSystem} {plan : Plan} {key : String}
    {content : ByteArray} {permissions : Nat} {summary : Dotenv.Summary}
    (hkey : checkedKey? plan.marker = some key) (hopen : files.open? plan.output = .ok (.file content permissions))
    (h : (check environment files plan).1 = some summary) :
    ∃ entries, Dotenv.parse content = .ok entries ∧ summary = Dotenv.summarize environment key entries := by
  have hread : files.read plan.output = .ok content := by
    rw [FileSystem.read, hopen]
    rfl
  rw [summary_check hkey, Dotenv.summary_inspect hread, Option.map_eq_some_iff] at h
  obtain ⟨entries, hentries, rfl⟩ := h
  exact ⟨entries, eq_ok_of_toOption hentries, rfl⟩

/-- With an assignment as its marker, a draft is the text before the marker and the assignment of the secret,
with what follows it. -/
theorem Draft.data_of_assignment {plan : Plan} {draft : Draft} {key before after : List Char}
    (hmarker : plan.marker = String.ofList (key ++ ['=']))
    (hleft : IsLeftmost plan.marker.toList draft.template.toList before after) :
    draft.data plan = (String.ofList before).toUTF8 ++
      (String.ofList (key ++ '=' :: draft.secret.value.toList ++ after)).toUTF8 := by
  have hchars : before ++ (key ++ ['=']) ++ draft.secret.value.toList ++ after =
      before ++ (key ++ '=' :: draft.secret.value.toList ++ after) := by simp
  rw [Draft.data, Draft.expansion, Expansion.content_of_isLeftmost hleft, hmarker, String.toList_ofList, hchars,
    Text.toUTF8_ofList_append]

/-- A run with an assignment as its marker, on a regular or missing output, whose template has the marker at
the end of a line: if what comes before the marker in the output can be read and ends its last line, the run
goes well, and the output yields what it yields up to there, then the key with the secret, and then more;
where the check of the output comes to a summary, it says that the key is defined. -/
theorem yields_secret_of_run {environment : Environment} {files : FileSystem} {plan : Plan}
    {override : Option String} {draft : Draft} {place : Location} {key before after : List Char}
    {entries : List Dotenv.Entry} (hkey : Dotenv.isKey key = true)
    (hmarker : plan.marker = String.ofList (key ++ ['=']))
    (htarget : files.writeTarget plan.output = .ok place) (hregular : files.IsRegular place)
    (hread : draft.ReadFrom files plan override)
    (hleft : IsLeftmost plan.marker.toList draft.template.toList before after)
    (hbare : ∀ c ∈ draft.secret.value.toList, Dotenv.isBare c = true) (hne : draft.secret.value ≠ "")
    (hends : Dotenv.EndsLine (plan.writeMode.kept (files.contentAt place) ++ (String.ofList before).toUTF8))
    (hfront : Dotenv.parse (plan.writeMode.kept (files.contentAt place) ++ (String.ofList before).toUTF8) = .ok entries)
    (hafter : Dotenv.AtLineEnd after) :
    let seeding := run environment files plan override
    ∃ report, seeding.result = .ok report ∧ report.markerFound = true ∧
      (∃ more, Dotenv.yields environment (seeding.files.contentAt place) =
        Dotenv.yields environment (plan.writeMode.kept (files.contentAt place) ++ (String.ofList before).toUTF8) ++
          (String.ofList key, draft.secret.value) :: more) ∧
      ∀ summary, report.outputCheck = some summary → summary.keyDefined = true := by
  have hwrite := FileSystem.tryWrite_of_regular plan.writeMode (draft.data plan) htarget hregular
  have hopen := FileSystem.open?_tryWrite_of_regular plan.writeMode (draft.data plan) htarget hregular
  -- The new content is what stands before the marker, followed by the line of the assignment.
  have hcontent : plan.writeMode.apply (files.contentAt place) (draft.data plan) =
      plan.writeMode.kept (files.contentAt place) ++ (String.ofList before).toUTF8 ++
        (String.ofList (key ++ '=' :: draft.secret.value.toList ++ after)).toUTF8 := by
    rw [← WriteMode.kept_append, Draft.data_of_assignment hmarker hleft, ByteArray.append_assoc]
  have hvalue : draft.secret.value.toList ≠ [] := by simpa using hne
  obtain ⟨more, hmore⟩ := Dotenv.yields_line hends hfront environment hkey hbare hvalue hafter
  rw [String.ofList_toList] at hmore
  rw [run_of_written hread hwrite]
  refine ⟨_, rfl, Expansion.markerFound_of.mpr ⟨before, after, hleft⟩, ⟨more, ?_⟩, ?_⟩
  · rw [FileSystem.contentAt_store_self files hregular.ne_nil, hcontent, hmore]
  · intro summary hsummary
    have hchecked : checkedKey? plan.marker = some (String.ofList key) := hmarker ▸ checkedKey?_assignment key
    rw [hwrite] at hopen
    obtain ⟨found, hparse, rfl⟩ := parse_of_check hchecked hopen hsummary
    have hmem : (String.ofList key, draft.secret.value) ∈ Dotenv.yields environment
        (plan.writeMode.apply (files.contentAt place) (draft.data plan)) := by
      rw [hcontent, hmore]
      simp
    exact Dotenv.keyDefined_of_mem_yields hparse hmem (by simpa using hne)

/-- A secret that begins and ends with equals signs, appended behind an entry that was there before, and
followed in the template by a line that cannot be read. -/
theorem yields_secret_of_run_appended :
    let files := (sampleFiles "A=1\nPRIVATE_KEY=\r\nB=\x27\n").store sampleOutput (.file "X=y\n".toUTF8 0o600)
    let seeding := run ⟨[], none⟩ files {} (some "=/k3=")
    ∃ report, seeding.result = .ok report ∧ report.markerFound = true ∧
      (∃ more, Dotenv.yields ⟨[], none⟩ (seeding.files.contentAt sampleOutput) =
        Dotenv.yields ⟨[], none⟩ (WriteMode.append.kept (files.contentAt sampleOutput) ++
          (String.ofList ['A', '=', '1', '\n']).toUTF8) ++ ("PRIVATE_KEY", "=/k3=") :: more) ∧
      ∀ summary, report.outputCheck = some summary → summary.keyDefined = true := by
  intro files seeding
  have hread : Draft.ReadFrom files {} (some "=/k3=") ⟨⟨"a", "b"⟩, "A=1\nPRIVATE_KEY=\r\nB=\x27\n",
      ⟨"=/k3=", .environment "PRIVATE_KEY"⟩⟩ :=
    ⟨eq_ok_of_toOption (by decide +kernel), eq_ok_of_toOption (by decide +kernel), by decide +kernel⟩
  have hregular : files.IsRegular sampleOutput := .inr ⟨"X=y\n".toUTF8, 0o600, by decide +kernel⟩
  have hleft : IsLeftmost "PRIVATE_KEY=".toList "A=1\nPRIVATE_KEY=\r\nB=\x27\n".toList ['A', '=', '1', '\n']
      ['\r', '\n', 'B', '=', '\x27', '\n'] := Text.cut?_eq_some_iff.mp (by decide +kernel)
  have hfront : Dotenv.parse (WriteMode.append.kept (files.contentAt sampleOutput) ++
      (String.ofList ['A', '=', '1', '\n']).toUTF8) =
        .ok [⟨"X", [.literal 'y']⟩, ⟨"A", [.literal '1']⟩] := eq_ok_of_toOption (by decide +kernel)
  have hbare : "=/k3=".toList.all Dotenv.isBare = true := by decide +kernel
  have hafter : Dotenv.AtLineEnd ['\r', '\n', 'B', '=', '\x27', '\n'] := .inr (.inr ⟨_, rfl⟩)
  exact yields_secret_of_run (by decide +kernel) (by decide +kernel) (eq_ok_of_toOption (by decide +kernel)) hregular
    hread hleft (List.all_eq_true.mp hbare) (by decide) (by decide +kernel) hfront hafter

end Seeding

end EnvSeed
