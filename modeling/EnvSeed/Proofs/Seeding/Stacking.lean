import EnvSeed.Proofs.Seeding.Expanding
import EnvSeed.Proofs.Seeding.History

/-!
# Secrets on top of each other

A run that replaces its own template leaves an expansion where the template was, and the next such run expands
that. Each new secret comes to stand in front of the earlier ones, behind the marker that was leftmost at the
start: no secret, whatever it contains, makes a marker further left, and none is put anywhere else.
-/

namespace EnvSeed.Seeding

open Text (IsLeftmost)

/-- The turn replaces the file at `place`, and that is its template as well. -/
structure Turn.RewritesItself (place : Location) (marker : String) (turn : Turn) : Prop where
  writeMode : turn.plan.writeMode = .replace
  marker : turn.plan.marker = marker
  template : turn.files.resolve turn.plan.template = .ok place

namespace Turn

/-- What a turn puts behind the marker: its secret, or nothing where there is no key pair. -/
def added (turn : Turn) : String :=
  match KeyFile.load turn.files turn.plan.keyFile with
  | .error _ => ""
  | .ok keys => (Secret.choose keys turn.plan.keyFile turn.plan.overrideVar turn.override).value

/-- What turns put behind the marker one after the other, the last in front. -/
def stacked (turns : List Turn) : String :=
  turns.foldl (fun earlier turn => turn.added ++ earlier) ""

/-- A further turn comes in front. -/
theorem stacked_append (turns : List Turn) (turn : Turn) : stacked (turns ++ [turn]) = turn.added ++ stacked turns := by
  rw [stacked, List.foldl_append]
  rfl

variable {turn : Turn} {place : Location} {template marker earlier : String} {permissions : Nat}

/-- Without a key pair a turn fails and adds nothing. -/
theorem failed_of_keys {failure : Failure} (hkeys : KeyFile.load turn.files turn.plan.keyFile = .error failure) :
    turn.succeeded = false ∧ turn.added = "" := by
  constructor
  · simp [succeeded, seeding, run, hkeys, Except.isOk, Except.toBool]
  · simp only [added, hkeys]

/-- A turn that rewrites an expansion succeeds exactly if it has a key pair. It finds the marker where the template
has it, and leaves the expansion of the template with what it adds in front of the value that was there. -/
theorem rewrite (h : turn.RewritesItself place marker) (htarget : turn.files.writeTarget turn.plan.output = .ok place)
    (hnode : turn.files.node? place =
      some (.file (Expansion.of template marker earlier).content.toUTF8 permissions)) :
    turn.succeeded = (KeyFile.load turn.files turn.plan.keyFile).isOk ∧
    (∀ report, turn.seeding.result = .ok report →
      report.markerFound = (Expansion.of template marker earlier).markerFound) ∧
    turn.seeding.files.node? place =
      some (.file (Expansion.of template marker (turn.added ++ earlier)).content.toUTF8 permissions) := by
  cases hkeys : KeyFile.load turn.files turn.plan.keyFile with
  | error failure =>
    obtain ⟨hfailed, hadded⟩ := failed_of_keys hkeys
    refine ⟨hfailed, fun report hreport => ?_, ?_⟩
    · rw [succeeded, hreport] at hfailed
      cases hfailed
    · rw [files_of_failed hfailed, hadded, String.empty_append, hnode]
  | ok keys =>
    have hregular : turn.files.IsRegular place := .inr ⟨_, _, hnode⟩
    have hpermissions : turn.files.permissionsAt place = permissions := by
      simp only [FileSystem.permissionsAt, hnode]
    -- The template that the turn reads is the expansion that it is about to replace.
    let draft : Draft := ⟨keys, (Expansion.of template marker earlier).content,
      Secret.choose keys turn.plan.keyFile turn.plan.overrideVar turn.override⟩
    have hread : draft.ReadFrom turn.files turn.plan turn.override :=
      ⟨hkeys, readTemplate_eq_ok_iff.mpr (FileSystem.readText_of_file h.template hnode), rfl⟩
    have hadded : turn.added = draft.secret.value := by simp only [added, hkeys, draft]
    obtain ⟨hcontent, hfound⟩ := Expansion.of_content template marker earlier draft.secret.value
    have hmarked : (draft.expansion turn.plan).markerFound = (Expansion.of template marker earlier).markerFound := by
      rw [Draft.expansion, h.marker]
      exact hfound
    have hdata : draft.data turn.plan = (Expansion.of template marker (turn.added ++ earlier)).content.toUTF8 := by
      rw [Draft.data, Draft.expansion, h.marker, hcontent, hadded]
    have hwrite := FileSystem.tryWrite_of_regular turn.plan.writeMode (draft.data turn.plan) htarget hregular
    have hseeding : turn.seeding = _ := @run_of_written turn.environment _ _ _ _ _ hread hwrite
    refine ⟨?_, fun report hreport => ?_, ?_⟩
    · rw [succeeded, hseeding]
      rfl
    · rw [hseeding] at hreport
      simp only [← Except.ok.inj hreport, Seeding.report, hmarked]
    · rw [hseeding, h.writeMode, hdata, hpermissions]
      exact FileSystem.node?_store_self turn.files hregular.ne_nil _

end Turn

/-- Throughout a history of turns that rewrite a file, the file holds the expansion of its text at the start with
what the turns have added so far; each turn with a key pair succeeds, and finds the marker if that text has it. -/
theorem History.node?_of_rewriting {output : Path} {place : Location} {first last : FileSystem} {turns : List Turn}
    {template marker : String} {permissions : Nat} (h : History output place first turns last)
    (hrewrite : ∀ turn ∈ turns, turn.RewritesItself place marker)
    (hfirst : first.node? place = some (.file template.toUTF8 permissions)) :
    (∀ turn ∈ turns, turn.succeeded = (KeyFile.load turn.files turn.plan.keyFile).isOk ∧
      ∀ report, turn.seeding.result = .ok report → (report.markerFound = true ↔ marker.toList <:+: template.toList)) ∧
    last.node? place =
      some (.file (Expansion.of template marker (Turn.stacked turns)).content.toUTF8 permissions) := by
  induction h with
  | start => exact ⟨by simp, by rw [Turn.stacked, List.foldl_nil, Expansion.content_of_empty, hfirst]⟩
  | @turn turns last turn _ houtput htarget hsame ih =>
    obtain ⟨hbefore, hnode⟩ := ih fun earlier hearlier => hrewrite earlier (List.mem_append_left _ hearlier)
    obtain ⟨hok, hfound, hafter⟩ :=
      Turn.rewrite (hrewrite turn (by simp)) (houtput ▸ htarget) (hsame.trans hnode)
    refine ⟨fun one hone => ?_, by rw [Turn.stacked_append, hafter]⟩
    obtain hone | hone := List.mem_append.mp hone
    · exact hbefore one hone
    · obtain rfl := List.mem_singleton.mp hone
      refine ⟨hok, fun report hreport => ?_⟩
      rw [hfound report hreport, Expansion.markerFound_of, Text.exists_isLeftmost_iff]

/-- Expanding an expansion is expanding the template once, with the second value in front of the first, and the
marker is found all three times or never. So runs that replace their own template, where they have a key pair, all
succeed, and put each new secret in front of the earlier ones, behind the marker that is leftmost at the start and
that is leftmost still at the end; without a marker at the start they leave the text as it is. -/
theorem contentAt_of_rewriting :
    (∀ template marker first second : String,
      let once := Expansion.of template marker first
      let twice := Expansion.of once.content marker second
      let joined := Expansion.of template marker (second ++ first)
      twice.content = joined.content ∧ twice.markerFound = once.markerFound ∧ joined.markerFound = once.markerFound) ∧
    ∀ (output : Path) (place : Location) (first last : FileSystem) (turns : List Turn) (template marker : String)
      (permissions : Nat), first.node? place = some (.file template.toUTF8 permissions) →
      History output place first turns last → (∀ turn ∈ turns, turn.RewritesItself place marker) →
      (∀ turn ∈ turns, turn.succeeded = (KeyFile.load turn.files turn.plan.keyFile).isOk ∧
        ∀ report, turn.seeding.result = .ok report →
          (report.markerFound = true ↔ marker.toList <:+: template.toList)) ∧
      last.contentAt place = (Expansion.of template marker (Turn.stacked turns)).content.toUTF8 ∧
      (∀ before after, IsLeftmost marker.toList template.toList before after →
        let text := before ++ marker.toList ++ ((Turn.stacked turns).toList ++ after)
        last.contentAt place = (String.ofList text).toUTF8 ∧
          IsLeftmost marker.toList text before ((Turn.stacked turns).toList ++ after)) ∧
      (¬marker.toList <:+: template.toList → last.contentAt place = template.toUTF8) := by
  refine ⟨fun template marker first second => ?_, ?_⟩
  · obtain ⟨hcontent, hfound⟩ := Expansion.of_content template marker first second
    exact ⟨hcontent, hfound, rfl⟩
  · intro output place first last turns template marker permissions hfirst h hrewrite
    obtain ⟨hturns, hnode⟩ := h.node?_of_rewriting hrewrite hfirst
    have hcontent := FileSystem.contentAt_of_file hnode
    refine ⟨hturns, hcontent, fun before after hleft => ⟨?_, hleft.replace_back _⟩, fun hunmarked => ?_⟩
    · rw [hcontent, Expansion.content_of_isLeftmost hleft, List.append_assoc]
    · rw [hcontent, (Expansion.of_unmarked hunmarked _).2]

/-- A second secret that contains the marker, and a template that has the marker twice. -/
theorem contentAt_of_rewriting_marker :
    let first := sampleFiles "A=1\nPRIVATE_KEY=\n# PRIVATE_KEY=\n"
    let place : Location := ["tmp".toUTF8, "work".toUTF8, ".env.sample".toUTF8]
    let plan : Plan := { output := .ofString ".env.sample", writeMode := .replace }
    let storing : Turn := ⟨⟨[], none⟩, first, plan, none⟩
    let giving : Turn := ⟨⟨[], none⟩, storing.seeding.files, plan, some "PRIVATE_KEY="⟩
    (∀ turn ∈ [storing, giving], turn.RewritesItself place "PRIVATE_KEY=") ∧
      giving.seeding.files.contentAt place = "A=1\nPRIVATE_KEY=PRIVATE_KEY=b\n# PRIVATE_KEY=\n".toUTF8 := by
  intro first place plan storing giving
  have hfirst : first.node? place = some (.file "A=1\nPRIVATE_KEY=\n# PRIVATE_KEY=\n".toUTF8 0o644) := by
    decide +kernel
  have hstoring : storing.RewritesItself place "PRIVATE_KEY=" := ⟨rfl, rfl, eq_ok_of_toOption (by decide +kernel)⟩
  have hgiving : giving.RewritesItself place "PRIVATE_KEY=" := ⟨rfl, rfl, eq_ok_of_toOption (by decide +kernel)⟩
  have hrewrite : ∀ turn ∈ [storing, giving], turn.RewritesItself place "PRIVATE_KEY=" := by
    simp [hstoring, hgiving]
  have htarget : storing.files.writeTarget plan.output = .ok place := eq_ok_of_toOption (by decide +kernel)
  have htarget' : giving.files.writeTarget plan.output = .ok place := eq_ok_of_toOption (by decide +kernel)
  have h : History plan.output place first ([storing] ++ [giving]) giving.seeding.files :=
    .turn (.turn .start rfl htarget rfl) rfl htarget' rfl
  obtain ⟨-, hcontent, -⟩ := contentAt_of_rewriting.2 _ _ _ _ _ _ _ _ hfirst h hrewrite
  refine ⟨hrewrite, hcontent.trans ?_⟩
  decide +kernel

end EnvSeed.Seeding
