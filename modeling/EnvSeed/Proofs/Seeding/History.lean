import EnvSeed.Proofs.Seeding.Turn

/-!
# The history of an output

Runs follow each other on one output, in both modes, with any settings, and some of them fail; between
two of them every other file may change. The content of the output is then what the runs since the last
replacement wrote, in order, and before that the content at the start exactly if nothing was replaced.
-/

namespace EnvSeed.Seeding

/-- Turns on one output. Between them anything may change but the output and where its path leads. -/
inductive History (output : Path) (place : Location) (first : FileSystem) : List Turn → FileSystem → Prop
  | start : History output place first [] first
  | turn {turns : List Turn} {last : FileSystem} {turn : Turn} (h : History output place first turns last)
      (houtput : turn.plan.output = output) (htarget : turn.files.writeTarget output = .ok place)
      (hsame : turn.files.node? place = last.node? place) :
      History output place first (turns ++ [turn]) turn.seeding.files

namespace History

variable {output : Path} {place : Location} {first last : FileSystem} {turns : List Turn}

/-- Throughout a history the output stays a regular file or absent. -/
theorem isRegular (h : History output place first turns last) (hregular : first.IsRegular place) :
    last.IsRegular place := by
  induction h with
  | start => exact hregular
  | @turn turns last turn _ houtput htarget hsame ih =>
    have hbefore : turn.files.IsRegular place := by simpa only [FileSystem.IsRegular, hsame] using ih
    exact (Turn.output_after (houtput ▸ htarget) hbefore).1

/-- The output holds what was written since the last replacement, after the content at the start if there
was no replacement. -/
theorem contentAt_eq (h : History output place first turns last) (hregular : first.IsRegular place) :
    last.contentAt place = (if turns.any Turn.replaced then .empty else first.contentAt place) ++
      Turn.total (Turn.sinceReplacement turns) := by
  induction h with
  | start => simp [Turn.sinceReplacement, Turn.total]
  | @turn turns last turn hbefore houtput htarget hsame ih =>
    have hregular' : turn.files.IsRegular place := by
      simpa only [FileSystem.IsRegular, hsame] using hbefore.isRegular hregular
    have hcontent : turn.files.contentAt place = last.contentAt place := by
      simp only [FileSystem.contentAt, hsame]
    have hsingle : Turn.total [turn] = turn.written := by simp [Turn.total]
    rw [(Turn.output_after (houtput ▸ htarget) hregular').2, Turn.sinceReplacement_append]
    by_cases hturn : turn.replaced
    · simp [hturn, hsingle]
    · rw [if_neg hturn, if_neg hturn, Turn.total_append, hsingle, hcontent, ih, ByteArray.append_assoc]
      simp [hturn]

/-- The last turn of a history comes after the history of those before it. -/
theorem of_append {turn : Turn} (h : History output place first (turns ++ [turn]) last) :
    ∃ before : FileSystem, History output place first turns before ∧ turn.plan.output = output ∧
      turn.files.writeTarget output = .ok place ∧ turn.files.node? place = before.node? place ∧
      last = turn.seeding.files := by
  generalize hall : turns ++ [turn] = all at h
  cases h with
  | start => simp at hall
  | turn hbefore houtput htarget hsame =>
    obtain ⟨rfl, hturn⟩ := List.append_inj' hall rfl
    obtain rfl := List.singleton_inj.mp hturn
    exact ⟨_, hbefore, houtput, htarget, hsame, rfl⟩

end History

/-- A history of runs on a regular or missing output: the output holds what was written since the last
replacement, after the content at the start exactly if there was none; each run that succeeds wrote its
own template as it was then, with its own secret, and reports the size of that; and a replacement done
again with inputs that did not change, and are not the output, succeeds and leaves the output as it was. -/
theorem contentAt_of_history {output : Path} {place : Location} {first last : FileSystem} {turns : List Turn}
    (hregular : first.IsRegular place) (h : History output place first turns last) :
    last.contentAt place = (if turns.any Turn.replaced then .empty else first.contentAt place) ++
        Turn.total (Turn.sinceReplacement turns) ∧
    (∀ turn ∈ turns, ∀ report, turn.seeding.result = .ok report →
      ∃ keys template, KeyFile.load turn.files turn.plan.keyFile = .ok keys ∧
        turn.files.readText turn.plan.template = .ok template ∧
        let secret := Secret.choose keys turn.plan.keyFile turn.plan.overrideVar turn.override
        let text := (Expansion.of template turn.plan.marker secret.value).content
        turn.written = text.toUTF8 ∧ report.bytesWritten = text.utf8ByteSize) ∧
    ∀ earlier turn again, turns = earlier ++ [turn, again] → turn.replaced = true →
      again.plan = turn.plan → again.override = turn.override →
      (∀ path ∈ [turn.plan.keyFile, turn.plan.template], turn.files.resolve path ≠ .ok place ∧
        again.files.readText path = turn.seeding.files.readText path) →
      again.replaced = true ∧ last.contentAt place = turn.seeding.files.contentAt place := by
  refine ⟨h.contentAt_eq hregular, ?_, ?_⟩
  · intro turn _ report hreport
    exact turn.expansion_written hreport
  · intro earlier turn again hturns hturn hplan hoverride hinputs
    have hall : turns = (earlier ++ [turn]) ++ [again] := by
      rw [hturns]
      simp
    rw [hall] at h
    obtain ⟨between, hearlier, houtput, htarget, hsame, hlast⟩ := h.of_append
    obtain ⟨before, hbefore, houtput', htarget', hsame', hbetween⟩ := hearlier.of_append
    rw [hbetween] at hsame
    have hregular' : turn.files.IsRegular place := by
      simpa only [FileSystem.IsRegular, hsame'] using hbefore.isRegular hregular
    rw [hlast]
    exact Turn.replaced_again (houtput' ▸ htarget') hregular' hturn (houtput ▸ htarget) hsame hplan hoverride hinputs

/-- A run that makes the output, and one that replaces it with the output itself as its template. -/
theorem contentAt_of_history_aliased :
    let first := sampleFiles "PRIVATE_KEY=\n"
    let making : Turn := ⟨⟨[], none⟩, first, {}, none⟩
    let replacing : Turn := ⟨⟨[], none⟩, making.seeding.files,
      { template := .ofString ".env", writeMode := .replace }, some "c"⟩
    History (.ofString ".env") sampleOutput first [making, replacing] replacing.seeding.files ∧
      replacing.seeding.files.contentAt sampleOutput = "PRIVATE_KEY=cb\n".toUTF8 := by
  intro first making replacing
  have hregular : first.IsRegular sampleOutput := .inl (by decide +kernel)
  have htarget : making.files.writeTarget (.ofString ".env") = .ok sampleOutput :=
    eq_ok_of_toOption (by decide +kernel)
  have htarget' : replacing.files.writeTarget (.ofString ".env") = .ok sampleOutput :=
    eq_ok_of_toOption (by decide +kernel)
  have hmaking : History (.ofString ".env") sampleOutput first [making] making.seeding.files :=
    .turn .start rfl htarget rfl
  have h : History (.ofString ".env") sampleOutput first [making, replacing] replacing.seeding.files :=
    .turn hmaking rfl htarget' rfl
  have hcontent := (contentAt_of_history hregular h).1
  refine ⟨h, hcontent.trans ?_⟩
  decide +kernel

end EnvSeed.Seeding
