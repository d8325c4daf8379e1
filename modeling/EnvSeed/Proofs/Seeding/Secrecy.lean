import EnvSeed.Proofs.Dotenv.Faults
import EnvSeed.Proofs.Seeding.Paired

/-!
# What the events tell of a secret

Of a secret that is given, a run shows in its events the size and nothing else until it checks the output.
The check may quote a line of the output that cannot be read, and with it the secret: the events of two
runs that differ in the secret alone are equal exactly if their outputs have the same fault or none.
-/

namespace EnvSeed

namespace Seeding

namespace Draft

/-- What a run with a secret of its own has in hand. -/
def given (plan : Plan) (keys : KeyPair) (template secret : String) : Draft where
  keys := keys
  template := template
  secret := ⟨secret, .environment plan.overrideVar⟩

/-- A run that is given a secret has it in hand, with the key pair and the template of its files. -/
theorem given_readFrom {files : FileSystem} {plan : Plan} {keys : KeyPair} {template secret : String}
    (hkeys : KeyFile.load files plan.keyFile = .ok keys) (htemplate : readTemplate files plan.template = .ok template)
    (hne : secret ≠ "") : (given plan keys template secret).ReadFrom files plan (some secret) :=
  ⟨hkeys, htemplate, Secret.choose_given keys plan.keyFile plan.overrideVar hne⟩

/-- Up to the write the events are the same whatever secret is given. -/
theorem events_given (plan : Plan) (keys : KeyPair) (template secret other : String) :
    (given plan keys template secret).events plan = (given plan keys template other).events plan := by
  have hmarker : markerEvents plan ((given plan keys template secret).expansion plan) =
      markerEvents plan ((given plan keys template other).expansion plan) := markerEvents_congr plan rfl
  exact congrArg ([keysLoaded plan, secretResolved (.environment plan.overrideVar)] ++ ·) hmarker

end Draft

variable (environment : Environment) (files : FileSystem) (plan : Plan)

/-- All secrets of the size of `first` make a run fail in the same way, or all of them bring it to the check
of the output with the same events. -/
theorem run_of_same_size (first : String) :
    (∃ failure events, ∀ secret, secret ≠ "" → secret.utf8ByteSize = first.utf8ByteSize →
      run environment files plan (some secret) = ⟨.error failure, events, files⟩) ∨
    ∃ events, ∀ secret, secret ≠ "" → secret.utf8ByteSize = first.utf8ByteSize →
      ∃ report after content,
        run environment files plan (some secret) = ⟨.ok report, events ++ (check environment after plan).2, after⟩ ∧
        report.outputCheck = (check environment after plan).1 ∧ after.read plan.output = .ok content := by
  cases hkeys : KeyFile.load files plan.keyFile with
  | error failure =>
    refine .inl ⟨failure, [], fun secret _ _ => ?_⟩
    simp only [run, hkeys]
  | ok keys =>
    cases htemplate : readTemplate files plan.template with
    | error failure =>
      refine .inl ⟨failure, [keysLoaded plan, secretResolved (.environment plan.overrideVar)], fun secret hne _ => ?_⟩
      simp only [run, hkeys, htemplate, Secret.choose_given keys plan.keyFile plan.overrideVar hne]
    | ok template =>
      let draft := Draft.given plan keys template
      have hwrites {secret : String} (hsize : secret.utf8ByteSize = first.utf8ByteSize) :
          (files.tryWrite plan.output plan.writeMode ((draft secret).data plan)).result =
            (files.tryWrite plan.output plan.writeMode ((draft first).data plan)).result :=
        Draft.write_congr files plan rfl hsize
      cases hwrite : (files.tryWrite plan.output plan.writeMode ((draft first).data plan)).result with
      | error fault =>
        refine .inl ⟨.ofWrite plan.output fault, (draft first).events plan, fun secret hne hsize => ?_⟩
        have hresult := (hwrites hsize).trans hwrite
        have hread := Draft.given_readFrom hkeys htemplate hne
        rw [run_of_refused hread (FileSystem.tryWrite_of_refused hresult), Draft.events_given]
      | ok written =>
        refine .inr ⟨(draft first).events plan ++ [outputWritten plan ((draft first).data plan).size],
          fun secret hne hsize => ?_⟩
        have hresult := (hwrites hsize).trans hwrite
        have hread := Draft.given_readFrom hkeys htemplate hne
        obtain ⟨content, hcontent⟩ := FileSystem.read_tryWrite hresult
        have hrun : run environment files plan (some secret) = _ :=
          run_of_written hread (FileSystem.tryWrite_of_accepted hresult)
        have hdata : ((draft secret).data plan).size = ((draft first).data plan).size :=
          Draft.size_data_congr plan rfl hsize
        rw [Draft.events_given plan keys template secret first, hdata, List.append_cons] at hrun
        exact ⟨_, _, content, hrun, rfl, hcontent⟩

variable {environment files plan}

/-- Two checks that come to the same say the same exactly if there is nothing to check, or the outputs have
the same fault or none. -/
theorem check_events_eq_iff {other : FileSystem} {bytes more : ByteArray} (hread : files.read plan.output = .ok bytes)
    (hother : other.read plan.output = .ok more)
    (hsame : (check environment files plan).1 = (check environment other plan).1) :
    (check environment files plan).2 = (check environment other plan).2 ↔
      ((checkedKey? plan.marker).isSome → Dotenv.faultIn files plan.output = Dotenv.faultIn other plan.output) := by
  unfold check at hsame ⊢
  cases hkey : checkedKey? plan.marker with
  | none => simp
  | some key =>
    simp only [hkey] at hsame
    simp only [List.cons.injEq, and_true, Option.isSome_some, true_implies]
    exact Dotenv.inspect_event_eq_iff hread hother hsame

/-- Runs with two secrets of one size fail alike, with the same events, or both bring a report. If the reports
agree on the check of the output, then the events are the same exactly if there was nothing to check, or the
two outputs have the same fault or none. -/
theorem events_eq_iff_of_secrets {environment : Environment} {files : FileSystem} {plan : Plan}
    {first second : String} (hfirst : first ≠ "") (hsecond : second ≠ "")
    (hsize : first.utf8ByteSize = second.utf8ByteSize) :
    let one := run environment files plan (some first)
    let two := run environment files plan (some second)
    (∀ failure, one.result = .error failure ↔ two.result = .error failure) ∧
    (∀ failure, one.result = .error failure → one.events = two.events) ∧
    ∀ report other, one.result = .ok report → two.result = .ok other → report.outputCheck = other.outputCheck →
      (one.events = two.events ↔ ((checkedKey? plan.marker).isSome →
        Dotenv.faultIn one.files plan.output = Dotenv.faultIn two.files plan.output)) := by
  intro one two
  rcases run_of_same_size environment files plan first with ⟨failure, events, hfail⟩ | ⟨events, hok⟩
  · have hone : one = ⟨.error failure, events, files⟩ := hfail first hfirst rfl
    have htwo : two = ⟨.error failure, events, files⟩ := hfail second hsecond hsize.symm
    rw [hone, htwo]
    refine ⟨fun _ => Iff.rfl, fun _ _ => rfl, fun report other hreport _ _ => ?_⟩
    cases hreport
  · obtain ⟨report, after, content, hone, hcheck, hread⟩ := hok first hfirst rfl
    obtain ⟨report', after', content', htwo, hcheck', hread'⟩ := hok second hsecond hsize.symm
    have hone' : one = ⟨.ok report, events ++ (check environment after plan).2, after⟩ := hone
    have htwo' : two = ⟨.ok report', events ++ (check environment after' plan).2, after'⟩ := htwo
    rw [hone', htwo']
    refine ⟨fun _ => iff_of_false nofun nofun, nofun, ?_⟩
    intro given given' hgiven hgiven' hsame
    rw [← Except.ok.inj hgiven, ← Except.ok.inj hgiven', hcheck, hcheck'] at hsame
    rw [List.append_cancel_left_eq]
    exact check_events_eq_iff hread hread' hsame

/-- Two outputs that cannot be read for a line behind the secret, which is told in the same words. -/
theorem events_eq_of_same_fault :
    let files := sampleFiles "PRIVATE_KEY=\nB=\x27\n"
    let one := run ⟨[], none⟩ files {} (some "xy")
    let two := run ⟨[], none⟩ files {} (some "é")
    one.result.isOk = true ∧ (Dotenv.faultIn one.files (.ofString ".env")).isSome = true ∧
      one.events = two.events := by
  intro files one two
  have hone : one.result.isOk = true := by decide +kernel
  have hsame : one.result.toOption.map (·.outputCheck) = two.result.toOption.map (·.outputCheck) := by decide +kernel
  have hfault : Dotenv.faultIn one.files (.ofString ".env") = Dotenv.faultIn two.files (.ofString ".env") := by
    decide +kernel
  have hevents := @events_eq_iff_of_secrets ⟨[], none⟩ files {} "xy" "é" (by decide) (by decide) (by decide)
  refine ⟨hone, by decide +kernel, ?_⟩
  cases hresult : one.result with
  | error failure => exact hevents.2.1 failure hresult
  | ok report =>
    cases hother : two.result with
    | error failure =>
      rw [(hevents.1 failure).mpr hother] at hone
      cases hone
    | ok other =>
      rw [hresult, hother] at hsame
      exact (hevents.2.2 report other hresult hother (Option.some.inj hsame)).mpr fun _ => hfault

/-- Two secrets of one size that open a quote, each of which the check of the output tells. -/
theorem events_ne_of_quoted_secrets :
    let files := sampleFiles "PRIVATE_KEY=\n"
    let one := run ⟨[], none⟩ files {} (some "a\x27")
    let two := run ⟨[], none⟩ files {} (some "b\x27")
    "a\x27".utf8ByteSize = "b\x27".utf8ByteSize ∧
      one.result.toOption.map (·.outputCheck) = some none ∧ two.result.toOption.map (·.outputCheck) = some none ∧
        one.events ≠ two.events := by
  decide +kernel

end Seeding

end EnvSeed
