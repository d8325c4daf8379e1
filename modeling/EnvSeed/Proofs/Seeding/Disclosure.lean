import EnvSeed.Proofs.Seeding.Paired
import EnvSeed.Proofs.Seeding.Rendering

/-!
# What a report tells of a secret

A report tells the size of what was written, a fingerprint of eight digits, and what the check of the output came
to. Two runs that differ in nothing but the secret, and not in its size, fail alike or bring reports that differ
in the fingerprint and in the check alone. So do the texts of the reports: everything around these two is the
same, letter by letter.
-/

namespace EnvSeed

namespace Sha256

/-- The hexadecimal digits. -/
def digits : List Char := "0123456789abcdef".toList

/-- A word has eight digits. -/
theorem length_hexWord (word : UInt32) : (hexWord word).length = 8 := by
  simp [hexWord]

/-- The digits of a word are hexadecimal. -/
theorem mem_hexWord {word : UInt32} {c : Char} (h : c ∈ hexWord word) : c ∈ digits := by
  obtain ⟨i, -, rfl⟩ := List.mem_map.mp h
  have hlt : word.toNat >>> (4 * (7 - i)) % 16 < 16 := Nat.mod_lt _ (by decide)
  generalize word.toNat >>> (4 * (7 - i)) % 16 = digit at hlt
  revert digit
  decide

end Sha256

/-- A fingerprint is the first word of the hash. -/
theorem Secret.toList_fingerprint (secret : String) :
    (fingerprint secret).toList = Sha256.hexWord (Sha256.hash secret.toUTF8).a := by
  have hlength : (Sha256.hexWord (Sha256.hash secret.toUTF8).a).length = 8 := Sha256.length_hexWord _
  rw [fingerprint, Sha256.hexDigest, String.toList_ofList, List.flatMap_cons,
    List.take_append_of_le_length (Nat.le_of_eq hlength.symm), List.take_of_length_le (Nat.le_of_eq hlength)]

/-- A fingerprint has eight digits, all of them hexadecimal. -/
theorem Secret.digits_fingerprint (secret : String) :
    (fingerprint secret).length = 8 ∧ ∀ digit ∈ (fingerprint secret).toList, digit ∈ Sha256.digits := by
  rw [← String.length_toList, toList_fingerprint]
  exact ⟨Sha256.length_hexWord _, fun digit => Sha256.mem_hexWord⟩

/-- What may be known of a key pair: the public key, and the size of the private one. -/
def KeyPair.openPart (keys : KeyPair) : String × Nat :=
  (keys.verificationKey, keys.privateKey.utf8ByteSize)

namespace Seeding

/-- Two runs of a plan that differ in nothing but the secret in use, and not in its size. Two secrets are given to
them, or none is and there are two key files, which neither the template nor the output names. -/
inductive DifferInSecret (plan : Plan) (files : FileSystem) : FileSystem → Option String → Option String → Prop
  | given {secret secret' : String} (hne : secret ≠ "") (hne' : secret' ≠ "")
      (hsize : secret'.utf8ByteSize = secret.utf8ByteSize) :
      DifferInSecret plan files files (some secret) (some secret')
  | stored {place : Location} {other : FileSystem} (hagree : files.AgreeOutside place other)
      (htemplate : files.resolve plan.template ≠ .ok place) (houtput : files.resolve plan.output ≠ .ok place)
      (hopen : (KeyFile.load other plan.keyFile).map KeyPair.openPart =
        (KeyFile.load files plan.keyFile).map KeyPair.openPart) :
      DifferInSecret plan files other none none

namespace DifferInSecret

variable {plan : Plan} {files other : FileSystem} {override override' : Option String}

/-- The two runs find the same template and write the same way. -/
theorem sameGround (h : DifferInSecret plan files other override override') : SameGround plan files other := by
  cases h with
  | given => exact .refl plan files
  | stored hagree htemplate houtput => exact sameGround_of_agreeOutside hagree htemplate houtput

/-- The two runs find no key pair and say the same of it, or they have key pairs with the same open part and
secrets of one source and one size. -/
theorem keys (h : DifferInSecret plan files other override override') :
    (∃ failure, KeyFile.load files plan.keyFile = .error failure ∧
      KeyFile.load other plan.keyFile = .error failure) ∨
    ∃ keys keys', KeyFile.load files plan.keyFile = .ok keys ∧ KeyFile.load other plan.keyFile = .ok keys' ∧
      keys'.verificationKey = keys.verificationKey ∧
      (Secret.choose keys' plan.keyFile plan.overrideVar override').source =
        (Secret.choose keys plan.keyFile plan.overrideVar override).source ∧
      (Secret.choose keys' plan.keyFile plan.overrideVar override').value.utf8ByteSize =
        (Secret.choose keys plan.keyFile plan.overrideVar override).value.utf8ByteSize := by
  cases h with
  | given hne hne' hsize =>
    cases hkeys : KeyFile.load files plan.keyFile with
    | error failure => exact .inl ⟨failure, rfl, rfl⟩
    | ok keys =>
      refine .inr ⟨keys, keys, rfl, rfl, rfl, ?_⟩
      rw [Secret.choose_given keys plan.keyFile plan.overrideVar hne,
        Secret.choose_given keys plan.keyFile plan.overrideVar hne']
      exact ⟨rfl, hsize⟩
  | stored hagree htemplate houtput hopen =>
    cases hkeys : KeyFile.load files plan.keyFile with
    | error failure =>
      cases hkeys' : KeyFile.load other plan.keyFile with
      | error failure' =>
        rw [hkeys, hkeys'] at hopen
        have hfailure : failure' = failure := Except.error.inj hopen
        exact .inl ⟨failure, rfl, congrArg Except.error hfailure⟩
      | ok keys' =>
        rw [hkeys, hkeys'] at hopen
        cases hopen
    | ok keys =>
      cases hkeys' : KeyFile.load other plan.keyFile with
      | error failure' =>
        rw [hkeys, hkeys'] at hopen
        cases hopen
      | ok keys' =>
        rw [hkeys, hkeys'] at hopen
        obtain ⟨hpublic, hsize⟩ := Prod.mk.inj (Except.ok.inj hopen)
        exact .inr ⟨keys, keys', rfl, rfl, hpublic, rfl, hsize⟩

end DifferInSecret

namespace PairedCourse

variable {environment environment' : Environment} {plan : Plan} {files other : FileSystem} {keys keys' : KeyPair}
  {secret secret' : Secret} {one two : Seeding}

/-- Of two runs side by side neither fails alone, or in another way. -/
theorem error_iff (h : PairedCourse environment environment' plan files other keys keys' secret secret' one two)
    (failure : Failure) : one.result = .error failure ↔ two.result = .error failure := by
  cases h with
  | failed => exact Iff.rfl
  | written => exact iff_of_false nofun nofun

/-- Of two runs side by side with one public key and one source of the secret, the reports differ in the
fingerprint and the check alone. -/
theorem report_eq (h : PairedCourse environment environment' plan files other keys keys' secret secret' one two)
    (hpublic : keys'.verificationKey = keys.verificationKey) (hsource : secret'.source = secret.source)
    {report report' : Report} (hreport : one.result = .ok report) (hreport' : two.result = .ok report') :
    { report with fingerprint := report'.fingerprint, outputCheck := report'.outputCheck } = report' ∧
      report.fingerprint = Secret.fingerprint secret.value ∧
      report'.fingerprint = Secret.fingerprint secret'.value := by
  cases h with
  | failed => cases hreport
  | @written template bytes events after after' hwrite hwrite' =>
    rw [← Except.ok.inj hreport, ← Except.ok.inj hreport']
    -- Whether the marker was found is a matter of the template alone.
    have hfound : (Draft.expansion plan ⟨keys', template, secret'⟩).markerFound =
        (Draft.expansion plan ⟨keys, template, secret⟩).markerFound := rfl
    unfold Seeding.report
    rw [hpublic, hsource, hfound]
    exact ⟨rfl, rfl, rfl⟩

end PairedCourse

/-- Two runs that differ in nothing but the secret, and not in its size, fail with the same failure or both bring
a report. The reports differ in the fingerprint and in the check of the output, and so do their texts: what
stands around the eight digits and the line about the check is the same in both. It does not matter what the
environments are. -/
theorem report_eq_of_differInSecret {environment environment' : Environment} {plan : Plan}
    {files other : FileSystem} {override override' : Option String}
    (h : DifferInSecret plan files other override override') :
    let one := run environment files plan override
    let two := run environment' other plan override'
    (∀ failure, one.result = .error failure ↔ two.result = .error failure) ∧
    ∀ report report', one.result = .ok report → two.result = .ok report' →
      let replaced := { report with fingerprint := report'.fingerprint, outputCheck := report'.outputCheck }
      replaced = report' ∧ replaced.render = report'.render ∧
      ∃ opening middle ending, ∀ shown ∈ [report, report'],
        shown.render = opening ++ shown.fingerprint ++ middle ++ Report.text shown.checkLines ++ ending ∧
        shown.fingerprint.length = 8 ∧ ∀ digit ∈ shown.fingerprint.toList, digit ∈ Sha256.digits := by
  intro one two
  obtain ⟨failure, hkeys, hkeys'⟩ | ⟨keys, keys', hkeys, hkeys', hpublic, hsource, hsize⟩ := h.keys
  · have hone : one.result = .error failure := by simp only [one, run, hkeys]
    have htwo : two.result = .error failure := by simp only [two, run, hkeys']
    rw [hone, htwo]
    refine ⟨fun _ => Iff.rfl, fun report report' hreport => ?_⟩
    cases hreport
  · have hcourse : PairedCourse environment environment' plan files other keys keys' _ _ one two :=
      pairedCourse_run h.sameGround hkeys hkeys' rfl rfl hsize
    refine ⟨hcourse.error_iff, fun report report' hreport hreport' => ?_⟩
    obtain ⟨hreplaced, hdigits, hdigits'⟩ := hcourse.report_eq hpublic hsource hreport hreport'
    obtain ⟨hopening, hmiddle, hmarker⟩ := Report.pieces_eq hreplaced
    refine ⟨hreplaced, congrArg Report.render hreplaced, report.opening, report.middle,
      Report.text report.markerLines, ?_⟩
    intro shown hshown
    obtain rfl | hshown := List.mem_cons.mp hshown
    · exact ⟨shown.render_eq, hdigits ▸ Secret.digits_fingerprint _⟩
    · obtain rfl := List.mem_singleton.mp hshown
      refine ⟨?_, hdigits' ▸ Secret.digits_fingerprint _⟩
      rw [shown.render_eq, hopening, hmiddle, hmarker]

/-- Two key files, one of which makes an output that cannot be read as the key is set in it. -/
theorem report_eq_of_stored_quote :
    let files := sampleFiles "PRIVATE_KEY=\n"
    let text := "Public Key (Address): a\nPrivate Key: \x27\n"
    let other := files.store sampleKeyFile (.file text.toUTF8 0o600)
    let one := run ⟨[], none⟩ files {} none
    let two := run ⟨[], none⟩ other {} none
    one.result.toOption.map (·.outputCheck) = some (some ⟨1, true⟩) ∧
      two.result.toOption.map (·.outputCheck) = some none ∧
      ∀ report report', one.result = .ok report → two.result = .ok report' →
        { report with fingerprint := report'.fingerprint, outputCheck := none }.render = report'.render := by
  intro files text other one two
  have htemplate : files.resolve (.ofString ".env.sample") ≠ .ok sampleKeyFile :=
    fun heq => absurd (congrArg Except.toOption heq) (by decide +kernel)
  have houtput : files.resolve (.ofString ".env") ≠ .ok sampleKeyFile :=
    fun heq => absurd (congrArg Except.toOption heq) (by decide +kernel)
  have hopen : (KeyFile.load other (.ofString "keys.txt")).map KeyPair.openPart =
      (KeyFile.load files (.ofString "keys.txt")).map KeyPair.openPart := by
    have hkeys : KeyFile.load files (.ofString "keys.txt") = .ok ⟨"a", "b"⟩ := eq_ok_of_toOption (by decide +kernel)
    have hkeys' : KeyFile.load other (.ofString "keys.txt") = .ok ⟨"a", "\x27"⟩ :=
      eq_ok_of_toOption (by decide +kernel)
    rw [hkeys, hkeys']
    rfl
  have hdiffer : DifferInSecret {} files other none none :=
    .stored (agreeOutside_sampleKeyFile _ text 0o600) htemplate houtput hopen
  have hruns := @report_eq_of_differInSecret ⟨[], none⟩ ⟨[], none⟩ {} files other none none hdiffer
  have hcheck : two.result.toOption.map (·.outputCheck) = some none := by decide +kernel
  refine ⟨by decide +kernel, hcheck, fun report report' hreport hreport' => ?_⟩
  have hnone : report'.outputCheck = none := by
    rw [hreport'] at hcheck
    exact Option.some.inj hcheck
  have hrender := (hruns.2 report report' hreport hreport').2.1
  rw [hnone] at hrender
  exact hrender

end Seeding

end EnvSeed
