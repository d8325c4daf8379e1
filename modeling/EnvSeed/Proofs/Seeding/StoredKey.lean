import EnvSeed.Proofs.Seeding.KeyValues
import EnvSeed.Proofs.Seeding.Paired
import EnvSeed.Proofs.Text.Bytes

/-!
# A secret given or stored

A secret that is given does to a run what it would do as the private key of the key file, as long as the run
uses the key file for nothing else. Only the source that is told of it is another. Every secret that a key file
can hold can be put there.
-/

namespace EnvSeed

namespace KeyFile

/-- Where a key pair is read from there is a file. -/
theorem file_of_load {files : FileSystem} {path : Path} {place : Location} {keys : KeyPair}
    (hplace : files.resolve path = .ok place) (h : load files path = .ok keys) :
    ∃ content permissions, files.node? place = some (.file content permissions) := by
  unfold load FileSystem.readText FileSystem.read FileSystem.open? at h
  cases hnode : files.node? place with
  | none => simp [hplace, hnode] at h
  | some node =>
    cases node with
    | file content permissions => exact ⟨content, permissions, rfl⟩
    | directory => simp [hplace, hnode, Node.read] at h
    | device device =>
      have hempty : String.fromUTF8? .empty = some "" := Text.fromUTF8?_toUTF8 ""
      simp only [hplace, hnode, Node.read, hempty] at h
      cases h

/-- A key pair written as a file is read from it. -/
theorem load_written {files : FileSystem} {path : Path} {place : Location} {keys : KeyPair} {permissions : Nat}
    (hplace : files.resolve path = .ok place)
    (hnode : files.node? place = some (.file (String.ofList (written keys)).toUTF8 permissions))
    (hpublic : IsValue keys.verificationKey.toList) (hprivate : IsValue keys.privateKey.toList) :
    load files path = .ok keys := by
  simp only [load, FileSystem.readText_of_file hplace hnode, String.toList_ofList, parse_written hpublic hprivate]

end KeyFile

namespace Seeding

/-- A run that is given a secret, and one that is given none but finds it as the private key in the key file,
which neither its template nor its output names. Whatever the secret, as long as a key file can hold it, there
is such a key file. Both runs fail with the same failure or both bring a report, and the reports, the events and
the files differ in nothing but the source that is told and the key file itself, which both leave alone. -/
theorem run_given_eq_run_stored {environment : Environment} {files : FileSystem} {plan : Plan} {place : Location}
    {keys : KeyPair} {secret : String} (hplace : files.resolve plan.keyFile = .ok place)
    (hkeys : KeyFile.load files plan.keyFile = .ok keys) (hsecret : KeyFile.IsValue secret.toList)
    (htemplate : files.resolve plan.template ≠ .ok place) (houtput : files.resolve plan.output ≠ .ok place) :
    let stored : KeyPair := { keys with privateKey := secret }
    (∀ permissions,
      let other := files.store place (.file (String.ofList (KeyFile.written stored)).toUTF8 permissions)
      files.AgreeOutside place other ∧ KeyFile.load other plan.keyFile = .ok stored) ∧
    ∀ other, files.AgreeOutside place other → KeyFile.load other plan.keyFile = .ok stored →
      let one := run environment files plan (some secret)
      let two := run environment other plan none
      two.result = one.result.map (fun report => { report with source := .keyFile plan.keyFile }) ∧
      (∀ report, one.result = .ok report →
        report.source = .environment plan.overrideVar ∧ report.verificationKey = keys.verificationKey) ∧
      (∃ events, one.events = keysLoaded plan :: secretResolved (.environment plan.overrideVar) :: events ∧
        two.events = keysLoaded plan :: secretResolved (.keyFile plan.keyFile) :: events) ∧
      (∀ elsewhere, elsewhere ≠ place → two.files.node? elsewhere = one.files.node? elsewhere) ∧
      one.files.node? place = files.node? place ∧ two.files.node? place = other.node? place := by
  intro stored
  constructor
  · intro permissions other
    obtain ⟨content, permissions', hnode⟩ := KeyFile.file_of_load hplace hkeys
    have hagree : files.AgreeOutside place other := FileSystem.agreeOutside_store hnode _ permissions
    have hroot : place ≠ [] := FileSystem.IsRegular.ne_nil (.inr ⟨content, permissions', hnode⟩)
    have hplace' : other.resolve plan.keyFile = .ok place := (hagree.resolve_eq plan.keyFile).trans hplace
    exact ⟨hagree, KeyFile.load_written hplace' (FileSystem.node?_store_self files hroot _)
      (KeyFile.isValue_of_load hkeys).1 hsecret⟩
  · intro other hagree hstored one two
    have hne : secret ≠ "" := by
      intro heq
      exact hsecret.ne_nil (by simp [heq])
    have hcourse : PairedCourse environment environment plan files other keys stored
        ⟨secret, .environment plan.overrideVar⟩ ⟨secret, .keyFile plan.keyFile⟩ one two :=
      pairedCourse_run (sameGround_of_agreeOutside hagree htemplate houtput) hkeys hstored
        (Secret.choose_given keys plan.keyFile plan.overrideVar hne) rfl rfl
    generalize one = one at hcourse ⊢
    generalize two = two at hcourse ⊢
    cases hcourse with
    | failed failure events =>
      exact ⟨rfl, nofun, ⟨events, rfl, rfl⟩, hagree.node?_eq, rfl, rfl⟩
    | @written template bytes events after after' hwrite hwrite' =>
      -- The two drafts have the same data, so the outputs hold the same and are checked alike.
      have hdata : Draft.data plan ⟨keys, template, ⟨secret, .environment plan.overrideVar⟩⟩ =
          Draft.data plan ⟨stored, template, ⟨secret, .keyFile plan.keyFile⟩⟩ := rfl
      obtain ⟨hafter, houtput', hkept, hkept'⟩ := hagree.of_tryWrite houtput (hdata ▸ hwrite) hwrite'
      refine ⟨?_, ?_, ⟨_, rfl, ?_⟩, hafter.node?_eq, hkept, hkept'⟩
      · rw [check_eq_of_agreeOutside hafter houtput']
        rfl
      · intro report hreport
        rw [← Except.ok.inj hreport]
        exact ⟨rfl, rfl⟩
      · rw [check_eq_of_agreeOutside hafter houtput']

/-- A secret with a separator in it, and a key file that holds it between blanks, under the other label and
with more lines behind it. -/
theorem run_given_eq_run_stored_padded :
    let files := sampleFiles "A=1\nPRIVATE_KEY=\n"
    let text := "Verification Key (Address): a\nFull Private Key:  x: y \r\nB: 2\n"
    let other := files.store sampleKeyFile (.file text.toUTF8 0o600)
    let one := run ⟨[], none⟩ files {} (some "x: y")
    let two := run ⟨[], none⟩ other {} none
    one.result.isOk = true ∧
      two.result = one.result.map (fun report => { report with source := .keyFile (.ofString "keys.txt") }) ∧
      two.files.node? sampleOutput = one.files.node? sampleOutput := by
  intro files text other one two
  have hplace : files.resolve (.ofString "keys.txt") = .ok sampleKeyFile := eq_ok_of_toOption (by decide +kernel)
  have hkeys : KeyFile.load files (.ofString "keys.txt") = .ok ⟨"a", "b"⟩ := eq_ok_of_toOption (by decide +kernel)
  have hstored : KeyFile.load other (.ofString "keys.txt") = .ok ⟨"a", "x: y"⟩ :=
    eq_ok_of_toOption (by decide +kernel)
  have hhead : "x: y".toList.head? = some 'x' := by decide
  have hlast : "x: y".toList.getLast? = some 'y' := by decide
  have hsecret : KeyFile.IsValue "x: y".toList := by
    refine ⟨by decide, by decide, fun c hc => ?_, fun c hc => ?_⟩
    · cases hhead.symm.trans hc
      decide
    · cases hlast.symm.trans hc
      decide
  have htemplate : files.resolve (.ofString ".env.sample") ≠ .ok sampleKeyFile :=
    fun heq => absurd (congrArg Except.toOption heq) (by decide +kernel)
  have houtput : files.resolve (.ofString ".env") ≠ .ok sampleKeyFile :=
    fun heq => absurd (congrArg Except.toOption heq) (by decide +kernel)
  have hruns := (@run_given_eq_run_stored ⟨[], none⟩ files {} _ _ _ hplace hkeys hsecret htemplate houtput).2
    other (agreeOutside_sampleKeyFile _ text 0o600) hstored
  exact ⟨by decide +kernel, hruns.1, hruns.2.2.2.1 sampleOutput (by decide)⟩

end Seeding

end EnvSeed
