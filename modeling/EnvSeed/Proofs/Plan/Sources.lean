import EnvSeed.Command.Arguments
import EnvSeed.Proofs.Seeding.Stages

/-!
# The sources of a plan

Each field of a plan comes from the first of its sources that has a value: an override, for the log level then the
environment, the configuration document, and the default. Nothing else has a part in it. A document is that of the
file that is named, else that of the default file if it is there, else an empty one.
-/

namespace EnvSeed

namespace Settings

open Toml

/-- The item that a document has for a setting: the one of its key in the section of that name, or the one at its
position where the section is an array. -/
def item? (document : Table) (name : String) (position : Nat) (key : String) : Option Item :=
  (section? document name).bind fun items => items position key

/-- The text that a document gives a setting. -/
def textOf? (document : Table) (name : String) (position : Nat) (key : String) : Option String :=
  match item? document name position key with
  | some (.string text) => some text
  | _ => none

/-- The write mode that a document gives. -/
def modeOf? (document : Table) : Option WriteMode :=
  (item? document "output" 0 "mode").bind fun item => mode? .append (some item)

variable {document : Table} {name key : String} {items : Section} {position : Nat}

/-- A text that is taken from a section is the one that the document gives, or else the default. -/
theorem eq_getD_textOf? {default text : String} (hsection : section? document name = some items)
    (h : text? default (items position key) = some text) :
    text = (textOf? document name position key).getD default := by
  have hitem : item? document name position key = items position key := by simp only [item?, hsection, Option.bind_some]
  unfold textOf?
  rw [hitem]
  cases hfound : items position key with
  | none =>
    rw [hfound] at h
    exact (Option.some.inj h).symm
  | some item =>
    rw [hfound] at h
    cases item with
    | string found => exact (Option.some.inj h).symm
    | _ => cases h

/-- A write mode that is taken from its section is the one that the document gives, or else the default. -/
theorem eq_getD_modeOf? {mode : WriteMode} (hsection : section? document "output" = some items)
    (h : mode? .append (items 0 "mode") = some mode) : mode = (modeOf? document).getD .append := by
  have hitem : item? document "output" 0 "mode" = items 0 "mode" := by simp only [item?, hsection, Option.bind_some]
  unfold modeOf?
  rw [hitem]
  cases hfound : items 0 "mode" with
  | none =>
    rw [hfound] at h
    exact (Option.some.inj h).symm
  | some item =>
    have hmode : mode? .append (some item) = some mode := hfound ▸ h
    simp only [Option.bind_some, hmode, Option.getD_some]

/-- Every setting of a document is the one that it gives, or else the default. -/
theorem eq_of_ofDocument? {settings : Settings} (h : ofDocument? document = some settings) :
    settings = {
      keyFile := (textOf? document "paths" 0 "key_file").getD "keys.txt"
      template := (textOf? document "paths" 1 "template").getD ".env.sample"
      output := (textOf? document "paths" 2 "output").getD ".env"
      overrideVar := (textOf? document "secret" 0 "env_var").getD "PRIVATE_KEY"
      marker := (textOf? document "secret" 1 "marker").getD "PRIVATE_KEY="
      writeMode := (modeOf? document).getD .append
      logLevel := (textOf? document "log" 0 "level").getD "info" } := by
  simp only [ofDocument?, Option.bind_eq_bind, Option.bind_eq_some_iff, Option.pure_def, Option.some.injEq] at h
  obtain ⟨paths, hpaths, secret, hsecret, output, houtput, log, hlog, keyFile, hkeyFile, template, htemplate,
    target, htarget, overrideVar, hoverrideVar, marker, hmarker, mode, hmode, level, hlevel, rfl⟩ := h
  rw [← eq_getD_textOf? hpaths hkeyFile, ← eq_getD_textOf? hpaths htemplate, ← eq_getD_textOf? hpaths htarget,
    ← eq_getD_textOf? hsecret hoverrideVar, ← eq_getD_textOf? hsecret hmarker, ← eq_getD_modeOf? houtput hmode,
    ← eq_getD_textOf? hlog hlevel]

end Settings

namespace Plan

/-- The document that the settings are taken from: that of the file that is named, that of the default file if none
is named and it is there, and an empty one otherwise. -/
inductive TakesFrom (files : FileSystem) : Option Path → Toml.Table → Prop
  | named {path : Path} {text : String} {document : Toml.Table} (hread : files.readText path = .ok text)
      (hparse : Toml.parse? text = some document) : TakesFrom files (some path) document
  | default {text : String} {document : Toml.Table} (hreaches : files.reaches defaultFile = true)
      (hread : files.readText defaultFile = .ok text) (hparse : Toml.parse? text = some document) :
      TakesFrom files none document
  | empty (hreaches : files.reaches defaultFile = false) : TakesFrom files none []

/-- The log level that the environment gives. -/
def levelIn? (environment : Environment) : Option String :=
  (environment.text? "ENVBOOT_LOG_LEVEL").filter (!·.isEmpty)

/-- Every field of the plan is that of the first of its sources that has a value. -/
structure ResolvedFrom (environment : Environment) (document : Toml.Table) (overrides : Overrides) (plan : Plan) :
    Prop where
  keyFile : plan.keyFile = overrides.keyFile.getD
    (homePath environment ((Settings.textOf? document "paths" 0 "key_file").getD "keys.txt"))
  template : plan.template = overrides.template.getD
    (homePath environment ((Settings.textOf? document "paths" 1 "template").getD ".env.sample"))
  output : plan.output = overrides.output.getD
    (homePath environment ((Settings.textOf? document "paths" 2 "output").getD ".env"))
  writeMode : plan.writeMode = overrides.writeMode.getD ((Settings.modeOf? document).getD .append)
  logLevel : plan.logLevel = overrides.logLevel.getD
    ((levelIn? environment).getD ((Settings.textOf? document "log" 0 "level").getD "info"))
  overrideVar : plan.overrideVar = (Settings.textOf? document "secret" 0 "env_var").getD "PRIVATE_KEY"
  marker : plan.marker = (Settings.textOf? document "secret" 1 "marker").getD "PRIVATE_KEY="
  overrideVar_ne : plan.overrideVar ≠ ""
  marker_ne : plan.marker ≠ ""

variable {environment : Environment} {files : FileSystem} {path : Option Path} {document : Toml.Table}
  {overrides : Overrides} {plan : Plan} {settings : Settings}

/-- Resolving the settings of a document gives the plan whose fields are those of their sources, and no other. -/
theorem resolve_eq_ok_iff (hsettings : Settings.ofDocument? document = some settings) :
    resolve environment settings (withLogLevel environment overrides) = .ok plan ↔
      plan.ResolvedFrom environment document overrides := by
  have hlevel (level : String) : (withLogLevel environment overrides).logLevel.getD level =
      overrides.logLevel.getD ((levelIn? environment).getD level) := Option.getD_or
  rw [Settings.eq_of_ofDocument? hsettings]
  constructor
  · intro h
    unfold resolve at h
    split at h
    · cases h
    · next hmarker =>
      split at h
      · cases h
      · next hvariable =>
        obtain rfl := Except.ok.inj h
        exact ⟨rfl, rfl, rfl, rfl, hlevel _, rfl, rfl, by simpa using hvariable, by simpa using hmarker⟩
  · intro h
    obtain ⟨keyFile, template, output, overrideVar, marker, writeMode, logLevel⟩ := plan
    obtain ⟨rfl, rfl, rfl, rfl, rfl, rfl, rfl, hvariable, hmarker⟩ := h
    simp only at hvariable hmarker
    simp only [resolve, String.isEmpty_iff, hmarker, hvariable, if_false, hlevel]
    rfl

/-- The settings of a file are those of the document that it spells. -/
theorem readSettings_eq_ok_iff {named : Path} : readSettings files named = .ok settings ↔
    ∃ text document, files.readText named = .ok text ∧ Toml.parse? text = some document ∧
      Settings.ofDocument? document = some settings := by
  unfold readSettings
  cases files.readText named with
  | error fault => simp
  | ok text =>
    have hspelled : (∃ text' document, (Except.ok text : Except FileFault String) = .ok text' ∧
        Toml.parse? text' = some document ∧ Settings.ofDocument? document = some settings) ↔
          (Toml.parse? text).bind Settings.ofDocument? = some settings := by
      simp [Option.bind_eq_some_iff]
    simp only [hspelled]
    cases (Toml.parse? text).bind Settings.ofDocument? <;> simp

/-- The plan of a file is resolved from the document that it spells. -/
theorem fromFile_eq_ok_iff {named : Path} :
    fromFile environment files (some named) (withLogLevel environment overrides) = .ok plan ↔
      ∃ text document, files.readText named = .ok text ∧ Toml.parse? text = some document ∧
        (Settings.ofDocument? document).isSome ∧ plan.ResolvedFrom environment document overrides := by
  simp only [fromFile]
  cases hread : readSettings files named with
  | error failure =>
    refine iff_of_false nofun ?_
    rintro ⟨text, document, htext, hparse, hsome, -⟩
    obtain ⟨settings, hsettings⟩ := Option.isSome_iff_exists.mp hsome
    cases hread.symm.trans (readSettings_eq_ok_iff.mpr ⟨text, document, htext, hparse, hsettings⟩)
  | ok settings =>
    obtain ⟨text, document, htext, hparse, hsettings⟩ := readSettings_eq_ok_iff.mp hread
    simp only [resolve_eq_ok_iff hsettings]
    constructor
    · exact fun h => ⟨text, document, htext, hparse, Option.isSome_of_eq_some hsettings, h⟩
    · rintro ⟨text', document', htext', hparse', -, h⟩
      obtain rfl := Except.ok.inj (htext.symm.trans htext')
      obtain rfl := Option.some.inj (hparse.symm.trans hparse')
      exact h

/-- An empty document sets nothing. -/
theorem ofDocument?_nil : Settings.ofDocument? [] = some {} := rfl

/-- A plan that is loaded is resolved from the document that its settings are taken from. -/
theorem load_eq_ok_iff : load environment files path overrides = .ok plan ↔
    ∃ document, TakesFrom files path document ∧ (Settings.ofDocument? document).isSome ∧
      plan.ResolvedFrom environment document overrides := by
  cases path with
  | some named =>
    simp only [load, chosenFile, Option.some_or, fromFile_eq_ok_iff]
    constructor
    · rintro ⟨text, document, hread, hparse, hsome, h⟩
      exact ⟨document, .named hread hparse, hsome, h⟩
    · rintro ⟨document, ⟨hread, hparse⟩, hsome, h⟩
      exact ⟨_, document, hread, hparse, hsome, h⟩
  | none =>
    cases hreaches : files.reaches defaultFile with
    | true =>
      simp only [load, chosenFile, Option.none_or, hreaches, if_true, fromFile_eq_ok_iff]
      constructor
      · rintro ⟨text, document, hread, hparse, hsome, h⟩
        exact ⟨document, .default hreaches hread hparse, hsome, h⟩
      · rintro ⟨document, hfrom, hsome, h⟩
        cases hfrom with
        | default _ hread hparse => exact ⟨_, document, hread, hparse, hsome, h⟩
        | empty hmissing => simp [hreaches] at hmissing
    | false =>
      simp only [load, chosenFile, Option.none_or, hreaches, Bool.false_eq_true, if_false, fromFile]
      rw [resolve_eq_ok_iff ofDocument?_nil]
      constructor
      · exact fun h => ⟨[], .empty hreaches, rfl, h⟩
      · rintro ⟨document, hfrom, -, h⟩
        cases hfrom with
        | default hthere => simp [hreaches] at hthere
        | empty => exact h

/-- No plan is loaded whose marker is empty. -/
theorem marker_ne_of_load (h : load environment files path overrides = .ok plan) : plan.marker ≠ "" := by
  obtain ⟨_, -, -, hresolved⟩ := load_eq_ok_iff.mp h
  exact hresolved.marker_ne

end Plan

end EnvSeed
