import EnvSeed.Proofs.Files.Following
import EnvSeed.Proofs.Plan.Sources
import EnvSeed.Proofs.Toml.Spelling

/-!
# The known keys of a document

A document that is plain, with tables for its sections and texts for its known keys, counts for the texts of these keys
only. Filled up with the defaults they make a document of their own, with each known key once and nothing else, and
the plans of all documents that are filled up to the same one are those of that one.
-/

namespace EnvSeed

namespace Toml.Item

/-- The item is a table. -/
def isTable : Item → Bool
  | table _ _ => true
  | _ => false

/-- The text that an item is. -/
def text? : Item → Option String
  | string text => some text
  | _ => none

end Toml.Item

namespace Settings

open Toml

/-- The known keys, each behind the section that it is in. -/
def knownKeys : List (String × String) :=
  [("paths", "key_file"), ("paths", "template"), ("paths", "output"), ("secret", "env_var"), ("secret", "marker"),
    ("output", "mode"), ("log", "level")]

/-- The item of a key in the table of that name. -/
def given? (document : Table) (name key : String) : Option Item :=
  match document.get? name with
  | some (.table _ entries) => Table.get? entries key
  | _ => none

/-- The text of a key in the table of that name. -/
def givenText? (document : Table) (name key : String) : Option String :=
  (given? document name key).bind Item.text?

/-- Sections are tables, known keys have texts, and the write mode is one that there is. -/
structure IsPlain (document : Table) : Prop where
  isTable : ∀ entry ∈ knownKeys, ∀ item ∈ document.get? entry.1, item.isTable = true
  isText : ∀ entry ∈ knownKeys, ∀ item ∈ given? document entry.1 entry.2, item.text?.isSome = true
  mode : ∀ text ∈ givenText? document "output" "mode", text = "append" ∨ text = "replace"

instance (document : Table) : Decidable (IsPlain document) :=
  decidable_of_iff
    ((∀ entry ∈ knownKeys, ∀ item ∈ document.get? entry.1, item.isTable = true) ∧
      (∀ entry ∈ knownKeys, ∀ item ∈ given? document entry.1 entry.2, item.text?.isSome = true) ∧
      ∀ text ∈ givenText? document "output" "mode", text = "append" ∨ text = "replace")
    ⟨fun ⟨htable, htext, hmode⟩ => ⟨htable, htext, hmode⟩, fun ⟨htable, htext, hmode⟩ => ⟨htable, htext, hmode⟩⟩

/-- The texts of the known keys, filled up with the defaults. -/
def filled (document : Table) : Settings where
  keyFile := (givenText? document "paths" "key_file").getD "keys.txt"
  template := (givenText? document "paths" "template").getD ".env.sample"
  output := (givenText? document "paths" "output").getD ".env"
  overrideVar := (givenText? document "secret" "env_var").getD "PRIVATE_KEY"
  marker := (givenText? document "secret" "marker").getD "PRIVATE_KEY="
  writeMode := if givenText? document "output" "mode" = some "replace" then .replace else .append
  logLevel := (givenText? document "log" "level").getD "info"

/-- The document that has the known keys and nothing else. -/
def document (settings : Settings) : Table :=
  [("paths", .table .header [("key_file", .string settings.keyFile), ("template", .string settings.template),
      ("output", .string settings.output)]),
    ("secret", .table .header [("env_var", .string settings.overrideVar), ("marker", .string settings.marker)]),
    ("output", .table .header [("mode", .string settings.writeMode.name)]),
    ("log", .table .header [("level", .string settings.logLevel)])]

/-- The lines of that document. -/
def lines (settings : Settings) : List Line :=
  [.header "paths", .pair "key_file" settings.keyFile, .pair "template" settings.template,
    .pair "output" settings.output,
    .header "secret", .pair "env_var" settings.overrideVar, .pair "marker" settings.marker,
    .header "output", .pair "mode" settings.writeMode.name,
    .header "log", .pair "level" settings.logLevel]

/-- The text of that document. -/
def written (settings : Settings) : String :=
  String.ofList (writtenLines settings.lines)

variable {document : Table}

/-- What is written reads as the known keys and nothing else, whatever the settings are. -/
theorem parse?_written (settings : Settings) : parse? settings.written = some settings.document := by
  have hbare : ∀ line ∈ settings.lines, IsBare line.name := by
    simp only [lines, List.forall_mem_cons, Line.name]
    decide
  rw [written, Toml.parse?_written hbare]
  rfl

/-- A section that is missing or a table has the items of its keys. -/
theorem items_of_isTable {name : String}
    (h : ∀ item ∈ document.get? name, item.isTable = true) : section? document name =
      some fun _ key => given? document name key := by
  unfold section? given?
  cases hfound : document.get? name with
  | none => rfl
  | some item =>
    have htable := h item hfound
    cases item with
    | table origin entries => rfl
    | _ => cases htable

/-- An item that is a text gives that text. -/
theorem text?_of_isText {given : Option Item} (h : ∀ item ∈ given, item.text?.isSome = true) (default : String) :
    text? default given = some ((given.bind Item.text?).getD default) := by
  cases given with
  | none => rfl
  | some item =>
    have htext := h item rfl
    cases item with
    | string text => rfl
    | _ => cases htext

/-- An item that names a write mode gives that mode. -/
theorem mode?_of_isText {given : Option Item} (h : ∀ item ∈ given, item.text?.isSome = true)
    (hmode : ∀ text ∈ given.bind Item.text?, text = "append" ∨ text = "replace") :
    mode? .append given = some (if given.bind Item.text? = some "replace" then .replace else .append) := by
  cases given with
  | none => rfl
  | some item =>
    have htext := h item rfl
    cases item with
    | string text => rcases hmode text rfl with rfl | rfl <;> rfl
    | _ => cases htext

/-- The settings of a plain document are the texts of its known keys, filled up with the defaults. -/
theorem ofDocument?_of_isPlain (h : IsPlain document) : ofDocument? document = some (filled document) := by
  have hpaths := items_of_isTable (h.isTable ("paths", "key_file") (by decide))
  have hsecret := items_of_isTable (h.isTable ("secret", "env_var") (by decide))
  have houtput := items_of_isTable (h.isTable ("output", "mode") (by decide))
  have hlog := items_of_isTable (h.isTable ("log", "level") (by decide))
  have htext (entry : String × String) (hentry : entry ∈ knownKeys) (default : String) :
      text? default (given? document entry.1 entry.2) = some ((givenText? document entry.1 entry.2).getD default) :=
    text?_of_isText (h.isText entry hentry) default
  have hmode := mode?_of_isText (h.isText ("output", "mode") (by decide)) h.mode
  simp only [ofDocument?, hpaths, hsecret, houtput, hlog, Option.bind_eq_bind, Option.bind_some, hmode,
    htext ("paths", "key_file") (by decide), htext ("paths", "template") (by decide),
    htext ("paths", "output") (by decide), htext ("secret", "env_var") (by decide),
    htext ("secret", "marker") (by decide), htext ("log", "level") (by decide)]
  rfl

/-- The document of settings is plain. -/
theorem isPlain_document (settings : Settings) : IsPlain settings.document where
  isTable := by
    simp only [knownKeys, List.forall_mem_cons]
    simp [document, Table.get?, Item.isTable]
  isText := by
    simp only [knownKeys, List.forall_mem_cons]
    simp [given?, document, Table.get?, Item.text?]
  mode := by
    intro text htext
    obtain rfl : settings.writeMode.name = text := Option.some.inj htext
    cases settings.writeMode with
    | append => exact .inl rfl
    | replace => exact .inr rfl

/-- There is nothing to fill up in the document of settings. -/
theorem filled_document (settings : Settings) : filled settings.document = settings := by
  obtain ⟨keyFile, template, output, overrideVar, marker, writeMode, logLevel⟩ := settings
  cases writeMode <;> rfl

/-- A document without any of the known keys is filled up to the defaults. -/
theorem filled_of_forall_eq_none (h : ∀ entry ∈ knownKeys, given? document entry.1 entry.2 = none) :
    filled document = {} := by
  simp only [knownKeys, List.forall_mem_cons] at h
  simp [filled, givenText?, h]

end Settings

namespace Plan

open Settings (IsPlain filled given? knownKeys)

variable {environment : Environment} {files : FileSystem} {named : Path} {text : String} {document : Toml.Table}
  {overrides : Overrides}

/-- The plan of a file with a plain document is that of the settings that the document is filled up to. -/
theorem fromFile_of_isPlain (hread : files.readText named = .ok text) (hparse : Toml.parse? text = some document)
    (hplain : IsPlain document) :
    fromFile environment files (some named) overrides = resolve environment (filled document) overrides := by
  have hsettings := readSettings_eq_ok_iff.mpr ⟨text, document, hread, hparse, Settings.ofDocument?_of_isPlain hplain⟩
  simp only [fromFile, hsettings]

/-- Resolving settings fails for an empty marker, else for an empty variable, and for nothing else. -/
theorem resolve_cases (environment : Environment) (settings : Settings) (overrides : Overrides) :
    (settings.marker = "" →
      resolve environment settings overrides = .error (.config "[secret].marker must not be empty")) ∧
    (settings.marker ≠ "" → settings.overrideVar = "" →
      resolve environment settings overrides = .error (.config "[secret].env_var must not be empty")) ∧
    (settings.marker ≠ "" → settings.overrideVar ≠ "" → ∃ plan, resolve environment settings overrides = .ok plan) := by
  unfold resolve
  refine ⟨fun hmarker => ?_, fun hmarker hvariable => ?_, fun hmarker hvariable => ?_⟩
  · simp [hmarker]
  · simp [hmarker, hvariable]
  · simp [hmarker, hvariable]

/-- Settings that are all defaults and no overrides make the default plan: none of its paths has a tilde. -/
theorem resolve_defaults (environment : Environment) : resolve environment {} {} = .ok {} := rfl

/-- A file with a plain document makes the plan that is made of the seven known keys alone, whatever else it has and
however it is written: with the same values, or with what is missing written out, the plan is the same. It fails for an
empty marker, else for an empty variable, and for nothing else. A document without any of the known keys is as good as
no file, and without overrides its plan is the default one. -/
theorem fromFile_of_plain (environment : Environment) (overrides : Overrides)
    (hread : files.readText named = .ok text) (hparse : Toml.parse? text = some document) (hplain : IsPlain document) :
    let settings := filled document
    let result := fromFile environment files (some named) overrides
    (Toml.parse? settings.written = some settings.document ∧ IsPlain settings.document ∧
      filled settings.document = settings ∧ ∀ (other : FileSystem) path, other.readText path = .ok settings.written →
        fromFile environment other (some path) overrides = result) ∧
    (∀ (other : FileSystem) path spelling document', other.readText path = .ok spelling →
      Toml.parse? spelling = some document' → IsPlain document' → filled document' = settings →
      fromFile environment other (some path) overrides = result) ∧
    (settings.marker = "" → result = .error (.config "[secret].marker must not be empty")) ∧
    (settings.marker ≠ "" → settings.overrideVar = "" →
      result = .error (.config "[secret].env_var must not be empty")) ∧
    (settings.marker ≠ "" → settings.overrideVar ≠ "" → ∃ plan, result = .ok plan) ∧
    ((∀ entry ∈ knownKeys, given? document entry.1 entry.2 = none) →
      result = fromFile environment files none overrides ∧ (overrides = {} → result = .ok {})) := by
  intro settings result
  have hresult : result = resolve environment settings overrides := fromFile_of_isPlain hread hparse hplain
  have hsame (other : FileSystem) path spelling document' (hother : other.readText path = .ok spelling)
      (hspelling : Toml.parse? spelling = some document') (hplain' : IsPlain document')
      (hfilled : filled document' = settings) : fromFile environment other (some path) overrides = result := by
    rw [fromFile_of_isPlain hother hspelling hplain', hfilled, hresult]
  obtain ⟨hmarker, hvariable, hplan⟩ := hresult ▸ resolve_cases environment settings overrides
  refine ⟨⟨Settings.parse?_written settings, Settings.isPlain_document settings, Settings.filled_document settings,
    fun other path hother => ?_⟩, hsame, hmarker, hvariable, hplan, fun hnone => ?_⟩
  · exact hsame other path _ _ hother (Settings.parse?_written settings) (Settings.isPlain_document settings)
      (Settings.filled_document settings)
  · have hdefaults : settings = {} := Settings.filled_of_forall_eq_none hnone
    rw [hresult, hdefaults]
    refine ⟨rfl, ?_⟩
    rintro rfl
    exact resolve_defaults environment

/-- An inline table, a dotted key, a header and keys that are not known, and all seven keys under headers. -/
theorem fromFile_of_plain_inline :
    let text := "log = \x7b level = \x22debug\x22, file = 1 \x7d\nsecret.env_var = \x22SEED\x22\n[output]\n" ++
      "mode = \x22replace\x22\n[paths.more]\nkey_file = [1979-05-27]\n"
    let settings : Settings := { overrideVar := "SEED", writeMode := .replace, logLevel := "debug" }
    let place := ["tmp".toUTF8, "work".toUTF8, "envboot.toml".toUTF8]
    let holding (text : String) := FileSystem.fresh.store place (.file text.toUTF8 0o644)
    settings.written = "[paths]\nkey_file = \x22keys.txt\x22\ntemplate = \x22.env.sample\x22\n" ++
        "output = \x22.env\x22\n[secret]\nenv_var = \x22SEED\x22\nmarker = \x22PRIVATE_KEY=\x22\n" ++
        "[output]\nmode = \x22replace\x22\n[log]\nlevel = \x22debug\x22\n" ∧
      (∃ document, Toml.parse? text = some document ∧ IsPlain document ∧ filled document = settings) ∧
      fromFile ⟨[], none⟩ (holding text) (some defaultFile) {} =
        .ok { overrideVar := "SEED", writeMode := .replace, logLevel := "debug" } ∧
      fromFile ⟨[], none⟩ (holding settings.written) (some defaultFile) {} =
        fromFile ⟨[], none⟩ (holding text) (some defaultFile) {} := by
  intro text settings place holding
  have hread (text : String) : (holding text).readText defaultFile = .ok text :=
    FileSystem.readText_of_file (by with_unfolding_all rfl) (FileSystem.node?_store_self _ (by simp [place]) _)
  have hdocument : (Toml.parse? text).any (fun document => IsPlain document ∧ filled document = settings) = true := by
    decide +kernel
  obtain ⟨document, hparse, hholds⟩ := (Option.any_eq_true _ _).mp hdocument
  obtain ⟨hplain, hfilled⟩ := of_decide_eq_true hholds
  have hplan : fromFile ⟨[], none⟩ (holding text) (some defaultFile) {} =
      .ok { overrideVar := "SEED", writeMode := .replace, logLevel := "debug" } := by
    rw [fromFile_of_isPlain (hread text) hparse hplain, hfilled]
    exact eq_ok_of_toOption (by decide +kernel)
  obtain ⟨⟨-, -, -, hwritten⟩, -⟩ := fromFile_of_plain ⟨[], none⟩ {} (hread text) hparse hplain
  rw [hfilled] at hwritten
  exact ⟨by decide +kernel, ⟨document, hparse, hplain, hfilled⟩, hplan, hwritten _ _ (hread settings.written)⟩

end Plan

end EnvSeed
