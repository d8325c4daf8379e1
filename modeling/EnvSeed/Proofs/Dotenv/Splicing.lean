import EnvSeed.Proofs.Dotenv.Faults
import EnvSeed.Proofs.Dotenv.Literal
import EnvSeed.Proofs.Files.Writing

/-!
# Putting variables in while reading

A value can be read in one pass that puts in what a variable means where its name ends, and keeps nothing but flags
for what is open and the text so far. With the values of the entries before at hand, and counting as it goes, such a
pass through a file comes to what reading all entries first and evaluating them then comes to. So what variables mean
has no say in whether a file can be read, in the fault that is told of it, or in the number of its entries. It can
change only whether the key is set, and that only where an entry reads a variable.
-/

namespace EnvSeed.Dotenv

/-- What is open in a value, and its text so far with the variables put in. A name is open with or without a brace,
and kept last character first. -/
structure Splice where
  ending : Bool := false
  escaped : Bool := false
  strong : Bool := false
  weak : Bool := false
  name : Option (Bool × List Char) := none
  text : String := ""

namespace Splice

/-- Put in the variable of a reversed name. -/
def put (meaning : String → String) (splice : Splice) (reversed : List Char) : Splice :=
  { splice with name := none, text := splice.text ++ meaning (String.ofList reversed.reverse) }

/-- Add a character to the text. -/
def push (splice : Splice) (c : Char) : Splice :=
  { splice with text := splice.text.push c }

/-- Read a character of a name, or the one that ends it. -/
def readName (meaning : String → String) (splice : Splice) (braced : Bool) (reversed : List Char) (c : Char) : Splice :=
  if Text.isAlphanumeric c then { splice with name := some (braced, c :: reversed) }
  else if braced then
    if c = '\x7d' then splice.put meaning reversed else { splice with name := some (true, c :: reversed) }
  else if c = '\x7b' && reversed.isEmpty then { splice with name := some (true, []) }
  else if c = '$' then { splice.put meaning reversed with name := some (false, []) }
  else (splice.put meaning reversed).push c

/-- Read a character where no name is open, nor single quotes, nor a backslash. -/
def readOpen (splice : Splice) (c : Char) : Splice :=
  if c = '$' then { splice with name := some (false, []) }
  else if splice.weak then
    if c = '\x22' then { splice with weak := false }
    else if c = '\x5c' then { splice with escaped := true }
    else splice.push c
  else if c = '\x27' then { splice with strong := true }
  else if c = '\x22' then { splice with weak := true }
  else if c = '\x5c' then { splice with escaped := true }
  else if c = ' ' || c = '\t' then { splice with ending := true }
  else splice.push c

/-- Read a character; the first flag that is set decides. -/
def read (meaning : String → String) (splice : Splice) (c : Char) : Option Splice :=
  if splice.ending then if c = ' ' || c = '\t' then some splice else none
  else if splice.escaped then (unescape? c).map fun meant => { splice.push meant with escaped := false }
  else if splice.strong then some (if c = '\x27' then { splice with strong := false } else splice.push c)
  else
    match splice.name with
    | some (braced, reversed) => some (splice.readName meaning braced reversed c)
    | none => some (splice.readOpen c)

/-- Read on to the end of the value, or to the comment after it. -/
def readFrom (meaning : String → String) : Nat → Splice → List Char → Except Nat Splice
  | _, splice, [] => .ok splice
  | index, splice, c :: rest =>
    if splice.ending && c = '#' then .ok splice
    else
      match splice.read meaning c with
      | none => .error index
      | some next => readFrom meaning (index + 1) next rest

/-- The text of a value that ends here, with a name that is still open put in. -/
def finish? (meaning : String → String) (splice : Splice) : Option String :=
  match splice.name with
  | some (true, _) => none
  | some (false, reversed) => if splice.strong || splice.weak then none else some (splice.put meaning reversed).text
  | none => if splice.strong || splice.weak then none else some splice.text

end Splice

/-- The text of a value, read in one pass. -/
def spliceValue (meaning : String → String) (text : List Char) : Except Fault String :=
  match Splice.readFrom meaning 0 {} text with
  | .error index => .error (.line (String.ofList text) index)
  | .ok splice =>
    match splice.finish? meaning with
    | some value => .ok value
    | none => .error (.line (String.ofList text) ((String.ofList text).utf8ByteSize - 1))

/-- The key and the text of the entry on a logical line, if it has one. -/
def spliceEntry (meaning : String → String) (line : List Char) : Except Fault (Option (String × String)) :=
  let cursor := Cursor.skipBlanks ⟨Text.trimEnd line, 0⟩
  if cursor.atEnd then .ok none
  else
    match cursor.assignment with
    | .error index => .error (.line (String.ofList line) index)
    | .ok (key, value) =>
      if value.atEnd then .ok (some (key, ""))
      else (spliceValue meaning value.rest).map fun text => some (key, text)

/-- The values of the entries so far, last first, and what was counted and found among them. -/
structure Tally where
  values : Values
  summary : Summary

/-- Nothing read yet. -/
def Tally.start : Tally := ⟨[], ⟨0, false⟩⟩

/-- One more entry. -/
def Tally.add (key : String) (tally : Tally) (pair : String × String) : Tally :=
  ⟨pair :: tally.values,
    ⟨tally.summary.entries + 1, tally.summary.keyDefined || (pair.1 = key && !pair.2.isEmpty)⟩⟩

/-- Go through logical lines up to the first fault, each with the values of those before it. -/
def tallyLines (environment : Environment) (key : String) : Tally → List (List Char) → Except Fault Tally
  | tally, [] => .ok tally
  | tally, line :: rest =>
    match spliceEntry (meaning environment tally.values) line with
    | .error fault => .error fault
    | .ok none => tallyLines environment key tally rest
    | .ok (some pair) => tallyLines environment key (tally.add key pair) rest

/-- The summary of a file, in one pass. -/
def summaryInOnePass (environment : Environment) (key : String) (bytes : ByteArray) : Except Fault Summary :=
  let reader := readLines bytes
  match tallyLines environment key .start reader.done.reverse with
  | .error fault => .error fault
  | .ok tally =>
    match reader.endFault? with
    | some fault => .error fault
    | none => .ok tally.summary

/-- Read the file at a path in one pass, and look for a key. -/
def inspectInOnePass (environment : Environment) (files : FileSystem) (path : Path) (key : String) :
    Option Summary × Event :=
  match files.open? path with
  | .error fault => (none, cannotOpen path fault)
  | .ok node =>
    match node.read with
    | .error fault => (none, notValid path fault.message)
    | .ok bytes =>
      match summaryInOnePass environment key bytes with
      | .error fault => (none, notValid path fault.message)
      | .ok summary => (some summary, inspected path key summary)

section Value

variable {meaning : String → String}

/-- The flags at a place. -/
def Place.flags : Place → String → Splice
  | plain quoted, text => { weak := quoted, text }
  | escaped quoted, text => { weak := quoted, escaped := true, text }
  | strong, text => { strong := true, text }
  | name quoted reversed, text => { weak := quoted, name := some (false, reversed), text }
  | braced quoted reversed, text => { weak := quoted, name := some (true, reversed), text }
  | ended, text => { ending := true, text }

/-- The text of the parts so far, last part first. -/
def textSoFar (meaning : String → String) (reversed : List Part) : String :=
  evaluate meaning reversed.reverse

/-- One more part puts what it stands for at the end. -/
theorem textSoFar_cons (part : Part) (parts : List Part) :
    textSoFar meaning (part :: parts) = textSoFar meaning parts ++ part.text meaning := by
  unfold textSoFar
  rw [List.reverse_cons, evaluate_eq_join, evaluate_eq_join, List.map_append, String.join_append]
  simp

/-- One more character stands for itself. -/
theorem textSoFar_literal (c : Char) (parts : List Part) :
    textSoFar meaning (.literal c :: parts) = (textSoFar meaning parts).push c := by
  rw [textSoFar_cons, String.push_eq_append]
  rfl

/-- One more name stands for what it means. -/
theorem textSoFar_ofName (reversed : List Char) (parts : List Part) :
    textSoFar meaning (.ofName reversed :: parts) =
      textSoFar meaning parts ++ meaning (String.ofList reversed.reverse) :=
  textSoFar_cons (.ofName reversed) parts

/-- What is read in one pass up to the same place, given what variables mean. -/
def Progress.spliced (meaning : String → String) (progress : Progress) : Splice :=
  progress.place.flags (textSoFar meaning progress.parts)

/-- A character where nothing but a double quote may be open is read the same either way. -/
theorem readOpen_plain (quoted : Bool) (parts : List Part) (c : Char) :
    (Progress.spliced meaning ⟨.plain quoted, parts⟩).readOpen c = (readPlain quoted parts c).spliced meaning := by
  unfold Splice.readOpen readPlain Progress.spliced
  by_cases hdollar : c = '$'
  · rw [if_pos hdollar, if_pos hdollar]
    rfl
  rw [if_neg hdollar, if_neg hdollar]
  by_cases hslash : c = '\x5c'
  · cases quoted <;> simp [Place.flags, hslash]
  by_cases hquote : c = '\x22'
  · cases quoted <;> simp [Place.flags, hquote]
  simp only [if_neg hslash, if_neg hquote]
  cases quoted with
  | true => simp [Place.flags, Splice.push, textSoFar_literal]
  | false =>
    simp only [Place.flags, Bool.false_eq_true, if_false]
    split
    · rfl
    split
    · rfl
    · rw [textSoFar_literal]
      rfl

/-- A character of a name, or the one that ends it, is read the same either way. -/
theorem readName_name (quoted : Bool) (reversed : List Char) (parts : List Part) (c : Char) :
    (Progress.spliced meaning ⟨.name quoted reversed, parts⟩).readName meaning false reversed c =
      (readName quoted reversed parts c).spliced meaning := by
  unfold Splice.readName readName Progress.spliced
  split
  · rfl
  simp only [Bool.false_eq_true, if_false]
  split
  · rfl
  split
  · rw [textSoFar_ofName]
    rfl
  · rw [textSoFar_literal, textSoFar_ofName]
    rfl

/-- Every character is read the same in one pass and to parts, and refused together. -/
theorem read_spliced (progress : Progress) (c : Char) :
    (progress.spliced meaning).read meaning c = (progress.read c).map (Progress.spliced meaning) := by
  obtain ⟨place, parts⟩ := progress
  cases place with
  | plain quoted => exact congrArg some (readOpen_plain quoted parts c)
  | escaped quoted =>
    cases hmeant : unescape? c with
    | none => simp [Splice.read, Progress.read, Progress.spliced, Place.flags, hmeant]
    | some meant =>
      simp [Splice.read, Progress.read, Progress.spliced, Place.flags, Splice.push, textSoFar_literal, hmeant]
  | strong =>
    by_cases hquote : c = '\x27'
    · simp [Splice.read, Progress.read, Progress.spliced, Place.flags, hquote]
    · simp [Splice.read, Progress.read, Progress.spliced, Place.flags, Splice.push, textSoFar_literal, hquote]
  | name quoted reversed => exact congrArg some (readName_name quoted reversed parts c)
  | braced quoted reversed =>
    by_cases hclose : c = '\x7d'
    · subst hclose
      have hname : Text.isAlphanumeric '\x7d' = false := by decide
      simp [Splice.read, Splice.readName, Progress.read, Progress.spliced, Place.flags, Splice.put, textSoFar_ofName,
        hname]
    · simp [Splice.read, Splice.readName, Progress.read, Progress.spliced, Place.flags, hclose]
  | ended =>
    by_cases hblank : c = ' ' ∨ c = '\t'
    · simp [Splice.read, Progress.read, Progress.spliced, Place.flags, hblank]
    · simp [Splice.read, Progress.read, Progress.spliced, Place.flags, hblank]

/-- Only behind a blank after its end a value can stop before the end of its text. -/
theorem ending_spliced (progress : Progress) :
    (progress.spliced meaning).ending = decide (progress.place = .ended) := by
  obtain ⟨place, parts⟩ := progress
  cases place <;> rfl

/-- A text is read to the same place in one pass and to parts, or refused at the same character. -/
theorem readFrom_spliced (index : Nat) (progress : Progress) (text : List Char) :
    Splice.readFrom meaning index (progress.spliced meaning) text =
      (readFrom index progress text).map (Progress.spliced meaning) := by
  induction text generalizing index progress with
  | nil => rfl
  | cons c rest ih =>
    unfold Splice.readFrom readFrom
    rw [ending_spliced, read_spliced]
    split
    · rfl
    · cases progress.read c with
      | none => rfl
      | some next => exact ih (index + 1) next

/-- A value can end at the same places either way, and has the same text there. -/
theorem finish?_spliced (progress : Progress) :
    (progress.spliced meaning).finish? meaning = progress.finish?.map (evaluate meaning) := by
  obtain ⟨place, parts⟩ := progress
  cases place with
  | plain quoted => cases quoted <;> rfl
  | escaped quoted => cases quoted <;> rfl
  | strong => rfl
  | name quoted reversed =>
    cases quoted with
    | true => rfl
    | false => exact congrArg some (textSoFar_ofName reversed parts).symm
  | braced quoted reversed => cases quoted <;> rfl
  | ended => rfl

/-- A value is the same read in one pass and evaluated from its parts, and a text that is none has the same fault. -/
theorem spliceValue_eq (text : List Char) : spliceValue meaning text = (readValue text).map (evaluate meaning) := by
  have hread : Splice.readFrom meaning 0 {} text =
      (readFrom 0 ⟨.plain false, []⟩ text).map (Progress.spliced meaning) :=
    readFrom_spliced 0 ⟨.plain false, []⟩ text
  unfold spliceValue readValue
  rw [hread]
  cases readFrom 0 ⟨.plain false, []⟩ text with
  | error index => rfl
  | ok progress =>
    simp only [Except.map, finish?_spliced]
    cases progress.finish? <;> rfl

/-- An entry is the same read in one pass and evaluated from its parts, and a line without one has the same fault. -/
theorem spliceEntry_eq (line : List Char) :
    spliceEntry meaning line =
      (readEntry line).map (Option.map fun entry => (entry.key, evaluate meaning entry.value)) := by
  unfold spliceEntry readEntry
  simp only
  split
  · rfl
  · cases (Cursor.skipBlanks ⟨Text.trimEnd line, 0⟩).assignment with
    | error index => rfl
    | ok assigned =>
      obtain ⟨key, value⟩ := assigned
      simp only [spliceValue_eq]
      split
      · rfl
      · cases readValue value.rest <;> rfl

end Value

section Lines

variable {environment : Environment} {key : String}

/-- What is counted and found among values. -/
def Values.summary (key : String) (values : Values) : Summary :=
  ⟨values.length, values.any fun (name, value) => name = key && !value.isEmpty⟩

/-- A tally that has counted the values it has. -/
def Values.tally (key : String) (values : Values) : Tally :=
  ⟨values, values.summary key⟩

/-- One more entry leaves a tally that has counted its values. -/
theorem add_tally (values : Values) (pair : String × String) :
    (values.tally key).add key pair = Values.tally key (pair :: values) := by
  have hfound : (Values.summary key (pair :: values)).keyDefined =
      ((values.summary key).keyDefined || (pair.1 = key && !pair.2.isEmpty)) := Bool.or_comm _ _
  unfold Values.tally Tally.add
  rw [← hfound]
  rfl

/-- Every entry has one value. -/
theorem length_foldl_define (entries : List Entry) (values : Values) :
    (entries.foldl (define environment) values).length = values.length + entries.length := by
  induction entries generalizing values with
  | nil => rfl
  | cons entry rest ih =>
    rw [List.foldl_cons, ih, define, List.length_cons, List.length_cons]
    omega

/-- The values of entries are summed up as the entries are. -/
theorem summary_values (entries : List Entry) :
    (values environment entries).summary key = summarize environment key entries := by
  have hlength : (values environment entries).length = entries.length := by
    rw [values, length_foldl_define, List.length_nil, Nat.zero_add]
  unfold Values.summary summarize
  rw [hlength]

/-- Lines are gone through to the tally of all their entries' values, behind those of the entries before them, or
stop at the fault of the first line that cannot be read to an entry. -/
theorem tallyLines_eq (values : Values) (lines : List (List Char)) :
    tallyLines environment key (values.tally key) lines =
      (lines.mapM readEntry).map fun found => ((found.filterMap id).foldl (define environment) values).tally key := by
  induction lines generalizing values with
  | nil => rfl
  | cons line rest ih =>
    unfold tallyLines
    rw [spliceEntry_eq, List.mapM_cons]
    cases readEntry line with
    | error fault => rfl
    | ok entry? =>
      cases entry? with
      | none =>
        have hrest := ih values
        simp only [Except.map, Option.map_none, hrest]
        cases rest.mapM readEntry <;> rfl
      | some entry =>
        have hrest := ih (define environment values entry)
        simp only [Except.map, Option.map_some, add_tally]
        refine hrest.trans ?_
        cases rest.mapM readEntry <;> rfl

/-- In one pass a file comes to the summary of its entries, or to its fault. -/
theorem summaryInOnePass_eq (environment : Environment) (key : String) (bytes : ByteArray) :
    summaryInOnePass environment key bytes = (parse bytes).map (summarize environment key) := by
  have hlines : tallyLines environment key .start (readLines bytes).done.reverse =
      ((readLines bytes).done.reverse.mapM readEntry).map fun found =>
        ((found.filterMap id).foldl (define environment) []).tally key :=
    tallyLines_eq [] (readLines bytes).done.reverse
  unfold summaryInOnePass parse
  simp only [hlines]
  cases (readLines bytes).done.reverse.mapM readEntry with
  | error fault => rfl
  | ok found =>
    simp only [Except.map]
    cases (readLines bytes).endFault? with
    | some fault => rfl
    | none => exact congrArg Except.ok (summary_values (found.filterMap id))

/-- Inspecting a file in one pass is inspecting it. -/
theorem inspectInOnePass_eq (environment : Environment) (files : FileSystem) (path : Path) (key : String) :
    inspectInOnePass environment files path key = inspect environment files path key := by
  unfold inspectInOnePass inspect
  cases files.open? path with
  | error fault => rfl
  | ok node =>
    cases hread : node.read with
    | error fault => simp only [hread]
    | ok bytes =>
      simp only [hread, summaryInOnePass_eq]
      cases parse bytes <;> rfl

end Lines

/-- Two inspections that differ at most in whether the key was found set: none has a summary, and both give the same
warning, or both have counted the same entries. -/
inductive AgreeButForKey (path : Path) (key : String) : Option Summary × Event → Option Summary × Event → Prop
  | refused {event : Event} (hlevel : event.level = .warn) : AgreeButForKey path key (none, event) (none, event)
  | summed (entries : Nat) (first second : Bool) : AgreeButForKey path key
      (some ⟨entries, first⟩, inspected path key ⟨entries, first⟩)
      (some ⟨entries, second⟩, inspected path key ⟨entries, second⟩)

/-- In any two environments a file is refused with the same warning, or has the same number of entries. -/
theorem agreeButForKey_inspect (first second : Environment) (files : FileSystem) (path : Path) (key : String) :
    AgreeButForKey path key (inspect first files path key) (inspect second files path key) := by
  unfold inspect
  cases files.open? path with
  | error fault => exact .refused rfl
  | ok node =>
    cases hread : node.read with
    | error fault =>
      simp only [hread]
      exact .refused rfl
    | ok bytes =>
      simp only [hread]
      cases parse bytes with
      | error fault => exact .refused rfl
      | ok entries => exact .summed entries.length _ _

/-- Without a dollar sign a file has one summary in all environments. -/
theorem summarize_eq_of_not_mem {bytes : ByteArray} (hbytes : 0x24 ∉ bytes.data.toList) {entries : List Entry}
    (h : parse bytes = .ok entries) (first second : Environment) (key : String) :
    summarize first key entries = summarize second key entries := by
  have hvalues : values first entries = values second entries := by
    refine List.foldl_ext _ _ _ fun earlier entry hentry => ?_
    have hvalue : evaluate (meaning first earlier) entry.value = evaluate (meaning second earlier) entry.value :=
      evaluate_congr fun name hname => absurd hname (not_reads_of_not_mem hbytes h hentry name)
    rw [define, define, hvalue]
  rw [summarize, summarize, hvalues]

/-- An inspection comes to the same whether variables are put in as the file is read or only behind the last line. In
any two environments it either refuses a file, with the same warning, or counts the same entries in it. So environments
can make a difference only to whether the key is found set, and to that only if there is a dollar sign in the file. -/
theorem inspect_of_environments (files : FileSystem) (path : Path) (key : String) :
    (∀ environment, inspectInOnePass environment files path key = inspect environment files path key) ∧
    ∀ first second,
      AgreeButForKey path key (inspect first files path key) (inspect second files path key) ∧
      ∀ bytes, files.read path = .ok bytes → 0x24 ∉ bytes.data.toList →
        inspect first files path key = inspect second files path key := by
  refine ⟨fun environment => inspectInOnePass_eq environment files path key, fun first second => ⟨?_, ?_⟩⟩
  · exact agreeButForKey_inspect first second files path key
  · intro bytes hread hbytes
    cases hparse : parse bytes with
    | error fault => rw [inspect_of_fault hread hparse, inspect_of_fault hread hparse]
    | ok entries =>
      rw [inspect_of_entries hread hparse, inspect_of_entries hread hparse,
        summarize_eq_of_not_mem hbytes hparse first second key]

/-- A name in braces and double quotes that one environment knows and the other does not, behind a dollar sign that
is quoted; and a file without a dollar sign. -/
theorem inspect_of_environments_braced :
    let place := ["tmp".toUTF8, "work".toUTF8, ".env".toUTF8]
    let path := Path.ofString ".env"
    let files := FileSystem.fresh.store place (.file "A=\x27$B\x27\nPRIVATE_KEY=\x22${B}\x22\n".toUTF8 0o644)
    let content := "PRIVATE_KEY=\x27\n\x27 # a\n".toUTF8
    let literal := FileSystem.fresh.store place (.file content 0o644)
    let known := Environment.ofList [("B", "x".toUTF8)]
    (inspect ⟨[], none⟩ files path "PRIVATE_KEY").1 = some ⟨2, false⟩ ∧
      (inspect known files path "PRIVATE_KEY").1 = some ⟨2, true⟩ ∧
      AgreeButForKey path "PRIVATE_KEY" (inspect ⟨[], none⟩ files path "PRIVATE_KEY")
        (inspect known files path "PRIVATE_KEY") ∧
      literal.read path = .ok content ∧ 0x24 ∉ content.data.toList ∧
      inspect ⟨[], none⟩ literal path "PRIVATE_KEY" = inspect known literal path "PRIVATE_KEY" := by
  intro place path files content literal known
  have hread : literal.read path = .ok content := eq_ok_of_toOption (by decide +kernel)
  have hcontent : 0x24 ∉ content.data.toList := by decide +kernel
  exact ⟨by decide +kernel, by decide +kernel, ((inspect_of_environments files path _).2 ⟨[], none⟩ known).1, hread, hcontent,
    ((inspect_of_environments literal path _).2 ⟨[], none⟩ known).2 content hread hcontent⟩

end EnvSeed.Dotenv
