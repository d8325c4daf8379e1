import EnvSeed.Proofs.Seeding.CheckedKey
import EnvSeed.Proofs.Seeding.Expanding

/-!
# The events of a run

The events of a run tell how far it came. Without a key pair there is none. With one there are two, and a template
adds at most a warning about its marker. A write adds one event exactly if it goes well, with the bytes that the report
names, and then a marker with a key adds one more about the output that was just written: a warning where that has a
fault, and else what the report says of it.
-/

namespace EnvSeed.Seeding

open Text (NonOverlapping)

/-- The source of the secret, whatever the key pair is. -/
def sourceFor (plan : Plan) (override : Option String) : SecretSource :=
  if override.any (!·.isEmpty) then .environment plan.overrideVar else .keyFile plan.keyFile

/-- The events of a run that has a key pair. -/
def openingEvents (plan : Plan) (override : Option String) : List Event :=
  [⟨.debug, "key-pair file loaded", [("key_file", .text plan.keyFile.display)]⟩,
    ⟨.info, "private key resolved", [("source", .text (sourceFor plan override).text)]⟩]

/-- What is worth a warning about the marker of a template: that there is none, or the number of them, as many as there
can be without an overlap. -/
inductive MarkerNotice (plan : Plan) (template : String) : List Event → Prop
  | missing (h : ¬plan.marker.toList <:+: template.toList) : MarkerNotice plan template
      [⟨.warn, "marker not found; template written unchanged",
        [("template", .text plan.template.display), ("marker", .text plan.marker)]⟩]
  | single (h : plan.marker.toList <:+: template.toList)
      (hone : ∀ starts, NonOverlapping plan.marker.toList template.toList starts → starts.card ≤ 1) :
      MarkerNotice plan template []
  | several {starts : Finset Nat} (h : NonOverlapping plan.marker.toList template.toList starts)
      (hmost : ∀ other, NonOverlapping plan.marker.toList template.toList other → other.card ≤ starts.card)
      (htwo : 2 ≤ starts.card) : MarkerNotice plan template
      [⟨.warn, "marker appears more than once; only the first was expanded",
        [("template", .text plan.template.display), ("marker", .text plan.marker),
          ("occurrences", .number starts.card)]⟩]

/-- What is said about the output after a write, with the summary that the report has of it. An output that cannot be
opened is not among the cases: it has just been written, and no file is closed to anybody. -/
inductive OutputNotice (plan : Plan) (after : FileSystem) : Option Dotenv.Summary → List Event → Prop
  | unkeyed (h : ∀ key, plan.marker ≠ key ++ "=") : OutputNotice plan after none []
  | faulty {key : String} {bytes : ByteArray} {fault : Dotenv.Fault} (h : plan.marker = key ++ "=")
      (hread : after.read plan.output = .ok bytes) (hparse : Dotenv.parse bytes = .error fault) :
      OutputNotice plan after none
        [⟨.warn, "output is not valid dotenv syntax",
          [("path", .text plan.output.display), ("error", .text fault.message)]⟩]
  | summed {key : String} {bytes : ByteArray} {entries : List Dotenv.Entry} {summary : Dotenv.Summary}
      (h : plan.marker = key ++ "=") (hread : after.read plan.output = .ok bytes)
      (hparse : Dotenv.parse bytes = .ok entries) : OutputNotice plan after (some summary)
        [⟨.debug, "output inspected", [("path", .text plan.output.display), ("entries", .number summary.entries),
          ("key", .key key), ("key_defined", .truth summary.keyDefined)]⟩]

/-- The four ways of a run with the events of each. -/
inductive Trace (files : FileSystem) (plan : Plan) (override : Option String) : Seeding → Prop
  | noKeys {failure : Failure} (hkeys : KeyFile.load files plan.keyFile = .error failure) :
      Trace files plan override ⟨.error failure, [], files⟩
  | noTemplate {keys : KeyPair} {failure : Failure} (hkeys : KeyFile.load files plan.keyFile = .ok keys)
      (htemplate : readTemplate files plan.template = .error failure) :
      Trace files plan override ⟨.error failure, openingEvents plan override, files⟩
  | refused {draft : Draft} {fault : WriteFault} {notice : List Event} (hread : draft.ReadFrom files plan override)
      (hnotice : MarkerNotice plan draft.template notice)
      (hwrite : files.tryWrite plan.output plan.writeMode (draft.data plan) = ⟨.error fault, files⟩) :
      Trace files plan override ⟨.error (.ofWrite plan.output fault), openingEvents plan override ++ notice, files⟩
  | written {draft : Draft} {report : Report} {after : FileSystem} {notice last : List Event}
      (hread : draft.ReadFrom files plan override) (hnotice : MarkerNotice plan draft.template notice)
      (hwrite : files.tryWrite plan.output plan.writeMode (draft.data plan) = ⟨.ok (), after⟩)
      (hsource : report.source = sourceFor plan override) (hbytes : report.bytesWritten = (draft.data plan).size)
      (hlast : OutputNotice plan after report.outputCheck last) :
      Trace files plan override ⟨.ok report, openingEvents plan override ++ notice ++
        ⟨.info, "env file written", [("output", .text plan.output.display), ("mode", .text plan.writeMode.name),
          ("bytes", .number report.bytesWritten)]⟩ :: last, after⟩

variable {environment : Environment} {files : FileSystem} {plan : Plan} {override : Option String}

/-- The secret in use comes from where the override says, whatever the key pair is. -/
theorem source_choose (keys : KeyPair) (plan : Plan) (override : Option String) :
    (Secret.choose keys plan.keyFile plan.overrideVar override).source = sourceFor plan override := by
  unfold Secret.choose sourceFor
  cases override with
  | none => rfl
  | some value => cases hempty : value.isEmpty <;> simp [Option.filter, hempty]

/-- The events about the marker are what it is worth. -/
theorem markerNotice_events (draft : Draft) (plan : Plan) :
    MarkerNotice plan draft.template (markerEvents plan (draft.expansion plan)) := by
  obtain ⟨⟨starts, hstarts, hcard⟩, hmost⟩ := Text.isGreatest_count plan.marker.toList draft.template.toList
  have hbound (other : Finset Nat) (hother : NonOverlapping plan.marker.toList draft.template.toList other) :
      other.card ≤ starts.card := hcard ▸ hmost ⟨other, hother, rfl⟩
  have hoccurrences : (draft.expansion plan).occurrences = starts.card := hcard.symm
  unfold markerEvents
  by_cases hmarked : plan.marker.toList <:+: draft.template.toList
  · have hfound : (draft.expansion plan).markerFound = true :=
      Expansion.markerFound_of.mpr (Text.exists_isLeftmost_iff.mpr hmarked)
    simp only [hfound, Bool.not_true, Bool.false_eq_true, if_false, hoccurrences]
    split
    · next htwo => exact .several hstarts hbound htwo
    · next htwo => exact .single hmarked fun other hother => (hbound other hother).trans (Nat.le_of_not_lt htwo)
  · have hfound := (Expansion.of_unmarked hmarked draft.secret.value).1
    rw [← Draft.expansion] at hfound
    rw [hfound]
    exact .missing hmarked

/-- The check of an output that can be read says what it comes to. -/
theorem outputNotice_check {bytes : ByteArray} (hread : files.read plan.output = .ok bytes) :
    OutputNotice plan files (check environment files plan).1 (check environment files plan).2 := by
  cases hkey : checkedKey? plan.marker with
  | none =>
    rw [check, hkey]
    exact .unkeyed fun key hmarker => by simp [checkedKey?_eq_some_iff.mpr hmarker] at hkey
  | some key =>
    have hmarker := checkedKey?_eq_some_iff.mp hkey
    rw [check, hkey]
    cases hparse : Dotenv.parse bytes with
    | error fault =>
      simp only [Dotenv.inspect_of_fault hread hparse]
      exact .faulty hmarker hread hparse
    | ok entries =>
      simp only [Dotenv.inspect_of_entries hread hparse]
      exact .summed hmarker hread hparse

/-- The events up to the write are those of a run with a key pair and what the marker is worth. -/
theorem events_draft {draft : Draft} (h : draft.ReadFrom files plan override) :
    draft.events plan = openingEvents plan override ++ markerEvents plan (draft.expansion plan) := by
  rw [Draft.events, openingEvents, ← source_choose draft.keys, h.secret]
  rfl

/-- Every run leaves the events of the way it goes. -/
theorem trace_run (environment : Environment) (files : FileSystem) (plan : Plan) (override : Option String) :
    Trace files plan override (run environment files plan override) := by
  have hcourse := course_run environment files plan override
  generalize run environment files plan override = seeding at hcourse ⊢
  cases hcourse with
  | noKeys hkeys => exact .noKeys hkeys
  | @noTemplate keys failure hkeys htemplate =>
    rw [source_choose]
    exact .noTemplate hkeys htemplate
  | @refused draft fault hread hwrite =>
    rw [events_draft hread]
    exact .refused hread (markerNotice_events draft plan) hwrite
  | @written draft after hread hwrite =>
    obtain ⟨bytes, hbytes⟩ := FileSystem.read_tryWrite (congrArg WriteAttempt.result hwrite)
    rw [hwrite] at hbytes
    rw [events_draft hread]
    refine .written hread (markerNotice_events draft plan) hwrite ?_ rfl (outputNotice_check hbytes)
    rw [← source_choose draft.keys, hread.secret]
    rfl

/-- The files, the plan and the override leave only one draft to be read. -/
theorem Draft.ReadFrom.unique {draft other : Draft} (h : draft.ReadFrom files plan override)
    (hother : other.ReadFrom files plan override) : other = draft := by
  obtain ⟨keys, template, secret⟩ := draft
  obtain ⟨keys', template', secret'⟩ := other
  obtain rfl : keys' = keys := Except.ok.inj (hother.keys.symm.trans h.keys)
  obtain rfl : template' = template := Except.ok.inj (hother.template.symm.trans h.template)
  obtain rfl : secret' = secret := hother.secret.symm.trans h.secret
  rfl

/-- The message that there is no marker is among those about it exactly if the template has none. -/
theorem MarkerNotice.missing_iff {template : String} {notice : List Event} (h : MarkerNotice plan template notice) :
    "marker not found; template written unchanged" ∈ notice.map Event.message ↔
      ¬plan.marker.toList <:+: template.toList := by
  cases h with
  | missing hmissing => simpa using hmissing
  | single hmarked => simpa using hmarked
  | several hstarts _ htwo => simpa using hstarts.isInfix (Nat.zero_lt_of_lt htwo)

/-- The message that there are several markers is among those about them exactly if the template has two that do not
overlap. -/
theorem MarkerNotice.several_iff {template : String} {notice : List Event} (h : MarkerNotice plan template notice) :
    "marker appears more than once; only the first was expanded" ∈ notice.map Event.message ↔
      ∃ starts, NonOverlapping plan.marker.toList template.toList starts ∧ 2 ≤ starts.card := by
  cases h with
  | missing hmissing =>
    refine iff_of_false (by simp) ?_
    rintro ⟨starts, hstarts, htwo⟩
    exact hmissing (hstarts.isInfix (Nat.zero_lt_of_lt htwo))
  | single _ hone =>
    refine iff_of_false (by simp) ?_
    rintro ⟨starts, hstarts, htwo⟩
    exact Nat.not_le_of_lt htwo (hone starts hstarts)
  | several hstarts _ htwo => exact iff_of_true (by simp) ⟨_, hstarts, htwo⟩

/-- At most one thing is said about the marker. -/
theorem MarkerNotice.messages {template : String} {notice : List Event} (h : MarkerNotice plan template notice) :
    notice.map Event.message = [] ∨ notice.map Event.message = ["marker not found; template written unchanged"] ∨
      notice.map Event.message = ["marker appears more than once; only the first was expanded"] := by
  cases h <;> simp

/-- At most one thing is said about the output after a write. -/
theorem OutputNotice.messages {after : FileSystem} {summary : Option Dotenv.Summary} {last : List Event}
    (h : OutputNotice plan after summary last) :
    last.map Event.message = [] ∨ last.map Event.message = ["output is not valid dotenv syntax"] ∨
      last.map Event.message = ["output inspected"] := by
  cases h <;> simp

namespace Trace

variable {seeding : Seeding}

/-- Nothing is said twice. -/
theorem nodup (h : Trace files plan override seeding) : (seeding.events.map Event.message).Nodup := by
  cases h with
  | noKeys => simp
  | noTemplate => simp [openingEvents]
  | refused _ hnotice => rcases hnotice.messages with h | h | h <;> simp [openingEvents, h]
  | written _ hnotice _ _ _ hlast =>
    rcases hnotice.messages with h | h | h <;> rcases hlast.messages with h' | h' | h' <;>
      simp [openingEvents, h, h']

/-- The write is told of exactly if the run brings a report. -/
theorem written_iff (h : Trace files plan override seeding) :
    "env file written" ∈ seeding.events.map Event.message ↔ ∃ report, seeding.result = .ok report := by
  cases h with
  | noKeys => simp
  | noTemplate => simp [openingEvents]
  | refused _ hnotice => rcases hnotice.messages with h | h | h <;> simp [openingEvents, h]
  | written => simp

/-- With a draft on hand, what is said about the marker is what it is worth, and the write is told of exactly if it
goes well. -/
theorem of_draft (h : Trace files plan override seeding) {draft : Draft} (hdraft : draft.ReadFrom files plan override) :
    ∃ notice, MarkerNotice plan draft.template notice ∧
      (∀ message ∈ ["marker not found; template written unchanged",
          "marker appears more than once; only the first was expanded"],
        message ∈ seeding.events.map Event.message ↔ message ∈ notice.map Event.message) ∧
      ("env file written" ∈ seeding.events.map Event.message ↔
        (files.tryWrite plan.output plan.writeMode (draft.data plan)).result = .ok ()) := by
  cases h with
  | noKeys hkeys => cases hkeys.symm.trans hdraft.keys
  | noTemplate _ htemplate => cases htemplate.symm.trans hdraft.template
  | @refused other fault notice hread hnotice hwrite =>
    obtain rfl := hdraft.unique hread
    refine ⟨notice, hnotice, by simp [openingEvents], ?_⟩
    rw [hwrite]
    rcases hnotice.messages with h | h | h <;> simp [openingEvents, h]
  | @written other report after notice last hread hnotice hwrite _ _ hlast =>
    obtain rfl := hdraft.unique hread
    refine ⟨notice, hnotice, ?_, by simp [hwrite]⟩
    rcases hlast.messages with h | h | h <;> simp [openingEvents, h]

end Trace

/-- The events of a run are those of the way it goes, and none of its messages is said twice. The write is told of
exactly if there is a report, and once the key file and the template are read exactly if it goes well. Then it is said
that the marker is missing exactly if the template does not have it, and that there are several exactly if the template
has two that do not overlap. -/
theorem events_of_run (environment : Environment) (files : FileSystem) (plan : Plan) (override : Option String) :
    let seeding := run environment files plan override
    let messages := seeding.events.map Event.message
    Trace files plan override seeding ∧ messages.Nodup ∧
    ("env file written" ∈ messages ↔ ∃ report, seeding.result = .ok report) ∧
    ∀ draft : Draft, draft.ReadFrom files plan override →
      ("marker not found; template written unchanged" ∈ messages ↔
        ¬plan.marker.toList <:+: draft.template.toList) ∧
      ("marker appears more than once; only the first was expanded" ∈ messages ↔
        ∃ starts, NonOverlapping plan.marker.toList draft.template.toList starts ∧ 2 ≤ starts.card) ∧
      ("env file written" ∈ messages ↔
        (files.tryWrite plan.output plan.writeMode (draft.data plan)).result = .ok ()) := by
  intro seeding messages
  have htrace : Trace files plan override seeding := trace_run environment files plan override
  refine ⟨htrace, htrace.nodup, htrace.written_iff, fun draft hdraft => ?_⟩
  obtain ⟨notice, hnotice, hmarker, hwrite⟩ := htrace.of_draft hdraft
  exact ⟨(hmarker _ (by simp)).trans hnotice.missing_iff, (hmarker _ (by simp)).trans hnotice.several_iff, hwrite⟩

/-- A template with its marker three times, of which two overlap, and a quote that stays open behind the last one. -/
theorem events_of_run_overlapping :
    let plan : Plan := { marker := "A=A=" }
    let files := sampleFiles "A=A=A=A=A=\x27\n"
    let messages := (run ⟨[], none⟩ files plan none).events.map Event.message
    messages = ["key-pair file loaded", "private key resolved",
        "marker appears more than once; only the first was expanded", "env file written",
        "output is not valid dotenv syntax"] ∧
      messages.Nodup ∧ (∃ report, (run ⟨[], none⟩ files plan none).result = .ok report) ∧
      ∃ draft : Draft, draft.ReadFrom files plan none ∧
        ∃ starts, NonOverlapping plan.marker.toList draft.template.toList starts ∧ 2 ≤ starts.card := by
  intro plan files messages
  have hmessages : messages = ["key-pair file loaded", "private key resolved",
      "marker appears more than once; only the first was expanded", "env file written",
      "output is not valid dotenv syntax"] := by decide +kernel
  have hdraft : Draft.ReadFrom files plan none
      ⟨⟨"a", "b"⟩, "A=A=A=A=A=\x27\n", ⟨"b", .keyFile (.ofString "keys.txt")⟩⟩ :=
    ⟨eq_ok_of_toOption (by decide +kernel), eq_ok_of_toOption (by decide +kernel), by decide +kernel⟩
  obtain ⟨-, hnodup, hreport, hmarker⟩ := events_of_run ⟨[], none⟩ files plan none
  have hwritten : "env file written" ∈ messages := by rw [hmessages]; decide
  have hseveral : "marker appears more than once; only the first was expanded" ∈ messages := by
    rw [hmessages]; decide
  exact ⟨hmessages, hnodup, hreport.mp hwritten, _, hdraft, (hmarker _ hdraft).2.1.mp hseveral⟩

end EnvSeed.Seeding
