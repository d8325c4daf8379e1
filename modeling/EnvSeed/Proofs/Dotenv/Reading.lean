import EnvSeed.Dotenv.Document
import EnvSeed.Proofs.Text.Lines

/-!
# Reading a file that goes on

A file that can be read and ends with a line feed leaves the reader where it started. What comes after it
is then read as a file of its own, and its lines and entries come after those that are there already.
-/

namespace EnvSeed.Dotenv

/-- Nothing, or bytes that end with a line feed. -/
def EndsLine (bytes : ByteArray) : Prop :=
  bytes.data.toList = [] ∨ ∃ front, bytes.data.toList = front ++ [0x0a]

instance (bytes : ByteArray) : Decidable (EndsLine bytes) :=
  decidable_of_iff (bytes.data.toList.getLast?.getD 0x0a = 0x0a) <| by
    unfold EndsLine
    cases hlast : bytes.data.toList.getLast? with
    | none => simp [List.getLast?_eq_none_iff.mp hlast]
    | some last =>
      obtain ⟨front, hfront⟩ := List.getLast?_eq_some_iff.mp hlast
      simp [hfront]

namespace Reader

/-- The same reader with lines that were read before. -/
def after (reader : Reader) (earlier : List (List Char)) : Reader :=
  { reader with done := reader.done ++ earlier }

/-- Lines that were read before have no say in how a text is read. -/
theorem readText_after (reader : Reader) (earlier : List (List Char)) (text : List Char) :
    (reader.after earlier).readText text = (reader.readText text).after earlier := by
  unfold readText
  by_cases hcomment : (reader.begun.isEmpty && (Text.trimStart text).head? == some '#') = true
  · have hcomment' : ((reader.after earlier).begun.isEmpty && (Text.trimStart text).head? == some '#') = true :=
      hcomment
    rw [if_pos hcomment, if_pos hcomment']
  · have hcomment' : ¬((reader.after earlier).begun.isEmpty && (Text.trimStart text).head? == some '#') = true :=
      hcomment
    rw [if_neg hcomment, if_neg hcomment']
    have hscan : scan (reader.after earlier).mode (reader.after earlier).begun text =
        scan reader.mode reader.begun text := rfl
    rw [hscan]
    split <;> simp_all [after, emit]

/-- Lines that were read before have no say in how a physical line is read. -/
theorem readLine_after (reader : Reader) (earlier : List (List Char)) (bytes : List UInt8) :
    (reader.after earlier).readLine bytes = (reader.readLine bytes).after earlier := by
  unfold readLine
  have hfault : (reader.after earlier).fault = reader.fault := rfl
  rw [hfault]
  by_cases h : reader.fault.isSome
  · rw [if_pos h, if_pos h]
  · rw [if_neg h, if_neg h]
    cases String.fromUTF8? ⟨bytes.toArray⟩ with
    | none => rfl
    | some text => exact readText_after reader earlier text.toList

/-- Lines that were read before have no say in how further lines are read. -/
theorem foldl_readLine_after (pieces : List (List UInt8)) (reader : Reader) (earlier : List (List Char)) :
    pieces.foldl readLine (reader.after earlier) = (pieces.foldl readLine reader).after earlier := by
  induction pieces generalizing reader with
  | nil => rfl
  | cons piece rest ih => rw [List.foldl_cons, List.foldl_cons, readLine_after, ih]

/-- A reader between two logical lines has begun none. -/
def IsTidy (reader : Reader) : Prop :=
  reader.mode = .complete → reader.begun = []

/-- Reading a physical line leaves the reader tidy. -/
theorem isTidy_readLine {reader : Reader} (h : reader.IsTidy) (bytes : List UInt8) :
    (reader.readLine bytes).IsTidy := by
  unfold readLine
  split
  · exact h
  · split
    · exact h
    · next text _ =>
      unfold readText
      split
      · exact h
      · split
        · exact fun _ => rfl
        · exact fun _ => rfl
        · next mode hmode _ => exact fun hcomplete => absurd hcomplete hmode

/-- Reading lines leaves the reader tidy. -/
theorem isTidy_foldl (pieces : List (List UInt8)) {reader : Reader} (h : reader.IsTidy) :
    (pieces.foldl readLine reader).IsTidy := by
  induction pieces generalizing reader with
  | nil => exact h
  | cons piece rest ih => exact ih (isTidy_readLine h piece)

end Reader

/-- The entries of logical lines in order, up to the first line at fault. -/
def entriesOf : List (List Char) → List Entry
  | [] => []
  | line :: rest =>
    match readEntry line with
    | .error _ => []
    | .ok none => entriesOf rest
    | .ok (some entry) => entry :: entriesOf rest

/-- The entries of a file in order, up to its first fault. -/
def entriesBeforeFault (bytes : ByteArray) : List Entry :=
  entriesOf (readLines bytes).done.reverse

/-- The entries of lines without a fault come before those of the lines that follow. -/
theorem entriesOf_append {lines : List (List Char)} {found : List (Option Entry)}
    (h : lines.mapM readEntry = .ok found) (more : List (List Char)) :
    entriesOf (lines ++ more) = found.filterMap id ++ entriesOf more := by
  induction lines generalizing found with
  | nil =>
    obtain rfl : [] = found := Except.ok.inj h
    rfl
  | cons line rest ih =>
    rw [List.mapM_cons] at h
    cases hline : readEntry line with
    | error fault =>
      rw [hline] at h
      cases h
    | ok entry =>
      cases hrest : rest.mapM readEntry with
      | error fault =>
        rw [hline, hrest] at h
        cases h
      | ok others =>
        rw [hline, hrest] at h
        obtain rfl : entry :: others = found := Except.ok.inj h
        cases entry with
        | none => simp [entriesOf, hline, ih hrest]
        | some entry => simp [entriesOf, hline, ih hrest]

/-- A file that can be read leaves the reader where it started, with lines that all can be read. -/
theorem readLines_of_parse {bytes : ByteArray} {entries : List Entry} (h : parse bytes = .ok entries) :
    readLines bytes = Reader.start.after (readLines bytes).done ∧
      ∃ found, (readLines bytes).done.reverse.mapM readEntry = .ok found ∧ entries = found.filterMap id := by
  have htidy : (readLines bytes).IsTidy := Reader.isTidy_foldl _ fun _ => rfl
  unfold parse at h
  generalize readLines bytes = reader at h htidy ⊢
  obtain ⟨done, begun, mode, fault⟩ := reader
  cases hfound : done.reverse.mapM readEntry with
  | error fault => simp [hfound] at h
  | ok found =>
    simp only [hfound] at h
    cases hend : Reader.endFault? ⟨done, begun, mode, fault⟩ with
    | some fault => simp [hend] at h
    | none =>
      simp only [hend, Except.ok.injEq] at h
      obtain ⟨hfault, hmode⟩ : fault = none ∧ mode = .complete := by
        unfold Reader.endFault? at hend
        cases fault with
        | some fault => simp at hend
        | none => simpa using hend
      have hbegun : begun = [] := htidy hmode
      subst hfault hmode hbegun
      exact ⟨rfl, found, rfl, h.symm⟩

/-- What comes after a file that can be read and ends its last line is read as a file of its own. -/
theorem readLines_append {front rest : ByteArray} {entries : List Entry} (hends : EndsLine front)
    (h : parse front = .ok entries) : readLines (front ++ rest) = (readLines rest).after (readLines front).done := by
  have hbytes : (front ++ rest).data.toList = front.data.toList ++ rest.data.toList := by simp
  have hfront := (readLines_of_parse h).1
  unfold readLines at hfront ⊢
  rw [hbytes, Text.cutAfter_append hends, List.foldl_append, hfront, Reader.foldl_readLine_after]
  rfl

/-- What comes after a file that can be read and ends its last line is read to its own entries, behind those of the
file, or refused for its own fault. -/
theorem parse_append {front : ByteArray} {entries : List Entry} (hends : EndsLine front)
    (h : parse front = .ok entries) (rest : ByteArray) : parse (front ++ rest) = (parse rest).map (entries ++ ·) := by
  obtain ⟨-, found, hfound, rfl⟩ := readLines_of_parse h
  have hend : ((readLines rest).after (readLines front).done).endFault? = (readLines rest).endFault? := rfl
  unfold parse
  simp only [readLines_append hends h, hend]
  rw [Reader.after, List.reverse_append, List.mapM_append, hfound]
  cases (readLines rest).done.reverse.mapM readEntry with
  | error fault => rfl
  | ok more =>
    simp only [bind, Except.bind, pure, Except.pure]
    cases (readLines rest).endFault? with
    | some fault => rfl
    | none => exact congrArg Except.ok List.filterMap_append

/-- The entries of a file that can be read are all of its entries. -/
theorem entriesBeforeFault_of_parse {bytes : ByteArray} {entries : List Entry} (h : parse bytes = .ok entries) :
    entriesBeforeFault bytes = entries := by
  obtain ⟨-, found, hfound, rfl⟩ := readLines_of_parse h
  have happend := entriesOf_append hfound []
  simpa [entriesBeforeFault, entriesOf] using happend

/-- The entries of a file that can be read and ends its last line come before those of what follows it. -/
theorem entriesBeforeFault_append {front rest : ByteArray} {entries : List Entry} (hends : EndsLine front)
    (h : parse front = .ok entries) :
    entriesBeforeFault (front ++ rest) = entries ++ entriesBeforeFault rest := by
  obtain ⟨-, found, hfound, rfl⟩ := readLines_of_parse h
  unfold entriesBeforeFault
  rw [readLines_append hends h]
  simp only [Reader.after, List.reverse_append]
  rw [entriesOf_append hfound]

end EnvSeed.Dotenv
