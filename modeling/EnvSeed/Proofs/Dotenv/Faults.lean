import EnvSeed.Dotenv.Inspection
import EnvSeed.Proofs.Text.Pieces

/-!
# What an inspection says of a fault

The message about a fault holds the whole faulty line and the index in it, and nothing is lost in it: two
faults with one message are the same. So of two inspections that come to the same summary, the events are
equal exactly if the files have the same fault, or both have none.
-/

namespace EnvSeed.Dotenv

/-- Why a file cannot be read, if it cannot. -/
def faultOf (bytes : ByteArray) : Option Fault :=
  match parse bytes with
  | .error fault => some fault
  | .ok _ => none

/-- Why what a path leads to cannot be read as a dotenv file, if it is there and cannot. -/
def faultIn (files : FileSystem) (path : Path) : Option Fault :=
  match files.read path with
  | .error _ => none
  | .ok bytes => faultOf bytes

/-- The message about a line is the line, its surroundings and the digits of the index. -/
theorem toList_message_line (text : String) (index : Nat) :
    (Fault.line text index).message.toList =
      ("Error parsing line: '".toList ++ text.toList ++ "', error at line index:".toList) ++
        ' ' :: Nat.toDigits 10 index := by
  have hspace : "', error at line index: ".toList = "', error at line index:".toList ++ [' '] := by decide
  unfold Fault.message
  simp only [String.toList_append, toString, Nat.toList_repr, hspace, List.append_assoc, List.singleton_append]

/-- A message about a line is not the one about bytes that are no text. -/
theorem message_line_ne (text : String) (index : Nat) : (Fault.line text index).message ≠ Fault.notText.message := by
  intro h
  have hhead : (Fault.line text index).message.toList.head? = some 'E' := by
    rw [toList_message_line]
    rfl
  rw [h] at hhead
  exact absurd hhead (by decide)

/-- No two faults share a message. -/
theorem Fault.message_inj {fault other : Fault} : fault.message = other.message ↔ fault = other := by
  constructor
  · intro h
    cases fault with
    | line text index =>
      cases other with
      | line text' index' =>
        have hlist := congrArg String.toList h
        rw [toList_message_line, toList_message_line] at hlist
        obtain ⟨hfront, hdigits⟩ :=
          Text.append_last_mark_inj hlist (Text.not_mem_toDigits rfl index) (Text.not_mem_toDigits rfl index')
        have htext : text.toList = text'.toList :=
          List.append_cancel_left (List.append_cancel_right hfront)
        rw [String.toList_injective htext, Text.toDigits_inj hdigits]
      | notText => exact absurd h (message_line_ne text index)
    | notText =>
      cases other with
      | line text index => exact absurd h.symm (message_line_ne text index)
      | notText => rfl
  · intro h
    rw [h]

section Inspection

variable {environment : Environment} {files other : FileSystem} {path : Path} {key : String} {bytes more : ByteArray}

/-- Inspecting a file with a fault tells the fault. -/
theorem inspect_of_fault {fault : Fault} (hread : files.read path = .ok bytes) (hparse : parse bytes = .error fault) :
    inspect environment files path key = (none, notValid path fault.message) := by
  unfold FileSystem.read at hread
  cases hopen : files.open? path with
  | error fault =>
    rw [hopen] at hread
    cases hread
  | ok node =>
    rw [hopen] at hread
    simp only [inspect, hopen, hread, hparse]

/-- Inspecting a file without a fault tells its summary. -/
theorem inspect_of_entries {entries : List Entry} (hread : files.read path = .ok bytes)
    (hparse : parse bytes = .ok entries) :
    inspect environment files path key =
      (some (summarize environment key entries), inspected path key (summarize environment key entries)) := by
  unfold FileSystem.read at hread
  cases hopen : files.open? path with
  | error fault =>
    rw [hopen] at hread
    cases hread
  | ok node =>
    rw [hopen] at hread
    simp only [inspect, hopen, hread, hparse]

/-- The summary of an inspection is that of the entries, if the file can be read to them. -/
theorem summary_inspect (hread : files.read path = .ok bytes) :
    (inspect environment files path key).1 = (parse bytes).toOption.map (summarize environment key) := by
  cases hparse : parse bytes with
  | error fault =>
    rw [inspect_of_fault hread hparse]
    rfl
  | ok entries =>
    rw [inspect_of_entries hread hparse]
    rfl

/-- Two inspections with the same summary say the same exactly if the files have the same fault. -/
theorem inspect_event_eq_iff (hread : files.read path = .ok bytes) (hother : other.read path = .ok more)
    (hsame : (inspect environment files path key).1 = (inspect environment other path key).1) :
    (inspect environment files path key).2 = (inspect environment other path key).2 ↔
      faultIn files path = faultIn other path := by
  simp only [faultIn, hread, hother, faultOf]
  cases hparse : parse bytes with
  | error fault =>
    rw [inspect_of_fault hread hparse] at hsame ⊢
    cases hparse' : parse more with
    | error fault' =>
      rw [inspect_of_fault hother hparse']
      simp [notValid, Fault.message_inj]
    | ok entries =>
      rw [inspect_of_entries hother hparse'] at hsame
      cases hsame
  | ok entries =>
    rw [inspect_of_entries hread hparse] at hsame ⊢
    cases hparse' : parse more with
    | error fault =>
      rw [inspect_of_fault hother hparse'] at hsame
      cases hsame
    | ok entries' =>
      rw [inspect_of_entries hother hparse'] at hsame ⊢
      simp [Option.some.inj hsame]

end Inspection

end EnvSeed.Dotenv
