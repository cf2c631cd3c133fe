/-
What the command decoder prints of its own.

A payload of the wrong length is also announced on the standard output, before
the error callback is made and without the prefix of a text decoder.
-/

import RNodeProtocol.CommandNarration
import RNodeProtocol.TextLogLines

namespace RNodeProtocol

open ByteNumerals FramedInput TextLines

def tooManyLine (expected : Nat) : String :=
  "-------------- too many -- expected " ++ unsigned expected ++ " bytes"

def fewerLine (expected : Nat) : String :=
  "-------------- fewer -- expected " ++ unsigned expected ++ " bytes"

namespace CommandDecoder

variable {Ctx : Type}

/-- The lines a put prints before it makes a callback. -/
def putDiagnostics (decoder : CommandDecoder Ctx) : List String :=
  match decoder.state with
  | .readFixed =>
      if decoder.payloadIndex < 4 then []
      else [tooManyLine decoder.opcodeLength.toNat]
  | _ => []

/-- The lines the end of a frame prints before it makes a callback. -/
def endDiagnostics (decoder : CommandDecoder Ctx) : List String :=
  match decoder.state with
  | .readFixed =>
      if decoder.payloadIndex = decoder.opcodeLength.toUInt32 then []
      else [fewerLine decoder.opcodeLength.toNat]
  | _ => []

end CommandDecoder

/-! ### The lines -/

/-- A line the decoder prints of its own. -/
inductive Announcement : String → Prop where
  | tooMany (expected : Nat) : Announcement (tooManyLine expected)
  | fewer (expected : Nat) : Announcement (fewerLine expected)

/-- Between its fixed words a line has nothing but digits. -/
theorem lacks_diagnostic {opening : String} {letter : Char} (fixed : letter ∉ opening.toList)
    (noDigit : letter.isDigit = false) (closing : letter ∉ " bytes".toList) (expected : Nat) :
    letter ∉ (opening ++ unsigned expected ++ " bytes").toList := by
  rw [String.toList_append, String.toList_append, List.mem_append, List.mem_append]
  rintro ((inOpening | inNumber) | inEnd)
  · exact fixed inOpening
  · exact absurd (Numerals.isDigit_of_mem_toString inNumber) (Bool.eq_false_iff.mp noDigit)
  · exact closing inEnd

theorem Announcement.oneLine {line : String} (announcement : Announcement line) :
    OneLine line := by
  cases announcement with
  | tooMany expected => exact lacks_diagnostic (by decide) (by decide) (by decide) expected
  | fewer expected => exact lacks_diagnostic (by decide) (by decide) (by decide) expected

/-- The lines of calls have this letter in their first word. -/
theorem Announcement.lacks_capital {line : String} (announcement : Announcement line) :
    'D' ∉ line.toList := by
  cases announcement with
  | tooMany expected => exact lacks_diagnostic (by decide) (by decide) (by decide) expected
  | fewer expected => exact lacks_diagnostic (by decide) (by decide) (by decide) expected

/-! ### Told from the input -/

/-- The lines of a byte after this input of its frame. -/
def commandPutDiagnostics : List UInt8 → List String
  | [] => []
  | header :: payload =>
      match commandReading header with
      | .fixed size => if payload.length = 4 then [tooManyLine size] else []
      | _ => []

/-- The lines of the end of a frame with this input. -/
def commandEndDiagnostics : List UInt8 → List String
  | [] => []
  | header :: payload =>
      match commandReading header with
      | .fixed size =>
          if payload.length ≤ 4 ∧ payload.length ≠ size then [fewerLine size] else []
      | _ => []

theorem announcement_put {input : List UInt8} {line : String}
    (member : line ∈ commandPutDiagnostics input) : Announcement line := by
  unfold commandPutDiagnostics at member
  repeat' split at member
  all_goals first
    | exact absurd member List.not_mem_nil
    | rw [List.mem_singleton.mp member]; exact .tooMany _

theorem announcement_end {input : List UInt8} {line : String}
    (member : line ∈ commandEndDiagnostics input) : Announcement line := by
  unfold commandEndDiagnostics at member
  repeat' split at member
  all_goals first
    | exact absurd member List.not_mem_nil
    | rw [List.mem_singleton.mp member]; exact .fewer _

namespace CommandDecoder

variable {decoder : CommandDecoder (List CommandCall)} {input : List UInt8}

theorem Hears.putDiagnostics_eq (hears : Hears decoder input) :
    decoder.putDiagnostics = commandPutDiagnostics input := by
  unfold putDiagnostics
  cases hears with
  | waiting state => rw [state]; rfl
  | reading header payload size state interface opcode length stored counted holds =>
      have read : decoder.opcodeLength.toNat = size := by
        rw [stored]
        exact opcodeLength_ofInt size (opcodeLength_short length)
      have fits := holds.1
      have same : decoder.payloadIndex < 4 ↔ payload.length ≠ 4 := by
        change decoder.payloadIndex.toNat < 4 ↔ _
        omega
      rw [state, commandPutDiagnostics, commandReading_fixed length, read]
      dsimp only
      by_cases full : payload.length = 4
      · rw [if_pos full, if_neg (fun room => same.mp room full)]
      · rw [if_neg full, if_pos (same.mpr full)]
  | streaming header payload state interface length counted =>
      rw [state, commandPutDiagnostics, commandReading_streamed length]
  | refused header payload state unknown =>
      rw [state, commandPutDiagnostics, commandReading_unknown unknown]
  | overrun header payload size state length long =>
      rw [state, commandPutDiagnostics, commandReading_fixed length]
      exact (if_neg (by omega)).symm

theorem Hears.endDiagnostics_eq (hears : Hears decoder input) :
    decoder.endDiagnostics = commandEndDiagnostics input := by
  unfold endDiagnostics
  cases hears with
  | waiting state => rw [state]; rfl
  | reading header payload size state interface opcode length stored counted holds =>
      have read : decoder.opcodeLength.toNat = size := by
        rw [stored]
        exact opcodeLength_ofInt size (opcodeLength_short length)
      have fits := holds.1
      have same : decoder.payloadIndex = decoder.opcodeLength.toUInt32 ↔
          payload.length = size := by
        rw [← UInt32.toNat_inj, UInt8.toNat_toUInt32, read, counted]
      rw [state, commandEndDiagnostics, commandReading_fixed length, read]
      dsimp only
      by_cases exact : payload.length = size
      · rw [if_pos (same.mpr exact), if_neg (fun short => short.2 exact)]
      · rw [if_neg (fun complete => exact (same.mp complete)), if_pos ⟨fits, exact⟩]
  | streaming header payload state interface length counted =>
      rw [state, commandEndDiagnostics, commandReading_streamed length]
  | refused header payload state unknown =>
      rw [state, commandEndDiagnostics, commandReading_unknown unknown]
  | overrun header payload size state length long =>
      rw [state, commandEndDiagnostics, commandReading_fixed length]
      exact (if_neg (by omega)).symm

end CommandDecoder

end RNodeProtocol
