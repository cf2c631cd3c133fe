/-
Frames are isolated by a start.

A start resets the state and one index; the buffer, the header fields, the
lengths and the stream counter keep what earlier frames left in them.  Two
decoders are related here when they agree on the fields their state will have
read before they are written again, and the relation is kept by every call.
-/

import RNodeProtocol.CommandDecoderSteps
import RNodeProtocol.EventDecoderSteps
import RNodeProtocol.Library.Lockstep

namespace RNodeProtocol

open ByteNumerals FramedInput

private theorem append_after {Call : Type} {log past twinLog : List Call}
    (same : log = past ++ twinLog) (calls : List Call) :
    log ++ calls = past ++ (twinLog ++ calls) := by
  rw [same, List.append_assoc]

/-! ### The command decoder -/

namespace CommandDecoder

/-- The fields that are read before the next write to them agree. -/
inductive SameFrame (decoder twin : CommandDecoder (List CommandCall)) : Prop where
  | wait (waiting : decoder.state = .wait) (twinWaiting : twin.state = .wait)
  | readFixed (reading : decoder.state = .readFixed) (twinReading : twin.state = .readFixed)
      (interface : decoder.interface = twin.interface) (opcode : decoder.opcode = twin.opcode)
      (opcodeLength : decoder.opcodeLength = twin.opcodeLength)
      (payloadIndex : decoder.payloadIndex = twin.payloadIndex) (received : List UInt8)
      (holds : decoder.smallbuf.Holds received) (twinHolds : twin.smallbuf.Holds received)
      (counted : decoder.payloadIndex.toNat = received.length)
  | streamData (streaming : decoder.state = .streamData) (twinStreaming : twin.state = .streamData)
      (interface : decoder.interface = twin.interface) (opcode : decoder.opcode = twin.opcode)
      (payloadIndex : decoder.payloadIndex = twin.payloadIndex)
      (counter : decoder.txStream.byteIndex = twin.txStream.byteIndex)
  | abort (aborted : decoder.state = .abort) (twinAborted : twin.state = .abort)

structure Twins (past : List CommandCall) (registered : CommandSlot → Bool)
    (answer other : CommandAnswer) (decoder twin : CommandDecoder (List CommandCall)) : Prop where
  recorded : Recorded registered answer decoder
  twinRecorded : Recorded registered other twin
  log : decoder.context = past ++ twin.context
  frame : SameFrame decoder twin

variable {past : List CommandCall} {registered : CommandSlot → Bool}
  {answer other : CommandAnswer} {decoder twin : CommandDecoder (List CommandCall)}

theorem Twins.answers (twins : Twins past registered answer other decoder twin)
    (alike : AnswersAlike answer other past) (call : StreamCall) :
    answer decoder.context call = other twin.context call := by
  rw [twins.log]
  exact alike twin.context call

theorem Twins.start (twins : Twins past registered answer other decoder twin) :
    Twins past registered answer other decoder.start twin.start :=
  ⟨twins.recorded.start, twins.twinRecorded.start, twins.log, .wait rfl rfl⟩

/-- What a call left of the two decoders is related, and the statuses are one. -/
def Together (past : List CommandCall) (registered : CommandSlot → Bool)
    (answer other : CommandAnswer)
    (result twinResult : CommandDecoder (List CommandCall) × DecoderStatus) : Prop :=
  Twins past registered answer other result.1 twinResult.1 ∧ result.2 = twinResult.2

theorem Twins.put_wait (twins : Twins past registered answer other decoder twin)
    (alike : AnswersAlike answer other past)
    (waiting : decoder.state = .wait) (twinWaiting : twin.state = .wait) (byte : UInt8) :
    Together past registered answer other (decoder.put byte) (twin.put byte) := by
  have recorded := twins.recorded
  have twinRecorded := twins.twinRecorded
  have kept := recorded.put byte
  have twinKept := twinRecorded.put byte
  by_cases unknown : rnodeProtoOpcodeLength (lowNibble byte) = -2
  · rw [recorded.put_unknown waiting byte unknown] at kept ⊢
    rw [twinRecorded.put_unknown twinWaiting byte unknown] at twinKept ⊢
    exact ⟨⟨kept, twinKept, append_after twins.log _, .abort rfl rfl⟩, rfl⟩
  · by_cases streamed : rnodeProtoOpcodeLength (lowNibble byte) = -1
    · rw [recorded.put_streamHeader waiting byte streamed] at kept ⊢
      rw [twinRecorded.put_streamHeader twinWaiting byte streamed] at twinKept ⊢
      refine ⟨⟨kept, twinKept, ?_, .streamData rfl rfl rfl rfl rfl rfl⟩, rfl⟩
      dsimp only
      rw [twins.answers alike]
      exact append_after twins.log _
    · rw [put_fixedHeader waiting byte unknown streamed] at kept ⊢
      rw [put_fixedHeader twinWaiting byte unknown streamed] at twinKept ⊢
      exact ⟨⟨kept, twinKept, twins.log, .readFixed rfl rfl rfl rfl rfl rfl []
        (ScratchBuffer.holds_nil _) (ScratchBuffer.holds_nil _) rfl⟩, rfl⟩

theorem Twins.put_readFixed (twins : Twins past registered answer other decoder twin)
    (reading : decoder.state = .readFixed) (twinReading : twin.state = .readFixed)
    (interface : decoder.interface = twin.interface) (opcode : decoder.opcode = twin.opcode)
    (opcodeLength : decoder.opcodeLength = twin.opcodeLength)
    (payloadIndex : decoder.payloadIndex = twin.payloadIndex) {received : List UInt8}
    (holds : decoder.smallbuf.Holds received) (twinHolds : twin.smallbuf.Holds received)
    (counted : decoder.payloadIndex.toNat = received.length)
    (byte : UInt8) :
    Together past registered answer other (decoder.put byte) (twin.put byte) := by
  have recorded := twins.recorded
  have twinRecorded := twins.twinRecorded
  have kept := recorded.put byte
  have twinKept := twinRecorded.put byte
  by_cases room : decoder.payloadIndex < 4
  · have twinRoom : twin.payloadIndex < 4 := by
      rw [← payloadIndex]
      exact room
    have short : received.length < 4 := by
      rw [← counted]
      exact room
    have stored := holds.store byte decoder.payloadIndex counted short
    have twinStored := twinHolds.store byte decoder.payloadIndex counted short
    have advanced : (decoder.payloadIndex + 1).toNat = (received ++ [byte]).length := by
      rw [UInt32.toNat_add, counted, List.length_append, List.length_singleton]
      change (received.length + 1) % 2 ^ 32 = received.length + 1
      omega
    rw [put_room reading byte room] at kept ⊢
    rw [put_room twinReading byte twinRoom, ← payloadIndex] at twinKept ⊢
    exact ⟨⟨kept, twinKept, twins.log, .readFixed reading twinReading interface opcode
      opcodeLength rfl _ stored twinStored advanced⟩, rfl⟩
  · have twinFull : ¬ twin.payloadIndex < 4 := by
      rw [← payloadIndex]
      exact room
    rw [recorded.put_full reading byte room] at kept ⊢
    rw [twinRecorded.put_full twinReading byte twinFull, ← interface, ← opcode,
      ← payloadIndex] at twinKept ⊢
    exact ⟨⟨kept, twinKept, append_after twins.log _, .abort rfl rfl⟩, rfl⟩

theorem Twins.put_streamData (twins : Twins past registered answer other decoder twin)
    (alike : AnswersAlike answer other past)
    (streaming : decoder.state = .streamData) (twinStreaming : twin.state = .streamData)
    (interface : decoder.interface = twin.interface) (opcode : decoder.opcode = twin.opcode)
    (payloadIndex : decoder.payloadIndex = twin.payloadIndex)
    (counter : decoder.txStream.byteIndex = twin.txStream.byteIndex)
    (byte : UInt8) :
    Together past registered answer other (decoder.put byte) (twin.put byte) := by
  have recorded := twins.recorded
  have twinRecorded := twins.twinRecorded
  have kept := recorded.put byte
  have twinKept := twinRecorded.put byte
  have answered := twins.answers alike
    (.data decoder.interface byte decoder.txStream.byteIndex)
  by_cases accepted : reply (registered (.tx .data)) (answer decoder.context
      (.data decoder.interface byte decoder.txStream.byteIndex)) = .ok
  · have twinAccepted : reply (registered (.tx .data)) (other twin.context
        (.data twin.interface byte twin.txStream.byteIndex)) = .ok := by
      rw [← interface, ← counter, ← answered]
      exact accepted
    rw [recorded.put_accepted streaming byte accepted, answered] at kept ⊢
    rw [twinRecorded.put_accepted twinStreaming byte twinAccepted, ← interface, ← counter,
      ← payloadIndex] at twinKept ⊢
    exact ⟨⟨kept, twinKept, append_after twins.log _, .streamData streaming twinStreaming
      rfl opcode rfl rfl⟩, rfl⟩
  · obtain ⟨present, refused⟩ := reply_ne_ok.mp accepted
    have twinRefused : other twin.context
        (.data twin.interface byte twin.txStream.byteIndex) = .abort := by
      rw [← interface, ← counter, ← answered]
      exact refused
    rw [recorded.put_refused streaming byte present refused] at kept ⊢
    rw [twinRecorded.put_refused twinStreaming byte present twinRefused, ← interface,
      ← opcode, ← counter, ← payloadIndex] at twinKept ⊢
    refine ⟨⟨kept, twinKept, ?_, .abort rfl rfl⟩, rfl⟩
    dsimp only
    rw [List.append_assoc, List.append_assoc]
    exact append_after twins.log _

theorem Twins.put (twins : Twins past registered answer other decoder twin)
    (alike : AnswersAlike answer other past) (byte : UInt8) :
    Together past registered answer other (decoder.put byte) (twin.put byte) := by
  cases twins.frame with
  | wait waiting twinWaiting =>
      exact twins.put_wait alike waiting twinWaiting byte
  | readFixed reading twinReading interface opcode opcodeLength payloadIndex received holds
      twinHolds counted =>
      exact twins.put_readFixed reading twinReading interface opcode opcodeLength payloadIndex
        holds twinHolds counted byte
  | streamData streaming twinStreaming interface opcode payloadIndex counter =>
      exact twins.put_streamData alike streaming twinStreaming interface opcode payloadIndex
        counter byte
  | abort aborted twinAborted =>
      rw [put_abort aborted byte, put_abort twinAborted byte]
      exact ⟨twins, rfl⟩

theorem Twins.end_readFixed (twins : Twins past registered answer other decoder twin)
    (reading : decoder.state = .readFixed) (twinReading : twin.state = .readFixed)
    (interface : decoder.interface = twin.interface) (opcode : decoder.opcode = twin.opcode)
    (opcodeLength : decoder.opcodeLength = twin.opcodeLength)
    (payloadIndex : decoder.payloadIndex = twin.payloadIndex) {received : List UInt8}
    (holds : decoder.smallbuf.Holds received) (twinHolds : twin.smallbuf.Holds received)
    (counted : decoder.payloadIndex.toNat = received.length) :
    Together past registered answer other decoder.endFrame twin.endFrame := by
  have recorded := twins.recorded
  have twinRecorded := twins.twinRecorded
  have kept := recorded.endFrame
  have twinKept := twinRecorded.endFrame
  by_cases complete : decoder.payloadIndex = decoder.opcodeLength.toUInt32
  · have twinComplete : twin.payloadIndex = twin.opcodeLength.toUInt32 := by
      rw [← payloadIndex, ← opcodeLength]
      exact complete
    have length : received.length = decoder.opcodeLength.toNat := by
      rw [← counted, complete, UInt8.toNat_toUInt32]
    have value : twin.smallbuf.value twin.opcodeLength =
        decoder.smallbuf.value decoder.opcodeLength := by
      rw [← opcodeLength, holds.value_eq _ length, twinHolds.value_eq _ length]
    cases dispatched : dispatchCall decoder.interface decoder.opcode
        (decoder.smallbuf.value decoder.opcodeLength) with
    | ok call =>
        have twinDispatched : dispatchCall twin.interface twin.opcode
            (twin.smallbuf.value twin.opcodeLength) = .ok call := by
          rw [← interface, ← opcode, value]
          exact dispatched
        rw [recorded.end_command reading complete dispatched] at kept ⊢
        rw [twinRecorded.end_command twinReading twinComplete twinDispatched] at twinKept ⊢
        exact ⟨⟨kept, twinKept, append_after twins.log _, .wait rfl rfl⟩, rfl⟩
    | error status =>
        have twinDispatched : dispatchCall twin.interface twin.opcode
            (twin.smallbuf.value twin.opcodeLength) = .error status := by
          rw [← interface, ← opcode, value]
          exact dispatched
        rw [recorded.end_rejected reading complete dispatched] at kept ⊢
        rw [twinRecorded.end_rejected twinReading twinComplete twinDispatched, ← interface,
          ← opcode, ← payloadIndex] at twinKept ⊢
        exact ⟨⟨kept, twinKept, append_after twins.log _, .wait rfl rfl⟩, rfl⟩
  · have twinDifferent : twin.payloadIndex ≠ twin.opcodeLength.toUInt32 := by
      rw [← payloadIndex, ← opcodeLength]
      exact complete
    rw [recorded.end_short reading complete] at kept ⊢
    rw [twinRecorded.end_short twinReading twinDifferent, ← interface, ← opcode,
      ← payloadIndex] at twinKept ⊢
    exact ⟨⟨kept, twinKept, append_after twins.log _, .wait rfl rfl⟩, rfl⟩

theorem Twins.end_streamData (twins : Twins past registered answer other decoder twin)
    (alike : AnswersAlike answer other past)
    (streaming : decoder.state = .streamData) (twinStreaming : twin.state = .streamData)
    (interface : decoder.interface = twin.interface) (opcode : decoder.opcode = twin.opcode)
    (payloadIndex : decoder.payloadIndex = twin.payloadIndex)
    (counter : decoder.txStream.byteIndex = twin.txStream.byteIndex) :
    Together past registered answer other decoder.endFrame twin.endFrame := by
  have recorded := twins.recorded
  have twinRecorded := twins.twinRecorded
  have kept := recorded.endFrame
  have twinKept := twinRecorded.endFrame
  have answered := twins.answers alike
    (.endStream decoder.interface decoder.txStream.byteIndex)
  by_cases accepted : reply (registered (.tx .endStream)) (answer decoder.context
      (.endStream decoder.interface decoder.txStream.byteIndex)) = .ok
  · have twinAccepted : reply (registered (.tx .endStream)) (other twin.context
        (.endStream twin.interface twin.txStream.byteIndex)) = .ok := by
      rw [← interface, ← counter, ← answered]
      exact accepted
    rw [recorded.end_accepted streaming accepted, answered] at kept ⊢
    rw [twinRecorded.end_accepted twinStreaming twinAccepted, ← interface,
      ← counter] at twinKept ⊢
    exact ⟨⟨kept, twinKept, append_after twins.log _, .wait rfl rfl⟩, rfl⟩
  · obtain ⟨present, refused⟩ := reply_ne_ok.mp accepted
    have twinRefused : other twin.context
        (.endStream twin.interface twin.txStream.byteIndex) = .abort := by
      rw [← interface, ← counter, ← answered]
      exact refused
    rw [recorded.end_refused streaming present refused] at kept ⊢
    rw [twinRecorded.end_refused twinStreaming present twinRefused, ← interface, ← opcode,
      ← counter, ← payloadIndex] at twinKept ⊢
    refine ⟨⟨kept, twinKept, ?_, .abort rfl rfl⟩, rfl⟩
    dsimp only
    rw [List.append_assoc, List.append_assoc]
    exact append_after twins.log _

theorem Twins.endFrame (twins : Twins past registered answer other decoder twin)
    (alike : AnswersAlike answer other past) :
    Together past registered answer other decoder.endFrame twin.endFrame := by
  cases twins.frame with
  | wait waiting twinWaiting =>
      rw [end_idle (.inl waiting), end_idle (.inl twinWaiting)]
      exact ⟨twins.start, rfl⟩
  | readFixed reading twinReading interface opcode opcodeLength payloadIndex received holds
      twinHolds counted =>
      exact twins.end_readFixed reading twinReading interface opcode opcodeLength payloadIndex
        holds twinHolds counted
  | streamData streaming twinStreaming interface opcode payloadIndex counter =>
      exact twins.end_streamData alike streaming twinStreaming interface opcode payloadIndex
        counter
  | abort aborted twinAborted =>
      rw [end_idle (.inr aborted), end_idle (.inr twinAborted)]
      exact ⟨twins.start, rfl⟩

theorem lockstep (alike : AnswersAlike answer other past) :
    machine.Lockstep machine (Twins past registered answer other) where
  accepted := rfl
  start := fun _ _ twins => twins.start
  put := fun _ _ byte twins => twins.put alike byte
  endFrame := fun _ _ twins => twins.endFrame alike

end CommandDecoder

/-! ### The event decoder -/

namespace EventDecoder

/-- The fields that are read before the next write to them agree. -/
inductive SameFrame (decoder twin : EventDecoder (List EventCall)) : Prop where
  | wait (waiting : decoder.state = .wait) (twinWaiting : twin.state = .wait)
  | readFixed (reading : decoder.state = .readFixed) (twinReading : twin.state = .readFixed)
      (interface : decoder.interface = twin.interface) (opcode : decoder.opcode = twin.opcode)
      (opcodeLength : decoder.opcodeLength = twin.opcodeLength) (short : decoder.opcodeLength ≤ 1)
      (payloadIndex : decoder.payloadIndex = twin.payloadIndex) (received : List UInt8)
      (holds : decoder.smallbuf.Holds received) (twinHolds : twin.smallbuf.Holds received)
      (counted : decoder.payloadIndex.toNat = received.length)
  | streamData (streaming : decoder.state = .streamData) (twinStreaming : twin.state = .streamData)
      (interface : decoder.interface = twin.interface) (opcode : decoder.opcode = twin.opcode)
      (payloadIndex : decoder.payloadIndex = twin.payloadIndex)
      (counter : decoder.stream.byteIndex = twin.stream.byteIndex)
  | abort (aborted : decoder.state = .abort) (twinAborted : twin.state = .abort)

structure Twins (past : List EventCall) (registered : EventSlot → Bool)
    (answer other : EventAnswer) (decoder twin : EventDecoder (List EventCall)) : Prop where
  recorded : Recorded registered answer decoder
  twinRecorded : Recorded registered other twin
  log : decoder.context = past ++ twin.context
  frame : SameFrame decoder twin

variable {past : List EventCall} {registered : EventSlot → Bool}
  {answer other : EventAnswer} {decoder twin : EventDecoder (List EventCall)}

theorem Twins.answers (twins : Twins past registered answer other decoder twin)
    (alike : AnswersAlike answer other past) (query : StreamKind × StreamCall) :
    answer decoder.context query = other twin.context query := by
  rw [twins.log]
  exact alike twin.context query

theorem Twins.start (twins : Twins past registered answer other decoder twin) :
    Twins past registered answer other decoder.start twin.start :=
  ⟨twins.recorded.start, twins.twinRecorded.start, twins.log, .wait rfl rfl⟩

/-- Streams of one opcode have the callbacks of one kind selected. -/
theorem Twins.selected (twins : Twins past registered answer other decoder twin)
    (opcode : decoder.opcode = twin.opcode) (streaming : decoder.state = .streamData)
    (twinStreaming : twin.state = .streamData) :
    ∃ kind, decoder.stream.toStreamCallbacks = recordingStream registered answer kind ∧
      twin.stream.toStreamCallbacks = recordingStream registered other kind := by
  obtain ⟨kind, nibble, selected⟩ := twins.recorded.selected streaming
  obtain ⟨twinKind, twinNibble, twinSelected⟩ := twins.twinRecorded.selected twinStreaming
  have same : kind.nibble = twinKind.nibble := by
    rw [← nibble, opcode, twinNibble]
  rw [StreamKind.nibble_injective same] at selected
  exact ⟨twinKind, selected, twinSelected⟩

/-- What a call left of the two decoders is related, and the statuses are one. -/
def Together (past : List EventCall) (registered : EventSlot → Bool)
    (answer other : EventAnswer)
    (result twinResult : EventDecoder (List EventCall) × DecoderStatus) : Prop :=
  Twins past registered answer other result.1 twinResult.1 ∧ result.2 = twinResult.2

theorem Twins.put_wait (twins : Twins past registered answer other decoder twin)
    (alike : AnswersAlike answer other past)
    (counts : ∀ kind, registered (.stream kind .start) = true)
    (waiting : decoder.state = .wait) (twinWaiting : twin.state = .wait) (byte : UInt8) :
    Together past registered answer other (decoder.put byte) (twin.put byte) := by
  have recorded := twins.recorded
  have twinRecorded := twins.twinRecorded
  have kept := recorded.put byte
  have twinKept := twinRecorded.put byte
  cases opcodeClass (lowNibble_lt byte) with
  | unknown length =>
      rw [recorded.put_unknown waiting byte length] at kept ⊢
      rw [twinRecorded.put_unknown twinWaiting byte length] at twinKept ⊢
      exact ⟨⟨kept, twinKept, append_after twins.log _, .abort rfl rfl⟩, rfl⟩
  | streamed kind nibble length =>
      rw [recorded.put_streamHeader waiting byte nibble length] at kept ⊢
      rw [twinRecorded.put_streamHeader twinWaiting byte nibble length] at twinKept ⊢
      refine ⟨⟨kept, twinKept, ?_, .streamData rfl rfl rfl rfl rfl ?_⟩, rfl⟩
      · dsimp only
        rw [twins.answers alike]
        exact append_after twins.log _
      · dsimp only
        rw [counts kind, if_pos rfl, if_pos rfl]
  | fixed size short length =>
      have small : UInt8.ofInt (rnodeEventOpcodeLength (lowNibble byte)) ≤ 1 := by
        rw [length]
        rcases Nat.le_one_iff_eq_zero_or_eq_one.mp short with rfl | rfl
        · decide
        · decide
      rw [put_fixedHeader waiting byte (by omega) (by omega)] at kept ⊢
      rw [put_fixedHeader twinWaiting byte (by omega) (by omega)] at twinKept ⊢
      exact ⟨⟨kept, twinKept, twins.log, .readFixed rfl rfl rfl rfl rfl small rfl []
        (ScratchBuffer.holds_nil _) (ScratchBuffer.holds_nil _) rfl⟩, rfl⟩

theorem Twins.put_readFixed (twins : Twins past registered answer other decoder twin)
    (reading : decoder.state = .readFixed) (twinReading : twin.state = .readFixed)
    (interface : decoder.interface = twin.interface) (opcode : decoder.opcode = twin.opcode)
    (opcodeLength : decoder.opcodeLength = twin.opcodeLength) (short : decoder.opcodeLength ≤ 1)
    (payloadIndex : decoder.payloadIndex = twin.payloadIndex) {received : List UInt8}
    (holds : decoder.smallbuf.Holds received) (twinHolds : twin.smallbuf.Holds received)
    (counted : decoder.payloadIndex.toNat = received.length)
    (byte : UInt8) :
    Together past registered answer other (decoder.put byte) (twin.put byte) := by
  have recorded := twins.recorded
  have twinRecorded := twins.twinRecorded
  have kept := recorded.put byte
  have twinKept := twinRecorded.put byte
  by_cases room : decoder.payloadIndex < decoder.opcodeLength.toUInt32
  · have twinRoom : twin.payloadIndex < twin.opcodeLength.toUInt32 := by
      rw [← payloadIndex, ← opcodeLength]
      exact room
    have empty : received.length = 0 := by
      have before := UInt32.lt_iff_toNat_lt.mp room
      have most := UInt8.le_iff_toNat_le.mp short
      rw [counted, UInt8.toNat_toUInt32] at before
      change decoder.opcodeLength.toNat ≤ 1 at most
      omega
    have stored := holds.store byte decoder.payloadIndex counted (by omega)
    have twinStored := twinHolds.store byte decoder.payloadIndex counted (by omega)
    have advanced : (decoder.payloadIndex + 1).toNat = (received ++ [byte]).length := by
      rw [UInt32.toNat_add, counted, empty, List.length_append, empty]
      rfl
    rw [put_room reading byte room] at kept ⊢
    rw [put_room twinReading byte twinRoom, ← payloadIndex] at twinKept ⊢
    exact ⟨⟨kept, twinKept, twins.log, .readFixed reading twinReading interface opcode
      opcodeLength short rfl _ stored twinStored advanced⟩, rfl⟩
  · have twinFull : ¬ twin.payloadIndex < twin.opcodeLength.toUInt32 := by
      rw [← payloadIndex, ← opcodeLength]
      exact room
    rw [recorded.put_full reading byte room] at kept ⊢
    rw [twinRecorded.put_full twinReading byte twinFull, ← interface, ← opcode,
      ← payloadIndex] at twinKept ⊢
    exact ⟨⟨kept, twinKept, append_after twins.log _, .abort rfl rfl⟩, rfl⟩

theorem Twins.put_streamData (twins : Twins past registered answer other decoder twin)
    (alike : AnswersAlike answer other past)
    (streaming : decoder.state = .streamData) (twinStreaming : twin.state = .streamData)
    (interface : decoder.interface = twin.interface) (opcode : decoder.opcode = twin.opcode)
    (payloadIndex : decoder.payloadIndex = twin.payloadIndex)
    (counter : decoder.stream.byteIndex = twin.stream.byteIndex)
    (byte : UInt8) :
    Together past registered answer other (decoder.put byte) (twin.put byte) := by
  have recorded := twins.recorded
  have twinRecorded := twins.twinRecorded
  have kept := recorded.put byte
  have twinKept := twinRecorded.put byte
  obtain ⟨kind, selected, twinSelected⟩ := twins.selected opcode streaming twinStreaming
  have answered := twins.answers alike
    (kind, .data decoder.interface byte decoder.stream.byteIndex)
  by_cases accepted : reply (registered (.stream kind .data)) (answer decoder.context
      (kind, .data decoder.interface byte decoder.stream.byteIndex)) = .ok
  · have twinAccepted : reply (registered (.stream kind .data)) (other twin.context
        (kind, .data twin.interface byte twin.stream.byteIndex)) = .ok := by
      rw [← interface, ← counter, ← answered]
      exact accepted
    rw [put_accepted streaming selected byte accepted, answered] at kept ⊢
    rw [put_accepted twinStreaming twinSelected byte twinAccepted, ← interface, ← counter,
      ← payloadIndex] at twinKept ⊢
    exact ⟨⟨kept, twinKept, append_after twins.log _, .streamData streaming twinStreaming
      rfl opcode rfl rfl⟩, rfl⟩
  · obtain ⟨present, refused⟩ := reply_ne_ok.mp accepted
    have twinRefused : other twin.context
        (kind, .data twin.interface byte twin.stream.byteIndex) = .abort := by
      rw [← interface, ← counter, ← answered]
      exact refused
    rw [recorded.put_refused streaming selected byte present refused] at kept ⊢
    rw [twinRecorded.put_refused twinStreaming twinSelected byte present twinRefused,
      ← interface, ← opcode, ← counter, ← payloadIndex] at twinKept ⊢
    refine ⟨⟨kept, twinKept, ?_, .abort rfl rfl⟩, rfl⟩
    dsimp only
    rw [List.append_assoc, List.append_assoc]
    exact append_after twins.log _

theorem Twins.put (twins : Twins past registered answer other decoder twin)
    (alike : AnswersAlike answer other past)
    (counts : ∀ kind, registered (.stream kind .start) = true) (byte : UInt8) :
    Together past registered answer other (decoder.put byte) (twin.put byte) := by
  cases twins.frame with
  | wait waiting twinWaiting =>
      exact twins.put_wait alike counts waiting twinWaiting byte
  | readFixed reading twinReading interface opcode opcodeLength short payloadIndex received holds
      twinHolds counted =>
      exact twins.put_readFixed reading twinReading interface opcode opcodeLength short payloadIndex
        holds twinHolds counted byte
  | streamData streaming twinStreaming interface opcode payloadIndex counter =>
      exact twins.put_streamData alike streaming twinStreaming interface opcode payloadIndex
        counter byte
  | abort aborted twinAborted =>
      rw [put_abort aborted byte, put_abort twinAborted byte]
      exact ⟨twins, rfl⟩

theorem Twins.end_readFixed (twins : Twins past registered answer other decoder twin)
    (reading : decoder.state = .readFixed) (twinReading : twin.state = .readFixed)
    (interface : decoder.interface = twin.interface) (opcode : decoder.opcode = twin.opcode)
    (opcodeLength : decoder.opcodeLength = twin.opcodeLength)
    (payloadIndex : decoder.payloadIndex = twin.payloadIndex) {received : List UInt8}
    (holds : decoder.smallbuf.Holds received) (twinHolds : twin.smallbuf.Holds received)
    (counted : decoder.payloadIndex.toNat = received.length) :
    Together past registered answer other decoder.endFrame twin.endFrame := by
  have recorded := twins.recorded
  have twinRecorded := twins.twinRecorded
  have kept := recorded.endFrame
  have twinKept := twinRecorded.endFrame
  by_cases complete : decoder.payloadIndex = decoder.opcodeLength.toUInt32
  · have twinComplete : twin.payloadIndex = twin.opcodeLength.toUInt32 := by
      rw [← payloadIndex, ← opcodeLength]
      exact complete
    have length : received.length = decoder.opcodeLength.toNat := by
      rw [← counted, complete, UInt8.toNat_toUInt32]
    have value : twin.smallbuf.value twin.opcodeLength =
        decoder.smallbuf.value decoder.opcodeLength := by
      rw [← opcodeLength, holds.value_eq _ length, twinHolds.value_eq _ length]
    cases dispatched : dispatchCall decoder.interface decoder.opcode
        (decoder.smallbuf.value decoder.opcodeLength) with
    | ok call =>
        have twinDispatched : dispatchCall twin.interface twin.opcode
            (twin.smallbuf.value twin.opcodeLength) = .ok call := by
          rw [← interface, ← opcode, value]
          exact dispatched
        rw [recorded.end_event reading complete dispatched] at kept ⊢
        rw [twinRecorded.end_event twinReading twinComplete twinDispatched] at twinKept ⊢
        exact ⟨⟨kept, twinKept, append_after twins.log _, .wait rfl rfl⟩, rfl⟩
    | error status =>
        have twinDispatched : dispatchCall twin.interface twin.opcode
            (twin.smallbuf.value twin.opcodeLength) = .error status := by
          rw [← interface, ← opcode, value]
          exact dispatched
        rw [recorded.end_unknown reading complete dispatched] at kept ⊢
        rw [twinRecorded.end_unknown twinReading twinComplete twinDispatched, ← interface,
          ← opcode, ← payloadIndex] at twinKept ⊢
        exact ⟨⟨kept, twinKept, append_after twins.log _, .wait rfl rfl⟩, rfl⟩
  · have twinDifferent : twin.payloadIndex ≠ twin.opcodeLength.toUInt32 := by
      rw [← payloadIndex, ← opcodeLength]
      exact complete
    rw [recorded.end_short reading complete] at kept ⊢
    rw [twinRecorded.end_short twinReading twinDifferent, ← interface, ← opcode,
      ← payloadIndex] at twinKept ⊢
    exact ⟨⟨kept, twinKept, append_after twins.log _, .wait rfl rfl⟩, rfl⟩

theorem Twins.end_streamData (twins : Twins past registered answer other decoder twin)
    (alike : AnswersAlike answer other past)
    (streaming : decoder.state = .streamData) (twinStreaming : twin.state = .streamData)
    (interface : decoder.interface = twin.interface) (opcode : decoder.opcode = twin.opcode)
    (payloadIndex : decoder.payloadIndex = twin.payloadIndex)
    (counter : decoder.stream.byteIndex = twin.stream.byteIndex) :
    Together past registered answer other decoder.endFrame twin.endFrame := by
  have recorded := twins.recorded
  have twinRecorded := twins.twinRecorded
  have kept := recorded.endFrame
  have twinKept := twinRecorded.endFrame
  obtain ⟨kind, selected, twinSelected⟩ := twins.selected opcode streaming twinStreaming
  have answered := twins.answers alike
    (kind, .endStream decoder.interface decoder.stream.byteIndex)
  by_cases accepted : reply (registered (.stream kind .endStream)) (answer decoder.context
      (kind, .endStream decoder.interface decoder.stream.byteIndex)) = .ok
  · have twinAccepted : reply (registered (.stream kind .endStream)) (other twin.context
        (kind, .endStream twin.interface twin.stream.byteIndex)) = .ok := by
      rw [← interface, ← counter, ← answered]
      exact accepted
    rw [end_accepted streaming selected accepted, answered] at kept ⊢
    rw [end_accepted twinStreaming twinSelected twinAccepted, ← interface,
      ← counter] at twinKept ⊢
    exact ⟨⟨kept, twinKept, append_after twins.log _, .wait rfl rfl⟩, rfl⟩
  · obtain ⟨present, refused⟩ := reply_ne_ok.mp accepted
    have twinRefused : other twin.context
        (kind, .endStream twin.interface twin.stream.byteIndex) = .abort := by
      rw [← interface, ← counter, ← answered]
      exact refused
    rw [recorded.end_refused streaming selected present refused] at kept ⊢
    rw [twinRecorded.end_refused twinStreaming twinSelected present twinRefused,
      ← interface, ← opcode, ← counter, ← payloadIndex] at twinKept ⊢
    refine ⟨⟨kept, twinKept, ?_, .abort rfl rfl⟩, rfl⟩
    dsimp only
    rw [List.append_assoc, List.append_assoc]
    exact append_after twins.log _

theorem Twins.endFrame (twins : Twins past registered answer other decoder twin)
    (alike : AnswersAlike answer other past) :
    Together past registered answer other decoder.endFrame twin.endFrame := by
  cases twins.frame with
  | wait waiting twinWaiting =>
      rw [end_idle (.inl waiting), end_idle (.inl twinWaiting)]
      exact ⟨twins.start, rfl⟩
  | readFixed reading twinReading interface opcode opcodeLength short payloadIndex received holds
      twinHolds counted =>
      exact twins.end_readFixed reading twinReading interface opcode opcodeLength payloadIndex
        holds twinHolds counted
  | streamData streaming twinStreaming interface opcode payloadIndex counter =>
      exact twins.end_streamData alike streaming twinStreaming interface opcode payloadIndex
        counter
  | abort aborted twinAborted =>
      rw [end_idle (.inr aborted), end_idle (.inr twinAborted)]
      exact ⟨twins.start, rfl⟩

theorem lockstep (alike : AnswersAlike answer other past)
    (counts : ∀ kind, registered (.stream kind .start) = true) :
    machine.Lockstep machine (Twins past registered answer other) where
  accepted := rfl
  start := fun _ _ twins => twins.start
  put := fun _ _ byte twins => twins.put alike counts byte
  endFrame := fun _ _ twins => twins.endFrame alike

end EventDecoder

/-! ### Both decoders, after any run -/

/-- No later call or status of a started decoder tells what came before the start. -/
theorem start_isolates (prior next : List (Operation UInt8)) :
    (∀ (memory freshMemory : CommandDecoder (List CommandCall)) (registered : CommandSlot → Bool)
        (answer other : CommandAnswer),
      AnswersAlike answer other
        (CommandDecoder.reached memory registered answer prior).context →
      CommandDecoder.machine.ledger CommandDecoder.context
          (CommandDecoder.reached memory registered answer prior).start next =
        CommandDecoder.machine.ledger CommandDecoder.context
          (CommandDecoder.fresh freshMemory registered other) next) ∧
    (∀ (memory freshMemory : EventDecoder (List EventCall)) (registered : EventSlot → Bool)
        (answer other : EventAnswer),
      (∀ kind, registered (.stream kind .start) = true) →
      AnswersAlike answer other
        (EventDecoder.reached memory registered answer prior).context →
      EventDecoder.machine.ledger EventDecoder.context
          (EventDecoder.reached memory registered answer prior).start next =
        EventDecoder.machine.ledger EventDecoder.context
          (EventDecoder.fresh freshMemory registered other) next) := by
  constructor
  · intro memory freshMemory registered answer other alike
    have recorded := CommandDecoder.reached_recorded memory registered answer prior
    have twinRecorded := CommandDecoder.fresh_recorded freshMemory registered other
    apply (CommandDecoder.lockstep alike).ledger (fun _ _ twins => twins.log)
    exact ⟨recorded.start, twinRecorded, (List.append_nil _).symm, .wait rfl rfl⟩
  · intro memory freshMemory registered answer other counts alike
    have recorded := EventDecoder.reached_recorded memory registered answer prior
    have twinRecorded := EventDecoder.fresh_recorded freshMemory registered other
    apply (EventDecoder.lockstep alike counts).ledger (fun _ _ twins => twins.log)
    exact ⟨recorded.start, twinRecorded, (List.append_nil _).symm, .wait rfl rfl⟩

/-- A half-read payload, left without an end, is forgotten by both decoders. -/
theorem start_isolates_abandoned :
    CommandDecoder.machine.ledger CommandDecoder.context
        (CommandDecoder.reached (CommandDecoder.zeroed []) (fun _ => true) (fun _ _ => .ok)
          [.start, .write [0x21, 0xAA, 0xBB]]).start [.write [0x13, 0x05], .endFrame] =
      CommandDecoder.machine.ledger CommandDecoder.context
        (CommandDecoder.fresh (CommandDecoder.zeroed []) (fun _ => true) (fun _ _ => .ok))
        [.write [0x13, 0x05], .endFrame] ∧
    EventDecoder.machine.ledger EventDecoder.context
        (EventDecoder.reached (EventDecoder.zeroed []) (fun _ => true) (fun _ _ => .ok)
          [.start, .write [0x21, 0xAA, 0xBB]]).start [.write [0x13, 0x05], .endFrame] =
      EventDecoder.machine.ledger EventDecoder.context
        (EventDecoder.fresh (EventDecoder.zeroed []) (fun _ => true) (fun _ _ => .ok))
        [.write [0x13, 0x05], .endFrame] := by
  obtain ⟨commands, events⟩ :=
    start_isolates [.start, .write [0x21, 0xAA, 0xBB]] [.write [0x13, 0x05], .endFrame]
  exact ⟨commands _ _ _ _ _ fun _ _ => rfl, events _ _ _ _ _ (fun _ => rfl) fun _ _ => rfl⟩

end RNodeProtocol
