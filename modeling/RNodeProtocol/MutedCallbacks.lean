/-
Callbacks left out of a command decoder.

A decoder without some of its callbacks is compared with the decoder that has
them all, where those left out only record their calls and accept.  Muting the
full decoder, which takes the entries of the missing callbacks out of its log,
commutes with every call, so the two decoders run in lockstep.
-/

import RNodeProtocol.CommandDecoderSteps
import RNodeProtocol.Library.Lockstep

namespace RNodeProtocol

open ByteNumerals FramedInput

/-- The calls of the registered callbacks. -/
def unmuted (registered : CommandSlot → Bool) (log : List CommandCall) : List CommandCall :=
  log.filter fun call => registered call.slot

/-- The answers of the full decoder: those of the registered callbacks, who do not see the calls
of the others, and acceptance from the others. -/
def CommandAnswer.completed (answer : CommandAnswer) (registered : CommandSlot → Bool) :
    CommandAnswer :=
  fun log query =>
    if registered (CommandCall.tx query .ok).slot then answer (unmuted registered log) query
    else .ok

theorem unmuted_record (registered : CommandSlot → Bool) (log : List CommandCall)
    (call : CommandCall) :
    unmuted registered (log ++ [call]) =
      unmuted registered log ++ emit (registered call.slot) call := by
  unfold unmuted
  rw [List.filter_append]
  cases present : registered call.slot with
  | true => simp [present]
  | false => simp [present]

theorem unmuted_present {registered : CommandSlot → Bool} {call : CommandCall}
    (present : registered call.slot = true) (log : List CommandCall) :
    unmuted registered (log ++ [call]) = unmuted registered log ++ [call] := by
  rw [unmuted_record, present, emit_true]

/-- A stream call in the log of the full decoder, as the other decoder records it. -/
theorem unmuted_stream (answer : CommandAnswer) (registered : CommandSlot → Bool)
    (log : List CommandCall) (query : StreamCall) {slot : StreamSlot}
    (kind : ∀ answered, (CommandCall.tx query answered).slot = .tx slot) :
    unmuted registered (log ++ [.tx query (answer.completed registered log query)]) =
      unmuted registered log ++
        emit (registered (.tx slot)) (.tx query (answer (unmuted registered log) query)) := by
  rw [unmuted_record, kind]
  unfold CommandAnswer.completed
  rw [kind]
  cases registered (.tx slot) with
  | true => rfl
  | false => rfl

theorem completed_eq_reply (answer : CommandAnswer) (registered : CommandSlot → Bool)
    (log : List CommandCall) (query : StreamCall) {slot : StreamSlot}
    (kind : (CommandCall.tx query .ok).slot = .tx slot) :
    answer.completed registered log query =
      reply (registered (.tx slot)) (answer (unmuted registered log) query) := by
  unfold CommandAnswer.completed
  rw [kind]
  rfl

namespace CommandDecoder

/-- The decoder without the callbacks that are not registered, and without their calls. -/
def mute (registered : CommandSlot → Bool) (answer : CommandAnswer)
    (full : CommandDecoder (List CommandCall)) : CommandDecoder (List CommandCall) :=
  { full with
    toCommandCallbacks := recordingCallbacks registered
    context := unmuted registered full.context
    txStream :=
      { toStreamCallbacks := recordingStream registered answer
        byteIndex := full.txStream.byteIndex } }

variable {registered : CommandSlot → Bool} {answer : CommandAnswer}
  {full : CommandDecoder (List CommandCall)}

theorem mute_recorded (registered : CommandSlot → Bool) (answer : CommandAnswer)
    (full : CommandDecoder (List CommandCall)) :
    Recorded registered answer (mute registered answer full) :=
  ⟨rfl, rfl⟩

theorem Recorded.put_mute
    (complete : Recorded (fun _ => true) (answer.completed registered) full) (byte : UInt8) :
    (mute registered answer full).put byte =
      (mute registered answer (full.put byte).1, (full.put byte).2) := by
  have muted := mute_recorded registered answer full
  have same : (mute registered answer full).state = full.state := rfl
  have answered := completed_eq_reply answer registered full.context
    (.data full.interface byte full.txStream.byteIndex) rfl
  have step := complete.put_step byte
  generalize full.put byte = result at step ⊢
  cases step with
  | unknown waiting length =>
      rw [muted.put_unknown (same.trans waiting) byte length]
      refine Prod.ext ?_ rfl
      unfold mute
      dsimp only
      rw [emit_true, unmuted_record]
      rfl
  | streamHeader waiting length =>
      rw [muted.put_streamHeader (same.trans waiting) byte length]
      refine Prod.ext ?_ rfl
      unfold mute
      dsimp only
      rw [emit_true, unmuted_stream answer registered _ _ fun _ => rfl]
  | fixedHeader waiting known fixed =>
      rw [put_fixedHeader (same.trans waiting) byte known fixed]
      rfl
  | room reading room =>
      rw [put_room (same.trans reading) byte room]
      rfl
  | full reading full =>
      rw [muted.put_full (same.trans reading) byte full]
      refine Prod.ext ?_ rfl
      unfold mute
      dsimp only
      rw [emit_true, unmuted_record]
      rfl
  | accepted streaming accepted =>
      rw [muted.put_accepted (same.trans streaming) byte (answered.symm.trans accepted)]
      refine Prod.ext ?_ rfl
      unfold mute
      dsimp only
      rw [emit_true, unmuted_stream answer registered _ _ fun _ => rfl]
  | refused streaming _ refused =>
      rw [refused] at answered
      obtain ⟨present, rejected⟩ := reply_ne_ok.mp (by rw [← answered]; decide)
      rw [muted.put_refused (same.trans streaming) byte present rejected]
      refine Prod.ext ?_ rfl
      unfold mute
      dsimp only
      rw [emit_true, unmuted_record, unmuted_present present]
      rfl
  | ignored aborted => rw [put_abort (same.trans aborted) byte]

theorem Recorded.endFrame_mute
    (complete : Recorded (fun _ => true) (answer.completed registered) full) :
    (mute registered answer full).endFrame =
      (mute registered answer full.endFrame.1, full.endFrame.2) := by
  have muted := mute_recorded registered answer full
  have same : (mute registered answer full).state = full.state := rfl
  have answered := completed_eq_reply answer registered full.context
    (.endStream full.interface full.txStream.byteIndex) rfl
  have step := complete.end_step
  generalize full.endFrame = result at step ⊢
  cases step with
  | command reading exact call dispatched =>
      rw [muted.end_command (same.trans reading) exact dispatched]
      refine Prod.ext ?_ rfl
      unfold mute CommandDecoder.start
      dsimp only
      rw [emit_true, unmuted_record]
  | rejected reading exact status dispatched =>
      rw [muted.end_rejected (same.trans reading) exact dispatched]
      refine Prod.ext ?_ rfl
      unfold mute CommandDecoder.start
      dsimp only
      rw [emit_true, unmuted_record]
      rfl
  | short reading different =>
      rw [muted.end_short (same.trans reading) different]
      refine Prod.ext ?_ rfl
      unfold mute CommandDecoder.start
      dsimp only
      rw [emit_true, unmuted_record]
      rfl
  | accepted streaming accepted =>
      rw [muted.end_accepted (same.trans streaming) (answered.symm.trans accepted)]
      refine Prod.ext ?_ rfl
      unfold mute CommandDecoder.start
      dsimp only
      rw [emit_true, unmuted_stream answer registered _ _ fun _ => rfl]
  | refused streaming _ refused =>
      rw [refused] at answered
      obtain ⟨present, rejected⟩ := reply_ne_ok.mp (by rw [← answered]; decide)
      rw [muted.end_refused (same.trans streaming) present rejected]
      refine Prod.ext ?_ rfl
      unfold mute
      dsimp only
      rw [emit_true, unmuted_record, unmuted_present present]
      rfl
  | idle idle =>
      have passed : (mute registered answer full).state = .wait ∨
          (mute registered answer full).state = .abort := idle
      rw [end_idle passed]
      rfl

/-- One decoder is the other, muted. -/
structure Muted (registered : CommandSlot → Bool) (answer : CommandAnswer)
    (sparse full : CommandDecoder (List CommandCall)) : Prop where
  complete : Recorded (fun _ => true) (answer.completed registered) full
  muted : sparse = mute registered answer full

theorem muted_lockstep : machine.Lockstep machine (Muted registered answer) where
  accepted := rfl
  start := by
    rintro _ full ⟨complete, rfl⟩
    exact ⟨complete.start, rfl⟩
  put := by
    rintro _ full byte ⟨complete, rfl⟩
    have stepped := complete.put_mute byte
    have same : ((mute registered answer full).put byte).2 = (full.put byte).2 := by
      rw [stepped]
    exact ⟨⟨complete.put byte, congrArg Prod.fst stepped⟩, same⟩
  endFrame := by
    rintro _ full ⟨complete, rfl⟩
    have stepped := complete.endFrame_mute
    have same : (mute registered answer full).endFrame.2 = full.endFrame.2 := by
      rw [stepped]
    exact ⟨⟨complete.endFrame, congrArg Prod.fst stepped⟩, same⟩

/-- Every field but the callbacks and the log. -/
structure SameFields (decoder other : CommandDecoder (List CommandCall)) : Prop where
  state : decoder.state = other.state
  payloadIndex : decoder.payloadIndex = other.payloadIndex
  interface : decoder.interface = other.interface
  opcode : decoder.opcode = other.opcode
  opcodeLength : decoder.opcodeLength = other.opcodeLength
  smallbuf : decoder.smallbuf = other.smallbuf
  byteIndex : decoder.txStream.byteIndex = other.txStream.byteIndex

/-- Leaving out callbacks removes their own calls from a run and changes nothing else. -/
theorem reached_muted (memory : CommandDecoder (List CommandCall))
    (registered : CommandSlot → Bool) (answer : CommandAnswer)
    (operations : List (Operation UInt8)) :
    machine.statuses (fresh memory registered answer) operations =
        machine.statuses (fresh memory (fun _ => true) (answer.completed registered)) operations ∧
      SameFields (reached memory registered answer operations)
        (reached memory (fun _ => true) (answer.completed registered) operations) ∧
      (reached memory registered answer operations).context =
        (reached memory (fun _ => true) (answer.completed registered) operations).context.filter
          (fun call => registered call.slot) := by
  have together : Muted registered answer (fresh memory registered answer)
      (fresh memory (fun _ => true) (answer.completed registered)) :=
    ⟨fresh_recorded memory _ _, rfl⟩
  have after := (muted_lockstep.run together operations).muted
  change reached memory registered answer operations = _ at after
  refine ⟨muted_lockstep.statuses together operations, ?_, ?_⟩
  · rw [after]
    exact ⟨rfl, rfl, rfl, rfl, rfl, rfl, rfl⟩
  · rw [after]
    rfl

end CommandDecoder

end RNodeProtocol
