/-
Command decoders with any callbacks at all.

A recorded run keeps the calls made so far as its context.  Here the callbacks
and the user context are arbitrary: what a callback does to the context and how
it answers is read off the callback itself.  Such a run is a recorded run whose
log is played back into the user context, so whatever holds of the fields and
the statuses of every recorded run holds of every run.
-/

import RNodeProtocol.CommandDecoderSteps
import RNodeProtocol.Library.Lockstep

namespace RNodeProtocol

open ByteNumerals FramedInput

variable {Ctx : Type}

/-- What an initialisation is given. -/
structure CommandSetup (Ctx : Type) where
  context : Ctx
  callbacks : CommandCallbacks Ctx
  tx : StreamCallbacks Ctx

namespace CommandSetup

def registers (setup : CommandSetup Ctx) : CommandSlot → Bool
  | .detect => setup.callbacks.detectCb.isSome
  | .setFrequency => setup.callbacks.setFrequencyCb.isSome
  | .setBandwidth => setup.callbacks.setBandwidthCb.isSome
  | .setTxpower => setup.callbacks.setTxpowerCb.isSome
  | .setSpreadingFactor => setup.callbacks.setSpreadingFactorCb.isSome
  | .setCodingRate => setup.callbacks.setCodingRateCb.isSome
  | .setRadioState => setup.callbacks.setRadioStateCb.isSome
  | .ready => setup.callbacks.readyCb.isSome
  | .lock => setup.callbacks.lockCb.isSome
  | .leave => setup.callbacks.leaveCb.isSome
  | .tx slot => setup.tx.registers slot
  | .error => setup.callbacks.errorCb.isSome

/-- What the callback behind a call leaves of the user context. -/
def effect (setup : CommandSetup Ctx) (context : Ctx) : CommandCall → Ctx
  | .detect => invoke setup.callbacks.detectCb context
  | .setFrequency interface hz =>
      invoke (setup.callbacks.setFrequencyCb.map fun setFrequencyCb context =>
        setFrequencyCb context interface hz) context
  | .setBandwidth interface bandwidth =>
      invoke (setup.callbacks.setBandwidthCb.map fun setBandwidthCb context =>
        setBandwidthCb context interface bandwidth) context
  | .setTxpower interface dbm =>
      invoke (setup.callbacks.setTxpowerCb.map fun setTxpowerCb context =>
        setTxpowerCb context interface dbm) context
  | .setSpreadingFactor interface sf =>
      invoke (setup.callbacks.setSpreadingFactorCb.map
        fun setSpreadingFactorCb context => setSpreadingFactorCb context interface sf) context
  | .setCodingRate interface cr =>
      invoke (setup.callbacks.setCodingRateCb.map fun setCodingRateCb context =>
        setCodingRateCb context interface cr) context
  | .setRadioState interface state =>
      invoke (setup.callbacks.setRadioStateCb.map fun setRadioStateCb context =>
        setRadioStateCb context interface state) context
  | .ready => invoke setup.callbacks.readyCb context
  | .lock interface lockState =>
      invoke (setup.callbacks.lockCb.map fun lockCb context =>
        lockCb context interface lockState) context
  | .leave => invoke setup.callbacks.leaveCb context
  | .tx call _ => (setup.tx.invoke context call).1
  | .error interface opcode index status =>
      invoke (setup.callbacks.errorCb.map fun errorCb context =>
        errorCb context interface opcode index status) context

/-- The user context after these calls. -/
def contextAfter (setup : CommandSetup Ctx) (log : List CommandCall) : Ctx :=
  log.foldl setup.effect setup.context

/-- The answers of the stream callbacks, as a function of the calls before them. -/
def answer (setup : CommandSetup Ctx) : CommandAnswer :=
  fun log query => (setup.tx.invoke (setup.contextAfter log) query).2

variable {setup : CommandSetup Ctx}

theorem effect_unregistered {call : CommandCall} (missing : setup.registers call.slot = false)
    (context : Ctx) : setup.effect context call = context := by
  cases call with
  | tx query answered =>
      have absent : setup.tx.registers query.slot = false := by
        cases query <;> exact missing
      exact congrArg Prod.fst (setup.tx.invoke_unregistered absent context)
  | _ =>
      unfold effect
      rw [pointer_missing missing]
      rfl

theorem contextAfter_emit (setup : CommandSetup Ctx) (slot : CommandSlot)
    (log : List CommandCall) (call : CommandCall) (behind : call.slot = slot) :
    setup.contextAfter (log ++ emit (setup.registers slot) call) =
      setup.effect (setup.contextAfter log) call := by
  subst behind
  unfold contextAfter
  rw [List.foldl_append]
  cases present : setup.registers call.slot with
  | true => rfl
  | false => exact (effect_unregistered present _).symm

/-- A recorded decoder with the setup's own callbacks and context instead. -/
def image (setup : CommandSetup Ctx) (recorded : CommandDecoder (List CommandCall)) :
    CommandDecoder Ctx :=
  { toCommandCallbacks := setup.callbacks
    context := setup.contextAfter recorded.context
    payloadIndex := recorded.payloadIndex
    smallbuf := recorded.smallbuf
    interface := recorded.interface
    opcode := recorded.opcode
    opcodeLength := recorded.opcodeLength
    state := recorded.state
    txStream :=
      { toStreamCallbacks := setup.tx
        byteIndex := recorded.txStream.byteIndex } }

open CommandDecoder (dispatchCall)

variable {recorded : CommandDecoder (List CommandCall)}

theorem dispatchCommand_image (setup : CommandSetup Ctx)
    (recorded : CommandDecoder (List CommandCall)) (value : UInt32) :
    (setup.image recorded).dispatchCommand value =
      match dispatchCall recorded.interface recorded.opcode value with
      | .ok call =>
          ({ setup.image recorded with
              context := setup.effect (setup.contextAfter recorded.context) call }, .ok)
      | .error status => (setup.image recorded, status) := by
  have same : (setup.image recorded).opcode = recorded.opcode := rfl
  unfold CommandDecoder.dispatchCommand dispatchCall
  rw [same]
  cases RnodeOpcode.ofValue? recorded.opcode with
  | none => rfl
  | some opcode =>
      cases opcode with
      | radioState =>
          dsimp only
          cases RadioState.ofValue? value with
          | none => rfl
          | some state => rfl
      | detect =>
          dsimp only
          split <;> rfl
      | _ => rfl

theorem fixedLengthCommand_image (setup : CommandSetup Ctx)
    (recorded : CommandDecoder (List CommandCall)) :
    (setup.image recorded).fixedLengthCommand =
      match dispatchCall recorded.interface recorded.opcode
          (recorded.smallbuf.value recorded.opcodeLength) with
      | .ok call =>
          ({ setup.image recorded with
              context := setup.effect (setup.contextAfter recorded.context) call }, .ok)
      | .error status => ((setup.image recorded).reportError status, status) := by
  have dispatched := setup.dispatchCommand_image recorded
    (recorded.smallbuf.value recorded.opcodeLength)
  have read : (setup.image recorded).smallbuf.value (setup.image recorded).opcodeLength =
      recorded.smallbuf.value recorded.opcodeLength := rfl
  unfold CommandDecoder.fixedLengthCommand
  rw [read, dispatched]
  cases called : dispatchCall recorded.interface recorded.opcode
      (recorded.smallbuf.value recorded.opcodeLength) with
  | ok call => rfl
  | error status =>
      have rejected : status ≠ .ok := by
        intro accepted
        subst status
        exact CommandDecoder.dispatchCall_error_ne_ok _ _ _ called
      dsimp only
      rw [if_pos rejected]

theorem put_image (isRecorded : CommandDecoder.Recorded setup.registers setup.answer recorded)
    (byte : UInt8) :
    (setup.image recorded).put byte =
      (setup.image (recorded.put byte).1, (recorded.put byte).2) := by
  have same : (setup.image recorded).state = recorded.state := rfl
  have answered := setup.tx.reply_invoke (setup.contextAfter recorded.context)
    (.data recorded.interface byte recorded.txStream.byteIndex)
  have step := isRecorded.put_step byte
  generalize recorded.put byte = result at step ⊢
  cases step with
  | unknown waiting length =>
      have told := setup.contextAfter_emit .error recorded.context
        (.error (highNibble byte) (lowNibble byte) 0 .unknownOpcode) rfl
      unfold lowNibble at length
      unfold CommandDecoder.put
      rw [same, waiting]
      dsimp only
      rw [if_pos length]
      unfold image
      dsimp only
      rw [told]
      rfl
  | streamHeader waiting length =>
      have told := setup.contextAfter_emit (.tx .start) recorded.context
        (.tx (.start (highNibble byte)) (setup.answer recorded.context (.start (highNibble byte))))
        rfl
      unfold lowNibble at length
      unfold CommandDecoder.put
      rw [same, waiting]
      dsimp only
      rw [if_neg (by rw [length]; decide), if_pos length]
      unfold image
      dsimp only
      rw [told]
      rfl
  | fixedHeader waiting known fixed =>
      rw [CommandDecoder.put_fixedHeader (same.trans waiting) byte known fixed]
      rfl
  | room reading room =>
      rw [CommandDecoder.put_room (same.trans reading) byte room]
      rfl
  | full reading full =>
      have told := setup.contextAfter_emit .error recorded.context
        (.error recorded.interface recorded.opcode recorded.payloadIndex .invalidLength) rfl
      have beyond : ¬ (setup.image recorded).payloadIndex < 4 := full
      unfold CommandDecoder.put
      rw [same, reading]
      dsimp only
      rw [if_neg beyond]
      unfold image
      dsimp only
      rw [told]
      rfl
  | accepted streaming accepted =>
      have told := setup.contextAfter_emit (.tx .data) recorded.context
        (.tx (.data recorded.interface byte recorded.txStream.byteIndex)
          (setup.answer recorded.context
            (.data recorded.interface byte recorded.txStream.byteIndex))) rfl
      have taken : ((setup.image recorded).txStream.data (setup.image recorded).context
          (setup.image recorded).interface byte).2.2 = .ok := answered.symm.trans accepted
      unfold CommandDecoder.put
      rw [same, streaming]
      dsimp only
      rw [if_neg (not_not_intro taken)]
      unfold image
      dsimp only
      rw [told]
      rfl
  | refused streaming present refused =>
      have heard := setup.contextAfter_emit (.tx .data) recorded.context
        (.tx (.data recorded.interface byte recorded.txStream.byteIndex) .abort) rfl
      rw [present, emit_true] at heard
      have told := setup.contextAfter_emit .error
        (recorded.context ++
          [.tx (.data recorded.interface byte recorded.txStream.byteIndex) .abort])
        (.error recorded.interface recorded.opcode recorded.payloadIndex .aborted) rfl
      have stopped : ((setup.image recorded).txStream.data (setup.image recorded).context
          (setup.image recorded).interface byte).2.2 ≠ .ok := by
        intro taken
        exact absurd (refused.symm.trans taken) (by decide)
      unfold CommandDecoder.put
      rw [same, streaming]
      dsimp only
      rw [if_pos stopped]
      unfold image
      dsimp only
      rw [told, heard]
      rfl
  | ignored aborted => rw [CommandDecoder.put_abort (same.trans aborted) byte]

theorem endFrame_image
    (isRecorded : CommandDecoder.Recorded setup.registers setup.answer recorded) :
    (setup.image recorded).endFrame =
      (setup.image recorded.endFrame.1, recorded.endFrame.2) := by
  have same : (setup.image recorded).state = recorded.state := rfl
  have answered := setup.tx.reply_invoke (setup.contextAfter recorded.context)
    (.endStream recorded.interface recorded.txStream.byteIndex)
  have step := isRecorded.end_step
  generalize recorded.endFrame = result at step ⊢
  cases step with
  | command reading exact call dispatched =>
      have told := setup.contextAfter_emit call.slot recorded.context call rfl
      have fired := setup.fixedLengthCommand_image recorded
      rw [dispatched] at fired
      have complete : (setup.image recorded).payloadIndex =
          (setup.image recorded).opcodeLength.toUInt32 := exact
      unfold CommandDecoder.endFrame
      rw [same, reading]
      dsimp only
      rw [if_pos complete, fired]
      unfold image CommandDecoder.start
      dsimp only
      rw [told]
  | rejected reading exact status dispatched =>
      have told := setup.contextAfter_emit .error recorded.context
        (.error recorded.interface recorded.opcode recorded.payloadIndex status) rfl
      have fired := setup.fixedLengthCommand_image recorded
      rw [dispatched] at fired
      have complete : (setup.image recorded).payloadIndex =
          (setup.image recorded).opcodeLength.toUInt32 := exact
      unfold CommandDecoder.endFrame
      rw [same, reading]
      dsimp only
      rw [if_pos complete, fired]
      unfold image CommandDecoder.start
      dsimp only
      rw [told]
      rfl
  | short reading different =>
      have told := setup.contextAfter_emit .error recorded.context
        (.error recorded.interface recorded.opcode recorded.payloadIndex .invalidLength) rfl
      have incomplete : (setup.image recorded).payloadIndex ≠
          (setup.image recorded).opcodeLength.toUInt32 := different
      unfold CommandDecoder.endFrame
      rw [same, reading]
      dsimp only
      rw [if_neg incomplete]
      unfold image CommandDecoder.start
      dsimp only
      rw [told]
      rfl
  | accepted streaming accepted =>
      have told := setup.contextAfter_emit (.tx .endStream) recorded.context
        (.tx (.endStream recorded.interface recorded.txStream.byteIndex)
          (setup.answer recorded.context
            (.endStream recorded.interface recorded.txStream.byteIndex))) rfl
      have taken : ((setup.image recorded).txStream.endStream (setup.image recorded).context
          (setup.image recorded).interface).2 = .ok := answered.symm.trans accepted
      unfold CommandDecoder.endFrame
      rw [same, streaming]
      dsimp only
      rw [if_neg (not_not_intro taken)]
      unfold image CommandDecoder.start
      dsimp only
      rw [told]
      rfl
  | refused streaming present refused =>
      have heard := setup.contextAfter_emit (.tx .endStream) recorded.context
        (.tx (.endStream recorded.interface recorded.txStream.byteIndex) .abort) rfl
      rw [present, emit_true] at heard
      have told := setup.contextAfter_emit .error
        (recorded.context ++
          [.tx (.endStream recorded.interface recorded.txStream.byteIndex) .abort])
        (.error recorded.interface recorded.opcode recorded.payloadIndex .aborted) rfl
      have stopped : ((setup.image recorded).txStream.endStream (setup.image recorded).context
          (setup.image recorded).interface).2 ≠ .ok := by
        intro taken
        exact absurd (refused.symm.trans taken) (by decide)
      unfold CommandDecoder.endFrame
      rw [same, streaming]
      dsimp only
      rw [if_pos stopped]
      unfold image
      dsimp only
      rw [told, heard]
      rfl
  | idle idle =>
      have passed : (setup.image recorded).state = .wait ∨
          (setup.image recorded).state = .abort := idle
      rw [CommandDecoder.end_idle passed]
      rfl

/-- One decoder is the image of the other, which is recorded. -/
structure Images (setup : CommandSetup Ctx) (decoder : CommandDecoder Ctx)
    (recorded : CommandDecoder (List CommandCall)) : Prop where
  isRecorded : CommandDecoder.Recorded setup.registers setup.answer recorded
  image : decoder = setup.image recorded

theorem lockstep (setup : CommandSetup Ctx) :
    CommandDecoder.machine.Lockstep CommandDecoder.machine setup.Images where
  accepted := rfl
  start := by
    rintro _ recorded ⟨isRecorded, rfl⟩
    exact ⟨isRecorded.start, rfl⟩
  put := by
    rintro _ recorded byte ⟨isRecorded, rfl⟩
    have stepped := put_image isRecorded byte
    exact ⟨⟨isRecorded.put byte, congrArg Prod.fst stepped⟩, congrArg Prod.snd stepped⟩
  endFrame := by
    rintro _ recorded ⟨isRecorded, rfl⟩
    have stepped := endFrame_image isRecorded
    exact ⟨⟨isRecorded.endFrame, congrArg Prod.fst stepped⟩, congrArg Prod.snd stepped⟩

/-- A decoder just initialised, on whatever memory it was given. -/
def fresh (setup : CommandSetup Ctx) (memory : CommandDecoder Ctx) : CommandDecoder Ctx :=
  memory.init setup.context setup.callbacks setup.tx

/-- Where a run of operations takes a decoder just initialised. -/
def reached (setup : CommandSetup Ctx) (memory : CommandDecoder Ctx)
    (operations : List (Operation UInt8)) : CommandDecoder Ctx :=
  CommandDecoder.machine.run (setup.fresh memory) operations

/-- Memory for a recording decoder, with the same contents in what an initialisation leaves. -/
def memoryFor (memory : CommandDecoder Ctx) : CommandDecoder (List CommandCall) :=
  { CommandDecoder.zeroed [] with
    smallbuf := memory.smallbuf
    interface := memory.interface
    opcode := memory.opcode }

theorem fresh_images (setup : CommandSetup Ctx) (memory : CommandDecoder Ctx) :
    setup.Images (setup.fresh memory)
      (CommandDecoder.fresh (memoryFor memory) setup.registers setup.answer) :=
  ⟨CommandDecoder.fresh_recorded _ _ _, rfl⟩

/-- The recorded run behind a run. -/
def recording (setup : CommandSetup Ctx) (memory : CommandDecoder Ctx)
    (operations : List (Operation UInt8)) : CommandDecoder (List CommandCall) :=
  CommandDecoder.reached (memoryFor memory) setup.registers setup.answer operations

theorem reached_images (setup : CommandSetup Ctx) (memory : CommandDecoder Ctx)
    (operations : List (Operation UInt8)) :
    setup.Images (setup.reached memory operations) (setup.recording memory operations) :=
  setup.lockstep.run (setup.fresh_images memory) operations

end CommandSetup

end RNodeProtocol
