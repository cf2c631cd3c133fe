/-
Event decoders with any callbacks at all.

Again a run is a recorded run whose log is played back into the user context.
The stream record is the one difference: which callbacks it points to depends
on the last stream header, and matters only while a stream is read.
-/

import RNodeProtocol.EventDecoderSteps
import RNodeProtocol.Library.Lockstep

namespace RNodeProtocol

open ByteNumerals FramedInput

variable {Ctx : Type}

/-- The callbacks a header of this kind selects. -/
def EventCallbacks.ofKind (callbacks : EventCallbacks Ctx) : StreamKind → StreamCallbacks Ctx
  | .statRx =>
      { startCb := callbacks.statRxStartCb
        dataCb := callbacks.statRxDataCb
        endCb := callbacks.statRxEndCb }
  | .statTx =>
      { startCb := callbacks.statTxStartCb
        dataCb := callbacks.statTxDataCb
        endCb := callbacks.statTxEndCb }

theorem EventDecoder.selectStreamCallbacks_kind {decoder : EventDecoder Ctx} {kind : StreamKind}
    (nibble : decoder.opcode = kind.nibble) :
    decoder.selectStreamCallbacks =
      { decoder with
        stream :=
          { toStreamCallbacks := decoder.toEventCallbacks.ofKind kind
            byteIndex := decoder.stream.byteIndex } } := by
  unfold EventDecoder.selectStreamCallbacks
  rw [nibble]
  cases kind <;> rfl

/-- A stream header, with any callbacks. -/
theorem EventDecoder.put_streamKind {decoder : EventDecoder Ctx} (waiting : decoder.state = .wait)
    (byte : UInt8) {kind : StreamKind} (nibble : lowNibble byte = kind.nibble) :
    decoder.put byte =
      ({ decoder with
          interface := highNibble byte
          opcode := lowNibble byte
          payloadIndex := 0
          opcodeLength := 0
          state := .streamData
          stream :=
            { toStreamCallbacks := decoder.toEventCallbacks.ofKind kind
              byteIndex := if (decoder.toEventCallbacks.ofKind kind).registers .start then 0
                else decoder.stream.byteIndex }
          context := ((decoder.toEventCallbacks.ofKind kind).invoke decoder.context
            (.start (highNibble byte))).1 }, .ok) := by
  let headed : EventDecoder Ctx :=
    { decoder with
      interface := highNibble byte
      opcode := lowNibble byte
      payloadIndex := 0
      opcodeLength := 0
      state := .streamData }
  have headedKind : headed.opcode = kind.nibble := nibble
  have streamed : EventDecoder.rnodeEventOpcodeLength (lowNibble byte) = -1 := by
    rw [nibble]
    cases kind <;> rfl
  have entered : decoder.put byte =
      if headed.selectStreamCallbacks.stream.startCb.isSome then
        ({ headed.selectStreamCallbacks with
            stream := (headed.selectStreamCallbacks.stream.start
              headed.selectStreamCallbacks.context headed.selectStreamCallbacks.interface).1
            context := (headed.selectStreamCallbacks.stream.start
              headed.selectStreamCallbacks.context
              headed.selectStreamCallbacks.interface).2.1 }, .ok)
      else (headed.selectStreamCallbacks, .ok) := by
    unfold lowNibble at streamed
    unfold EventDecoder.put
    rw [waiting]
    dsimp only
    rw [if_neg (by rw [streamed]; decide), if_pos streamed]
    rfl
  rw [entered, EventDecoder.selectStreamCallbacks_kind headedKind]
  unfold Stream.start StreamCallbacks.registers StreamCallbacks.invoke
  dsimp only
  cases (decoder.toEventCallbacks.ofKind kind).startCb with
  | some startCb => rfl
  | none => rfl

/-! ### Streams with any callbacks -/

theorem EventDecoder.put_data_accepted {decoder : EventDecoder Ctx}
    (streaming : decoder.state = .streamData) (byte : UInt8)
    (accepted : (decoder.stream.toStreamCallbacks.invoke decoder.context
      (.data decoder.interface byte decoder.stream.byteIndex)).2 = .ok) :
    decoder.put byte =
      ({ decoder with
          stream := { decoder.stream with
            byteIndex := if decoder.stream.toStreamCallbacks.registers .data then
              decoder.stream.byteIndex + 1 else decoder.stream.byteIndex }
          context := (decoder.stream.toStreamCallbacks.invoke decoder.context
            (.data decoder.interface byte decoder.stream.byteIndex)).1
          payloadIndex := decoder.payloadIndex + 1 }, .ok) := by
  unfold StreamCallbacks.invoke at accepted ⊢
  unfold EventDecoder.put Stream.data StreamCallbacks.registers
  rw [streaming]
  dsimp only at accepted ⊢
  cases registered : decoder.stream.dataCb with
  | some dataCb =>
      rw [registered] at accepted
      dsimp only at accepted ⊢
      rw [if_neg (not_not_intro accepted)]
      rfl
  | none => rfl

theorem EventDecoder.put_data_refused {decoder : EventDecoder Ctx}
    (streaming : decoder.state = .streamData) (byte : UInt8)
    (refused : (decoder.stream.toStreamCallbacks.invoke decoder.context
      (.data decoder.interface byte decoder.stream.byteIndex)).2 ≠ .ok) :
    decoder.put byte =
      (EventDecoder.reportError { decoder with
        stream := { decoder.stream with byteIndex := decoder.stream.byteIndex + 1 }
        context := (decoder.stream.toStreamCallbacks.invoke decoder.context
          (.data decoder.interface byte decoder.stream.byteIndex)).1
        state := .abort } .aborted, .aborted) := by
  unfold StreamCallbacks.invoke at refused ⊢
  unfold EventDecoder.put Stream.data
  rw [streaming]
  dsimp only at refused ⊢
  cases registered : decoder.stream.dataCb with
  | some dataCb =>
      rw [registered] at refused
      dsimp only at refused ⊢
      rw [if_pos refused]
      rfl
  | none =>
      rw [registered] at refused
      exact absurd rfl refused

theorem EventDecoder.end_stream_accepted {decoder : EventDecoder Ctx}
    (streaming : decoder.state = .streamData)
    (accepted : (decoder.stream.toStreamCallbacks.invoke decoder.context
      (.endStream decoder.interface decoder.stream.byteIndex)).2 = .ok) :
    decoder.endFrame =
      (EventDecoder.start { decoder with
        context := (decoder.stream.toStreamCallbacks.invoke decoder.context
          (.endStream decoder.interface decoder.stream.byteIndex)).1 }, .ok) := by
  unfold StreamCallbacks.invoke at accepted ⊢
  unfold EventDecoder.endFrame Stream.endStream
  rw [streaming]
  dsimp only at accepted ⊢
  cases registered : decoder.stream.endCb with
  | some endCb =>
      rw [registered] at accepted
      dsimp only at accepted ⊢
      rw [if_neg (not_not_intro accepted)]
      rfl
  | none => rfl

theorem EventDecoder.end_stream_refused {decoder : EventDecoder Ctx}
    (streaming : decoder.state = .streamData)
    (refused : (decoder.stream.toStreamCallbacks.invoke decoder.context
      (.endStream decoder.interface decoder.stream.byteIndex)).2 ≠ .ok) :
    decoder.endFrame =
      (EventDecoder.reportError { decoder with
        context := (decoder.stream.toStreamCallbacks.invoke decoder.context
          (.endStream decoder.interface decoder.stream.byteIndex)).1
        state := .abort } .aborted, .aborted) := by
  unfold StreamCallbacks.invoke at refused ⊢
  unfold EventDecoder.endFrame Stream.endStream
  rw [streaming]
  dsimp only at refused ⊢
  cases registered : decoder.stream.endCb with
  | some endCb =>
      rw [registered] at refused
      dsimp only at refused ⊢
      rw [if_pos refused]
      rfl
  | none =>
      rw [registered] at refused
      exact absurd rfl refused

/-- What an initialisation is given. -/
structure EventSetup (Ctx : Type) where
  context : Ctx
  callbacks : EventCallbacks Ctx

namespace EventSetup

def registers (setup : EventSetup Ctx) : EventSlot → Bool
  | .rssi => setup.callbacks.rssiCb.isSome
  | .snr => setup.callbacks.snrCb.isSome
  | .blink => setup.callbacks.blinkCb.isSome
  | .random => setup.callbacks.randomCb.isSome
  | .platform => setup.callbacks.platformCb.isSome
  | .mcu => setup.callbacks.mcuCb.isSome
  | .fwVersion => setup.callbacks.fwVersionCb.isSome
  | .stream kind slot => (setup.callbacks.ofKind kind).registers slot
  | .error => setup.callbacks.errorCb.isSome

/-- What the callback behind a call leaves of the user context. -/
def effect (setup : EventSetup Ctx) (context : Ctx) : EventCall → Ctx
  | .rssi interface rssi =>
      invoke (setup.callbacks.rssiCb.map fun rssiCb context =>
        rssiCb context interface rssi) context
  | .snr interface snr =>
      invoke (setup.callbacks.snrCb.map fun snrCb context => snrCb context interface snr) context
  | .blink => invoke setup.callbacks.blinkCb context
  | .random interface value =>
      invoke (setup.callbacks.randomCb.map fun randomCb context =>
        randomCb context interface value) context
  | .platform interface id =>
      invoke (setup.callbacks.platformCb.map fun platformCb context =>
        platformCb context interface id) context
  | .mcu interface id =>
      invoke (setup.callbacks.mcuCb.map fun mcuCb context => mcuCb context interface id) context
  | .fwVersion interface version =>
      invoke (setup.callbacks.fwVersionCb.map fun fwVersionCb context =>
        fwVersionCb context interface version) context
  | .stream kind call _ => ((setup.callbacks.ofKind kind).invoke context call).1
  | .error interface opcode index status =>
      invoke (setup.callbacks.errorCb.map fun errorCb context =>
        errorCb context interface opcode index status) context

/-- The user context after these calls. -/
def contextAfter (setup : EventSetup Ctx) (log : List EventCall) : Ctx :=
  log.foldl setup.effect setup.context

/-- The answers of the stream callbacks, as a function of the calls before them. -/
def answer (setup : EventSetup Ctx) : EventAnswer :=
  fun log query => ((setup.callbacks.ofKind query.1).invoke (setup.contextAfter log) query.2).2

variable {setup : EventSetup Ctx}

theorem effect_unregistered {call : EventCall} (missing : setup.registers call.slot = false)
    (context : Ctx) : setup.effect context call = context := by
  cases call with
  | stream kind query answered =>
      have absent : (setup.callbacks.ofKind kind).registers query.slot = false := by
        cases query <;> exact missing
      exact congrArg Prod.fst ((setup.callbacks.ofKind kind).invoke_unregistered absent context)
  | _ =>
      unfold effect
      rw [pointer_missing missing]
      rfl

theorem contextAfter_emit (setup : EventSetup Ctx) (slot : EventSlot) (log : List EventCall)
    (call : EventCall) (behind : call.slot = slot) :
    setup.contextAfter (log ++ emit (setup.registers slot) call) =
      setup.effect (setup.contextAfter log) call := by
  subst behind
  unfold contextAfter
  rw [List.foldl_append]
  cases present : setup.registers call.slot with
  | true => rfl
  | false => exact (effect_unregistered present _).symm

/-- A recorded decoder with the setup's own callbacks and context instead; what the stream record
points to depends on the last stream header. -/
def image (setup : EventSetup Ctx) (pointers : StreamCallbacks Ctx)
    (recorded : EventDecoder (List EventCall)) : EventDecoder Ctx :=
  { toEventCallbacks := setup.callbacks
    context := setup.contextAfter recorded.context
    payloadIndex := recorded.payloadIndex
    smallbuf := recorded.smallbuf
    interface := recorded.interface
    opcode := recorded.opcode
    opcodeLength := recorded.opcodeLength
    state := recorded.state
    stream :=
      { toStreamCallbacks := pointers
        byteIndex := recorded.stream.byteIndex } }

/-- While a stream is read, its record points to the callbacks of its kind. -/
def Points (setup : EventSetup Ctx) (pointers : StreamCallbacks Ctx)
    (recorded : EventDecoder (List EventCall)) : Prop :=
  recorded.state = .streamData →
    ∀ kind : StreamKind, recorded.opcode = kind.nibble → pointers = setup.callbacks.ofKind kind

open EventDecoder (dispatchCall)

variable {pointers : StreamCallbacks Ctx} {recorded : EventDecoder (List EventCall)}

theorem put_image (isRecorded : EventDecoder.Recorded setup.registers setup.answer recorded)
    (points : setup.Points pointers recorded) (byte : UInt8) :
    ∃ next, (setup.image pointers recorded).put byte =
        (setup.image next (recorded.put byte).1, (recorded.put byte).2) ∧
      setup.Points next (recorded.put byte).1 := by
  have same : (setup.image pointers recorded).state = recorded.state := rfl
  have step := isRecorded.put_step byte
  generalize recorded.put byte = result at step ⊢
  cases step with
  | unknown waiting length =>
      have told := setup.contextAfter_emit .error recorded.context
        (.error (highNibble byte) (lowNibble byte) 0 .unknownOpcode) rfl
      refine ⟨pointers, ?_, nofun⟩
      unfold lowNibble at length
      unfold EventDecoder.put
      rw [same, waiting]
      dsimp only
      rw [if_pos length]
      unfold image
      dsimp only
      rw [told]
      rfl
  | streamHeader waiting kind nibble length =>
      have told := setup.contextAfter_emit (.stream kind .start) recorded.context
        (.stream kind (.start (highNibble byte))
          (setup.answer recorded.context (kind, .start (highNibble byte)))) rfl
      refine ⟨setup.callbacks.ofKind kind, ?_, ?_⟩
      · rw [EventDecoder.put_streamKind (same.trans waiting) byte nibble]
        unfold image
        dsimp only
        rw [told]
        rfl
      · intro _ other named
        rw [StreamKind.nibble_injective (nibble.symm.trans named)]
  | fixedHeader waiting size short length =>
      rw [EventDecoder.put_fixedHeader (same.trans waiting) byte (by omega) (by omega)]
      exact ⟨pointers, rfl, nofun⟩
  | room reading room =>
      rw [EventDecoder.put_room (same.trans reading) byte room]
      exact ⟨pointers, rfl, points⟩
  | full reading full =>
      have told := setup.contextAfter_emit .error recorded.context
        (.error recorded.interface recorded.opcode recorded.payloadIndex .invalidLength) rfl
      have beyond : ¬ (setup.image pointers recorded).payloadIndex <
          (setup.image pointers recorded).opcodeLength.toUInt32 := full
      refine ⟨pointers, ?_, nofun⟩
      unfold EventDecoder.put
      rw [same, reading]
      dsimp only
      rw [if_neg beyond]
      unfold image
      dsimp only
      rw [told]
      rfl
  | accepted streaming kind selected accepted =>
      have chosen := points streaming kind selected.1
      subst chosen
      have answered := (setup.callbacks.ofKind kind).reply_invoke
        (setup.contextAfter recorded.context)
        (.data recorded.interface byte recorded.stream.byteIndex)
      have told := setup.contextAfter_emit (.stream kind .data) recorded.context
        (.stream kind (.data recorded.interface byte recorded.stream.byteIndex)
          (setup.answer recorded.context
            (kind, .data recorded.interface byte recorded.stream.byteIndex))) rfl
      refine ⟨setup.callbacks.ofKind kind, ?_, points⟩
      rw [EventDecoder.put_data_accepted (same.trans streaming) byte
        (answered.symm.trans accepted)]
      unfold image
      dsimp only
      rw [told]
      rfl
  | refused streaming kind selected present refused =>
      have chosen := points streaming kind selected.1
      subst chosen
      have heard := setup.contextAfter_emit (.stream kind .data) recorded.context
        (.stream kind (.data recorded.interface byte recorded.stream.byteIndex) .abort) rfl
      rw [present, emit_true] at heard
      have told := setup.contextAfter_emit .error
        (recorded.context ++
          [.stream kind (.data recorded.interface byte recorded.stream.byteIndex) .abort])
        (.error recorded.interface recorded.opcode recorded.payloadIndex .aborted) rfl
      refine ⟨setup.callbacks.ofKind kind, ?_, nofun⟩
      rw [EventDecoder.put_data_refused (same.trans streaming) byte (by
        intro taken
        exact absurd (refused.symm.trans taken) (by decide))]
      unfold image
      dsimp only
      rw [told, heard]
      rfl
  | ignored aborted =>
      rw [EventDecoder.put_abort (same.trans aborted) byte]
      exact ⟨pointers, rfl, points⟩

theorem dispatchEvent_image (setup : EventSetup Ctx) (pointers : StreamCallbacks Ctx)
    (recorded : EventDecoder (List EventCall)) {value : UInt32} {call : EventCall}
    (dispatched : dispatchCall recorded.interface recorded.opcode value = .ok call) :
    (setup.image pointers recorded).dispatchEvent value =
      ({ setup.image pointers recorded with
          context := setup.effect (setup.contextAfter recorded.context) call }, .ok) := by
  have same : (setup.image pointers recorded).opcode = recorded.opcode := rfl
  have inverted := EventDecoder.dispatched_of_ok dispatched
  unfold EventDecoder.dispatchEvent
  rw [same]
  generalize recorded.opcode = opcode at inverted ⊢
  cases inverted <;> rfl

theorem endFrame_image (isRecorded : EventDecoder.Recorded setup.registers setup.answer recorded)
    (points : setup.Points pointers recorded) :
    (setup.image pointers recorded).endFrame =
        (setup.image pointers recorded.endFrame.1, recorded.endFrame.2) ∧
      setup.Points pointers recorded.endFrame.1 := by
  have same : (setup.image pointers recorded).state = recorded.state := rfl
  have step := isRecorded.end_step
  generalize recorded.endFrame = result at step ⊢
  cases step with
  | event reading exact call dispatched =>
      have told := setup.contextAfter_emit call.slot recorded.context call rfl
      have fired := setup.dispatchEvent_image pointers recorded dispatched
      have complete : (setup.image pointers recorded).payloadIndex =
          (setup.image pointers recorded).opcodeLength.toUInt32 := exact
      have read : (setup.image pointers recorded).smallbuf.value
          (setup.image pointers recorded).opcodeLength =
            recorded.smallbuf.value recorded.opcodeLength := rfl
      refine ⟨?_, nofun⟩
      unfold EventDecoder.endFrame EventDecoder.fixedLengthEvent
      rw [same, reading]
      dsimp only
      rw [if_pos complete, read, fired]
      unfold image EventDecoder.start
      dsimp only
      rw [told]
      rfl
  | unknown reading exact status dispatched =>
      have told := setup.contextAfter_emit .error recorded.context
        (.error recorded.interface recorded.opcode recorded.payloadIndex .unknownOpcode) rfl
      have missed : (setup.image pointers recorded).dispatchEvent
          (recorded.smallbuf.value recorded.opcodeLength) =
            (setup.image pointers recorded, .unknownOpcode) :=
        EventDecoder.dispatchEvent_unknown dispatched
      have complete : (setup.image pointers recorded).payloadIndex =
          (setup.image pointers recorded).opcodeLength.toUInt32 := exact
      have read : (setup.image pointers recorded).smallbuf.value
          (setup.image pointers recorded).opcodeLength =
            recorded.smallbuf.value recorded.opcodeLength := rfl
      refine ⟨?_, nofun⟩
      unfold EventDecoder.endFrame EventDecoder.fixedLengthEvent
      rw [same, reading]
      dsimp only
      rw [if_pos complete, read, missed]
      unfold image EventDecoder.start
      dsimp only
      rw [told]
      rfl
  | short reading different =>
      have told := setup.contextAfter_emit .error recorded.context
        (.error recorded.interface recorded.opcode recorded.payloadIndex .invalidLength) rfl
      have incomplete : (setup.image pointers recorded).payloadIndex ≠
          (setup.image pointers recorded).opcodeLength.toUInt32 := different
      refine ⟨?_, nofun⟩
      unfold EventDecoder.endFrame
      rw [same, reading]
      dsimp only
      rw [if_neg incomplete]
      unfold image EventDecoder.start
      dsimp only
      rw [told]
      rfl
  | accepted streaming kind selected accepted =>
      have chosen := points streaming kind selected.1
      subst chosen
      have answered := (setup.callbacks.ofKind kind).reply_invoke
        (setup.contextAfter recorded.context)
        (.endStream recorded.interface recorded.stream.byteIndex)
      have told := setup.contextAfter_emit (.stream kind .endStream) recorded.context
        (.stream kind (.endStream recorded.interface recorded.stream.byteIndex)
          (setup.answer recorded.context
            (kind, .endStream recorded.interface recorded.stream.byteIndex))) rfl
      refine ⟨?_, nofun⟩
      rw [EventDecoder.end_stream_accepted (same.trans streaming)
        (answered.symm.trans accepted)]
      unfold image EventDecoder.start
      dsimp only
      rw [told]
      rfl
  | refused streaming kind selected present refused =>
      have chosen := points streaming kind selected.1
      subst chosen
      have heard := setup.contextAfter_emit (.stream kind .endStream) recorded.context
        (.stream kind (.endStream recorded.interface recorded.stream.byteIndex) .abort) rfl
      rw [present, emit_true] at heard
      have told := setup.contextAfter_emit .error
        (recorded.context ++
          [.stream kind (.endStream recorded.interface recorded.stream.byteIndex) .abort])
        (.error recorded.interface recorded.opcode recorded.payloadIndex .aborted) rfl
      refine ⟨?_, nofun⟩
      rw [EventDecoder.end_stream_refused (same.trans streaming) (by
        intro taken
        exact absurd (refused.symm.trans taken) (by decide))]
      unfold image
      dsimp only
      rw [told, heard]
      rfl
  | idle idle =>
      have passed : (setup.image pointers recorded).state = .wait ∨
          (setup.image pointers recorded).state = .abort := idle
      rw [EventDecoder.end_idle passed]
      exact ⟨rfl, nofun⟩

/-- One decoder is an image of the other, which is recorded. -/
structure Images (setup : EventSetup Ctx) (decoder : EventDecoder Ctx)
    (recorded : EventDecoder (List EventCall)) : Prop where
  isRecorded : EventDecoder.Recorded setup.registers setup.answer recorded
  image : ∃ pointers, decoder = setup.image pointers recorded ∧ setup.Points pointers recorded

theorem lockstep (setup : EventSetup Ctx) :
    EventDecoder.machine.Lockstep EventDecoder.machine setup.Images where
  accepted := rfl
  start := by
    rintro _ recorded ⟨isRecorded, pointers, rfl, points⟩
    exact ⟨isRecorded.start, pointers, rfl, nofun⟩
  put := by
    rintro _ recorded byte ⟨isRecorded, pointers, rfl, points⟩
    obtain ⟨next, stepped, nextPoints⟩ := put_image isRecorded points byte
    exact ⟨⟨isRecorded.put byte, next, congrArg Prod.fst stepped, nextPoints⟩,
      congrArg Prod.snd stepped⟩
  endFrame := by
    rintro _ recorded ⟨isRecorded, pointers, rfl, points⟩
    obtain ⟨stepped, nextPoints⟩ := endFrame_image isRecorded points
    exact ⟨⟨isRecorded.endFrame, pointers, congrArg Prod.fst stepped, nextPoints⟩,
      congrArg Prod.snd stepped⟩

/-- A decoder just initialised, on whatever memory it was given. -/
def fresh (setup : EventSetup Ctx) (memory : EventDecoder Ctx) : EventDecoder Ctx :=
  memory.init setup.context setup.callbacks

/-- Where a run of operations takes a decoder just initialised. -/
def reached (setup : EventSetup Ctx) (memory : EventDecoder Ctx)
    (operations : List (Operation UInt8)) : EventDecoder Ctx :=
  EventDecoder.machine.run (setup.fresh memory) operations

/-- Memory for a recording decoder, with the same contents in what an initialisation leaves. -/
def memoryFor (memory : EventDecoder Ctx) : EventDecoder (List EventCall) :=
  { EventDecoder.zeroed [] with
    smallbuf := memory.smallbuf
    interface := memory.interface
    opcode := memory.opcode }

theorem fresh_images (setup : EventSetup Ctx) (memory : EventDecoder Ctx) :
    setup.Images (setup.fresh memory)
      (EventDecoder.fresh (memoryFor memory) setup.registers setup.answer) :=
  ⟨EventDecoder.fresh_recorded _ _ _, StreamCallbacks.mk none none none, rfl, nofun⟩

/-- The recorded run behind a run. -/
def recording (setup : EventSetup Ctx) (memory : EventDecoder Ctx)
    (operations : List (Operation UInt8)) : EventDecoder (List EventCall) :=
  EventDecoder.reached (memoryFor memory) setup.registers setup.answer operations

theorem reached_images (setup : EventSetup Ctx) (memory : EventDecoder Ctx)
    (operations : List (Operation UInt8)) :
    setup.Images (setup.reached memory operations) (setup.recording memory operations) :=
  setup.lockstep.run (setup.fresh_images memory) operations

end EventSetup

end RNodeProtocol
