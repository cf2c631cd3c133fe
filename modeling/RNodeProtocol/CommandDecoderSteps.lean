/-
What each call of the command decoder does, with recording callbacks.

The equations below give the next state, the calls added to the log and the
status for every branch of put and end.  Everything proved about recorded runs
of the command decoder goes through them.
-/

import RNodeProtocol.CommandDecoder
import RNodeProtocol.Transcript

namespace RNodeProtocol

open ByteNumerals FramedInput

inductive CommandSlot where
  | detect
  | setFrequency
  | setBandwidth
  | setTxpower
  | setSpreadingFactor
  | setCodingRate
  | setRadioState
  | ready
  | lock
  | leave
  | tx (slot : StreamSlot)
  | error
  deriving Repr, DecidableEq

inductive CommandCall where
  | detect
  | setFrequency (interface : UInt8) (hz : UInt32)
  | setBandwidth (interface : UInt8) (bandwidth : UInt32)
  | setTxpower (interface : UInt8) (dbm : Int8)
  | setSpreadingFactor (interface sf : UInt8)
  | setCodingRate (interface cr : UInt8)
  | setRadioState (interface : UInt8) (state : RadioState)
  | ready
  | lock (interface lockState : UInt8)
  | leave
  | tx (call : StreamCall) (answer : StreamCbStatus)
  | error (interface opcode : UInt8) (index : UInt32) (status : DecoderStatus)
  deriving Repr, DecidableEq

def CommandCall.slot : CommandCall → CommandSlot
  | .detect => .detect
  | .setFrequency _ _ => .setFrequency
  | .setBandwidth _ _ => .setBandwidth
  | .setTxpower _ _ => .setTxpower
  | .setSpreadingFactor _ _ => .setSpreadingFactor
  | .setCodingRate _ _ => .setCodingRate
  | .setRadioState _ _ => .setRadioState
  | .ready => .ready
  | .lock _ _ => .lock
  | .leave => .leave
  | .tx (.start _) _ => .tx .start
  | .tx (.data _ _ _) _ => .tx .data
  | .tx (.endStream _ _) _ => .tx .endStream
  | .error _ _ _ _ => .error

abbrev CommandAnswer := List CommandCall → StreamCall → StreamCbStatus

namespace CommandDecoder

def recordingCallbacks (registered : CommandSlot → Bool) :
    CommandCallbacks (List CommandCall) :=
  { detectCb := pointer (registered .detect) fun log => log ++ [.detect]
    setFrequencyCb := pointer (registered .setFrequency) fun log interface hz =>
      log ++ [.setFrequency interface hz]
    setBandwidthCb := pointer (registered .setBandwidth) fun log interface bandwidth =>
      log ++ [.setBandwidth interface bandwidth]
    setTxpowerCb := pointer (registered .setTxpower) fun log interface dbm =>
      log ++ [.setTxpower interface dbm]
    setSpreadingFactorCb := pointer (registered .setSpreadingFactor) fun log interface sf =>
      log ++ [.setSpreadingFactor interface sf]
    setCodingRateCb := pointer (registered .setCodingRate) fun log interface cr =>
      log ++ [.setCodingRate interface cr]
    setRadioStateCb := pointer (registered .setRadioState) fun log interface state =>
      log ++ [.setRadioState interface state]
    readyCb := pointer (registered .ready) fun log => log ++ [.ready]
    lockCb := pointer (registered .lock) fun log interface lockState =>
      log ++ [.lock interface lockState]
    leaveCb := pointer (registered .leave) fun log => log ++ [.leave]
    errorCb := pointer (registered .error) fun log interface opcode index status =>
      log ++ [.error interface opcode index status] }

def recordingStream (registered : CommandSlot → Bool) (answer : CommandAnswer) :
    StreamCallbacks (List CommandCall) :=
  recordStream CommandCall.tx answer (fun slot => registered (.tx slot))

/-- A decoder just initialised with recording callbacks, on whatever memory it was given. -/
def fresh (memory : CommandDecoder (List CommandCall)) (registered : CommandSlot → Bool)
    (answer : CommandAnswer) : CommandDecoder (List CommandCall) :=
  memory.init [] (recordingCallbacks registered) (recordingStream registered answer)

/-- Where a run of operations takes a decoder just initialised. -/
def reached (memory : CommandDecoder (List CommandCall)) (registered : CommandSlot → Bool)
    (answer : CommandAnswer) (operations : List (Operation UInt8)) :
    CommandDecoder (List CommandCall) :=
  machine.run (fresh memory registered answer) operations

structure Recorded (registered : CommandSlot → Bool) (answer : CommandAnswer)
    (decoder : CommandDecoder (List CommandCall)) : Prop where
  callbacks : decoder.toCommandCallbacks = recordingCallbacks registered
  tx : decoder.txStream.toStreamCallbacks = recordingStream registered answer

theorem fresh_recorded (memory : CommandDecoder (List CommandCall))
    (registered : CommandSlot → Bool) (answer : CommandAnswer) :
    Recorded registered answer (fresh memory registered answer) :=
  ⟨rfl, rfl⟩

/-! ### Callbacks are never reassigned -/

section Unchanged

variable {Ctx : Type}

theorem dispatchCommand_unchanged (decoder : CommandDecoder Ctx) (value : UInt32) :
    ∃ context, (decoder.dispatchCommand value).1 = { decoder with context := context } := by
  unfold dispatchCommand
  repeat' split
  all_goals exact ⟨_, rfl⟩

theorem fixedLengthCommand_unchanged (decoder : CommandDecoder Ctx) :
    ∃ context, decoder.fixedLengthCommand.1 = { decoder with context := context } := by
  obtain ⟨context, dispatched⟩ :=
    decoder.dispatchCommand_unchanged (decoder.smallbuf.value decoder.opcodeLength)
  unfold fixedLengthCommand
  dsimp only
  split
  · rw [dispatched]
    exact ⟨_, rfl⟩
  · exact ⟨context, dispatched⟩

theorem put_callbacks (decoder : CommandDecoder Ctx) (byte : UInt8) :
    (decoder.put byte).1.toCommandCallbacks = decoder.toCommandCallbacks ∧
      (decoder.put byte).1.txStream.toStreamCallbacks =
        decoder.txStream.toStreamCallbacks := by
  unfold put
  cases decoder.state with
  | wait =>
      dsimp only
      split
      · exact ⟨rfl, rfl⟩
      · split <;> exact ⟨rfl, rfl⟩
  | readFixed =>
      dsimp only
      split <;> exact ⟨rfl, rfl⟩
  | streamData =>
      dsimp only
      split <;> exact ⟨rfl, rfl⟩
  | abort => exact ⟨rfl, rfl⟩

theorem endFrame_callbacks (decoder : CommandDecoder Ctx) :
    decoder.endFrame.1.toCommandCallbacks = decoder.toCommandCallbacks ∧
      decoder.endFrame.1.txStream.toStreamCallbacks =
        decoder.txStream.toStreamCallbacks := by
  unfold endFrame
  cases decoder.state with
  | wait => exact ⟨rfl, rfl⟩
  | readFixed =>
      dsimp only
      split
      · obtain ⟨context, fired⟩ := decoder.fixedLengthCommand_unchanged
        rw [fired]
        exact ⟨rfl, rfl⟩
      · exact ⟨rfl, rfl⟩
  | streamData =>
      dsimp only
      split <;> exact ⟨rfl, rfl⟩
  | abort => exact ⟨rfl, rfl⟩

end Unchanged

variable {registered : CommandSlot → Bool} {answer : CommandAnswer}
  {decoder : CommandDecoder (List CommandCall)}

theorem recorded_preserved : machine.Preserves (Recorded registered answer) where
  start := fun _ recorded => ⟨recorded.callbacks, recorded.tx⟩
  put := fun decoder byte recorded =>
    ⟨(decoder.put_callbacks byte).1.trans recorded.callbacks,
      (decoder.put_callbacks byte).2.trans recorded.tx⟩
  endFrame := fun decoder recorded =>
    ⟨decoder.endFrame_callbacks.1.trans recorded.callbacks,
      decoder.endFrame_callbacks.2.trans recorded.tx⟩

theorem reached_recorded (memory : CommandDecoder (List CommandCall))
    (registered : CommandSlot → Bool) (answer : CommandAnswer)
    (operations : List (Operation UInt8)) :
    Recorded registered answer (reached memory registered answer operations) :=
  recorded_preserved.run _ operations (fresh_recorded memory registered answer)

theorem Recorded.start (recorded : Recorded registered answer decoder) :
    Recorded registered answer decoder.start :=
  recorded_preserved.start decoder recorded

theorem Recorded.put (recorded : Recorded registered answer decoder) (byte : UInt8) :
    Recorded registered answer (decoder.put byte).1 :=
  recorded_preserved.put decoder byte recorded

theorem Recorded.endFrame (recorded : Recorded registered answer decoder) :
    Recorded registered answer decoder.endFrame.1 :=
  recorded_preserved.endFrame decoder recorded

/-! ### Reports and dispatch -/

theorem Recorded.reportError (recorded : Recorded registered answer decoder)
    (status : DecoderStatus) :
    decoder.reportError status =
      { decoder with
        context := decoder.context ++ emit (registered .error)
          (.error decoder.interface decoder.opcode decoder.payloadIndex status) } := by
  have same := congrArg CommandCallbacks.errorCb recorded.callbacks
  unfold CommandDecoder.reportError notify
  congr 1
  exact invoke_recorded same rfl

/-- The call a valid fixed-length command makes, or the status that rejects it. -/
def dispatchCall (interface opcode : UInt8) (value : UInt32) :
    Except DecoderStatus CommandCall :=
  match RnodeOpcode.ofValue? opcode with
  | some .frequency => .ok (.setFrequency interface value)
  | some .bandwidth => .ok (.setBandwidth interface value)
  | some .txpower => .ok (.setTxpower interface value.toUInt8.toInt8)
  | some .sf => .ok (.setSpreadingFactor interface value.toUInt8)
  | some .cr => .ok (.setCodingRate interface value.toUInt8)
  | some .radioState =>
      match RadioState.ofValue? value with
      | some state => .ok (.setRadioState interface state)
      | none => .error .invalidArgument
  | some .detect => if value = detectReq.toUInt32 then .ok .detect else .error .invalidArgument
  | some .leave => .ok .leave
  | some .ready => .ok .ready
  | some .radioLock => .ok (.lock interface value.toUInt8)
  | _ => .error .unknownOpcode

theorem dispatchCall_radioState (interface : UInt8) (value : UInt32) :
    dispatchCall interface RnodeOpcode.radioState.value value =
      match RadioState.ofValue? value with
      | some state => .ok (.setRadioState interface state)
      | none => .error .invalidArgument := rfl

theorem dispatchCall_error_ne_ok (interface opcode : UInt8) (value : UInt32) :
    dispatchCall interface opcode value ≠ .error .ok := by
  unfold dispatchCall
  intro dispatched
  repeat' split at dispatched
  all_goals cases dispatched

private theorem accept_context {left right : List CommandCall} (same : left = right) :
    (({ decoder with context := left } : CommandDecoder (List CommandCall)), DecoderStatus.ok) =
      ({ decoder with context := right }, .ok) := by
  rw [same]

theorem Recorded.dispatchCommand (recorded : Recorded registered answer decoder)
    (value : UInt32) :
    decoder.dispatchCommand value =
      match dispatchCall decoder.interface decoder.opcode value with
      | .ok call =>
          ({ decoder with context := decoder.context ++ emit (registered call.slot) call }, .ok)
      | .error status => (decoder, status) := by
  have callbacks := recorded.callbacks
  unfold CommandDecoder.dispatchCommand dispatchCall notify
  cases RnodeOpcode.ofValue? decoder.opcode with
  | none => rfl
  | some opcode =>
      cases opcode with
      | frequency =>
          exact accept_context
            (invoke_recorded (congrArg CommandCallbacks.setFrequencyCb callbacks) rfl)
      | bandwidth =>
          exact accept_context
            (invoke_recorded (congrArg CommandCallbacks.setBandwidthCb callbacks) rfl)
      | txpower =>
          exact accept_context
            (invoke_recorded (congrArg CommandCallbacks.setTxpowerCb callbacks) rfl)
      | sf =>
          exact accept_context
            (invoke_recorded (congrArg CommandCallbacks.setSpreadingFactorCb callbacks) rfl)
      | cr =>
          exact accept_context
            (invoke_recorded (congrArg CommandCallbacks.setCodingRateCb callbacks) rfl)
      | radioState =>
          dsimp only
          cases RadioState.ofValue? value with
          | none => rfl
          | some state =>
              exact accept_context
                (invoke_recorded (congrArg CommandCallbacks.setRadioStateCb callbacks) rfl)
      | detect =>
          dsimp only
          split
          · exact accept_context
              (invoke_recorded_self (congrArg CommandCallbacks.detectCb callbacks) rfl)
          · rfl
      | leave =>
          exact accept_context
            (invoke_recorded_self (congrArg CommandCallbacks.leaveCb callbacks) rfl)
      | ready =>
          exact accept_context
            (invoke_recorded_self (congrArg CommandCallbacks.readyCb callbacks) rfl)
      | radioLock =>
          exact accept_context
            (invoke_recorded (congrArg CommandCallbacks.lockCb callbacks) rfl)
      | _ => rfl

theorem Recorded.fixedLengthCommand (recorded : Recorded registered answer decoder) :
    decoder.fixedLengthCommand =
      match dispatchCall decoder.interface decoder.opcode
          (decoder.smallbuf.value decoder.opcodeLength) with
      | .ok call =>
          ({ decoder with context := decoder.context ++ emit (registered call.slot) call }, .ok)
      | .error status => (decoder.reportError status, status) := by
  unfold CommandDecoder.fixedLengthCommand
  rw [recorded.dispatchCommand]
  cases dispatched : dispatchCall decoder.interface decoder.opcode
      (decoder.smallbuf.value decoder.opcodeLength) with
  | ok call => rfl
  | error status =>
      have rejected : status ≠ .ok := by
        intro accepted
        subst status
        exact dispatchCall_error_ne_ok _ _ _ dispatched
      dsimp only
      rw [if_pos rejected]

/-! ### One byte -/

theorem Recorded.put_unknown (recorded : Recorded registered answer decoder)
    (waiting : decoder.state = .wait) (byte : UInt8)
    (unknown : rnodeProtoOpcodeLength (lowNibble byte) = -2) :
    decoder.put byte =
      ({ decoder with
          interface := highNibble byte
          opcode := lowNibble byte
          payloadIndex := 0
          state := .abort
          context := decoder.context ++ emit (registered .error)
            (.error (highNibble byte) (lowNibble byte) 0 .unknownOpcode) }, .unknownOpcode) := by
  let stopped : CommandDecoder (List CommandCall) :=
    { decoder with
      interface := highNibble byte
      opcode := lowNibble byte
      payloadIndex := 0
      state := .abort }
  have stoppedRecorded : Recorded registered answer stopped := ⟨recorded.callbacks, recorded.tx⟩
  have reported := stoppedRecorded.reportError .unknownOpcode
  unfold lowNibble at unknown
  unfold CommandDecoder.put
  rw [waiting]
  dsimp only
  rw [if_pos unknown]
  exact congrArg (fun next => (next, DecoderStatus.unknownOpcode)) reported

theorem Recorded.put_streamHeader (recorded : Recorded registered answer decoder)
    (waiting : decoder.state = .wait) (byte : UInt8)
    (streamed : rnodeProtoOpcodeLength (lowNibble byte) = -1) :
    decoder.put byte =
      ({ decoder with
          interface := highNibble byte
          opcode := lowNibble byte
          payloadIndex := 0
          state := .streamData
          txStream := { decoder.txStream with byteIndex := 0 }
          context := decoder.context ++ emit (registered (.tx .start))
            (.tx (.start (highNibble byte))
              (answer decoder.context (.start (highNibble byte)))) }, .ok) := by
  have started := Stream.start_recorded recorded.tx decoder.context (highNibble byte)
  unfold highNibble at started
  unfold lowNibble at streamed
  unfold CommandDecoder.put
  rw [waiting]
  dsimp only
  rw [if_neg (by rw [streamed]; decide), if_pos streamed, started]
  rfl

theorem put_fixedHeader {Ctx : Type} {decoder : CommandDecoder Ctx}
    (waiting : decoder.state = .wait) (byte : UInt8)
    (known : rnodeProtoOpcodeLength (lowNibble byte) ≠ -2)
    (fixed : rnodeProtoOpcodeLength (lowNibble byte) ≠ -1) :
    decoder.put byte =
      ({ decoder with
          interface := highNibble byte
          opcode := lowNibble byte
          payloadIndex := 0
          opcodeLength := UInt8.ofInt (rnodeProtoOpcodeLength (lowNibble byte))
          state := .readFixed }, .ok) := by
  unfold lowNibble at known fixed
  unfold CommandDecoder.put
  rw [waiting]
  dsimp only
  rw [if_neg known, if_neg fixed]
  rfl

theorem put_room {Ctx : Type} {decoder : CommandDecoder Ctx}
    (reading : decoder.state = .readFixed) (byte : UInt8) (room : decoder.payloadIndex < 4) :
    decoder.put byte =
      ({ decoder with
          smallbuf := decoder.smallbuf.store decoder.payloadIndex byte
          payloadIndex := decoder.payloadIndex + 1 }, .ok) := by
  unfold CommandDecoder.put
  rw [reading]
  dsimp only
  rw [if_pos room]

theorem Recorded.put_full (recorded : Recorded registered answer decoder)
    (reading : decoder.state = .readFixed) (byte : UInt8) (full : ¬ decoder.payloadIndex < 4) :
    decoder.put byte =
      ({ decoder with
          state := .abort
          context := decoder.context ++ emit (registered .error)
            (.error decoder.interface decoder.opcode decoder.payloadIndex .invalidLength) },
        .invalidLength) := by
  let stopped : CommandDecoder (List CommandCall) :=
    { decoder with state := .abort }
  have stoppedRecorded : Recorded registered answer stopped := ⟨recorded.callbacks, recorded.tx⟩
  have reported := stoppedRecorded.reportError .invalidLength
  unfold CommandDecoder.put
  rw [reading]
  dsimp only
  rw [if_neg full]
  exact congrArg (fun next => (next, DecoderStatus.invalidLength)) reported

theorem Recorded.put_accepted (recorded : Recorded registered answer decoder)
    (streaming : decoder.state = .streamData) (byte : UInt8)
    (accepted : reply (registered (.tx .data)) (answer decoder.context
      (.data decoder.interface byte decoder.txStream.byteIndex)) = .ok) :
    decoder.put byte =
      ({ decoder with
          txStream := { decoder.txStream with byteIndex := decoder.txStream.byteIndex + 1 }
          payloadIndex := decoder.payloadIndex + 1
          context := decoder.context ++ emit (registered (.tx .data))
            (.tx (.data decoder.interface byte decoder.txStream.byteIndex)
              (answer decoder.context
                (.data decoder.interface byte decoder.txStream.byteIndex))) }, .ok) := by
  have received := Stream.data_recorded recorded.tx decoder.context decoder.interface byte
  unfold CommandDecoder.put
  rw [streaming]
  dsimp only
  rw [received]
  dsimp only
  rw [if_neg (not_not_intro accepted)]

theorem Recorded.put_refused (recorded : Recorded registered answer decoder)
    (streaming : decoder.state = .streamData) (byte : UInt8)
    (present : registered (.tx .data) = true)
    (refused : answer decoder.context
      (.data decoder.interface byte decoder.txStream.byteIndex) = .abort) :
    decoder.put byte =
      ({ decoder with
          txStream := { decoder.txStream with byteIndex := decoder.txStream.byteIndex + 1 }
          state := .abort
          context := decoder.context ++
            [.tx (.data decoder.interface byte decoder.txStream.byteIndex) .abort] ++
            emit (registered .error)
              (.error decoder.interface decoder.opcode decoder.payloadIndex .aborted) },
        .aborted) := by
  have received := Stream.data_recorded recorded.tx decoder.context decoder.interface byte
  rw [present, refused] at received
  let stopped : CommandDecoder (List CommandCall) :=
    { decoder with
      txStream := { decoder.txStream with byteIndex := decoder.txStream.byteIndex + 1 }
      context := decoder.context ++
        [.tx (.data decoder.interface byte decoder.txStream.byteIndex) .abort]
      state := .abort }
  have stoppedRecorded : Recorded registered answer stopped := ⟨recorded.callbacks, recorded.tx⟩
  have reported := stoppedRecorded.reportError .aborted
  unfold CommandDecoder.put
  rw [streaming]
  dsimp only
  rw [received]
  exact congrArg (fun next => (next, DecoderStatus.aborted)) reported

theorem put_abort {Ctx : Type} {decoder : CommandDecoder Ctx}
    (aborted : decoder.state = .abort) (byte : UInt8) : decoder.put byte = (decoder, .ok) := by
  unfold CommandDecoder.put
  rw [aborted]

/-- Everything a put can do, with the reason for it. -/
inductive PutStep (registered : CommandSlot → Bool) (answer : CommandAnswer)
    (decoder : CommandDecoder (List CommandCall)) (byte : UInt8) :
    CommandDecoder (List CommandCall) × DecoderStatus → Prop where
  | unknown (waiting : decoder.state = .wait)
      (length : rnodeProtoOpcodeLength (lowNibble byte) = -2) :
      PutStep registered answer decoder byte
        ({ decoder with
            interface := highNibble byte
            opcode := lowNibble byte
            payloadIndex := 0
            state := .abort
            context := decoder.context ++ emit (registered .error)
              (.error (highNibble byte) (lowNibble byte) 0 .unknownOpcode) }, .unknownOpcode)
  | streamHeader (waiting : decoder.state = .wait)
      (length : rnodeProtoOpcodeLength (lowNibble byte) = -1) :
      PutStep registered answer decoder byte
        ({ decoder with
            interface := highNibble byte
            opcode := lowNibble byte
            payloadIndex := 0
            state := .streamData
            txStream := { decoder.txStream with byteIndex := 0 }
            context := decoder.context ++ emit (registered (.tx .start))
              (.tx (.start (highNibble byte))
                (answer decoder.context (.start (highNibble byte)))) }, .ok)
  | fixedHeader (waiting : decoder.state = .wait)
      (known : rnodeProtoOpcodeLength (lowNibble byte) ≠ -2)
      (fixed : rnodeProtoOpcodeLength (lowNibble byte) ≠ -1) :
      PutStep registered answer decoder byte
        ({ decoder with
            interface := highNibble byte
            opcode := lowNibble byte
            payloadIndex := 0
            opcodeLength := UInt8.ofInt (rnodeProtoOpcodeLength (lowNibble byte))
            state := .readFixed }, .ok)
  | room (reading : decoder.state = .readFixed) (room : decoder.payloadIndex < 4) :
      PutStep registered answer decoder byte
        ({ decoder with
            smallbuf := decoder.smallbuf.store decoder.payloadIndex byte
            payloadIndex := decoder.payloadIndex + 1 }, .ok)
  | full (reading : decoder.state = .readFixed) (full : ¬ decoder.payloadIndex < 4) :
      PutStep registered answer decoder byte
        ({ decoder with
            state := .abort
            context := decoder.context ++ emit (registered .error)
              (.error decoder.interface decoder.opcode decoder.payloadIndex .invalidLength) },
          .invalidLength)
  | accepted (streaming : decoder.state = .streamData)
      (accepted : reply (registered (.tx .data)) (answer decoder.context
        (.data decoder.interface byte decoder.txStream.byteIndex)) = .ok) :
      PutStep registered answer decoder byte
        ({ decoder with
            txStream := { decoder.txStream with byteIndex := decoder.txStream.byteIndex + 1 }
            payloadIndex := decoder.payloadIndex + 1
            context := decoder.context ++ emit (registered (.tx .data))
              (.tx (.data decoder.interface byte decoder.txStream.byteIndex)
                (answer decoder.context
                  (.data decoder.interface byte decoder.txStream.byteIndex))) }, .ok)
  | refused (streaming : decoder.state = .streamData) (present : registered (.tx .data) = true)
      (refused : answer decoder.context
        (.data decoder.interface byte decoder.txStream.byteIndex) = .abort) :
      PutStep registered answer decoder byte
        ({ decoder with
            txStream := { decoder.txStream with byteIndex := decoder.txStream.byteIndex + 1 }
            state := .abort
            context := decoder.context ++
              [.tx (.data decoder.interface byte decoder.txStream.byteIndex) .abort] ++
              emit (registered .error)
                (.error decoder.interface decoder.opcode decoder.payloadIndex .aborted) },
          .aborted)
  | ignored (aborted : decoder.state = .abort) :
      PutStep registered answer decoder byte (decoder, .ok)

theorem Recorded.put_step (recorded : Recorded registered answer decoder) (byte : UInt8) :
    PutStep registered answer decoder byte (decoder.put byte) := by
  cases state : decoder.state with
  | wait =>
      by_cases unknown : rnodeProtoOpcodeLength (lowNibble byte) = -2
      · rw [recorded.put_unknown state byte unknown]
        exact .unknown state unknown
      · by_cases streamed : rnodeProtoOpcodeLength (lowNibble byte) = -1
        · rw [recorded.put_streamHeader state byte streamed]
          exact .streamHeader state streamed
        · rw [put_fixedHeader state byte unknown streamed]
          exact .fixedHeader state unknown streamed
  | readFixed =>
      by_cases room : decoder.payloadIndex < 4
      · rw [put_room state byte room]
        exact .room state room
      · rw [recorded.put_full state byte room]
        exact .full state room
  | streamData =>
      by_cases accepted : reply (registered (.tx .data)) (answer decoder.context
          (.data decoder.interface byte decoder.txStream.byteIndex)) = .ok
      · rw [recorded.put_accepted state byte accepted]
        exact .accepted state accepted
      · obtain ⟨present, refused⟩ := reply_ne_ok.mp accepted
        rw [recorded.put_refused state byte present refused]
        exact .refused state present refused
  | abort =>
      rw [put_abort state byte]
      exact .ignored state

/-! ### The end of a frame -/

theorem Recorded.end_command (recorded : Recorded registered answer decoder)
    (reading : decoder.state = .readFixed)
    (exact : decoder.payloadIndex = decoder.opcodeLength.toUInt32) {call : CommandCall}
    (dispatched : dispatchCall decoder.interface decoder.opcode
      (decoder.smallbuf.value decoder.opcodeLength) = .ok call) :
    decoder.endFrame =
      (CommandDecoder.start { decoder with
        context := decoder.context ++ emit (registered call.slot) call }, .ok) := by
  have fired := recorded.fixedLengthCommand
  rw [dispatched] at fired
  unfold CommandDecoder.endFrame
  rw [reading]
  dsimp only
  rw [if_pos exact, fired, reading]

theorem Recorded.end_rejected (recorded : Recorded registered answer decoder)
    (reading : decoder.state = .readFixed)
    (exact : decoder.payloadIndex = decoder.opcodeLength.toUInt32) {status : DecoderStatus}
    (dispatched : dispatchCall decoder.interface decoder.opcode
      (decoder.smallbuf.value decoder.opcodeLength) = .error status) :
    decoder.endFrame =
      (CommandDecoder.start { decoder with
        context := decoder.context ++ emit (registered .error)
          (.error decoder.interface decoder.opcode decoder.payloadIndex status) }, .ok) := by
  have fired := recorded.fixedLengthCommand
  rw [dispatched] at fired
  unfold CommandDecoder.endFrame
  rw [reading]
  dsimp only
  rw [if_pos exact, fired]
  dsimp only
  rw [recorded.reportError, reading]

theorem Recorded.end_short (recorded : Recorded registered answer decoder)
    (reading : decoder.state = .readFixed)
    (different : decoder.payloadIndex ≠ decoder.opcodeLength.toUInt32) :
    decoder.endFrame =
      (CommandDecoder.start { decoder with
        context := decoder.context ++ emit (registered .error)
          (.error decoder.interface decoder.opcode decoder.payloadIndex .invalidLength) },
        .invalidLength) := by
  unfold CommandDecoder.endFrame
  rw [reading]
  dsimp only
  rw [if_neg different, recorded.reportError, reading]

theorem Recorded.end_accepted (recorded : Recorded registered answer decoder)
    (streaming : decoder.state = .streamData)
    (accepted : reply (registered (.tx .endStream)) (answer decoder.context
      (.endStream decoder.interface decoder.txStream.byteIndex)) = .ok) :
    decoder.endFrame =
      (CommandDecoder.start { decoder with
        context := decoder.context ++ emit (registered (.tx .endStream))
          (.tx (.endStream decoder.interface decoder.txStream.byteIndex)
            (answer decoder.context
              (.endStream decoder.interface decoder.txStream.byteIndex))) }, .ok) := by
  have ended := Stream.endStream_recorded recorded.tx decoder.context decoder.interface
  unfold CommandDecoder.endFrame
  rw [streaming]
  dsimp only
  rw [ended]
  dsimp only
  rw [if_neg (not_not_intro accepted)]

theorem Recorded.end_refused (recorded : Recorded registered answer decoder)
    (streaming : decoder.state = .streamData) (present : registered (.tx .endStream) = true)
    (refused : answer decoder.context
      (.endStream decoder.interface decoder.txStream.byteIndex) = .abort) :
    decoder.endFrame =
      ({ decoder with
          state := .abort
          context := decoder.context ++
            [.tx (.endStream decoder.interface decoder.txStream.byteIndex) .abort] ++
            emit (registered .error)
              (.error decoder.interface decoder.opcode decoder.payloadIndex .aborted) },
        .aborted) := by
  have ended := Stream.endStream_recorded recorded.tx decoder.context decoder.interface
  rw [present, refused] at ended
  let stopped : CommandDecoder (List CommandCall) :=
    { decoder with
      context := decoder.context ++
        [.tx (.endStream decoder.interface decoder.txStream.byteIndex) .abort]
      state := .abort }
  have stoppedRecorded : Recorded registered answer stopped := ⟨recorded.callbacks, recorded.tx⟩
  have reported := stoppedRecorded.reportError .aborted
  unfold CommandDecoder.endFrame
  rw [streaming]
  dsimp only
  rw [ended]
  exact congrArg (fun next => (next, DecoderStatus.aborted)) reported

theorem end_idle {Ctx : Type} {decoder : CommandDecoder Ctx}
    (idle : decoder.state = .wait ∨ decoder.state = .abort) :
    decoder.endFrame = (decoder.start, .aborted) := by
  unfold CommandDecoder.endFrame
  rcases idle with waiting | aborted
  · rw [waiting]
  · rw [aborted]

/-- Everything an end can do, with the reason for it. -/
inductive EndStep (registered : CommandSlot → Bool) (answer : CommandAnswer)
    (decoder : CommandDecoder (List CommandCall)) :
    CommandDecoder (List CommandCall) × DecoderStatus → Prop where
  | command (reading : decoder.state = .readFixed)
      (complete : decoder.payloadIndex = decoder.opcodeLength.toUInt32) (call : CommandCall)
      (dispatched : dispatchCall decoder.interface decoder.opcode
        (decoder.smallbuf.value decoder.opcodeLength) = .ok call) :
      EndStep registered answer decoder
        (CommandDecoder.start { decoder with
          context := decoder.context ++ emit (registered call.slot) call }, .ok)
  | rejected (reading : decoder.state = .readFixed)
      (complete : decoder.payloadIndex = decoder.opcodeLength.toUInt32) (status : DecoderStatus)
      (dispatched : dispatchCall decoder.interface decoder.opcode
        (decoder.smallbuf.value decoder.opcodeLength) = .error status) :
      EndStep registered answer decoder
        (CommandDecoder.start { decoder with
          context := decoder.context ++ emit (registered .error)
            (.error decoder.interface decoder.opcode decoder.payloadIndex status) }, .ok)
  | short (reading : decoder.state = .readFixed)
      (different : decoder.payloadIndex ≠ decoder.opcodeLength.toUInt32) :
      EndStep registered answer decoder
        (CommandDecoder.start { decoder with
          context := decoder.context ++ emit (registered .error)
            (.error decoder.interface decoder.opcode decoder.payloadIndex .invalidLength) },
          .invalidLength)
  | accepted (streaming : decoder.state = .streamData)
      (accepted : reply (registered (.tx .endStream)) (answer decoder.context
        (.endStream decoder.interface decoder.txStream.byteIndex)) = .ok) :
      EndStep registered answer decoder
        (CommandDecoder.start { decoder with
          context := decoder.context ++ emit (registered (.tx .endStream))
            (.tx (.endStream decoder.interface decoder.txStream.byteIndex)
              (answer decoder.context
                (.endStream decoder.interface decoder.txStream.byteIndex))) }, .ok)
  | refused (streaming : decoder.state = .streamData)
      (present : registered (.tx .endStream) = true)
      (refused : answer decoder.context
        (.endStream decoder.interface decoder.txStream.byteIndex) = .abort) :
      EndStep registered answer decoder
        ({ decoder with
            state := .abort
            context := decoder.context ++
              [.tx (.endStream decoder.interface decoder.txStream.byteIndex) .abort] ++
              emit (registered .error)
                (.error decoder.interface decoder.opcode decoder.payloadIndex .aborted) },
          .aborted)
  | idle (idle : decoder.state = .wait ∨ decoder.state = .abort) :
      EndStep registered answer decoder (decoder.start, .aborted)

theorem Recorded.end_step (recorded : Recorded registered answer decoder) :
    EndStep registered answer decoder decoder.endFrame := by
  cases state : decoder.state with
  | wait =>
      rw [end_idle (.inl state)]
      exact .idle (.inl state)
  | readFixed =>
      by_cases complete : decoder.payloadIndex = decoder.opcodeLength.toUInt32
      · cases dispatched : dispatchCall decoder.interface decoder.opcode
            (decoder.smallbuf.value decoder.opcodeLength) with
        | ok call =>
            rw [recorded.end_command state complete dispatched]
            exact .command state complete call dispatched
        | error status =>
            rw [recorded.end_rejected state complete dispatched]
            exact .rejected state complete status dispatched
      · rw [recorded.end_short state complete]
        exact .short state complete
  | streamData =>
      by_cases accepted : reply (registered (.tx .endStream)) (answer decoder.context
          (.endStream decoder.interface decoder.txStream.byteIndex)) = .ok
      · rw [recorded.end_accepted state accepted]
        exact .accepted state accepted
      · obtain ⟨present, refused⟩ := reply_ne_ok.mp accepted
        rw [recorded.end_refused state present refused]
        exact .refused state present refused
  | abort =>
      rw [end_idle (.inr state)]
      exact .idle (.inr state)

end CommandDecoder

end RNodeProtocol
