/-
What each call of the event decoder does, with recording callbacks.

The stream record is shared by the two kinds of stream, so an invariant is
needed before its callbacks can be named: while the decoder is streaming, they
are those of the kind its opcode selects.
-/

import RNodeProtocol.EventDecoder
import RNodeProtocol.Transcript

namespace RNodeProtocol

open ByteNumerals FramedInput

inductive StreamKind where
  | statRx
  | statTx
  deriving Repr, DecidableEq

def StreamKind.nibble : StreamKind → UInt8
  | .statRx => 0x01
  | .statTx => 0x02

theorem StreamKind.nibble_injective {first second : StreamKind}
    (same : first.nibble = second.nibble) : first = second := by
  revert same
  cases first <;> cases second <;> decide

inductive EventSlot where
  | rssi
  | snr
  | blink
  | random
  | platform
  | mcu
  | fwVersion
  | stream (kind : StreamKind) (slot : StreamSlot)
  | error
  deriving Repr, DecidableEq

inductive EventCall where
  | rssi (interface : UInt8) (rssi : Int8)
  | snr (interface : UInt8) (snr : Int8)
  | blink
  | random (interface value : UInt8)
  | platform (interface id : UInt8)
  | mcu (interface id : UInt8)
  | fwVersion (interface : UInt8) (version : UInt16)
  | stream (kind : StreamKind) (call : StreamCall) (answer : StreamCbStatus)
  | error (interface opcode : UInt8) (index : UInt32) (status : DecoderStatus)
  deriving Repr, DecidableEq

def EventCall.slot : EventCall → EventSlot
  | .rssi _ _ => .rssi
  | .snr _ _ => .snr
  | .blink => .blink
  | .random _ _ => .random
  | .platform _ _ => .platform
  | .mcu _ _ => .mcu
  | .fwVersion _ _ => .fwVersion
  | .stream kind (.start _) _ => .stream kind .start
  | .stream kind (.data _ _ _) _ => .stream kind .data
  | .stream kind (.endStream _ _) _ => .stream kind .endStream
  | .error _ _ _ _ => .error

abbrev EventAnswer := List EventCall → StreamKind × StreamCall → StreamCbStatus

namespace EventDecoder

def recordingStream (registered : EventSlot → Bool) (answer : EventAnswer) (kind : StreamKind) :
    StreamCallbacks (List EventCall) :=
  recordStream (EventCall.stream kind) (fun log call => answer log (kind, call))
    (fun slot => registered (.stream kind slot))

def recordingCallbacks (registered : EventSlot → Bool) (answer : EventAnswer) :
    EventCallbacks (List EventCall) :=
  { rssiCb := pointer (registered .rssi) fun log interface rssi => log ++ [.rssi interface rssi]
    snrCb := pointer (registered .snr) fun log interface snr => log ++ [.snr interface snr]
    blinkCb := pointer (registered .blink) fun log => log ++ [.blink]
    randomCb := pointer (registered .random) fun log interface value =>
      log ++ [.random interface value]
    platformCb := pointer (registered .platform) fun log interface id =>
      log ++ [.platform interface id]
    mcuCb := pointer (registered .mcu) fun log interface id => log ++ [.mcu interface id]
    fwVersionCb := pointer (registered .fwVersion) fun log interface version =>
      log ++ [.fwVersion interface version]
    statRxStartCb := (recordingStream registered answer .statRx).startCb
    statRxDataCb := (recordingStream registered answer .statRx).dataCb
    statRxEndCb := (recordingStream registered answer .statRx).endCb
    statTxStartCb := (recordingStream registered answer .statTx).startCb
    statTxDataCb := (recordingStream registered answer .statTx).dataCb
    statTxEndCb := (recordingStream registered answer .statTx).endCb
    errorCb := pointer (registered .error) fun log interface opcode index status =>
      log ++ [.error interface opcode index status] }

/-- A decoder just initialised with recording callbacks, on whatever memory it was given. -/
def fresh (memory : EventDecoder (List EventCall)) (registered : EventSlot → Bool)
    (answer : EventAnswer) : EventDecoder (List EventCall) :=
  memory.init [] (recordingCallbacks registered answer)

/-- Where a run of operations takes a decoder just initialised. -/
def reached (memory : EventDecoder (List EventCall)) (registered : EventSlot → Bool)
    (answer : EventAnswer) (operations : List (Operation UInt8)) :
    EventDecoder (List EventCall) :=
  machine.run (fresh memory registered answer) operations

/-- The stream callbacks in use are those of the kind in the header. -/
def Selected (registered : EventSlot → Bool) (answer : EventAnswer)
    (decoder : EventDecoder (List EventCall)) (kind : StreamKind) : Prop :=
  decoder.opcode = kind.nibble ∧
    decoder.stream.toStreamCallbacks = recordingStream registered answer kind

structure Recorded (registered : EventSlot → Bool) (answer : EventAnswer)
    (decoder : EventDecoder (List EventCall)) : Prop where
  callbacks : decoder.toEventCallbacks = recordingCallbacks registered answer
  selected : decoder.state = .streamData → ∃ kind, Selected registered answer decoder kind

theorem fresh_recorded (memory : EventDecoder (List EventCall))
    (registered : EventSlot → Bool) (answer : EventAnswer) :
    Recorded registered answer (fresh memory registered answer) :=
  ⟨rfl, fun streaming => by cases streaming⟩

/-! ### Tables -/

/-- How the decoder's tables class an opcode nibble. -/
inductive OpcodeClass (opcode : UInt8) : Prop where
  | unknown (length : rnodeEventOpcodeLength opcode = -2)
  | streamed (kind : StreamKind) (nibble : opcode = kind.nibble)
      (length : rnodeEventOpcodeLength opcode = -1)
  | fixed (size : Nat) (short : size ≤ 1) (length : rnodeEventOpcodeLength opcode = size)

theorem opcodeClass {opcode : UInt8} (inRange : opcode.toNat < 16) : OpcodeClass opcode := by
  rcases nibble_cases inRange with
    rfl | rfl | rfl | rfl | rfl | rfl | rfl | rfl | rfl | rfl | rfl | rfl | rfl | rfl | rfl | rfl
  · exact .fixed 0 (by decide) rfl
  · exact .streamed .statRx rfl rfl
  · exact .streamed .statTx rfl rfl
  · exact .fixed 1 (by decide) rfl
  · exact .fixed 1 (by decide) rfl
  · exact .unknown rfl
  · exact .unknown rfl
  · exact .unknown rfl
  · exact .fixed 1 (by decide) rfl
  · exact .fixed 1 (by decide) rfl
  · exact .unknown rfl
  · exact .unknown rfl
  · exact .unknown rfl
  · exact .unknown rfl
  · exact .unknown rfl
  · exact .unknown rfl

variable {registered : EventSlot → Bool} {answer : EventAnswer}
  {decoder : EventDecoder (List EventCall)}

/-! ### Reports and dispatch -/

theorem Recorded.reportError (recorded : Recorded registered answer decoder)
    (status : DecoderStatus) :
    decoder.reportError status =
      { decoder with
        context := decoder.context ++ emit (registered .error)
          (.error decoder.interface decoder.opcode decoder.payloadIndex status) } := by
  have same := congrArg EventCallbacks.errorCb recorded.callbacks
  unfold EventDecoder.reportError notify
  congr 1
  exact invoke_recorded same rfl

/-- The call a fixed-length event makes. -/
def dispatchCall (interface opcode : UInt8) (value : UInt32) : Except DecoderStatus EventCall :=
  match opcode with
  | 0x03 => .ok (.rssi interface value.toUInt8.toInt8)
  | 0x04 => .ok (.snr interface value.toUInt8.toInt8)
  | 0x00 => .ok .blink
  | 0x08 => .ok (.platform interface value.toUInt8)
  | 0x09 => .ok (.mcu interface value.toUInt8)
  | _ => .error .unknownOpcode

/-- The calls of the fixed-length events, by opcode. -/
inductive Dispatched (interface : UInt8) (value : UInt32) : UInt8 → EventCall → Prop where
  | rssi : Dispatched interface value 0x03 (.rssi interface value.toUInt8.toInt8)
  | snr : Dispatched interface value 0x04 (.snr interface value.toUInt8.toInt8)
  | blink : Dispatched interface value 0x00 .blink
  | platform : Dispatched interface value 0x08 (.platform interface value.toUInt8)
  | mcu : Dispatched interface value 0x09 (.mcu interface value.toUInt8)

theorem dispatched_of_ok {interface opcode : UInt8} {value : UInt32} {call : EventCall}
    (dispatched : dispatchCall interface opcode value = .ok call) :
    Dispatched interface value opcode call := by
  unfold dispatchCall at dispatched
  split at dispatched
  all_goals cases dispatched
  all_goals constructor

private theorem accept_event {left right : List EventCall} (same : left = right) :
    (({ decoder with context := left } : EventDecoder (List EventCall)), DecoderStatus.ok) =
      ({ decoder with context := right }, .ok) := by
  rw [same]

theorem Recorded.dispatchEvent (recorded : Recorded registered answer decoder) {value : UInt32}
    {call : EventCall}
    (dispatched : dispatchCall decoder.interface decoder.opcode value = .ok call) :
    decoder.dispatchEvent value =
      ({ decoder with context := decoder.context ++ emit (registered call.slot) call }, .ok) := by
  have callbacks := recorded.callbacks
  unfold dispatchCall at dispatched
  unfold EventDecoder.dispatchEvent notify
  split
  · rename_i opcode
    rw [opcode] at dispatched
    cases Except.ok.inj dispatched
    exact accept_event (invoke_recorded (congrArg EventCallbacks.rssiCb callbacks) rfl)
  · rename_i opcode
    rw [opcode] at dispatched
    cases Except.ok.inj dispatched
    exact accept_event (invoke_recorded (congrArg EventCallbacks.snrCb callbacks) rfl)
  · rename_i opcode
    rw [opcode] at dispatched
    cases Except.ok.inj dispatched
    exact accept_event (invoke_recorded_self (congrArg EventCallbacks.blinkCb callbacks) rfl)
  · rename_i opcode
    rw [opcode] at dispatched
    cases Except.ok.inj dispatched
    exact accept_event (invoke_recorded (congrArg EventCallbacks.platformCb callbacks) rfl)
  · rename_i opcode
    rw [opcode] at dispatched
    cases Except.ok.inj dispatched
    exact accept_event (invoke_recorded (congrArg EventCallbacks.mcuCb callbacks) rfl)
  · split at dispatched
    all_goals contradiction

theorem dispatchEvent_unknown {Ctx : Type} {decoder : EventDecoder Ctx} {value : UInt32}
    {status : DecoderStatus}
    (dispatched : dispatchCall decoder.interface decoder.opcode value = .error status) :
    decoder.dispatchEvent value = (decoder, .unknownOpcode) := by
  unfold dispatchCall at dispatched
  unfold EventDecoder.dispatchEvent
  split
  all_goals
    first
    | rfl
    | rename_i opcode
      rw [opcode] at dispatched
      cases dispatched

theorem Recorded.fixedLengthEvent (recorded : Recorded registered answer decoder)
    {call : EventCall}
    (dispatched : dispatchCall decoder.interface decoder.opcode
      (decoder.smallbuf.value decoder.opcodeLength) = .ok call) :
    decoder.fixedLengthEvent =
      ({ decoder with context := decoder.context ++ emit (registered call.slot) call }, .ok) := by
  unfold EventDecoder.fixedLengthEvent
  rw [recorded.dispatchEvent dispatched]
  rfl

theorem Recorded.selectStreamCallbacks (recorded : Recorded registered answer decoder)
    (next : EventDecoder (List EventCall)) (same : next.toEventCallbacks = decoder.toEventCallbacks)
    {kind : StreamKind} (nibble : next.opcode = kind.nibble) :
    next.selectStreamCallbacks =
      { next with
        stream :=
          { toStreamCallbacks := recordingStream registered answer kind
            byteIndex := next.stream.byteIndex } } := by
  have callbacks := same.trans recorded.callbacks
  unfold EventDecoder.selectStreamCallbacks
  split
  · rename_i opcode
    have start := congrArg EventCallbacks.statRxStartCb callbacks
    have data := congrArg EventCallbacks.statRxDataCb callbacks
    have close := congrArg EventCallbacks.statRxEndCb callbacks
    cases kind with
    | statRx =>
        rw [start, data, close]
        rfl
    | statTx =>
        rw [nibble] at opcode
        exact absurd opcode (by decide)
  · rename_i opcode
    have start := congrArg EventCallbacks.statTxStartCb callbacks
    have data := congrArg EventCallbacks.statTxDataCb callbacks
    have close := congrArg EventCallbacks.statTxEndCb callbacks
    cases kind with
    | statRx =>
        rw [nibble] at opcode
        exact absurd opcode (by decide)
    | statTx =>
        rw [start, data, close]
        rfl
  · rename_i notRx notTx
    cases kind with
    | statRx => exact absurd nibble notRx
    | statTx => exact absurd nibble notTx

/-! ### One byte -/

theorem Recorded.put_unknown (recorded : Recorded registered answer decoder)
    (waiting : decoder.state = .wait) (byte : UInt8)
    (unknown : rnodeEventOpcodeLength (lowNibble byte) = -2) :
    decoder.put byte =
      ({ decoder with
          interface := highNibble byte
          opcode := lowNibble byte
          payloadIndex := 0
          state := .abort
          context := decoder.context ++ emit (registered .error)
            (.error (highNibble byte) (lowNibble byte) 0 .unknownOpcode) }, .unknownOpcode) := by
  let stopped : EventDecoder (List EventCall) :=
    { decoder with
      interface := highNibble byte
      opcode := lowNibble byte
      payloadIndex := 0
      state := .abort }
  have stoppedRecorded : Recorded registered answer stopped :=
    ⟨recorded.callbacks, fun streaming => by cases streaming⟩
  have reported := stoppedRecorded.reportError .unknownOpcode
  unfold lowNibble at unknown
  unfold EventDecoder.put
  rw [waiting]
  dsimp only
  rw [if_pos unknown]
  exact congrArg (fun next => (next, DecoderStatus.unknownOpcode)) reported

/-- A counter behind a callback that is not registered stays where it was. -/
theorem Recorded.put_streamHeader (recorded : Recorded registered answer decoder)
    (waiting : decoder.state = .wait) (byte : UInt8) {kind : StreamKind}
    (nibble : lowNibble byte = kind.nibble)
    (streamed : rnodeEventOpcodeLength (lowNibble byte) = -1) :
    decoder.put byte =
      ({ decoder with
          interface := highNibble byte
          opcode := lowNibble byte
          payloadIndex := 0
          opcodeLength := 0
          state := .streamData
          stream :=
            { toStreamCallbacks := recordingStream registered answer kind
              byteIndex := if registered (.stream kind .start) then 0
                else decoder.stream.byteIndex }
          context := decoder.context ++ emit (registered (.stream kind .start))
            (.stream kind (.start (highNibble byte))
              (answer decoder.context (kind, .start (highNibble byte)))) }, .ok) := by
  let headed : EventDecoder (List EventCall) :=
    { decoder with
      interface := highNibble byte
      opcode := lowNibble byte
      payloadIndex := 0
      opcodeLength := 0
      state := .streamData }
  have selected := recorded.selectStreamCallbacks headed rfl nibble
  have entered : decoder.put byte =
      if headed.selectStreamCallbacks.stream.startCb.isSome then
        ({ headed.selectStreamCallbacks with
            stream := (headed.selectStreamCallbacks.stream.start
              headed.selectStreamCallbacks.context headed.selectStreamCallbacks.interface).1
            context := (headed.selectStreamCallbacks.stream.start
              headed.selectStreamCallbacks.context
              headed.selectStreamCallbacks.interface).2.1 }, .ok)
      else (headed.selectStreamCallbacks, .ok) := by
    unfold lowNibble at streamed
    unfold EventDecoder.put
    rw [waiting]
    dsimp only
    rw [if_neg (by rw [streamed]; decide), if_pos streamed]
    rfl
  let chosen : Stream (List EventCall) :=
    { toStreamCallbacks := recordingStream registered answer kind
      byteIndex := decoder.stream.byteIndex }
  have same : chosen.toStreamCallbacks = recordingStream registered answer kind := rfl
  have started := Stream.start_recorded same decoder.context (highNibble byte)
  have present : chosen.startCb.isSome = registered (.stream kind .start) := pointer_isSome _ _
  rw [entered, selected]
  change (if chosen.startCb.isSome then
      ({ headed with
          stream := (chosen.start decoder.context (highNibble byte)).1
          context := (chosen.start decoder.context (highNibble byte)).2.1 }, DecoderStatus.ok)
    else ({ headed with stream := chosen }, .ok)) = _
  rw [present, started]
  cases registered (.stream kind .start) with
  | true => rfl
  | false =>
      rw [if_neg (by decide), if_neg (by decide), emit_false, List.append_nil]

theorem put_fixedHeader {Ctx : Type} {decoder : EventDecoder Ctx}
    (waiting : decoder.state = .wait) (byte : UInt8)
    (known : rnodeEventOpcodeLength (lowNibble byte) ≠ -2)
    (fixed : rnodeEventOpcodeLength (lowNibble byte) ≠ -1) :
    decoder.put byte =
      ({ decoder with
          interface := highNibble byte
          opcode := lowNibble byte
          payloadIndex := 0
          opcodeLength := UInt8.ofInt (rnodeEventOpcodeLength (lowNibble byte))
          state := .readFixed }, .ok) := by
  unfold lowNibble at known fixed
  unfold EventDecoder.put
  rw [waiting]
  dsimp only
  rw [if_neg known, if_neg fixed]
  rfl

theorem put_room {Ctx : Type} {decoder : EventDecoder Ctx}
    (reading : decoder.state = .readFixed) (byte : UInt8)
    (room : decoder.payloadIndex < decoder.opcodeLength.toUInt32) :
    decoder.put byte =
      ({ decoder with
          smallbuf := decoder.smallbuf.store decoder.payloadIndex byte
          payloadIndex := decoder.payloadIndex + 1 }, .ok) := by
  unfold EventDecoder.put
  rw [reading]
  dsimp only
  rw [if_pos room]

theorem Recorded.put_full (recorded : Recorded registered answer decoder)
    (reading : decoder.state = .readFixed) (byte : UInt8)
    (full : ¬ decoder.payloadIndex < decoder.opcodeLength.toUInt32) :
    decoder.put byte =
      ({ decoder with
          state := .abort
          context := decoder.context ++ emit (registered .error)
            (.error decoder.interface decoder.opcode decoder.payloadIndex .invalidLength) },
        .invalidLength) := by
  let stopped : EventDecoder (List EventCall) :=
    { decoder with state := .abort }
  have stoppedRecorded : Recorded registered answer stopped :=
    ⟨recorded.callbacks, fun streaming => by cases streaming⟩
  have reported := stoppedRecorded.reportError .invalidLength
  unfold EventDecoder.put
  rw [reading]
  dsimp only
  rw [if_neg full]
  exact congrArg (fun next => (next, DecoderStatus.invalidLength)) reported

theorem put_accepted (streaming : decoder.state = .streamData) {kind : StreamKind}
    (selected : decoder.stream.toStreamCallbacks = recordingStream registered answer kind)
    (byte : UInt8)
    (accepted : reply (registered (.stream kind .data)) (answer decoder.context
      (kind, .data decoder.interface byte decoder.stream.byteIndex)) = .ok) :
    decoder.put byte =
      ({ decoder with
          stream := { decoder.stream with
            byteIndex := if registered (.stream kind .data) then decoder.stream.byteIndex + 1
              else decoder.stream.byteIndex }
          payloadIndex := decoder.payloadIndex + 1
          context := decoder.context ++ emit (registered (.stream kind .data))
            (.stream kind (.data decoder.interface byte decoder.stream.byteIndex)
              (answer decoder.context
                (kind, .data decoder.interface byte decoder.stream.byteIndex))) }, .ok) := by
  have received := Stream.data_recorded selected decoder.context decoder.interface byte
  have present : decoder.stream.dataCb.isSome = registered (.stream kind .data) := by
    rw [congrArg StreamCallbacks.dataCb selected]
    exact pointer_isSome _ _
  unfold EventDecoder.put
  rw [streaming]
  dsimp only
  rw [present, received]
  dsimp only
  rw [if_neg (not_not_intro accepted)]
  cases registered (.stream kind .data) with
  | true => rfl
  | false => rw [if_neg (by decide), if_neg (by decide), emit_false, List.append_nil]

theorem Recorded.put_refused (recorded : Recorded registered answer decoder)
    (streaming : decoder.state = .streamData) {kind : StreamKind}
    (selected : decoder.stream.toStreamCallbacks = recordingStream registered answer kind)
    (byte : UInt8) (present : registered (.stream kind .data) = true)
    (refused : answer decoder.context
      (kind, .data decoder.interface byte decoder.stream.byteIndex) = .abort) :
    decoder.put byte =
      ({ decoder with
          stream := { decoder.stream with byteIndex := decoder.stream.byteIndex + 1 }
          state := .abort
          context := decoder.context ++
            [.stream kind (.data decoder.interface byte decoder.stream.byteIndex) .abort] ++
            emit (registered .error)
              (.error decoder.interface decoder.opcode decoder.payloadIndex .aborted) },
        .aborted) := by
  have received := Stream.data_recorded selected decoder.context decoder.interface byte
  rw [present, refused] at received
  have some : decoder.stream.dataCb.isSome = true := by
    rw [congrArg StreamCallbacks.dataCb selected, ← present]
    exact pointer_isSome _ _
  let stopped : EventDecoder (List EventCall) :=
    { decoder with
      stream := { decoder.stream with byteIndex := decoder.stream.byteIndex + 1 }
      context := decoder.context ++
        [.stream kind (.data decoder.interface byte decoder.stream.byteIndex) .abort]
      state := .abort }
  have stoppedRecorded : Recorded registered answer stopped :=
    ⟨recorded.callbacks, fun streaming => by cases streaming⟩
  have reported := stoppedRecorded.reportError .aborted
  unfold EventDecoder.put
  rw [streaming]
  dsimp only
  rw [if_pos some, received]
  exact congrArg (fun next => (next, DecoderStatus.aborted)) reported

theorem put_abort {Ctx : Type} {decoder : EventDecoder Ctx}
    (aborted : decoder.state = .abort) (byte : UInt8) :
    decoder.put byte = (decoder, .aborted) := by
  unfold EventDecoder.put
  rw [aborted]

/-- Everything a put can do, with the reason for it. -/
inductive PutStep (registered : EventSlot → Bool) (answer : EventAnswer)
    (decoder : EventDecoder (List EventCall)) (byte : UInt8) :
    EventDecoder (List EventCall) × DecoderStatus → Prop where
  | unknown (waiting : decoder.state = .wait)
      (length : rnodeEventOpcodeLength (lowNibble byte) = -2) :
      PutStep registered answer decoder byte
        ({ decoder with
            interface := highNibble byte
            opcode := lowNibble byte
            payloadIndex := 0
            state := .abort
            context := decoder.context ++ emit (registered .error)
              (.error (highNibble byte) (lowNibble byte) 0 .unknownOpcode) }, .unknownOpcode)
  | streamHeader (waiting : decoder.state = .wait) (kind : StreamKind)
      (nibble : lowNibble byte = kind.nibble)
      (length : rnodeEventOpcodeLength (lowNibble byte) = -1) :
      PutStep registered answer decoder byte
        ({ decoder with
            interface := highNibble byte
            opcode := lowNibble byte
            payloadIndex := 0
            opcodeLength := 0
            state := .streamData
            stream :=
              { toStreamCallbacks := recordingStream registered answer kind
                byteIndex := if registered (.stream kind .start) then 0
                  else decoder.stream.byteIndex }
            context := decoder.context ++ emit (registered (.stream kind .start))
              (.stream kind (.start (highNibble byte))
                (answer decoder.context (kind, .start (highNibble byte)))) }, .ok)
  | fixedHeader (waiting : decoder.state = .wait) (size : Nat) (short : size ≤ 1)
      (length : rnodeEventOpcodeLength (lowNibble byte) = size) :
      PutStep registered answer decoder byte
        ({ decoder with
            interface := highNibble byte
            opcode := lowNibble byte
            payloadIndex := 0
            opcodeLength := UInt8.ofInt (rnodeEventOpcodeLength (lowNibble byte))
            state := .readFixed }, .ok)
  | room (reading : decoder.state = .readFixed)
      (room : decoder.payloadIndex < decoder.opcodeLength.toUInt32) :
      PutStep registered answer decoder byte
        ({ decoder with
            smallbuf := decoder.smallbuf.store decoder.payloadIndex byte
            payloadIndex := decoder.payloadIndex + 1 }, .ok)
  | full (reading : decoder.state = .readFixed)
      (full : ¬ decoder.payloadIndex < decoder.opcodeLength.toUInt32) :
      PutStep registered answer decoder byte
        ({ decoder with
            state := .abort
            context := decoder.context ++ emit (registered .error)
              (.error decoder.interface decoder.opcode decoder.payloadIndex .invalidLength) },
          .invalidLength)
  | accepted (streaming : decoder.state = .streamData) (kind : StreamKind)
      (selected : Selected registered answer decoder kind)
      (accepted : reply (registered (.stream kind .data)) (answer decoder.context
        (kind, .data decoder.interface byte decoder.stream.byteIndex)) = .ok) :
      PutStep registered answer decoder byte
        ({ decoder with
            stream := { decoder.stream with
              byteIndex := if registered (.stream kind .data) then decoder.stream.byteIndex + 1
                else decoder.stream.byteIndex }
            payloadIndex := decoder.payloadIndex + 1
            context := decoder.context ++ emit (registered (.stream kind .data))
              (.stream kind (.data decoder.interface byte decoder.stream.byteIndex)
                (answer decoder.context
                  (kind, .data decoder.interface byte decoder.stream.byteIndex))) }, .ok)
  | refused (streaming : decoder.state = .streamData) (kind : StreamKind)
      (selected : Selected registered answer decoder kind)
      (present : registered (.stream kind .data) = true)
      (refused : answer decoder.context
        (kind, .data decoder.interface byte decoder.stream.byteIndex) = .abort) :
      PutStep registered answer decoder byte
        ({ decoder with
            stream := { decoder.stream with byteIndex := decoder.stream.byteIndex + 1 }
            state := .abort
            context := decoder.context ++
              [.stream kind (.data decoder.interface byte decoder.stream.byteIndex) .abort] ++
              emit (registered .error)
                (.error decoder.interface decoder.opcode decoder.payloadIndex .aborted) },
          .aborted)
  | ignored (aborted : decoder.state = .abort) :
      PutStep registered answer decoder byte (decoder, .aborted)

theorem Recorded.put_step (recorded : Recorded registered answer decoder) (byte : UInt8) :
    PutStep registered answer decoder byte (decoder.put byte) := by
  cases state : decoder.state with
  | wait =>
      cases opcodeClass (lowNibble_lt byte) with
      | unknown length =>
          rw [recorded.put_unknown state byte length]
          exact .unknown state length
      | streamed kind nibble length =>
          rw [recorded.put_streamHeader state byte nibble length]
          exact .streamHeader state kind nibble length
      | fixed size short length =>
          rw [put_fixedHeader state byte (by omega) (by omega)]
          exact .fixedHeader state size short length
  | readFixed =>
      by_cases room : decoder.payloadIndex < decoder.opcodeLength.toUInt32
      · rw [put_room state byte room]
        exact .room state room
      · rw [recorded.put_full state byte room]
        exact .full state room
  | streamData =>
      obtain ⟨kind, nibble, selected⟩ := recorded.selected state
      by_cases accepted : reply (registered (.stream kind .data)) (answer decoder.context
          (kind, .data decoder.interface byte decoder.stream.byteIndex)) = .ok
      · rw [put_accepted state selected byte accepted]
        exact .accepted state kind ⟨nibble, selected⟩ accepted
      · obtain ⟨present, refused⟩ := reply_ne_ok.mp accepted
        rw [recorded.put_refused state selected byte present refused]
        exact .refused state kind ⟨nibble, selected⟩ present refused
  | abort =>
      rw [put_abort state byte]
      exact .ignored state

/-! ### The end of a frame -/

theorem Recorded.end_event (recorded : Recorded registered answer decoder)
    (reading : decoder.state = .readFixed)
    (exact : decoder.payloadIndex = decoder.opcodeLength.toUInt32) {call : EventCall}
    (dispatched : dispatchCall decoder.interface decoder.opcode
      (decoder.smallbuf.value decoder.opcodeLength) = .ok call) :
    decoder.endFrame =
      (EventDecoder.start { decoder with
        context := decoder.context ++ emit (registered call.slot) call }, .ok) := by
  have fired := recorded.fixedLengthEvent dispatched
  unfold EventDecoder.endFrame
  rw [reading]
  dsimp only
  rw [if_pos exact, fired, reading]

theorem Recorded.end_unknown (recorded : Recorded registered answer decoder)
    (reading : decoder.state = .readFixed)
    (exact : decoder.payloadIndex = decoder.opcodeLength.toUInt32) {status : DecoderStatus}
    (dispatched : dispatchCall decoder.interface decoder.opcode
      (decoder.smallbuf.value decoder.opcodeLength) = .error status) :
    decoder.endFrame =
      (EventDecoder.start { decoder with
        context := decoder.context ++ emit (registered .error)
          (.error decoder.interface decoder.opcode decoder.payloadIndex .unknownOpcode) },
        .unknownOpcode) := by
  have fired : decoder.fixedLengthEvent =
      (decoder.reportError .unknownOpcode, .unknownOpcode) := by
    unfold EventDecoder.fixedLengthEvent
    rw [dispatchEvent_unknown dispatched]
    rfl
  unfold EventDecoder.endFrame
  rw [reading]
  dsimp only
  rw [if_pos exact, fired]
  dsimp only
  rw [recorded.reportError, reading]

theorem Recorded.end_short (recorded : Recorded registered answer decoder)
    (reading : decoder.state = .readFixed)
    (different : decoder.payloadIndex ≠ decoder.opcodeLength.toUInt32) :
    decoder.endFrame =
      (EventDecoder.start { decoder with
        context := decoder.context ++ emit (registered .error)
          (.error decoder.interface decoder.opcode decoder.payloadIndex .invalidLength) },
        .invalidLength) := by
  unfold EventDecoder.endFrame
  rw [reading]
  dsimp only
  rw [if_neg different, recorded.reportError, reading]

theorem end_accepted (streaming : decoder.state = .streamData) {kind : StreamKind}
    (selected : decoder.stream.toStreamCallbacks = recordingStream registered answer kind)
    (accepted : reply (registered (.stream kind .endStream)) (answer decoder.context
      (kind, .endStream decoder.interface decoder.stream.byteIndex)) = .ok) :
    decoder.endFrame =
      (EventDecoder.start { decoder with
        context := decoder.context ++ emit (registered (.stream kind .endStream))
          (.stream kind (.endStream decoder.interface decoder.stream.byteIndex)
            (answer decoder.context
              (kind, .endStream decoder.interface decoder.stream.byteIndex))) }, .ok) := by
  have ended := Stream.endStream_recorded selected decoder.context decoder.interface
  have present : decoder.stream.endCb.isSome = registered (.stream kind .endStream) := by
    rw [congrArg StreamCallbacks.endCb selected]
    exact pointer_isSome _ _
  unfold EventDecoder.endFrame
  rw [streaming]
  dsimp only
  rw [present, ended]
  dsimp only
  rw [if_neg (not_not_intro accepted)]
  cases registered (.stream kind .endStream) with
  | true => rfl
  | false =>
      rw [if_neg (by decide), emit_false, List.append_nil]
      rfl

theorem Recorded.end_refused (recorded : Recorded registered answer decoder)
    (streaming : decoder.state = .streamData) {kind : StreamKind}
    (selected : decoder.stream.toStreamCallbacks = recordingStream registered answer kind)
    (present : registered (.stream kind .endStream) = true)
    (refused : answer decoder.context
      (kind, .endStream decoder.interface decoder.stream.byteIndex) = .abort) :
    decoder.endFrame =
      ({ decoder with
          state := .abort
          context := decoder.context ++
            [.stream kind (.endStream decoder.interface decoder.stream.byteIndex) .abort] ++
            emit (registered .error)
              (.error decoder.interface decoder.opcode decoder.payloadIndex .aborted) },
        .aborted) := by
  have ended := Stream.endStream_recorded selected decoder.context decoder.interface
  rw [present, refused] at ended
  have some : decoder.stream.endCb.isSome = true := by
    rw [congrArg StreamCallbacks.endCb selected, ← present]
    exact pointer_isSome _ _
  let stopped : EventDecoder (List EventCall) :=
    { decoder with
      context := decoder.context ++
        [.stream kind (.endStream decoder.interface decoder.stream.byteIndex) .abort]
      state := .abort }
  have stoppedRecorded : Recorded registered answer stopped :=
    ⟨recorded.callbacks, fun streaming => by cases streaming⟩
  have reported := stoppedRecorded.reportError .aborted
  unfold EventDecoder.endFrame
  rw [streaming]
  dsimp only
  rw [if_pos some, ended]
  exact congrArg (fun next => (next, DecoderStatus.aborted)) reported

theorem end_idle {Ctx : Type} {decoder : EventDecoder Ctx}
    (idle : decoder.state = .wait ∨ decoder.state = .abort) :
    decoder.endFrame = (decoder.start, .aborted) := by
  unfold EventDecoder.endFrame
  rcases idle with waiting | aborted
  · rw [waiting]
  · rw [aborted]

/-- Everything an end can do, with the reason for it. -/
inductive EndStep (registered : EventSlot → Bool) (answer : EventAnswer)
    (decoder : EventDecoder (List EventCall)) :
    EventDecoder (List EventCall) × DecoderStatus → Prop where
  | event (reading : decoder.state = .readFixed)
      (complete : decoder.payloadIndex = decoder.opcodeLength.toUInt32) (call : EventCall)
      (dispatched : dispatchCall decoder.interface decoder.opcode
        (decoder.smallbuf.value decoder.opcodeLength) = .ok call) :
      EndStep registered answer decoder
        (EventDecoder.start { decoder with
          context := decoder.context ++ emit (registered call.slot) call }, .ok)
  | unknown (reading : decoder.state = .readFixed)
      (complete : decoder.payloadIndex = decoder.opcodeLength.toUInt32) (status : DecoderStatus)
      (dispatched : dispatchCall decoder.interface decoder.opcode
        (decoder.smallbuf.value decoder.opcodeLength) = .error status) :
      EndStep registered answer decoder
        (EventDecoder.start { decoder with
          context := decoder.context ++ emit (registered .error)
            (.error decoder.interface decoder.opcode decoder.payloadIndex .unknownOpcode) },
          .unknownOpcode)
  | short (reading : decoder.state = .readFixed)
      (different : decoder.payloadIndex ≠ decoder.opcodeLength.toUInt32) :
      EndStep registered answer decoder
        (EventDecoder.start { decoder with
          context := decoder.context ++ emit (registered .error)
            (.error decoder.interface decoder.opcode decoder.payloadIndex .invalidLength) },
          .invalidLength)
  | accepted (streaming : decoder.state = .streamData) (kind : StreamKind)
      (selected : Selected registered answer decoder kind)
      (accepted : reply (registered (.stream kind .endStream)) (answer decoder.context
        (kind, .endStream decoder.interface decoder.stream.byteIndex)) = .ok) :
      EndStep registered answer decoder
        (EventDecoder.start { decoder with
          context := decoder.context ++ emit (registered (.stream kind .endStream))
            (.stream kind (.endStream decoder.interface decoder.stream.byteIndex)
              (answer decoder.context
                (kind, .endStream decoder.interface decoder.stream.byteIndex))) }, .ok)
  | refused (streaming : decoder.state = .streamData) (kind : StreamKind)
      (selected : Selected registered answer decoder kind)
      (present : registered (.stream kind .endStream) = true)
      (refused : answer decoder.context
        (kind, .endStream decoder.interface decoder.stream.byteIndex) = .abort) :
      EndStep registered answer decoder
        ({ decoder with
            state := .abort
            context := decoder.context ++
              [.stream kind (.endStream decoder.interface decoder.stream.byteIndex) .abort] ++
              emit (registered .error)
                (.error decoder.interface decoder.opcode decoder.payloadIndex .aborted) },
          .aborted)
  | idle (idle : decoder.state = .wait ∨ decoder.state = .abort) :
      EndStep registered answer decoder (decoder.start, .aborted)

theorem Recorded.end_step (recorded : Recorded registered answer decoder) :
    EndStep registered answer decoder decoder.endFrame := by
  cases state : decoder.state with
  | wait =>
      rw [end_idle (.inl state)]
      exact .idle (.inl state)
  | readFixed =>
      by_cases complete : decoder.payloadIndex = decoder.opcodeLength.toUInt32
      · cases dispatched : dispatchCall decoder.interface decoder.opcode
            (decoder.smallbuf.value decoder.opcodeLength) with
        | ok call =>
            rw [recorded.end_event state complete dispatched]
            exact .event state complete call dispatched
        | error status =>
            rw [recorded.end_unknown state complete dispatched]
            exact .unknown state complete status dispatched
      · rw [recorded.end_short state complete]
        exact .short state complete
  | streamData =>
      obtain ⟨kind, nibble, selected⟩ := recorded.selected state
      by_cases accepted : reply (registered (.stream kind .endStream)) (answer decoder.context
          (kind, .endStream decoder.interface decoder.stream.byteIndex)) = .ok
      · rw [end_accepted state selected accepted]
        exact .accepted state kind ⟨nibble, selected⟩ accepted
      · obtain ⟨present, refused⟩ := reply_ne_ok.mp accepted
        rw [recorded.end_refused state selected present refused]
        exact .refused state kind ⟨nibble, selected⟩ present refused
  | abort =>
      rw [end_idle (.inr state)]
      exact .idle (.inr state)

/-! ### The selected callbacks stay selected -/

theorem Recorded.put (recorded : Recorded registered answer decoder) (byte : UInt8) :
    Recorded registered answer (decoder.put byte).1 := by
  have step := recorded.put_step byte
  generalize decoder.put byte = result at step ⊢
  cases step with
  | unknown _ _ => exact ⟨recorded.callbacks, fun streaming => by cases streaming⟩
  | streamHeader _ kind nibble _ => exact ⟨recorded.callbacks, fun _ => ⟨kind, nibble, rfl⟩⟩
  | fixedHeader _ _ _ _ => exact ⟨recorded.callbacks, fun streaming => by cases streaming⟩
  | room _ _ => exact ⟨recorded.callbacks, recorded.selected⟩
  | full _ _ => exact ⟨recorded.callbacks, fun streaming => by cases streaming⟩
  | accepted _ kind selected _ => exact ⟨recorded.callbacks, fun _ => ⟨kind, selected⟩⟩
  | refused _ _ _ _ _ => exact ⟨recorded.callbacks, fun streaming => by cases streaming⟩
  | ignored _ => exact recorded

theorem Recorded.start (recorded : Recorded registered answer decoder) :
    Recorded registered answer decoder.start :=
  ⟨recorded.callbacks, fun streaming => by cases streaming⟩

theorem fixedLengthEvent_callbacks {Ctx : Type} (decoder : EventDecoder Ctx) :
    decoder.fixedLengthEvent.1.toEventCallbacks = decoder.toEventCallbacks := by
  unfold EventDecoder.fixedLengthEvent EventDecoder.dispatchEvent
  repeat' split
  all_goals rfl

theorem Recorded.endFrame (recorded : Recorded registered answer decoder) :
    Recorded registered answer decoder.endFrame.1 := by
  unfold EventDecoder.endFrame
  cases decoder.state with
  | wait => exact recorded.start
  | readFixed =>
      dsimp only
      split
      · exact ⟨decoder.fixedLengthEvent_callbacks.trans recorded.callbacks,
          fun streaming => by cases streaming⟩
      · exact ⟨recorded.callbacks, fun streaming => by cases streaming⟩
  | streamData =>
      dsimp only
      repeat' split
      all_goals exact ⟨recorded.callbacks, fun streaming => by cases streaming⟩
  | abort => exact recorded.start

theorem recorded_preserved : machine.Preserves (Recorded registered answer) where
  start := fun _ recorded => recorded.start
  put := fun _ byte recorded => recorded.put byte
  endFrame := fun _ recorded => recorded.endFrame

theorem reached_recorded (memory : EventDecoder (List EventCall))
    (registered : EventSlot → Bool) (answer : EventAnswer)
    (operations : List (Operation UInt8)) :
    Recorded registered answer (reached memory registered answer operations) :=
  recorded_preserved.run _ operations (fresh_recorded memory registered answer)

end EventDecoder

end RNodeProtocol
