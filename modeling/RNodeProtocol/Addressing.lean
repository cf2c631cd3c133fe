/-
The interface a command is sent to and the interface it arrives under.

The header gives an interface four bits, while every encoder operation takes a
byte and checks no argument.  An operation on an idle encoder is therefore
always accepted, and the decoder reports the low nibble of the interface: the
one asked for exactly where it is a documented identifier.
-/

import RNodeProtocol.Reencoding
import RNodeProtocol.StreamedSends

namespace RNodeProtocol

open ByteNumerals FramedInput

/-! ### Operations that take an interface -/

/-- An operation of the command encoder with all its arguments but the interface. -/
inductive AddressedRequest where
  | setFrequency (hz : UInt32)
  | setBandwidth (bandwidth : UInt32)
  | setTxpower (dbm : Int8)
  | setSpreadingFactor (sf : UInt8)
  | setCodingRate (cr : UInt8)
  | setRadioState (state : RadioState)
  | setRadioLock (lockState : UInt8)
  | stream (payload : List UInt8)
  deriving Repr, DecidableEq

/-- The bytes put into a frame, in order. -/
def sentBytes (calls : List FrameCall) : List UInt8 :=
  calls.filterMap fun call =>
    match call.request with
    | .put byte => some byte
    | _ => none

theorem sentBytes_frameCalls (bytes : List UInt8) : sentBytes (frameCalls bytes) = bytes := by
  have puts : sentBytes (bytes.map fun byte => { request := .put byte, answer := .ok }) =
      bytes := by
    unfold sentBytes
    rw [List.filterMap_map]
    exact List.filterMap_some
  unfold frameCalls
  unfold sentBytes at puts ⊢
  rw [List.cons_append, List.filterMap_cons, List.filterMap_append, puts]
  exact List.append_nil bytes

namespace AddressedRequest

variable {Ctx : Type}

def perform (request : AddressedRequest) (encoder : CommandEncoder Ctx) (interface : UInt8) :
    CommandEncoder Ctx × EncoderStatus :=
  match request with
  | .setFrequency hz => encoder.setFrequency interface hz
  | .setBandwidth bandwidth => encoder.setBandwidth interface bandwidth
  | .setTxpower dbm => encoder.setTxpower interface dbm
  | .setSpreadingFactor sf => encoder.setSpreadingFactor interface sf
  | .setCodingRate cr => encoder.setCodingRate interface cr
  | .setRadioState state => encoder.setRadioState interface state
  | .setRadioLock lockState => encoder.setRadioLock interface lockState
  | .stream payload => Encoder.performAll encoder (EncoderRequest.streamed interface payload)

def opcode : AddressedRequest → RnodeOpcode
  | .setFrequency _ => .frequency
  | .setBandwidth _ => .bandwidth
  | .setTxpower _ => .txpower
  | .setSpreadingFactor _ => .sf
  | .setCodingRate _ => .cr
  | .setRadioState _ => .radioState
  | .setRadioLock _ => .radioLock
  | .stream _ => .data

def payload : AddressedRequest → List UInt8
  | .setFrequency hz => wordBytes hz
  | .setBandwidth bandwidth => wordBytes bandwidth
  | .setTxpower dbm => [dbm.toUInt8]
  | .setSpreadingFactor sf => [sf]
  | .setCodingRate cr => [cr]
  | .setRadioState state => [state.value]
  | .setRadioLock lockState => [lockState]
  | .stream payload => payload

def frame (request : AddressedRequest) (interface : UInt8) : List UInt8 :=
  packNibbles interface request.opcode.value :: request.payload

/-- What a decoder's callbacks are told of the payload of a stream from some index on: every byte
with its index and, at the end of the frame, the length.  The first call that answers with an
abort is followed by its error and by nothing else. -/
inductive StreamReported (interface : UInt8) :
    Nat → List UInt8 → List CommandCall → Prop where
  | ended {index : Nat} :
      StreamReported interface index []
        [.tx (.endStream interface (UInt32.ofNat index)) .ok]
  | endRefused {index : Nat} :
      StreamReported interface index []
        [.tx (.endStream interface (UInt32.ofNat index)) .abort,
          .error interface RnodeOpcode.data.value (UInt32.ofNat index) .aborted]
  | received {index : Nat} {byte : UInt8} {payload : List UInt8} {calls : List CommandCall}
      (later : StreamReported interface (index + 1) payload calls) :
      StreamReported interface index (byte :: payload)
        (.tx (.data interface byte (UInt32.ofNat index)) .ok :: calls)
  | refused {index : Nat} {byte : UInt8} {payload : List UInt8} :
      StreamReported interface index (byte :: payload)
        [.tx (.data interface byte (UInt32.ofNat index)) .abort,
          .error interface RnodeOpcode.data.value (UInt32.ofNat index) .aborted]

/-- The callbacks of a decoder were told of the request with its arguments under this
interface. -/
def ReportedUnder (interface : UInt8) (calls : List CommandCall) : AddressedRequest → Prop
  | .setFrequency hz => calls = [.setFrequency interface hz]
  | .setBandwidth bandwidth => calls = [.setBandwidth interface bandwidth]
  | .setTxpower dbm => calls = [.setTxpower interface dbm]
  | .setSpreadingFactor sf => calls = [.setSpreadingFactor interface sf]
  | .setCodingRate cr => calls = [.setCodingRate interface cr]
  | .setRadioState state => calls = [.setRadioState interface state]
  | .setRadioLock lockState => calls = [.lock interface lockState]
  | .stream payload =>
      ∃ answered later, calls = .tx (.start interface) answered :: later ∧
        StreamReported interface 0 payload later

theorem ReportedUnder.unique {request : AddressedRequest} {first second : UInt8}
    {calls : List CommandCall} (one : request.ReportedUnder first calls)
    (other : request.ReportedUnder second calls) : first = second := by
  cases request with
  | stream payload =>
      obtain ⟨_, _, opened, _⟩ := one
      obtain ⟨_, _, reopened, _⟩ := other
      have same := opened.symm.trans reopened
      injection same with same
      injection same with same
      injection same
  | _ =>
      have same := one.symm.trans other
      injection same with same
      injection same

/-! ### What is sent -/

theorem perform_delivers {encoder : CommandEncoder Ctx} (accepts : encoder.frame.Accepts)
    (idle : encoder.state = .idle) (request : AddressedRequest) (interface : UInt8) :
    (request.perform encoder interface).2 = .ok ∧
      (request.perform encoder interface).1.context =
        encoder.frame.deliver encoder.context (request.frame interface) := by
  have returned := Encoder.sendCommandAndBytes_accepted accepts idle interface request.opcode
    request.payload
  have sent := (Encoder.sendCommandAndBytes_ok returned).2
  have delivered := congrArg Encoder.context sent
  cases request with
  | stream payload =>
      have streamed := EncoderRequest.streamed_sameWire idle interface payload
      have alike := EncoderRequest.send_sameWire idle interface payload
      constructor
      · exact streamed.status.trans (alike.status.symm.trans returned)
      · exact streamed.context.trans (alike.context.symm.trans delivered)
  | _ => exact ⟨returned, delivered⟩

/-- The bytes a request adds to what its encoder put before. -/
def emitted (request : AddressedRequest) (encoder : CommandEncoder (List FrameCall))
    (interface : UInt8) : List UInt8 :=
  sentBytes ((request.perform encoder interface).1.context.drop encoder.context.length)

theorem emitted_frame {encoder : CommandEncoder (List FrameCall)}
    (recording : encoder.frame.Recording fun _ _ => .ok) (idle : encoder.state = .idle)
    (request : AddressedRequest) (interface : UInt8) :
    (request.perform encoder interface).2 = .ok ∧
      request.emitted encoder interface = request.frame interface := by
  obtain ⟨returned, delivered⟩ :=
    request.perform_delivers recording.accepts idle interface
  refine ⟨returned, ?_⟩
  unfold emitted
  rw [delivered, recording.deliver_accepting, List.drop_left, sentBytes_frameCalls]

end AddressedRequest

/-! ### What is heard -/

namespace CommandDecoder

open AddressedRequest (StreamReported)

variable {answer : CommandAnswer} {decoder : CommandDecoder (List CommandCall)}

/-- A stream is read under this interface and as many bytes of it were accepted. -/
structure Streaming (interface : UInt8) (index : Nat)
    (decoder : CommandDecoder (List CommandCall)) : Prop where
  reading : decoder.state = .streamData
  interface : decoder.interface = interface
  opcode : decoder.opcode = RnodeOpcode.data.value
  byteIndex : decoder.txStream.byteIndex = UInt32.ofNat index
  payloadIndex : decoder.payloadIndex = UInt32.ofNat index

/-- Nothing is told of what follows a refused byte. -/
theorem rest_untold {decoder : CommandDecoder (List CommandCall)} (aborted : decoder.state = .abort)
    (bytes : List UInt8) :
    (machine.putAll decoder bytes).endFrame.1.context = decoder.context := by
  induction bytes with
  | nil =>
      change decoder.endFrame.1.context = _
      rw [end_idle (.inr aborted)]
      rfl
  | cons byte rest ih =>
      rw [CommandDecoder.putAll_cons, put_abort aborted byte]
      exact ih

theorem Recorded.end_told (recorded : Recorded (fun _ => true) answer decoder)
    {interface : UInt8} {index : Nat} (streaming : Streaming interface index decoder) :
    ∃ calls, decoder.endFrame.1.context = decoder.context ++ calls ∧
      StreamReported interface index [] calls := by
  obtain ⟨reading, rfl, opcode, byteIndex, payloadIndex⟩ := streaming
  cases answered : answer decoder.context
      (.endStream decoder.interface decoder.txStream.byteIndex) with
  | ok =>
      rw [recorded.end_accepted reading answered, answered, byteIndex]
      exact ⟨_, rfl, .ended⟩
  | abort =>
      rw [recorded.end_refused reading rfl answered, opcode, byteIndex, payloadIndex]
      exact ⟨_, List.append_assoc _ _ _, .endRefused⟩

/-- The payload of a stream is told byte by byte, up to the first abort. -/
theorem Recorded.payload_told (recorded : Recorded (fun _ => true) answer decoder)
    {interface : UInt8} {index : Nat} (streaming : Streaming interface index decoder)
    (payload : List UInt8) :
    ∃ calls, (machine.putAll decoder payload).endFrame.1.context = decoder.context ++ calls ∧
      StreamReported interface index payload calls := by
  induction payload generalizing decoder index with
  | nil => exact recorded.end_told streaming
  | cons byte rest ih =>
      obtain ⟨reading, rfl, opcode, byteIndex, payloadIndex⟩ := streaming
      rw [CommandDecoder.putAll_cons]
      cases answered : answer decoder.context
          (.data decoder.interface byte decoder.txStream.byteIndex) with
      | ok =>
          have received := recorded.put_accepted reading byte answered
          have next : Streaming decoder.interface (index + 1) (decoder.put byte).1 := by
            rw [received]
            exact ⟨reading, rfl, opcode, by rw [byteIndex, counter_succ],
              by rw [payloadIndex, counter_succ]⟩
          obtain ⟨calls, told, reported⟩ := ih (recorded.put byte) next
          refine ⟨_, told.trans ?_, .received reported⟩
          rw [received, answered, byteIndex]
          exact List.append_assoc _ _ _
      | abort =>
          have refused := recorded.put_refused reading byte rfl answered
          rw [rest_untold (congrArg (fun result => result.1.state) refused) rest, refused, opcode,
            byteIndex, payloadIndex]
          exact ⟨_, List.append_assoc _ _ _, .refused⟩

/-- A stream is heard under the interface of its header, whatever the callbacks answer. -/
theorem Recorded.heard_stream (recorded : Recorded (fun _ => true) answer decoder)
    (header : UInt8) (payload : List UInt8)
    (streamed : lowNibble header = RnodeOpcode.data.value) :
    ∃ answered later,
      decoder.heard (header :: payload) = .tx (.start (highNibble header)) answered :: later ∧
        StreamReported (highNibble header) 0 payload later := by
  have opened := recorded.start.put_streamHeader rfl header (by rw [streamed]; rfl)
  have streaming : Streaming (highNibble header) 0 (decoder.start.put header).1 := by
    rw [opened]
    exact ⟨rfl, rfl, streamed, rfl, rfl⟩
  obtain ⟨later, told, reported⟩ := (recorded.start.put header).payload_told streaming payload
  rw [← CommandDecoder.putAll_cons, opened] at told
  exact ⟨_, later, heard_of_context (told.trans (List.append_assoc _ _ _)), reported⟩

/-- A fixed-length command is heard as one call. -/
theorem Recorded.heard_fixed (recorded : Recorded (fun _ => true) answer decoder)
    {header : UInt8} {payload : List UInt8} (short : payload.length ≤ 4)
    (length : rnodeProtoOpcodeLength (lowNibble header) = payload.length) {call : CommandCall}
    (dispatched : dispatchCall (highNibble header) (lowNibble header)
      (UInt32.ofNat (bigEndian payload)) = .ok call) :
    decoder.heard (header :: payload) = [call] := by
  have told := recorded.start.frame_fixed rfl header payload short length
  rw [dispatched] at told
  exact heard_of_context told

end CommandDecoder

namespace AddressedRequest

theorem payload_word (word : UInt32) : UInt32.ofNat (bigEndian (wordBytes word)) = word := by
  rw [bigEndian_wordBytes]
  exact UInt32.ofNat_toNat

theorem payload_byte (byte : UInt8) : (UInt32.ofNat (bigEndian [byte])).toUInt8 = byte := by
  rw [bigEndian_singleton, UInt32.toUInt8_ofNat']
  exact UInt8.ofNat_toNat

theorem opcode_low (request : AddressedRequest) :
    lowNibble request.opcode.value = request.opcode.value := by
  cases request <;> dsimp only [opcode] <;> decide

/-- The length table has the payload of every request that is not streamed. -/
theorem payload_length {request : AddressedRequest} (fixed : request.opcode ≠ .data) :
    request.payload.length ≤ 4 ∧
      CommandDecoder.rnodeProtoOpcodeLength request.opcode.value = request.payload.length := by
  cases request with
  | stream payload => exact absurd rfl fixed
  | _ => exact ⟨Nat.le_of_ble_eq_true rfl, rfl⟩

/-- A recorded decoder is told of the frame of a request under the low nibble of its
interface. -/
theorem heard_frame {answer : CommandAnswer} {decoder : CommandDecoder (List CommandCall)}
    (recorded : CommandDecoder.Recorded (fun _ => true) answer decoder)
    (request : AddressedRequest) (interface : UInt8) :
    request.ReportedUnder (lowNibble interface) (decoder.heard (request.frame interface)) := by
  have high := highNibble_packNibbles_lowNibble interface request.opcode.value
  have low := (lowNibble_packNibbles interface request.opcode.value).trans request.opcode_low
  have single : ∀ call, request.opcode ≠ .data →
      CommandDecoder.dispatchCall (lowNibble interface) request.opcode.value
        (UInt32.ofNat (bigEndian request.payload)) = .ok call →
      decoder.heard (request.frame interface) = [call] := by
    intro call fixed dispatched
    obtain ⟨short, length⟩ := payload_length fixed
    refine recorded.heard_fixed short ?_ ?_
    · rw [low, length]
    · rw [high, low, dispatched]
  cases request with
  | setFrequency hz =>
      apply single _ nofun
      change CommandDecoder.dispatchCall _ _ (UInt32.ofNat (bigEndian (wordBytes hz))) = _
      rw [payload_word]
      rfl
  | setBandwidth bandwidth =>
      apply single _ nofun
      change CommandDecoder.dispatchCall _ _ (UInt32.ofNat (bigEndian (wordBytes bandwidth))) = _
      rw [payload_word]
      rfl
  | setTxpower dbm =>
      apply single _ nofun
      change Except.ok (CommandCall.setTxpower _
        (UInt32.ofNat (bigEndian [dbm.toUInt8])).toUInt8.toInt8) = _
      rw [payload_byte, Int8.toInt8_toUInt8]
  | setSpreadingFactor sf =>
      apply single _ nofun
      change Except.ok (CommandCall.setSpreadingFactor _
        (UInt32.ofNat (bigEndian [sf])).toUInt8) = _
      rw [payload_byte]
  | setCodingRate cr =>
      apply single _ nofun
      change Except.ok (CommandCall.setCodingRate _ (UInt32.ofNat (bigEndian [cr])).toUInt8) = _
      rw [payload_byte]
  | setRadioState state =>
      apply single _ nofun
      cases state <;> rfl
  | setRadioLock lockState =>
      apply single _ nofun
      change Except.ok (CommandCall.lock _ (UInt32.ofNat (bigEndian [lockState])).toUInt8) = _
      rw [payload_byte]
  | stream payload =>
      have told := recorded.heard_stream (packNibbles interface RnodeOpcode.data.value) payload
        low
      rw [highNibble_packNibbles_lowNibble] at told
      exact told

/-- A request is refused before any byte is put, or the decoder is told of it under the interface
asked for. -/
def KeepsAddress (request : AddressedRequest) (encoder : CommandEncoder (List FrameCall))
    (decoder : CommandDecoder (List CommandCall)) (interface : UInt8) : Prop :=
  (request.perform encoder interface).2 ≠ .ok ∧ request.emitted encoder interface = [] ∨
    request.ReportedUnder interface (decoder.heard (request.emitted encoder interface))

/-- What is accepted and told under the low nibble keeps an address of four bits and no other. -/
theorem keepsAddress_iff {request : AddressedRequest}
    {encoder : CommandEncoder (List FrameCall)} {decoder : CommandDecoder (List CommandCall)}
    {interface : UInt8} (returned : (request.perform encoder interface).2 = .ok)
    (told : request.ReportedUnder (lowNibble interface)
      (decoder.heard (request.emitted encoder interface))) :
    request.KeepsAddress encoder decoder interface ↔ interface < 16 := by
  rw [← lowNibble_eq_self]
  constructor
  · rintro (⟨refused, _⟩ | kept)
    · exact absurd returned refused
    · exact told.unique kept
  · intro same
    rw [same] at told
    exact .inr told

/-- Every request on an idle encoder is accepted and told under the low nibble of its interface,
which is the one asked for exactly where it fits the header. -/
theorem reached_told_lowNibble (memory : CommandDecoder (List CommandCall))
    (answer : CommandAnswer) (operations : List (Operation UInt8))
    (encoder : CommandEncoder (List FrameCall))
    (recording : encoder.frame.Recording fun _ _ => .ok) (idle : encoder.state = .idle)
    (request : AddressedRequest) (interface : UInt8) :
    (request.perform encoder interface).2 = .ok ∧
      request.ReportedUnder (lowNibble interface)
        ((CommandDecoder.reached memory (fun _ => true) answer operations).heard
          (request.emitted encoder interface)) ∧
      (request.KeepsAddress encoder
        (CommandDecoder.reached memory (fun _ => true) answer operations) interface ↔
          interface < 16) := by
  have recorded := CommandDecoder.reached_recorded memory (fun _ => true) answer operations
  obtain ⟨returned, sent⟩ := request.emitted_frame recording idle interface
  have told := request.heard_frame recorded interface
  rw [← sent] at told
  exact ⟨returned, told, keepsAddress_iff returned told⟩

/-- A stream of three bytes for interface 0x2A, sent to a decoder with a stream abandoned that
refuses the byte 0xFF. -/
theorem reached_told_lowNibble_stream :
    let answer : CommandAnswer := fun _ call =>
      match call with
      | .data _ 0xFF _ => .abort
      | _ => .ok
    let told := (CommandDecoder.reached (CommandDecoder.zeroed []) (fun _ => true) answer
      [.start, .put 0x10]).heard
        ((stream [0x01, 0xFF, 0x02]).emitted (recordingEncoder fun _ _ => .ok) 0x2A)
    told = [.tx (.start 0x0A) .ok, .tx (.data 0x0A 0x01 0) .ok, .tx (.data 0x0A 0xFF 1) .abort,
        .error 0x0A 0x00 1 .aborted] ∧
      ((stream [0x01, 0xFF, 0x02]).perform (recordingEncoder fun _ _ => .ok) 0x2A).2 = .ok ∧
      (stream [0x01, 0xFF, 0x02]).ReportedUnder (lowNibble 0x2A) told ∧
      ((stream [0x01, 0xFF, 0x02]).KeepsAddress (recordingEncoder fun _ _ => .ok)
        (CommandDecoder.reached (CommandDecoder.zeroed []) (fun _ => true) answer
          [.start, .put 0x10]) 0x2A ↔ (0x2A : UInt8) < 16) := by
  intro answer told
  exact ⟨by decide, reached_told_lowNibble _ answer [.start, .put 0x10]
    (recordingEncoder fun _ _ => .ok) (recordingEncoder_recording _) rfl
    (stream [0x01, 0xFF, 0x02]) 0x2A⟩

/-- A frequency for interface 16 is accepted and reported for interface 0. -/
theorem frequency_readdressed :
    ((setFrequency 868100000).perform (recordingEncoder fun _ _ => .ok) 16).2 = .ok ∧
      (CommandDecoder.reached (CommandDecoder.zeroed []) (fun _ => true) (fun _ _ => .ok)
        []).heard ((setFrequency 868100000).emitted (recordingEncoder fun _ _ => .ok) 16) =
          [.setFrequency 0 868100000] ∧
      ¬ (setFrequency 868100000).KeepsAddress (recordingEncoder fun _ _ => .ok)
        (CommandDecoder.reached (CommandDecoder.zeroed []) (fun _ => true) (fun _ _ => .ok) [])
          16 := by
  have heard : (CommandDecoder.reached (CommandDecoder.zeroed []) (fun _ => true)
      (fun _ _ => .ok) []).heard
        ((setFrequency 868100000).emitted (recordingEncoder fun _ _ => .ok) 16) =
          [.setFrequency 0 868100000] := by
    decide
  refine ⟨by decide, heard, ?_⟩
  rintro (⟨_, silent⟩ | kept)
  · revert silent
    decide
  · have told := heard.symm.trans kept
    revert told
    decide

end AddressedRequest

end RNodeProtocol
