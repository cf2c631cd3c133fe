/-
What the event encoder puts on the wire.

An emission is one event of the encoder's interface, or a complete data stream.
Its bytes are one header and the payload.  The header keeps only the low nibble
of the opcode, so kinds that share it share their wire format.
-/

import RNodeProtocol.EventEncoder
import RNodeProtocol.Header
import RNodeProtocol.Transport

namespace RNodeProtocol

open ByteNumerals

inductive EventEmission where
  | error (interface : Interface) (errorCode : UInt8)
  | statRx (interface : Interface) (payload : List UInt8)
  | statTx (interface : Interface) (payload : List UInt8)
  | rssi (interface : Interface) (rssi : Int8)
  | snr (interface : Interface) (snr : Int8)
  | blink (interface : Interface)
  | random (interface : Interface) (randomValue : UInt8)
  | platform (interface : Interface) (platformId : UInt8)
  | mcu (interface : Interface) (mcuId : UInt8)
  | fwVersion (interface : Interface) (version : UInt16)
  | romRead (interface : Interface) (payload : List UInt8)
  | reset (interface : Interface) (payload : List UInt8)
  | interfaces (interface : Interface) (payload : List UInt8)
  | data (interface : Interface) (payload : List UInt8)
  deriving DecidableEq

section Perform

variable {Ctx : Type}

/-- The data calls of a stream, whatever they answer. -/
def streamPayload (encoder : EventEncoder Ctx) :
    List UInt8 → EventEncoder Ctx × List EncoderStatus
  | [] => (encoder, [])
  | byte :: rest =>
      let sent := EventEncoder.data encoder byte
      let remaining := streamPayload sent.1 rest
      (remaining.1, sent.2 :: remaining.2)

def stream (encoder : EventEncoder Ctx) (interface : UInt8) (payload : List UInt8) :
    EventEncoder Ctx × List EncoderStatus :=
  let started := EventEncoder.start encoder interface
  let fed := streamPayload started.1 payload
  let ended := EventEncoder.endFrame fed.1
  (ended.1, started.2 :: fed.2 ++ [ended.2])

def single (result : EventEncoder Ctx × EncoderStatus) : EventEncoder Ctx × List EncoderStatus :=
  (result.1, [result.2])

/-- The calls of an emission and the statuses they return. -/
def EventEmission.perform (encoder : EventEncoder Ctx) :
    EventEmission → EventEncoder Ctx × List EncoderStatus
  | .error interface code => single (EventEncoder.error encoder interface.value code)
  | .statRx interface payload => single (EventEncoder.statRx encoder interface.value payload)
  | .statTx interface payload => single (EventEncoder.statTx encoder interface.value payload)
  | .rssi interface value => single (EventEncoder.rssi encoder interface.value value)
  | .snr interface value => single (EventEncoder.snr encoder interface.value value)
  | .blink interface => single (EventEncoder.blink encoder interface.value)
  | .random interface value => single (EventEncoder.random encoder interface.value value)
  | .platform interface id => single (EventEncoder.platform encoder interface.value id)
  | .mcu interface id => single (EventEncoder.mcu encoder interface.value id)
  | .fwVersion interface version =>
      single (EventEncoder.fwVersion encoder interface.value version)
  | .romRead interface payload => single (EventEncoder.romRead encoder interface.value payload)
  | .reset interface payload => single (EventEncoder.reset encoder interface.value payload)
  | .interfaces interface payload =>
      single (EventEncoder.interfaces encoder interface.value payload)
  | .data interface payload => stream encoder interface.value payload

end Perform

/-! ### Header and payload -/

def EventEmission.interface : EventEmission → Interface
  | .error interface _ => interface
  | .statRx interface _ => interface
  | .statTx interface _ => interface
  | .rssi interface _ => interface
  | .snr interface _ => interface
  | .blink interface => interface
  | .random interface _ => interface
  | .platform interface _ => interface
  | .mcu interface _ => interface
  | .fwVersion interface _ => interface
  | .romRead interface _ => interface
  | .reset interface _ => interface
  | .interfaces interface _ => interface
  | .data interface _ => interface

def EventEmission.opcode : EventEmission → RnodeOpcode
  | .error _ _ => .error
  | .statRx _ _ => .statRx
  | .statTx _ _ => .statTx
  | .rssi _ _ => .statRssi
  | .snr _ _ => .statSnr
  | .blink _ => .blink
  | .random _ _ => .random
  | .platform _ _ => .platform
  | .mcu _ _ => .mcu
  | .fwVersion _ _ => .fwVersion
  | .romRead _ _ => .romRead
  | .reset _ _ => .reset
  | .interfaces _ _ => .interfaces
  | .data _ _ => .data

def EventEmission.payload : EventEmission → List UInt8
  | .error _ code => [code]
  | .statRx _ payload => payload
  | .statTx _ payload => payload
  | .rssi _ value => [value.toUInt8]
  | .snr _ value => [value.toUInt8]
  | .blink _ => []
  | .random _ value => [value]
  | .platform _ id => [id]
  | .mcu _ id => [id]
  | .fwVersion _ version => shortBytes version
  | .romRead _ payload => payload
  | .reset _ payload => payload
  | .interfaces _ payload => payload
  | .data _ payload => payload

def EventEmission.bytes (emission : EventEmission) : List UInt8 :=
  emission.interface.header emission.opcode :: emission.payload

/-! ### Performing an emission -/

section Delivery

variable {Ctx : Type} {encoder : EventEncoder Ctx}

theorem streamPayload_fst (payload : List UInt8) :
    (streamPayload encoder payload).1 =
      payload.foldl (fun current byte => (Encoder.data current byte).1) encoder := by
  induction payload generalizing encoder with
  | nil => rfl
  | cons byte rest ih => exact ih

theorem streamPayload_accepted (accepts : encoder.frame.Accepts)
    (transmitting : encoder.state = .transmitting) (payload : List UInt8) :
    ∀ status ∈ (streamPayload encoder payload).2, status = .ok := by
  induction payload generalizing encoder with
  | nil => exact fun _ member => absurd member List.not_mem_nil
  | cons byte rest ih =>
      have sent := Encoder.data_transmitting transmitting byte
      rw [accepts.put] at sent
      change EventEncoder.data encoder byte = _ at sent
      intro status member
      rcases List.mem_cons.mp member with first | later
      · rw [first, sent]
        rfl
      · refine ih ?_ ?_ status later
        · rw [sent]
          exact ⟨accepts.start, accepts.put, accepts.endFrame⟩
        · rw [sent]
          exact transmitting

theorem EventEmission.sends_or_streams (emission : EventEmission) :
    (∀ {Ctx : Type} (encoder : EventEncoder Ctx), emission.perform encoder =
      single (encoder.sendCommandAndBytes emission.interface.value emission.opcode
        emission.payload)) ∨
      ∃ interface payload, emission = .data interface payload := by
  cases emission with
  | data interface payload => exact .inr ⟨interface, payload, rfl⟩
  | _ => exact .inl (fun _ => rfl)

theorem stream_context (interface : Interface) (payload : List UInt8)
    (returned : ∀ status ∈ (stream encoder interface.value payload).2, status = .ok) :
    (stream encoder interface.value payload).1.context =
      encoder.frame.deliver encoder.context (interface.header .data :: payload) := by
  change (EventEncoder.endFrame
    (streamPayload (EventEncoder.start encoder interface.value).1 payload).1).1.context = _
  rw [streamPayload_fst]
  exact Encoder.stream_delivers (returned _ List.mem_cons_self) payload

/-- An emission whose calls all return OK delivers one complete frame. -/
theorem EventEmission.perform_context (emission : EventEmission)
    (returned : ∀ status ∈ (emission.perform encoder).2, status = .ok) :
    (emission.perform encoder).1.context =
      encoder.frame.deliver encoder.context emission.bytes := by
  rcases emission.sends_or_streams with sends | ⟨interface, payload, rfl⟩
  · rw [sends] at returned ⊢
    have sent := (Encoder.sendCommandAndBytes_ok (returned _ List.mem_cons_self)).2
    exact congrArg Encoder.context sent
  · exact stream_context interface payload returned

theorem EventEmission.perform_accepted (emission : EventEmission)
    (accepts : encoder.frame.Accepts) (idle : encoder.state = .idle) :
    ∀ status ∈ (emission.perform encoder).2, status = .ok := by
  rcases emission.sends_or_streams with sends | ⟨interface, payload, rfl⟩
  · rw [sends]
    intro status member
    rw [List.mem_singleton.mp member]
    exact Encoder.sendCommandAndBytes_accepted accepts idle _ _ _
  · have returned := Encoder.start_accepted accepts idle interface.value
    have started := (Encoder.start_ok returned).2
    change (EventEncoder.start encoder interface.value).1 = _ at started
    have transmitting : (EventEncoder.start encoder interface.value).1.state = .transmitting := by
      rw [started]
    have still : (EventEncoder.start encoder interface.value).1.frame.Accepts := by
      rw [started]
      exact ⟨accepts.start, accepts.put, accepts.endFrame⟩
    have fed := (streamPayload_fst payload).trans (Encoder.data_all transmitting payload)
    have state : (streamPayload (EventEncoder.start encoder interface.value).1
        payload).1.state = .transmitting := by
      rw [fed]
      exact transmitting
    have ended := Encoder.endFrame_transmitting state
    have finalAccepts : (streamPayload (EventEncoder.start encoder interface.value).1
        payload).1.frame.Accepts := by
      rw [fed]
      exact ⟨still.start, still.put, still.endFrame⟩
    rw [finalAccepts.endFrame] at ended
    intro status member
    rcases List.mem_cons.mp member with first | later
    · rw [first]
      exact returned
    · rcases List.mem_append.mp later with sent | closed
      · exact streamPayload_accepted still transmitting payload status sent
      · rw [List.mem_singleton.mp closed]
        exact congrArg Prod.snd ended

end Delivery

/-! ### What a transport receives -/

def FrameRequest.byte? : FrameRequest → Option UInt8
  | .put byte => some byte
  | _ => none

/-- The bytes put into the frames of a log. -/
def bytesPut (log : List FrameCall) : List UInt8 :=
  log.filterMap fun call => call.request.byte?

theorem bytesPut_append (first second : List FrameCall) :
    bytesPut (first ++ second) = bytesPut first ++ bytesPut second :=
  List.filterMap_append

theorem bytesPut_deliver {answer : FrameAnswer} {frame : Frame (List FrameCall)}
    (recording : frame.Recording answer) (log : List FrameCall) (bytes : List UInt8) :
    bytesPut (frame.deliver log bytes) = bytesPut log ++ bytes := by
  have fed : ∀ log, bytesPut (bytes.foldl frame.sent log) = bytesPut log ++ bytes := by
    induction bytes with
    | nil => exact fun log => (List.append_nil _).symm
    | cons byte rest ih =>
        intro log
        rw [List.foldl_cons, ih, recording.sent, bytesPut_append, List.append_assoc]
        rfl
  unfold Frame.deliver
  rw [recording.closed, bytesPut_append, fed, recording.opened, bytesPut_append]
  change bytesPut log ++ [] ++ bytes ++ [] = _
  rw [List.append_nil, List.append_nil]

/-- The bytes an emission puts into the frame when the transport accepts everything. -/
def EventEmission.wire (emission : EventEmission) : List UInt8 :=
  bytesPut (emission.perform (recordingEncoder fun _ _ => .ok)).1.context

theorem EventEmission.wire_eq (emission : EventEmission) : emission.wire = emission.bytes := by
  have recording := recordingEncoder_recording fun _ _ => .ok
  have accepts : (recordingEncoder fun _ _ => .ok).frame.Accepts :=
    ⟨fun _ => rfl, fun _ _ => rfl, fun _ => rfl⟩
  have returned := emission.perform_accepted accepts rfl
  unfold EventEmission.wire
  rw [emission.perform_context returned, bytesPut_deliver recording]
  rfl

/-! ### Ambiguity -/

/-- Pairs of different emissions whose opcodes and payloads meet on the wire. -/
inductive Confusable : EventEmission → EventEmission → Prop where
  | statRx_romRead (interface : Interface) (payload : List UInt8) :
      Confusable (.statRx interface payload) (.romRead interface payload)
  | statRx_interfaces (interface : Interface) (payload : List UInt8) :
      Confusable (.statRx interface payload) (.interfaces interface payload)
  | romRead_interfaces (interface : Interface) (payload : List UInt8) :
      Confusable (.romRead interface payload) (.interfaces interface payload)
  | blink_data (interface : Interface) : Confusable (.blink interface) (.data interface [])
  | random_data (interface : Interface) (randomValue : UInt8) :
      Confusable (.random interface randomValue) (.data interface [randomValue])
  | fwVersion_data (interface : Interface) (version : UInt16) :
      Confusable (.fwVersion interface version) (.data interface (shortBytes version))
  | symm {left right : EventEmission} (confusable : Confusable left right) :
      Confusable right left

theorem bytes_eq_iff (left right : EventEmission) :
    left.bytes = right.bytes ↔
      left.interface = right.interface ∧
        lowNibble left.opcode.value = lowNibble right.opcode.value ∧
        left.payload = right.payload := by
  constructor
  · intro same
    obtain ⟨headers, payloads⟩ := List.cons.inj same
    have sources := congrArg Interface.ofHeader headers
    have nibbles := congrArg lowNibble headers
    rw [Interface.ofHeader_header, Interface.ofHeader_header] at sources
    rw [Interface.lowNibble_header, Interface.lowNibble_header] at nibbles
    exact ⟨sources, nibbles, payloads⟩
  · rintro ⟨sources, nibbles, payloads⟩
    unfold EventEmission.bytes Interface.header packNibbles
    change lowNibble _ = lowNibble _ at nibbles
    unfold lowNibble at nibbles
    rw [sources, nibbles, payloads]

theorem Confusable.bytes_eq {left right : EventEmission} (confusable : Confusable left right) :
    left ≠ right ∧ left.bytes = right.bytes := by
  have statRx : lowNibble RnodeOpcode.statRx.value = lowNibble RnodeOpcode.romRead.value := by
    decide
  have romRead : lowNibble RnodeOpcode.romRead.value =
      lowNibble RnodeOpcode.interfaces.value := by
    decide
  have blink : lowNibble RnodeOpcode.blink.value = lowNibble RnodeOpcode.data.value := by decide
  have random : lowNibble RnodeOpcode.random.value = lowNibble RnodeOpcode.data.value := by decide
  have version : lowNibble RnodeOpcode.fwVersion.value = lowNibble RnodeOpcode.data.value := by
    decide
  induction confusable with
  | statRx_romRead => exact ⟨nofun, (bytes_eq_iff _ _).mpr ⟨rfl, statRx, rfl⟩⟩
  | statRx_interfaces => exact ⟨nofun, (bytes_eq_iff _ _).mpr ⟨rfl, statRx.trans romRead, rfl⟩⟩
  | romRead_interfaces => exact ⟨nofun, (bytes_eq_iff _ _).mpr ⟨rfl, romRead, rfl⟩⟩
  | blink_data => exact ⟨nofun, (bytes_eq_iff _ _).mpr ⟨rfl, blink, rfl⟩⟩
  | random_data => exact ⟨nofun, (bytes_eq_iff _ _).mpr ⟨rfl, random, rfl⟩⟩
  | fwVersion_data => exact ⟨nofun, (bytes_eq_iff _ _).mpr ⟨rfl, version, rfl⟩⟩
  | symm _ ih => exact ⟨ih.1.symm, ih.2.symm⟩

/-- The emission with a given opcode, interface and payload. -/
def EventEmission.ofParts (opcode : RnodeOpcode) (interface : Interface) (payload : List UInt8) :
    Option EventEmission :=
  match opcode with
  | .error => some (.error interface (payload.headD 0))
  | .statRx => some (.statRx interface payload)
  | .statTx => some (.statTx interface payload)
  | .statRssi => some (.rssi interface (payload.headD 0).toInt8)
  | .statSnr => some (.snr interface (payload.headD 0).toInt8)
  | .blink => some (.blink interface)
  | .random => some (.random interface (payload.headD 0))
  | .platform => some (.platform interface (payload.headD 0))
  | .mcu => some (.mcu interface (payload.headD 0))
  | .fwVersion => some (.fwVersion interface (UInt16.ofNat (bigEndian payload)))
  | .romRead => some (.romRead interface payload)
  | .reset => some (.reset interface payload)
  | .interfaces => some (.interfaces interface payload)
  | .data => some (.data interface payload)
  | _ => none

theorem EventEmission.ofParts_parts (emission : EventEmission) :
    ofParts emission.opcode emission.interface emission.payload = some emission := by
  cases emission with
  | rssi interface value =>
      change some (EventEmission.rssi interface value.toUInt8.toInt8) = _
      rw [Int8.toInt8_toUInt8]
  | snr interface value =>
      change some (EventEmission.snr interface value.toUInt8.toInt8) = _
      rw [Int8.toInt8_toUInt8]
  | fwVersion interface version =>
      change some (EventEmission.fwVersion interface
        (UInt16.ofNat (bigEndian (shortBytes version)))) = _
      rw [bigEndian_shortBytes, UInt16.ofNat_toNat]
  | _ => rfl

theorem EventEmission.eq_data {emission : EventEmission} (isData : emission.opcode = .data) :
    emission = .data emission.interface emission.payload := by
  cases emission with
  | data interface payload => rfl
  | _ => cases isData

/-- A kind that shares its nibble with the data stream is confused with some data stream. -/
theorem confusable_with_data {emission : EventEmission} (notData : emission.opcode ≠ .data)
    (nibbles : lowNibble emission.opcode.value = lowNibble RnodeOpcode.data.value) :
    Confusable emission (.data emission.interface emission.payload) := by
  cases emission with
  | blink interface => exact .blink_data interface
  | random interface value => exact .random_data interface value
  | fwVersion interface version => exact .fwVersion_data interface version
  | data => exact absurd rfl notData
  | _ =>
      dsimp only [EventEmission.opcode] at nibbles
      exact absurd nibbles (by decide)

/-- Among the other kinds, only those with a payload of their own are confused. -/
theorem confusable_without_data {left right : EventEmission} (kinds : left.opcode ≠ right.opcode)
    (leftOther : left.opcode ≠ .data) (rightOther : right.opcode ≠ .data)
    (sources : left.interface = right.interface)
    (nibbles : lowNibble left.opcode.value = lowNibble right.opcode.value)
    (payloads : left.payload = right.payload) : Confusable left right := by
  cases left with
  | statRx interface payload =>
      cases right with
      | statRx => exact absurd rfl kinds
      | romRead =>
          cases sources
          cases payloads
          exact .statRx_romRead _ _
      | interfaces =>
          cases sources
          cases payloads
          exact .statRx_interfaces _ _
      | _ =>
          dsimp only [EventEmission.opcode] at nibbles
          exact absurd nibbles (by decide)
  | romRead interface payload =>
      cases right with
      | romRead => exact absurd rfl kinds
      | statRx =>
          cases sources
          cases payloads
          exact (Confusable.statRx_romRead _ _).symm
      | interfaces =>
          cases sources
          cases payloads
          exact .romRead_interfaces _ _
      | _ =>
          dsimp only [EventEmission.opcode] at nibbles
          exact absurd nibbles (by decide)
  | interfaces interface payload =>
      cases right with
      | interfaces => exact absurd rfl kinds
      | statRx =>
          cases sources
          cases payloads
          exact (Confusable.statRx_interfaces _ _).symm
      | romRead =>
          cases sources
          cases payloads
          exact (Confusable.romRead_interfaces _ _).symm
      | _ =>
          dsimp only [EventEmission.opcode] at nibbles
          exact absurd nibbles (by decide)
  | data => exact absurd rfl leftOther
  | _ =>
      cases right with
      | data => exact absurd rfl rightOther
      | _ =>
          dsimp only [EventEmission.opcode] at nibbles
          first
          | exact absurd rfl kinds
          | exact absurd nibbles (by decide)
          | cases payloads

/-- Emissions of different kinds with the same bytes are one of the listed pairs. -/
theorem confusable_of_kinds {left right : EventEmission} (kinds : left.opcode ≠ right.opcode)
    (sources : left.interface = right.interface)
    (nibbles : lowNibble left.opcode.value = lowNibble right.opcode.value)
    (payloads : left.payload = right.payload) : Confusable left right := by
  by_cases leftData : left.opcode = .data
  · rw [leftData] at kinds nibbles
    rw [EventEmission.eq_data leftData, sources, payloads]
    exact (confusable_with_data kinds.symm nibbles.symm).symm
  · by_cases rightData : right.opcode = .data
    · rw [rightData] at nibbles
      rw [EventEmission.eq_data rightData, ← sources, ← payloads]
      exact confusable_with_data leftData nibbles
    · exact confusable_without_data kinds leftData rightData sources nibbles payloads

/-- Two different emissions have different bytes unless they are one of the listed pairs. -/
theorem wire_distinct_iff (left right : EventEmission) :
    (left ≠ right → left.wire ≠ right.wire) ↔ ¬ Confusable left right := by
  rw [left.wire_eq, right.wire_eq]
  constructor
  · intro distinct confusable
    exact distinct confusable.bytes_eq.1 confusable.bytes_eq.2
  · intro clear different same
    obtain ⟨sources, nibbles, payloads⟩ := (bytes_eq_iff left right).mp same
    by_cases kinds : left.opcode = right.opcode
    · have parts := left.ofParts_parts
      rw [kinds, sources, payloads, right.ofParts_parts] at parts
      exact different (Option.some.inj parts).symm
    · exact clear (confusable_of_kinds kinds sources nibbles payloads)

/-- Received statistics and a memory read of the same payload are one frame. -/
theorem statRx_wire_romRead :
    EventEmission.statRx Interface.global [0x01] ≠ .romRead Interface.global [0x01] ∧
      (EventEmission.statRx Interface.global [0x01]).wire =
        (EventEmission.romRead Interface.global [0x01]).wire :=
  ⟨nofun, by decide⟩

end RNodeProtocol
