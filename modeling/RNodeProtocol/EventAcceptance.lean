/-
Which emissions of the event encoder the event decoder takes.

The decoder knows seven kinds of event by their header nibbles.  An emission is
taken when its header and payload look like one of those; the others are
refused at their header or at the first byte past the length the decoder
expects.
-/

import RNodeProtocol.EventDecoderFrames
import RNodeProtocol.EventWire

namespace RNodeProtocol

open ByteNumerals FramedInput RequestLog

/-- The emissions whose header nibble and payload length are in the decoder's tables. -/
def EventEmission.Supported : EventEmission → Prop
  | .error _ _ => False
  | .random _ _ => False
  | .fwVersion _ _ => False
  | .reset _ _ => False
  | .data _ payload => payload = []
  | _ => True

/-- The bytes an emission puts into its frame. -/
def EventEmission.emitted (emission : EventEmission) (encoder : EventEncoder (List FrameCall)) :
    List UInt8 :=
  (bytesPut (emission.perform encoder).1.context).drop (bytesPut encoder.context).length

theorem EventEmission.emitted_eq {answer : FrameAnswer} {encoder : EventEncoder (List FrameCall)}
    (recording : encoder.frame.Recording answer) (emission : EventEmission)
    (returned : ∀ status ∈ (emission.perform encoder).2, status = .ok) :
    emission.emitted encoder = emission.bytes := by
  unfold EventEmission.emitted
  rw [emission.perform_context returned, bytesPut_deliver recording, List.drop_left]

namespace EventDecoder

/-- Write and end of a new frame return OK and report no error. -/
def Takes (decoder : EventDecoder (List EventCall)) (frame : List UInt8) : Prop :=
  (machine.write decoder.start frame).2 = .ok ∧
    (machine.endFrame (machine.write decoder.start frame).1).2 = .ok ∧
    ∀ call ∈ (machine.endFrame (machine.write decoder.start frame).1).1.context.drop
      decoder.context.length, call.slot ≠ .error

variable {registered : EventSlot → Bool} {answer : EventAnswer}
  {decoder : EventDecoder (List EventCall)}

theorem streamHeard_slot (registered : EventSlot → Bool) (kind : StreamKind) (interface : UInt8)
    (first : Nat) (payload : List UInt8) :
    ∀ call ∈ streamHeard registered kind interface first payload, call.slot ≠ .error := by
  intro call member
  rcases List.mem_append.mp member with front | last
  · rcases List.mem_append.mp front with start | data
    · rw [(mem_emit.mp start).2]
      nofun
    · unfold dataHeard at data
      split at data
      · obtain ⟨index, bound, rfl⟩ := List.mem_mapIdx.mp data
        nofun
      · exact absurd data List.not_mem_nil
  · rw [(mem_emit.mp last).2]
    nofun

theorem heard_slot (registered : EventSlot → Bool) (first : StreamKind → Nat) (event : Event) :
    ∀ call ∈ heard registered first event, call.slot ≠ .error := by
  intro call member
  cases event with
  | stat kind interface payload =>
      exact streamHeard_slot registered kind interface.value (first kind) payload call member
  | _ =>
      unfold heard at member
      have inner := List.mem_of_mem_filter member
      rw [List.mem_singleton.mp inner]
      nofun

theorem Recorded.takes (recorded : Recorded registered answer decoder)
    (accepting : AcceptsAfter answer decoder.context) {frame : List UInt8} {event : Event}
    (parsed : parseEvent frame = .accepted event) : decoder.Takes frame := by
  obtain ⟨accepts, ended, reported⟩ := recorded.start.frame_accepted rfl accepting parsed
  unfold Takes
  rw [accepts.write]
  refine ⟨rfl, ended, ?_⟩
  change ∀ call ∈ (machine.putAll decoder.start frame).endFrame.1.context.drop
    decoder.context.length, call.slot ≠ .error
  rw [reported]
  change ∀ call ∈ (decoder.context ++ _).drop decoder.context.length, call.slot ≠ .error
  rw [List.drop_left]
  exact heard_slot registered _ event

end EventDecoder

theorem EventEmission.parse_supported (emission : EventEmission)
    (supported : emission.Supported) : ∃ event, parseEvent emission.bytes = .accepted event := by
  cases emission with
  | statRx interface payload => exact ⟨_, parseEvent_frame (.stat .statRx interface payload)⟩
  | statTx interface payload => exact ⟨_, parseEvent_frame (.stat .statTx interface payload)⟩
  | rssi interface value => exact ⟨_, parseEvent_frame (.rssi interface value)⟩
  | snr interface value => exact ⟨_, parseEvent_frame (.snr interface value)⟩
  | blink interface => exact ⟨_, parseEvent_frame (.blink interface)⟩
  | platform interface id => exact ⟨_, parseEvent_frame (.platform interface id)⟩
  | mcu interface id => exact ⟨_, parseEvent_frame (.mcu interface id)⟩
  | romRead interface payload =>
      rw [← (Confusable.statRx_romRead interface payload).bytes_eq.2]
      exact ⟨_, parseEvent_frame (.stat .statRx interface payload)⟩
  | interfaces interface payload =>
      rw [← (Confusable.statRx_interfaces interface payload).bytes_eq.2]
      exact ⟨_, parseEvent_frame (.stat .statRx interface payload)⟩
  | data interface payload =>
      obtain rfl : payload = [] := supported
      rw [← (Confusable.blink_data interface).bytes_eq.2]
      exact ⟨_, parseEvent_frame (.blink interface)⟩
  | error => exact absurd supported not_false
  | random => exact absurd supported not_false
  | fwVersion => exact absurd supported not_false
  | reset => exact absurd supported not_false

section Refusal

variable {registered : EventSlot → Bool} {answer : EventAnswer}
  {decoder : EventDecoder (List EventCall)}

theorem EventDecoder.Recorded.refuses_unknown
    (recorded : EventDecoder.Recorded registered answer decoder) (interface : Interface)
    (opcode : RnodeOpcode) (payload : List UInt8)
    (unknown : EventDecoder.rnodeEventOpcodeLength (lowNibble opcode.value) = -2) :
    (EventDecoder.machine.write decoder.start (interface.header opcode :: payload)).2 ≠ .ok := by
  have refused := recorded.start.frame_unknown rfl (interface.header opcode) payload
    (by rw [interface.lowNibble_header]; exact unknown)
  rw [refused]
  decide

theorem EventDecoder.Recorded.refuses_surplus
    (recorded : EventDecoder.Recorded registered answer decoder) (interface : Interface)
    (opcode : RnodeOpcode) {payload : List UInt8}
    (bare : EventDecoder.rnodeEventOpcodeLength (lowNibble opcode.value) = 0)
    (surplus : payload ≠ []) :
    (EventDecoder.machine.write decoder.start (interface.header opcode :: payload)).2 ≠ .ok := by
  cases payload with
  | nil => exact absurd rfl surplus
  | cons byte rest =>
      have refused := recorded.start.frame_surplus rfl (interface.header opcode) byte rest
        (by rw [interface.lowNibble_header]; exact bare)
      rw [refused]
      decide

/-- An emission of any other kind is refused while its bytes are being written. -/
theorem EventDecoder.Recorded.refuses
    (recorded : EventDecoder.Recorded registered answer decoder) {emission : EventEmission}
    (unsupported : ¬ emission.Supported) :
    (EventDecoder.machine.write decoder.start emission.bytes).2 ≠ .ok := by
  cases emission with
  | error interface code => exact recorded.refuses_unknown interface .error [code] rfl
  | reset interface payload => exact recorded.refuses_unknown interface .reset payload rfl
  | random interface value => exact recorded.refuses_surplus interface .random rfl nofun
  | fwVersion interface version => exact recorded.refuses_surplus interface .fwVersion rfl nofun
  | data interface payload => exact recorded.refuses_surplus interface .data rfl unsupported
  | _ => exact absurd trivial unsupported

end Refusal

/-- An emission is taken exactly when its header and length are in the decoder's tables. -/
theorem emission_taken_iff (frameAnswer : FrameAnswer) (requests : List EncoderRequest)
    (emission : EventEmission) (memory : EventDecoder (List EventCall))
    (registered : EventSlot → Bool) (answer : EventAnswer) (operations : List (Operation UInt8))
    (returned : ∀ status ∈ (emission.perform
      (encoderServer.run (recordingEncoder frameAnswer) requests)).2, status = .ok)
    (accepting : AcceptsAfter answer
      (EventDecoder.reached memory registered answer operations).context) :
    (EventDecoder.reached memory registered answer operations).Takes
        (emission.emitted (encoderServer.run (recordingEncoder frameAnswer) requests)) ↔
      emission.Supported := by
  have recorded := EventDecoder.reached_recorded memory registered answer operations
  rw [emission.emitted_eq (recording_run frameAnswer requests) returned]
  constructor
  · intro takes
    by_contra unsupported
    exact recorded.refuses unsupported takes.1
  · intro supported
    obtain ⟨event, parsed⟩ := emission.parse_supported supported
    exact recorded.takes accepting parsed

/-- A signal report sent on a fresh encoder reaches a fresh decoder. -/
theorem emission_taken_rssi :
    (EventDecoder.reached (EventDecoder.zeroed []) (fun _ => true) (fun _ _ => .ok) []).Takes
        ((EventEmission.rssi Interface.global (-40)).emitted
          (encoderServer.run (recordingEncoder fun _ _ => .ok) [])) ↔
      (EventEmission.rssi Interface.global (-40)).Supported :=
  emission_taken_iff _ [] _ _ _ _ [] (by decide) (fun _ _ _ => rfl)

/-- A random value never reaches the callback the decoder has for it. -/
theorem emission_random_refused :
    (∀ status ∈ ((EventEmission.random Interface.global 0x2A).perform
      (recordingEncoder fun _ _ => .ok)).2, status = .ok) ∧
    ¬ (EventDecoder.reached (EventDecoder.zeroed []) (fun _ => true) (fun _ _ => .ok) []).Takes
      ((EventEmission.random Interface.global 0x2A).emitted
        (recordingEncoder fun _ _ => .ok)) :=
  ⟨by decide, fun takes => absurd takes.1 (by decide)⟩

end RNodeProtocol
