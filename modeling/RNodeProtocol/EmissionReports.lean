/-
What a decoder reports of every emission.

The seven kinds of event the decoder has in its tables are reported as
themselves.  The others share the nibble of one of those, or have a nibble of
their own that is in no table: a ROM dump and a list of interfaces are reported
as statistics, an empty data stream as a blink, and the rest by an error.
-/

import RNodeProtocol.EventWire
import RNodeProtocol.Handlers

namespace RNodeProtocol

open ByteNumerals FramedInput

/-- The calls of a decoder with every callback registered. -/
def EventEmission.told : EventEmission → List EventCall
  | .error interface _ => [.error interface.value 0x0F 0 .unknownOpcode]
  | .statRx interface payload => (Event.stat .statRx interface payload).calls
  | .statTx interface payload => (Event.stat .statTx interface payload).calls
  | .rssi interface value => [.rssi interface.value value]
  | .snr interface value => [.snr interface.value value]
  | .blink _ => [.blink]
  | .random interface _ => [.error interface.value 0x00 0 .invalidLength]
  | .platform interface id => [.platform interface.value id]
  | .mcu interface id => [.mcu interface.value id]
  | .fwVersion interface _ => [.error interface.value 0x00 0 .invalidLength]
  | .romRead interface payload => (Event.stat .statRx interface payload).calls
  | .reset interface _ => [.error interface.value 0x05 0 .unknownOpcode]
  | .interfaces interface payload => (Event.stat .statRx interface payload).calls
  | .data _ [] => [.blink]
  | .data interface (_ :: _) => [.error interface.value 0x00 0 .invalidLength]

namespace EventDecoder

/-- Where no byte after this input has a call, none has. -/
theorem puts_silent {input : List UInt8}
    (silent : ∀ later byte, eventPutCalls (input ++ later) byte = []) (bytes : List UInt8) :
    eventScript.puts input bytes = [] := by
  induction bytes generalizing input with
  | nil => rfl
  | cons byte rest ih =>
      have here := silent [] byte
      rw [List.append_nil] at here
      have silentAfter : ∀ later next, eventPutCalls (input ++ [byte] ++ later) next = [] := by
        intro later next
        rw [List.append_assoc]
        exact silent _ next
      have later := ih silentAfter
      rw [Script.puts_cons, later]
      change eventPutCalls input byte ++ [] = []
      rw [here]
      rfl

theorem script_unknown {header : UInt8}
    (unknown : rnodeEventOpcodeLength (lowNibble header) = -2) (payload : List UInt8) :
    eventScript.frame (header :: payload) =
      [.error (highNibble header) (lowNibble header) 0 .unknownOpcode] := by
  have silent : eventScript.puts [header] payload = [] :=
    puts_silent (fun later byte => putCalls_refused unknown later byte) payload
  unfold Script.frame
  rw [Script.puts_cons, List.nil_append, silent]
  change eventPutCalls [] header ++ [] ++ eventEndCalls (header :: payload) = _
  rw [putCalls_unknown unknown, endCalls_refused unknown]
  rfl

theorem script_surplus {header : UInt8}
    (bare : rnodeEventOpcodeLength (lowNibble header) = 0) (byte : UInt8)
    (rest : List UInt8) :
    eventScript.frame (header :: byte :: rest) =
      [.error (highNibble header) (lowNibble header) 0 .invalidLength] := by
  have length : rnodeEventOpcodeLength (lowNibble header) = (0 : Nat) := bare
  have longer : ∀ later : List UInt8, 0 < (byte :: later).length := fun _ => Nat.succ_pos _
  have silent : eventScript.puts [header, byte] rest = [] :=
    puts_silent (fun later next => putCalls_collected length (longer later).ne' next) rest
  have full : eventPutCalls [header] byte =
      [.error (highNibble header) (lowNibble header) 0 .invalidLength] := putCalls_full length byte
  unfold Script.frame
  rw [Script.puts_cons, Script.puts_cons, List.nil_append, List.singleton_append, silent]
  change eventPutCalls [] header ++ (eventPutCalls [header] byte ++ []) ++
    eventEndCalls (header :: byte :: rest) = _
  rw [putCalls_fixed length, full, endCalls_overrun length (longer rest)]
  rfl

end EventDecoder

namespace EventEmission

theorem told_unknown (interface : Interface) (opcode : RnodeOpcode) (payload : List UInt8)
    (unknown : EventDecoder.rnodeEventOpcodeLength (lowNibble opcode.value) = -2) :
    eventScript.frame (interface.header opcode :: payload) =
      [.error interface.value (lowNibble opcode.value) 0 .unknownOpcode] := by
  rw [EventDecoder.script_unknown (by rw [interface.lowNibble_header]; exact unknown),
    interface.highNibble_header, interface.lowNibble_header]

theorem told_surplus (interface : Interface) (opcode : RnodeOpcode) (byte : UInt8)
    (rest : List UInt8)
    (bare : EventDecoder.rnodeEventOpcodeLength (lowNibble opcode.value) = 0) :
    eventScript.frame (interface.header opcode :: byte :: rest) =
      [.error interface.value (lowNibble opcode.value) 0 .invalidLength] := by
  rw [EventDecoder.script_surplus (by rw [interface.lowNibble_header]; exact bare),
    interface.highNibble_header, interface.lowNibble_header]

theorem script_told (emission : EventEmission) :
    eventScript.frame emission.bytes = emission.told := by
  have taken : ∀ event : Event, eventScript.frame event.frame = event.calls :=
    fun event => EventDecoder.script_accepted (parseEvent_frame event)
  cases emission with
  | error interface code => exact told_unknown interface .error [code] rfl
  | statRx interface payload => exact taken (.stat .statRx interface payload)
  | statTx interface payload => exact taken (.stat .statTx interface payload)
  | rssi interface value => exact taken (.rssi interface value)
  | snr interface value => exact taken (.snr interface value)
  | blink interface => exact taken (.blink interface)
  | random interface value => exact told_surplus interface .random value [] rfl
  | platform interface id => exact taken (.platform interface id)
  | mcu interface id => exact taken (.mcu interface id)
  | fwVersion interface version => exact told_surplus interface .fwVersion _ _ rfl
  | romRead interface payload =>
      rw [← (Confusable.statRx_romRead interface payload).bytes_eq.2]
      exact taken (.stat .statRx interface payload)
  | reset interface payload => exact told_unknown interface .reset payload rfl
  | interfaces interface payload =>
      rw [← (Confusable.statRx_interfaces interface payload).bytes_eq.2]
      exact taken (.stat .statRx interface payload)
  | data interface payload =>
      cases payload with
      | nil =>
          rw [← (Confusable.blink_data interface).bytes_eq.2]
          exact taken (.blink interface)
      | cons byte rest => exact told_surplus interface .data byte rest rfl

end EventEmission

/-! ### Emissions one after the other -/

section Device

variable {Ctx : Type} {encoder : EventEncoder Ctx}

/-- Over an accepting transport an emission leaves the encoder idle. -/
theorem EventEmission.perform_leaves (emission : EventEmission)
    (accepts : encoder.frame.Accepts) (idle : encoder.state = .idle) :
    (emission.perform encoder).1.state = .idle ∧
      ∃ count, (emission.perform encoder).1.frame = { encoder.frame with byteIndex := count } := by
  rcases emission.sends_or_streams with sends | ⟨interface, payload, rfl⟩
  · have returned := Encoder.sendCommandAndBytes_accepted accepts idle emission.interface.value
      emission.opcode emission.payload
    have sent := (Encoder.sendCommandAndBytes_ok returned).2
    rw [sends]
    unfold single
    dsimp only
    rw [sent]
    exact ⟨rfl, _, rfl⟩
  · have returned := Encoder.start_accepted accepts idle interface.value
    have started := (Encoder.start_ok returned).2
    change (EventEncoder.start encoder interface.value).1 = _ at started
    have transmitting : (EventEncoder.start encoder interface.value).1.state = .transmitting := by
      rw [started]
    have fed := (streamPayload_fst payload).trans (Encoder.data_all transmitting payload)
    have state : (streamPayload (EventEncoder.start encoder interface.value).1
        payload).1.state = .transmitting := by
      rw [fed]
      exact transmitting
    have ended : (EventEncoder.endFrame (streamPayload
        (EventEncoder.start encoder interface.value).1 payload).1).1 = _ :=
      congrArg Prod.fst (Encoder.endFrame_transmitting state)
    change (EventEncoder.endFrame (streamPayload _ payload).1).1.state = _ ∧
      ∃ count, (EventEncoder.endFrame (streamPayload _ payload).1).1.frame = _
    rw [ended, fed, started]
    exact ⟨rfl, _, rfl⟩

def emitAll (encoder : EventEncoder Ctx) (emissions : List EventEmission) : EventEncoder Ctx :=
  emissions.foldl (fun current emission => (emission.perform current).1) encoder

end Device

section Linked

variable {Receiver : Type} {machine : Machine Receiver UInt8 DecoderStatus}
  {encoder : EventEncoder (Link Receiver)}

theorem run_singly (machine : Machine Receiver UInt8 DecoderStatus) (state : Receiver)
    (bytes : List UInt8) :
    machine.run state (singly bytes) =
      (machine.endFrame (machine.putAll (machine.start state) bytes)).1 := by
  unfold singly
  rw [Machine.run_concat, ← Machine.run_puts]
  rfl

/-- Between emissions the encoder on a link is idle. -/
structure Emits (machine : Machine Receiver UInt8 DecoderStatus)
    (encoder : EventEncoder (Link Receiver)) : Prop where
  wired : Link.Wired machine encoder.frame
  idle : encoder.state = .idle

theorem Emits.perform (emits : Emits machine encoder) (emission : EventEmission) :
    Emits machine (emission.perform encoder).1 ∧
      (emission.perform encoder).1.context.receiver =
        machine.run encoder.context.receiver (singly emission.bytes) := by
  have returned := emission.perform_accepted emits.wired.accepts emits.idle
  obtain ⟨idle, count, kept⟩ := emission.perform_leaves emits.wired.accepts emits.idle
  constructor
  · refine ⟨?_, idle⟩
    rw [kept]
    exact ⟨emits.wired.start, emits.wired.put, emits.wired.endFrame⟩
  · rw [emission.perform_context returned, emits.wired.deliver_receiver, run_singly]

theorem Emits.emitAll (emits : Emits machine encoder) (emissions : List EventEmission) :
    (emitAll encoder emissions).context.receiver =
      machine.run encoder.context.receiver
        ((emissions.map EventEmission.bytes).flatMap singly) := by
  induction emissions generalizing encoder with
  | nil => rfl
  | cons emission rest ih =>
      obtain ⟨next, sent⟩ := emits.perform emission
      refine (ih next).trans ?_
      rw [sent, List.map_cons, List.flatMap_cons, Machine.run_append]

end Linked

theorem narrate_emissions (emissions : List EventEmission) :
    eventScript.narrate [] ((emissions.map EventEmission.bytes).flatMap singly) =
      emissions.flatMap EventEmission.told := by
  rw [Script.narrate_singly, List.flatMap_map]
  exact congrArg (List.flatMap · emissions) (funext EventEmission.script_told)

/-- Over a link to a decoder, every sequence of emissions is reported as what the decoder makes of
each of them; none is lost, and an error ends with its emission. -/
theorem emissions_reported (memory : EventReceiver) (emissions : List EventEmission) :
    eventLog (emitAll (eventChannel memory) emissions) =
      emissions.flatMap EventEmission.told := by
  have emits : Emits EventDecoder.machine (eventChannel memory) := ⟨⟨rfl, rfl, rfl⟩, rfl⟩
  have told := EventDecoder.reached_narrated memory
    ((emissions.map EventEmission.bytes).flatMap singly)
  unfold eventLog
  rw [emits.emitAll]
  exact told.trans (narrate_emissions emissions)

end RNodeProtocol
