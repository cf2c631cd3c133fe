/-
The event grammar of the decoder.

Seven kinds of event have an opcode in the decoder's tables.  This module says
which frame each is written as and what a frame means, without reference to any
decoder state.
-/

import RNodeProtocol.EventDecoderSteps
import RNodeProtocol.Header

namespace RNodeProtocol

open ByteNumerals

inductive Event where
  | rssi (interface : Interface) (rssi : Int8)
  | snr (interface : Interface) (snr : Int8)
  | blink (interface : Interface)
  | platform (interface : Interface) (id : UInt8)
  | mcu (interface : Interface) (id : UInt8)
  | stat (kind : StreamKind) (interface : Interface) (payload : List UInt8)
  deriving DecidableEq

/-- The callbacks an event is reported through. -/
def Event.calls : Event → List EventCall
  | .rssi interface value => [.rssi interface.value value]
  | .snr interface value => [.snr interface.value value]
  | .blink _ => [.blink]
  | .platform interface id => [.platform interface.value id]
  | .mcu interface id => [.mcu interface.value id]
  | .stat kind interface payload => streamCalls (.stream kind) interface.value payload

inductive ParsedEvent where
  | empty
  | accepted (event : Event)
  | rejected (interface opcode : UInt8) (status : DecoderStatus)
  deriving DecidableEq

/-- Payload length and meaning of the fixed-length events, by opcode nibble. -/
def fixedEvent : Nat → Option (Nat × (Interface → Nat → Event))
  | 0x00 => some (0, fun interface _ => .blink interface)
  | 0x03 => some (1, fun interface value => .rssi interface (UInt8.ofNat value).toInt8)
  | 0x04 => some (1, fun interface value => .snr interface (UInt8.ofNat value).toInt8)
  | 0x08 => some (1, fun interface value => .platform interface (UInt8.ofNat value))
  | 0x09 => some (1, fun interface value => .mcu interface (UInt8.ofNat value))
  | _ => none

def streamEvent : Nat → Option StreamKind
  | 0x01 => some .statRx
  | 0x02 => some .statTx
  | _ => none

def parseEventPayload (header : UInt8) (payload : List UInt8) (opcode : Nat) : ParsedEvent :=
  match streamEvent opcode with
  | some kind => .accepted (.stat kind (Interface.ofHeader header) payload)
  | none =>
      match fixedEvent opcode with
      | some (length, event) =>
          if payload.length = length then
            .accepted (event (Interface.ofHeader header) (bigEndian payload))
          else .rejected (highNibble header) (lowNibble header) .invalidLength
      | none => .rejected (highNibble header) (lowNibble header) .unknownOpcode

def parseEvent : List UInt8 → ParsedEvent
  | [] => .empty
  | header :: payload => parseEventPayload header payload (lowNibble header).toNat

/-! ### Writing events -/

def StreamKind.opcode : StreamKind → RnodeOpcode
  | .statRx => .statRx
  | .statTx => .statTx

def Event.frame : Event → List UInt8
  | .rssi interface value => [interface.header .statRssi, value.toUInt8]
  | .snr interface value => [interface.header .statSnr, value.toUInt8]
  | .blink interface => [interface.header .blink]
  | .platform interface id => [interface.header .platform, id]
  | .mcu interface id => [interface.header .mcu, id]
  | .stat kind interface payload => interface.header kind.opcode :: payload

theorem parseEvent_fixed (interface : Interface) (opcode : RnodeOpcode) (payload : List UInt8)
    {length : Nat} {build : Interface → Nat → Event}
    (notStream : streamEvent (lowNibble opcode.value).toNat = none)
    (table : fixedEvent (lowNibble opcode.value).toNat = some (length, build))
    (sized : payload.length = length) :
    parseEvent (interface.header opcode :: payload) =
      .accepted (build interface (bigEndian payload)) := by
  change parseEventPayload _ payload (lowNibble (interface.header opcode)).toNat = _
  unfold parseEventPayload
  rw [interface.lowNibble_header, notStream, table]
  dsimp only
  rw [if_pos sized, interface.ofHeader_header]

/-- Parsing is a left inverse of writing. -/
theorem parseEvent_frame (event : Event) : parseEvent event.frame = .accepted event := by
  cases event with
  | rssi interface value =>
      refine (parseEvent_fixed interface .statRssi [value.toUInt8] rfl rfl rfl).trans ?_
      rw [bigEndian_singleton, UInt8.ofNat_toNat, Int8.toInt8_toUInt8]
  | snr interface value =>
      refine (parseEvent_fixed interface .statSnr [value.toUInt8] rfl rfl rfl).trans ?_
      rw [bigEndian_singleton, UInt8.ofNat_toNat, Int8.toInt8_toUInt8]
  | blink interface => exact parseEvent_fixed interface .blink [] rfl rfl rfl
  | platform interface id =>
      refine (parseEvent_fixed interface .platform [id] rfl rfl rfl).trans ?_
      rw [bigEndian_singleton, UInt8.ofNat_toNat]
  | mcu interface id =>
      refine (parseEvent_fixed interface .mcu [id] rfl rfl rfl).trans ?_
      rw [bigEndian_singleton, UInt8.ofNat_toNat]
  | stat kind interface payload =>
      have streamed : streamEvent (lowNibble kind.opcode.value).toNat = some kind := by
        cases kind <;> rfl
      change parseEventPayload _ payload (lowNibble (interface.header kind.opcode)).toNat = _
      unfold parseEventPayload
      rw [interface.lowNibble_header, streamed, interface.ofHeader_header]

end RNodeProtocol
