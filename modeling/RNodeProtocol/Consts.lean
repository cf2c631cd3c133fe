/-
Protocol constants and status codes.

The opcode enumeration carries every constant of the protocol table, commands
and events alike.  A frame header has four bits for an opcode, so a decoder
works on raw bytes and looks the enumerator up; a byte outside the enumeration
has none.

The status and state enumerations of the two decoders agree member for member
and are modelled once.
-/

import Mathlib.Data.List.Basic

namespace RNodeProtocol

inductive RadioState where
  | off
  | on
  | ask
  deriving Repr, DecidableEq

def RadioState.value : RadioState → UInt8
  | .off => 0x00
  | .on => 0x01
  | .ask => 0xFF

def RadioState.ofValue? (value : UInt32) : Option RadioState :=
  [.off, .on, .ask].find? (fun state => state.value.toUInt32 == value)

def detectReq : UInt8 := 0x73

inductive RnodeOpcode where
  | data
  | frequency
  | bandwidth
  | txpower
  | sf
  | cr
  | radioState
  | radioLock
  | detect
  | leave
  | ready
  | statRx
  | statTx
  | statRssi
  | statSnr
  | blink
  | random
  | platform
  | mcu
  | fwVersion
  | romRead
  | reset
  | interfaces
  | error
  deriving Repr, DecidableEq

def RnodeOpcode.value : RnodeOpcode → UInt8
  | .data => 0x00
  | .frequency => 0x01
  | .bandwidth => 0x02
  | .txpower => 0x03
  | .sf => 0x04
  | .cr => 0x05
  | .radioState => 0x06
  | .radioLock => 0x07
  | .detect => 0x08
  | .leave => 0x0A
  | .ready => 0x0F
  | .statRx => 0x21
  | .statTx => 0x22
  | .statRssi => 0x23
  | .statSnr => 0x24
  | .blink => 0x30
  | .random => 0x40
  | .platform => 0x48
  | .mcu => 0x49
  | .fwVersion => 0x50
  | .romRead => 0x51
  | .reset => 0x55
  | .interfaces => 0x71
  | .error => 0x7F

def RnodeOpcode.all : List RnodeOpcode :=
  [.data, .frequency, .bandwidth, .txpower, .sf, .cr, .radioState, .radioLock, .detect, .leave,
    .ready, .statRx, .statTx, .statRssi, .statSnr, .blink, .random, .platform, .mcu, .fwVersion,
    .romRead, .reset, .interfaces, .error]

/-- The enumerator a `switch` over a raw byte selects, if there is one. -/
def RnodeOpcode.ofValue? (value : UInt8) : Option RnodeOpcode :=
  RnodeOpcode.all.find? (fun opcode => opcode.value == value)

theorem RnodeOpcode.ofValue?_value (opcode : RnodeOpcode) :
    RnodeOpcode.ofValue? opcode.value = some opcode := by
  cases opcode <;> rfl

inductive FrameCbStatus where
  | ok
  | abort
  deriving Repr, DecidableEq

inductive StreamCbStatus where
  | ok
  | abort
  deriving Repr, DecidableEq

inductive EncoderStatus where
  | ok
  | aborted
  | frameError
  deriving Repr, DecidableEq

inductive EncoderState where
  | idle
  | transmitting
  deriving Repr, DecidableEq

inductive DecoderStatus where
  | ok
  | aborted
  | invalidLength
  | unknownOpcode
  | invalidArgument
  deriving Repr, DecidableEq

/-- `wait` is `WAIT_COMMAND` in the command decoder and `WAIT_EVENT` in the event decoder. -/
inductive DecoderState where
  | wait
  | readFixed
  | streamData
  | abort
  deriving Repr, DecidableEq

end RNodeProtocol
