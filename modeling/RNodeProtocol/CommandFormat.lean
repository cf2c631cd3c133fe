/-
The command grammar.

A frame is one header byte and a payload.  The header holds an interface and an
opcode of four bits each; an opcode fixes the length of its payload, except for
`DATA`, which takes any.  This module says what a frame means without reference
to any decoder state, and what frame a command is written as.
-/

import RNodeProtocol.CommandDecoderSteps
import RNodeProtocol.Header

namespace RNodeProtocol

open ByteNumerals

/-- A command that fills one frame, with arguments of the types its callback takes. -/
inductive Command where
  | setFrequency (interface : Interface) (hz : UInt32)
  | setBandwidth (interface : Interface) (bandwidth : UInt32)
  | setTxpower (interface : Interface) (dbm : Int8)
  | setSpreadingFactor (interface : Interface) (sf : UInt8)
  | setCodingRate (interface : Interface) (cr : UInt8)
  | setRadioState (interface : Interface) (state : RadioState)
  | setRadioLock (interface : Interface) (lockState : UInt8)
  | detect
  | ready
  | leave
  | transmit (interface : Interface) (payload : List UInt8)
  deriving DecidableEq

/-- The callbacks a command is reported through. -/
def Command.calls : Command → List CommandCall
  | .setFrequency interface hz => [.setFrequency interface.value hz]
  | .setBandwidth interface bandwidth => [.setBandwidth interface.value bandwidth]
  | .setTxpower interface dbm => [.setTxpower interface.value dbm]
  | .setSpreadingFactor interface sf => [.setSpreadingFactor interface.value sf]
  | .setCodingRate interface cr => [.setCodingRate interface.value cr]
  | .setRadioState interface state => [.setRadioState interface.value state]
  | .setRadioLock interface lockState => [.lock interface.value lockState]
  | .detect => [.detect]
  | .ready => [.ready]
  | .leave => [.leave]
  | .transmit interface payload => streamCalls .tx interface.value payload

inductive ParsedCommand where
  | empty
  | accepted (command : Command)
  | rejected (interface opcode : UInt8) (status : DecoderStatus)
  deriving DecidableEq

/-- A payload of fixed length, read as a big-endian number. -/
def parseFixed (header : UInt8) (length : Nat) (payload : List UInt8)
    (command : Interface → Nat → Option Command) : ParsedCommand :=
  if payload.length = length then
    match command (Interface.ofHeader header) (bigEndian payload) with
    | some command => .accepted command
    | none => .rejected (highNibble header) (lowNibble header) .invalidArgument
  else .rejected (highNibble header) (lowNibble header) .invalidLength

def parseRadioState : Nat → Option RadioState
  | 0x00 => some .off
  | 0x01 => some .on
  | 0xFF => some .ask
  | _ => none

/-- Payload length and meaning of the fixed-length commands, by opcode nibble. -/
def fixedCommand : Nat → Option (Nat × (Interface → Nat → Option Command))
  | 0x01 => some (4, fun interface value => some (.setFrequency interface (UInt32.ofNat value)))
  | 0x02 => some (4, fun interface value => some (.setBandwidth interface (UInt32.ofNat value)))
  | 0x03 => some (1, fun interface value => some (.setTxpower interface (UInt8.ofNat value).toInt8))
  | 0x04 =>
      some (1, fun interface value => some (.setSpreadingFactor interface (UInt8.ofNat value)))
  | 0x05 => some (1, fun interface value => some (.setCodingRate interface (UInt8.ofNat value)))
  | 0x06 => some (1, fun interface value => (parseRadioState value).map (.setRadioState interface))
  | 0x07 => some (1, fun interface value => some (.setRadioLock interface (UInt8.ofNat value)))
  | 0x08 => some (1, fun _ value => if value = 0x73 then some .detect else none)
  | 0x0A => some (1, fun _ _ => some .leave)
  | 0x0F => some (0, fun _ _ => some .ready)
  | _ => none

def parsePayload (header : UInt8) (payload : List UInt8) (opcode : Nat) : ParsedCommand :=
  if opcode = 0x00 then .accepted (.transmit (Interface.ofHeader header) payload)
  else
    match fixedCommand opcode with
    | some (length, command) => parseFixed header length payload command
    | none => .rejected (highNibble header) (lowNibble header) .unknownOpcode

def parseCommand : List UInt8 → ParsedCommand
  | [] => .empty
  | header :: payload => parsePayload header payload (lowNibble header).toNat

/-- The calls that report a parsed frame; an error carries some index. -/
def ParsedCommand.ReportedBy : ParsedCommand → List CommandCall → Prop
  | .empty, calls => calls = []
  | .accepted command, calls => calls = command.calls
  | .rejected interface opcode status, calls =>
      ∃ index, calls = [.error interface opcode index status]

/-! ### Writing commands -/

def Command.frame : Command → List UInt8
  | .setFrequency interface hz => interface.header .frequency :: wordBytes hz
  | .setBandwidth interface bandwidth => interface.header .bandwidth :: wordBytes bandwidth
  | .setTxpower interface dbm => [interface.header .txpower, dbm.toUInt8]
  | .setSpreadingFactor interface sf => [interface.header .sf, sf]
  | .setCodingRate interface cr => [interface.header .cr, cr]
  | .setRadioState interface state => [interface.header .radioState, state.value]
  | .setRadioLock interface lockState => [interface.header .radioLock, lockState]
  | .detect => [Interface.global.header .detect, detectReq]
  | .ready => [Interface.global.header .ready]
  | .leave => [Interface.global.header .leave, 0]
  | .transmit interface payload => interface.header .data :: payload

theorem parseCommand_fixed (interface : Interface) (opcode : RnodeOpcode)
    {payload : List UInt8} {length : Nat} {build : Interface → Nat → Option Command}
    {command : Command} (notData : (lowNibble opcode.value).toNat ≠ 0x00)
    (table : fixedCommand (lowNibble opcode.value).toNat = some (length, build))
    (sized : payload.length = length)
    (built : build interface (bigEndian payload) = some command) :
    parseCommand (interface.header opcode :: payload) = .accepted command := by
  change parsePayload _ payload (lowNibble (interface.header opcode)).toNat = _
  unfold parsePayload
  rw [interface.lowNibble_header, if_neg notData, table]
  change parseFixed _ length payload build = _
  unfold parseFixed
  rw [if_pos sized, interface.ofHeader_header, built]

/-- Parsing is a left inverse of writing. -/
theorem parseCommand_frame (command : Command) :
    parseCommand command.frame = .accepted command := by
  cases command with
  | setFrequency interface hz =>
      refine parseCommand_fixed interface .frequency (by decide) rfl rfl ?_
      rw [bigEndian_wordBytes, UInt32.ofNat_toNat]
  | setBandwidth interface bandwidth =>
      refine parseCommand_fixed interface .bandwidth (by decide) rfl rfl ?_
      rw [bigEndian_wordBytes, UInt32.ofNat_toNat]
  | setTxpower interface dbm =>
      refine parseCommand_fixed interface .txpower (by decide) rfl rfl ?_
      rw [bigEndian_singleton, UInt8.ofNat_toNat, Int8.toInt8_toUInt8]
  | setSpreadingFactor interface sf =>
      refine parseCommand_fixed interface .sf (by decide) rfl rfl ?_
      rw [bigEndian_singleton, UInt8.ofNat_toNat]
  | setCodingRate interface cr =>
      refine parseCommand_fixed interface .cr (by decide) rfl rfl ?_
      rw [bigEndian_singleton, UInt8.ofNat_toNat]
  | setRadioState interface state =>
      refine parseCommand_fixed interface .radioState (by decide) rfl rfl ?_
      rw [bigEndian_singleton]
      cases state <;> rfl
  | setRadioLock interface lockState =>
      refine parseCommand_fixed interface .radioLock (by decide) rfl rfl ?_
      rw [bigEndian_singleton, UInt8.ofNat_toNat]
  | detect => exact parseCommand_fixed Interface.global .detect (by decide) rfl rfl rfl
  | ready => exact parseCommand_fixed Interface.global .ready (by decide) rfl rfl rfl
  | leave => exact parseCommand_fixed Interface.global .leave (by decide) rfl rfl rfl
  | transmit interface payload =>
      change parsePayload _ payload (lowNibble (interface.header .data)).toNat = _
      rw [interface.lowNibble_header]
      exact congrArg (fun source => ParsedCommand.accepted (.transmit source payload))
        (interface.ofHeader_header .data)

end RNodeProtocol
