/-
The header byte of a frame: an interface and an opcode of four bits each.
-/

import RNodeProtocol.Consts
import RNodeProtocol.Library.ByteNumerals

namespace RNodeProtocol

open ByteNumerals

/-- An interface identifier that fits the header. -/
structure Interface where
  value : UInt8
  inRange : value < 16
  deriving DecidableEq

def Interface.ofHeader (header : UInt8) : Interface :=
  { value := highNibble header
    inRange := by
      change (highNibble header).toNat < 16
      have bounded := header.toNat_lt
      rw [highNibble_toNat]
      omega }

def Interface.header (interface : Interface) (opcode : RnodeOpcode) : UInt8 :=
  packNibbles interface.value opcode.value

/-- Interface 0, for the commands that address the whole device. -/
def Interface.global : Interface :=
  { value := 0
    inRange := by decide }

theorem Interface.ofHeader_header (interface : Interface) (opcode : RnodeOpcode) :
    Interface.ofHeader (interface.header opcode) = interface := by
  cases interface with
  | mk value inRange =>
      unfold Interface.ofHeader Interface.header
      congr 1
      exact highNibble_packNibbles value opcode.value inRange

theorem Interface.header_ofHeader {header : UInt8} {opcode : RnodeOpcode}
    (nibble : lowNibble header = lowNibble opcode.value) :
    (Interface.ofHeader header).header opcode = header := by
  change packNibbles (highNibble header) opcode.value = header
  apply UInt8.toNat_inj.mp
  have values := congrArg UInt8.toNat nibble
  rw [lowNibble_toNat, lowNibble_toNat] at values
  have bounded := header.toNat_lt
  rw [packNibbles_toNat, highNibble_toNat, ← values]
  omega

theorem Interface.lowNibble_header (interface : Interface) (opcode : RnodeOpcode) :
    lowNibble (interface.header opcode) = lowNibble opcode.value :=
  lowNibble_packNibbles interface.value opcode.value

theorem Interface.highNibble_header (interface : Interface) (opcode : RnodeOpcode) :
    highNibble (interface.header opcode) = interface.value :=
  highNibble_packNibbles interface.value opcode.value interface.inRange

end RNodeProtocol
