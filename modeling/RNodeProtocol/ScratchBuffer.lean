/-
The scratch buffer of the decoders.

Both decoders collect a fixed-length payload in four bytes and read it back as
one big-endian word.  A store past the last byte is dropped by the model; the
decoders never reach it.
-/

import RNodeProtocol.Library.ByteNumerals

namespace RNodeProtocol

open ByteNumerals

abbrev ScratchBuffer := Vector UInt8 4

def ScratchBuffer.store (buffer : ScratchBuffer) (index : UInt32) (byte : UInt8) :
    ScratchBuffer :=
  buffer.setIfInBounds index.toNat byte

/-- The loop both dispatch functions open with. -/
def ScratchBuffer.value (buffer : ScratchBuffer) (opcodeLength : UInt8) : UInt32 :=
  (List.range opcodeLength.toNat).foldl
    (fun value index => (value <<< 8) ||| ((buffer[index]?).getD 0).toUInt32) 0

/-- The buffer holds exactly these bytes so far. -/
def ScratchBuffer.Holds (buffer : ScratchBuffer) (payload : List UInt8) : Prop :=
  payload.length ≤ 4 ∧ ∀ index, index < payload.length → buffer[index]? = payload[index]?

theorem ScratchBuffer.holds_nil (buffer : ScratchBuffer) : buffer.Holds [] :=
  ⟨by decide, fun index before => absurd before (Nat.not_lt_zero index)⟩

theorem ScratchBuffer.Holds.store {buffer : ScratchBuffer} {payload : List UInt8}
    (holds : buffer.Holds payload) (byte : UInt8) (index : UInt32)
    (atEnd : index.toNat = payload.length) (room : payload.length < 4) :
    (buffer.store index byte).Holds (payload ++ [byte]) := by
  constructor
  · rw [List.length_append, List.length_singleton]
    omega
  · intro position before
    rw [List.length_append, List.length_singleton] at before
    unfold ScratchBuffer.store
    rw [Vector.getElem?_setIfInBounds, atEnd]
    by_cases last : payload.length = position
    · subst position
      rw [if_pos rfl, if_pos room, List.getElem?_concat_length]
    · rw [if_neg last, holds.2 position (by omega),
        List.getElem?_append_left (by omega)]

theorem ScratchBuffer.Holds.value_eq {buffer : ScratchBuffer} {payload : List UInt8}
    (holds : buffer.Holds payload) (opcodeLength : UInt8)
    (exact : payload.length = opcodeLength.toNat) :
    buffer.value opcodeLength = UInt32.ofNat (bigEndian payload) := by
  rw [← foldl_shiftIn payload holds.1]
  unfold ScratchBuffer.value
  rw [← exact]
  have read : (List.range payload.length).map (fun index => (buffer[index]?).getD 0) =
      payload := by
    apply List.ext_getElem?
    intro index
    rw [List.getElem?_map]
    by_cases before : index < payload.length
    · rw [List.getElem?_range before, Option.map_some, holds.2 index before,
        List.getElem?_eq_getElem before, Option.getD_some]
    · have after : payload.length ≤ index := Nat.not_lt.mp before
      rw [List.getElem?_eq_none (by rw [List.length_range]; exact after),
        List.getElem?_eq_none after, Option.map_none]
  conv => rhs; rw [← read]
  rw [List.foldl_map]
  rfl

end RNodeProtocol
