/-
What the scratch buffer holds.

While a decoder reads a fixed-length payload, its length field is the table's
entry for its opcode, and the cells below its index hold the payload bytes
received since the header.  A start clears neither the length nor the buffer,
and the index also counts streams of any length, so the fields are followed
together through every call.
-/

import RNodeProtocol.CommandContexts
import RNodeProtocol.ErrorReports
import RNodeProtocol.EventContexts
import RNodeProtocol.EventDecoderFrames
import RNodeProtocol.SurplusBytes
import RNodeProtocol.Library.PendingInput

namespace RNodeProtocol

open ByteNumerals FramedInput

/-! ### The fields of a payload in progress -/

/-- The decoder fields a fixed-length payload is read with. -/
structure Scratch where
  state : DecoderState
  interface : UInt8
  opcode : UInt8
  opcodeLength : UInt8
  payloadIndex : UInt32
  smallbuf : ScratchBuffer

namespace Scratch

/-- The payload received so far after this header, in the buffer from its first cell on. -/
structure Reads (table : UInt8 → Int) (scratch : Scratch) (header : UInt8)
    (payload : List UInt8) : Prop where
  interface : scratch.interface = highNibble header
  opcode : scratch.opcode = lowNibble header
  length : table scratch.opcode = scratch.opcodeLength.toNat
  short : scratch.opcodeLength ≤ 4
  counted : scratch.payloadIndex.toNat = payload.length
  within : scratch.payloadIndex ≤ 4
  holds : scratch.smallbuf.Holds payload

/-- The fields agree with what the frame at hand has received. -/
structure Follows (table : UInt8 → Int) (scratch : Scratch) (input : List UInt8) : Prop where
  wait : scratch.state = .wait → input = []
  readFixed : scratch.state = .readFixed →
    ∃ header payload, input = header :: payload ∧ scratch.Reads table header payload

variable {table : UInt8 → Int} {scratch : Scratch} {input : List UInt8}

theorem Follows.started (waiting : scratch.state = .wait) : scratch.Follows table [] := by
  refine ⟨fun _ => rfl, ?_⟩
  intro reading
  rw [waiting] at reading
  cases reading

/-- Outside a fixed-length frame nothing is asked of the fields. -/
theorem Follows.elsewhere (notWaiting : scratch.state ≠ .wait)
    (notReading : scratch.state ≠ .readFixed) : scratch.Follows table input :=
  ⟨fun waiting => absurd waiting notWaiting, fun reading => absurd reading notReading⟩

theorem Follows.streaming (streaming : scratch.state = .streamData) :
    scratch.Follows table input := by
  apply Follows.elsewhere <;> rw [streaming] <;> decide

theorem Follows.aborted (aborted : scratch.state = .abort) : scratch.Follows table input := by
  apply Follows.elsewhere <;> rw [aborted] <;> decide

theorem Follows.header (follows : scratch.Follows table input) (waiting : scratch.state = .wait)
    (byte : UInt8) {size : Nat} (short : size ≤ 4) (length : table (lowNibble byte) = size) :
    Follows table
      { scratch with
        state := .readFixed
        interface := highNibble byte
        opcode := lowNibble byte
        opcodeLength := UInt8.ofInt (table (lowNibble byte))
        payloadIndex := 0 } (input ++ [byte]) := by
  rw [follows.wait waiting]
  refine ⟨nofun, fun _ => ⟨byte, [], rfl, ?_⟩⟩
  have stored : (UInt8.ofInt (size : Int)).toNat = size :=
    CommandDecoder.opcodeLength_ofInt size short
  constructor
  · rfl
  · rfl
  · change table (lowNibble byte) = ((UInt8.ofInt (table (lowNibble byte))).toNat : Int)
    rw [length, stored]
  · change (UInt8.ofInt (table (lowNibble byte))).toNat ≤ 4
    rw [length, stored]
    exact short
  · rfl
  · exact (by decide : (0 : UInt32) ≤ 4)
  · exact ScratchBuffer.holds_nil _

theorem Follows.store (follows : scratch.Follows table input)
    (reading : scratch.state = .readFixed) (byte : UInt8) (room : scratch.payloadIndex < 4) :
    Follows table
      { scratch with
        smallbuf := scratch.smallbuf.store scratch.payloadIndex byte
        payloadIndex := scratch.payloadIndex + 1 } (input ++ [byte]) := by
  obtain ⟨header, payload, rfl, reads⟩ := follows.readFixed reading
  have before : payload.length < 4 := by
    rw [← reads.counted]
    exact room
  have advanced : (scratch.payloadIndex + 1).toNat = payload.length + 1 := by
    rw [UInt32.toNat_add, reads.counted]
    change (payload.length + 1) % 2 ^ 32 = payload.length + 1
    omega
  refine ⟨?_, fun _ => ⟨header, payload ++ [byte], rfl, ?_⟩⟩
  · intro waiting
    exact absurd (reading.symm.trans waiting) (by decide)
  · constructor
    · exact reads.interface
    · exact reads.opcode
    · exact reads.length
    · exact reads.short
    · rw [List.length_append, List.length_singleton]
      exact advanced
    · change (scratch.payloadIndex + 1).toNat ≤ 4
      omega
    · exact reads.holds.store byte scratch.payloadIndex reads.counted before

/-- The payload is complete, so an end dispatches it. -/
def Complete (scratch : Scratch) : Prop :=
  scratch.state = .readFixed ∧ scratch.payloadIndex = scratch.opcodeLength.toUInt32

theorem Reads.complete_length {header : UInt8} {payload : List UInt8}
    (reads : scratch.Reads table header payload) (complete : scratch.Complete) :
    payload.length = scratch.opcodeLength.toNat := by
  rw [← reads.counted, complete.2]
  exact UInt8.toNat_toUInt32 _

/-- No bit of the payload is lost in the word the dispatch is given. -/
theorem Reads.value_toNat {header : UInt8} {payload : List UInt8}
    (reads : scratch.Reads table header payload) (complete : scratch.Complete) :
    (scratch.smallbuf.value scratch.opcodeLength).toNat = bigEndian payload := by
  have sized := reads.complete_length complete
  have bounded : bigEndian payload < 2 ^ 32 := by
    calc bigEndian payload < 256 ^ payload.length := bigEndian_lt payload
      _ ≤ 256 ^ 4 := Nat.pow_le_pow_right (by decide) reads.holds.1
      _ = 2 ^ 32 := by decide
  rw [reads.holds.value_eq scratch.opcodeLength sized]
  exact UInt32.toNat_ofNat_of_lt' bounded

/-- What a decoder may rely on in a state: the fields against the input of the frame, the index a
put would store at, the indices the value loop of an end would read, and the status of the
dispatch. -/
structure Safe (table : UInt8 → Int) (scratch : Scratch) (storeIndex : Option UInt32)
    (dispatched : DecoderStatus) (input : List UInt8) : Prop where
  contents : scratch.state = .readFixed →
    ∃ header payload, input = header :: payload ∧ scratch.Reads table header payload
  store : ∀ index, storeIndex = some index → index.toNat < 4
  load : scratch.Complete → ∀ index, index < scratch.opcodeLength.toNat →
    index < 4 ∧ ∃ byte, input.tail[index]? = some byte ∧ scratch.smallbuf[index]? = some byte
  value : scratch.Complete →
    (scratch.smallbuf.value scratch.opcodeLength).toNat = bigEndian input.tail
  dispatch : scratch.Complete → dispatched ≠ .unknownOpcode

theorem Follows.safe (follows : scratch.Follows table input) {storeIndex : Option UInt32}
    {dispatched : DecoderStatus}
    (stores : ∀ index, storeIndex = some index →
      scratch.state = .readFixed ∧ (index < 4 ∨ index < scratch.opcodeLength.toUInt32))
    (known : ∀ size : Nat, table scratch.opcode = size → dispatched ≠ .unknownOpcode) :
    scratch.Safe table storeIndex dispatched input := by
  constructor
  · exact follows.readFixed
  · intro index storing
    obtain ⟨reading, within⟩ := stores index storing
    obtain ⟨header, payload, _, reads⟩ := follows.readFixed reading
    rcases within with room | room
    · exact room
    · have short : scratch.opcodeLength.toNat ≤ 4 := reads.short
      have before : index.toNat < scratch.opcodeLength.toUInt32.toNat := room
      rw [UInt8.toNat_toUInt32] at before
      omega
  · intro complete index before
    obtain ⟨header, payload, rfl, reads⟩ := follows.readFixed complete.1
    have sized := reads.complete_length complete
    have short : scratch.opcodeLength.toNat ≤ 4 := reads.short
    have received : index < payload.length := by omega
    refine ⟨by omega, payload[index], List.getElem?_eq_getElem received, ?_⟩
    rw [reads.holds.2 index received, List.getElem?_eq_getElem received]
  · intro complete
    obtain ⟨header, payload, rfl, reads⟩ := follows.readFixed complete.1
    exact reads.value_toNat complete
  · intro complete
    obtain ⟨header, payload, _, reads⟩ := follows.readFixed complete.1
    exact known _ reads.length

end Scratch

/-! ### The command decoder -/

namespace CommandDecoder

variable {Ctx : Type}

def scratch (decoder : CommandDecoder Ctx) : Scratch :=
  { state := decoder.state
    interface := decoder.interface
    opcode := decoder.opcode
    opcodeLength := decoder.opcodeLength
    payloadIndex := decoder.payloadIndex
    smallbuf := decoder.smallbuf }

/-- The index at which a put writes the buffer, if it does. -/
def storeIndex (decoder : CommandDecoder Ctx) : Option UInt32 :=
  if decoder.state = .readFixed ∧ decoder.payloadIndex < 4 then some decoder.payloadIndex
  else none

theorem storeIndex_idle {decoder : CommandDecoder Ctx} (idle : decoder.state ≠ .readFixed) :
    decoder.storeIndex = none :=
  if_neg (fun storing => idle storing.1)

theorem put_smallbuf (decoder : CommandDecoder Ctx) (byte : UInt8) :
    (decoder.put byte).1.smallbuf =
      match decoder.storeIndex with
      | some index => decoder.smallbuf.store index byte
      | none => decoder.smallbuf := by
  cases state : decoder.state with
  | wait =>
      rw [storeIndex_idle (by rw [state]; decide)]
      unfold CommandDecoder.put
      rw [state]
      dsimp only
      split
      · rfl
      · split <;> rfl
  | readFixed =>
      by_cases room : decoder.payloadIndex < 4
      · have storing : decoder.storeIndex = some decoder.payloadIndex := if_pos ⟨state, room⟩
        rw [storing, put_room state byte room]
      · have full : decoder.storeIndex = none := if_neg (fun storing => room storing.2)
        unfold CommandDecoder.put
        rw [full, state]
        dsimp only
        rw [if_neg room]
        rfl
  | streamData =>
      rw [storeIndex_idle (by rw [state]; decide)]
      unfold CommandDecoder.put
      rw [state]
      dsimp only
      split <;> rfl
  | abort => rw [storeIndex_idle (by rw [state]; decide), put_abort state byte]

theorem endFrame_smallbuf (decoder : CommandDecoder Ctx) :
    decoder.endFrame.1.smallbuf = decoder.smallbuf := by
  unfold CommandDecoder.endFrame
  cases decoder.state with
  | wait => rfl
  | readFixed =>
      dsimp only
      split
      · obtain ⟨context, fired⟩ := decoder.fixedLengthCommand_unchanged
        rw [fired]
        rfl
      · rfl
  | streamData =>
      dsimp only
      split <;> rfl
  | abort => rfl

/-- A put writes the buffer at its store index or not at all, an end never does, and both the
indices and the dispatch are safe. -/
structure ScratchSafe (decoder : CommandDecoder Ctx) (input : List UInt8) : Prop where
  safe : decoder.scratch.Safe rnodeProtoOpcodeLength decoder.storeIndex
    decoder.fixedLengthCommand.2 input
  put : ∀ byte, (decoder.put byte).1.smallbuf =
    match decoder.storeIndex with
    | some index => decoder.smallbuf.store index byte
    | none => decoder.smallbuf
  endFrame : decoder.endFrame.1.smallbuf = decoder.smallbuf

variable {registered : CommandSlot → Bool} {answer : CommandAnswer}
  {decoder : CommandDecoder (List CommandCall)} {input : List UInt8}

theorem Recorded.put_follows (recorded : Recorded registered answer decoder)
    (follows : decoder.scratch.Follows rnodeProtoOpcodeLength input) (byte : UInt8) :
    (decoder.put byte).1.scratch.Follows rnodeProtoOpcodeLength (input ++ [byte]) := by
  have step := recorded.put_step byte
  generalize decoder.put byte = result at step ⊢
  cases step with
  | unknown _ _ => exact .aborted rfl
  | streamHeader _ _ => exact .streaming rfl
  | fixedHeader waiting known fixed =>
      cases opcodeClass (lowNibble_lt byte) with
      | unknown length _ _ => exact absurd length known
      | streamed length _ => exact absurd length fixed
      | fixed bound short length _ _ _ _ => exact follows.header waiting byte short length
  | room reading room => exact follows.store reading byte room
  | full _ _ => exact .aborted rfl
  | accepted streaming _ => exact .streaming streaming
  | refused _ _ _ => exact .aborted rfl
  | ignored aborted => exact .aborted aborted

theorem Recorded.end_follows (recorded : Recorded registered answer decoder) :
    decoder.endFrame.1.scratch.Follows rnodeProtoOpcodeLength [] := by
  have step := recorded.end_step
  generalize decoder.endFrame = result at step ⊢
  cases step with
  | refused _ _ _ => exact .aborted rfl
  | _ => exact .started rfl

theorem Recorded.scratch_tracks :
    machine.Tracks fun (decoder : CommandDecoder (List CommandCall)) input =>
      Recorded registered answer decoder ∧
        decoder.scratch.Follows rnodeProtoOpcodeLength input where
  start := fun _ _ tracked => ⟨tracked.1.start, .started rfl⟩
  put := fun _ _ byte tracked =>
    ⟨tracked.1.put byte, tracked.1.put_follows tracked.2 byte⟩
  refused := fun decoder _ byte _ tracked refused =>
    ⟨tracked.1.put byte, .aborted (failStop.refused decoder byte refused)⟩
  endFrame := fun _ _ tracked => ⟨tracked.1.endFrame, tracked.1.end_follows⟩

end CommandDecoder

namespace CommandSetup

open CommandDecoder (rnodeProtoOpcodeLength)

variable {Ctx : Type}

theorem reached_follows (setup : CommandSetup Ctx) (memory : CommandDecoder Ctx)
    (operations : List (Operation UInt8)) :
    (setup.reached memory operations).scratch.Follows rnodeProtoOpcodeLength
      (pendingInput operations) := by
  have tracked := CommandDecoder.Recorded.scratch_tracks.run
    ⟨CommandDecoder.fresh_recorded (memoryFor memory) setup.registers setup.answer,
      .started rfl⟩ operations
  rw [(setup.reached_images memory operations).image]
  exact tracked.2

theorem dispatch_known (setup : CommandSetup Ctx)
    (recorded : CommandDecoder (List CommandCall)) {size : Nat}
    (length : rnodeProtoOpcodeLength recorded.opcode = size) :
    (setup.image recorded).fixedLengthCommand.2 ≠ .unknownOpcode := by
  rw [setup.fixedLengthCommand_image]
  cases dispatched : CommandDecoder.dispatchCall recorded.interface recorded.opcode
      (recorded.smallbuf.value recorded.opcodeLength) with
  | ok call => exact nofun
  | error status =>
      obtain ⟨rejected, _⟩ := CommandDecoder.dispatchCall_error (by omega) (by omega) dispatched
      rw [rejected]
      exact nofun

theorem reached_safe (setup : CommandSetup Ctx) (memory : CommandDecoder Ctx)
    (operations : List (Operation UInt8)) :
    (setup.reached memory operations).ScratchSafe (pendingInput operations) := by
  refine ⟨?_, (setup.reached memory operations).put_smallbuf,
    (setup.reached memory operations).endFrame_smallbuf⟩
  apply (setup.reached_follows memory operations).safe
  · intro index storing
    unfold CommandDecoder.storeIndex at storing
    split at storing
    · rename_i reading
      cases storing
      exact ⟨reading.1, .inl reading.2⟩
    · cases storing
  · intro size length
    rw [(setup.reached_images memory operations).image] at length ⊢
    exact setup.dispatch_known _ length

end CommandSetup

/-! ### The event decoder -/

namespace EventDecoder

variable {Ctx : Type}

def scratch (decoder : EventDecoder Ctx) : Scratch :=
  { state := decoder.state
    interface := decoder.interface
    opcode := decoder.opcode
    opcodeLength := decoder.opcodeLength
    payloadIndex := decoder.payloadIndex
    smallbuf := decoder.smallbuf }

/-- The index at which a put writes the buffer, if it does. -/
def storeIndex (decoder : EventDecoder Ctx) : Option UInt32 :=
  if decoder.state = .readFixed ∧ decoder.payloadIndex < decoder.opcodeLength.toUInt32 then
    some decoder.payloadIndex
  else none

theorem storeIndex_idle {decoder : EventDecoder Ctx} (idle : decoder.state ≠ .readFixed) :
    decoder.storeIndex = none :=
  if_neg (fun storing => idle storing.1)

theorem selectStreamCallbacks_smallbuf (decoder : EventDecoder Ctx) :
    decoder.selectStreamCallbacks.smallbuf = decoder.smallbuf := by
  unfold EventDecoder.selectStreamCallbacks
  split <;> rfl

theorem put_smallbuf (decoder : EventDecoder Ctx) (byte : UInt8) :
    (decoder.put byte).1.smallbuf =
      match decoder.storeIndex with
      | some index => decoder.smallbuf.store index byte
      | none => decoder.smallbuf := by
  cases state : decoder.state with
  | wait =>
      rw [storeIndex_idle (by rw [state]; decide)]
      unfold EventDecoder.put
      rw [state]
      dsimp only
      split
      · rfl
      · split
        · split <;> exact selectStreamCallbacks_smallbuf _
        · rfl
  | readFixed =>
      by_cases room : decoder.payloadIndex < decoder.opcodeLength.toUInt32
      · have storing : decoder.storeIndex = some decoder.payloadIndex := if_pos ⟨state, room⟩
        rw [storing, put_room state byte room]
      · have full : decoder.storeIndex = none := if_neg (fun storing => room storing.2)
        unfold EventDecoder.put
        rw [full, state]
        dsimp only
        rw [if_neg room]
        rfl
  | streamData =>
      rw [storeIndex_idle (by rw [state]; decide)]
      unfold EventDecoder.put
      rw [state]
      dsimp only
      split
      · split <;> rfl
      · rfl
  | abort => rw [storeIndex_idle (by rw [state]; decide), put_abort state byte]

theorem fixedLengthEvent_smallbuf (decoder : EventDecoder Ctx) :
    decoder.fixedLengthEvent.1.smallbuf = decoder.smallbuf := by
  unfold EventDecoder.fixedLengthEvent EventDecoder.dispatchEvent
  repeat' split
  all_goals rfl

theorem endFrame_smallbuf (decoder : EventDecoder Ctx) :
    decoder.endFrame.1.smallbuf = decoder.smallbuf := by
  unfold EventDecoder.endFrame
  cases decoder.state with
  | wait => rfl
  | readFixed =>
      dsimp only
      split
      · exact decoder.fixedLengthEvent_smallbuf
      · rfl
  | streamData =>
      dsimp only
      repeat' split
      all_goals rfl
  | abort => rfl

theorem dispatchCall_known {opcode : UInt8} {size : Nat}
    (length : rnodeEventOpcodeLength opcode = size) (interface : UInt8) (value : UInt32) :
    ∃ call, dispatchCall interface opcode value = .ok call := by
  unfold rnodeEventOpcodeLength at length
  split at length
  all_goals
    first
    | omega
    | exact ⟨_, rfl⟩

/-- A put writes the buffer at its store index or not at all, an end never does, and both the
indices and the dispatch are safe. -/
structure ScratchSafe (decoder : EventDecoder Ctx) (input : List UInt8) : Prop where
  safe : decoder.scratch.Safe rnodeEventOpcodeLength decoder.storeIndex
    decoder.fixedLengthEvent.2 input
  put : ∀ byte, (decoder.put byte).1.smallbuf =
    match decoder.storeIndex with
    | some index => decoder.smallbuf.store index byte
    | none => decoder.smallbuf
  endFrame : decoder.endFrame.1.smallbuf = decoder.smallbuf

variable {registered : EventSlot → Bool} {answer : EventAnswer}
  {decoder : EventDecoder (List EventCall)} {input : List UInt8}

theorem Recorded.put_follows (recorded : Recorded registered answer decoder)
    (follows : decoder.scratch.Follows rnodeEventOpcodeLength input) (byte : UInt8) :
    (decoder.put byte).1.scratch.Follows rnodeEventOpcodeLength (input ++ [byte]) := by
  have step := recorded.put_step byte
  generalize decoder.put byte = result at step ⊢
  cases step with
  | unknown _ _ => exact .aborted rfl
  | streamHeader _ _ _ _ => exact .streaming rfl
  | fixedHeader waiting size short length =>
      exact follows.header waiting byte (Nat.le_trans short (by decide)) length
  | room reading room =>
      obtain ⟨header, payload, _, reads⟩ := follows.readFixed reading
      have short : decoder.opcodeLength.toNat ≤ 4 := reads.short
      have before : decoder.payloadIndex.toNat < decoder.opcodeLength.toUInt32.toNat := room
      rw [UInt8.toNat_toUInt32] at before
      exact follows.store reading byte (Nat.lt_of_lt_of_le before short)
  | full _ _ => exact .aborted rfl
  | accepted streaming _ _ _ => exact .streaming streaming
  | refused _ _ _ _ _ => exact .aborted rfl
  | ignored aborted => exact .aborted aborted

theorem Recorded.end_follows (recorded : Recorded registered answer decoder) :
    decoder.endFrame.1.scratch.Follows rnodeEventOpcodeLength [] := by
  have step := recorded.end_step
  generalize decoder.endFrame = result at step ⊢
  cases step with
  | refused _ _ _ _ _ => exact .aborted rfl
  | _ => exact .started rfl

theorem Recorded.scratch_tracks :
    machine.Tracks fun (decoder : EventDecoder (List EventCall)) input =>
      Recorded registered answer decoder ∧
        decoder.scratch.Follows rnodeEventOpcodeLength input where
  start := fun _ _ tracked => ⟨tracked.1.start, .started rfl⟩
  put := fun _ _ byte tracked =>
    ⟨tracked.1.put byte, tracked.1.put_follows tracked.2 byte⟩
  refused := fun decoder _ byte _ tracked refused =>
    ⟨tracked.1.put byte, .aborted (failStop.refused decoder byte refused)⟩
  endFrame := fun _ _ tracked => ⟨tracked.1.endFrame, tracked.1.end_follows⟩

end EventDecoder

namespace EventSetup

open EventDecoder (rnodeEventOpcodeLength)

variable {Ctx : Type}

theorem reached_follows (setup : EventSetup Ctx) (memory : EventDecoder Ctx)
    (operations : List (Operation UInt8)) :
    (setup.reached memory operations).scratch.Follows rnodeEventOpcodeLength
      (pendingInput operations) := by
  have tracked := EventDecoder.Recorded.scratch_tracks.run
    ⟨EventDecoder.fresh_recorded (memoryFor memory) setup.registers setup.answer,
      .started rfl⟩ operations
  obtain ⟨pointers, reached, _⟩ := (setup.reached_images memory operations).image
  rw [reached]
  exact tracked.2

theorem dispatch_known (setup : EventSetup Ctx) (pointers : StreamCallbacks Ctx)
    (recorded : EventDecoder (List EventCall)) {size : Nat}
    (length : rnodeEventOpcodeLength recorded.opcode = size) :
    (setup.image pointers recorded).fixedLengthEvent.2 ≠ .unknownOpcode := by
  obtain ⟨call, dispatched⟩ := EventDecoder.dispatchCall_known length recorded.interface
    (recorded.smallbuf.value recorded.opcodeLength)
  have read : (setup.image pointers recorded).smallbuf.value
      (setup.image pointers recorded).opcodeLength =
        recorded.smallbuf.value recorded.opcodeLength := rfl
  unfold EventDecoder.fixedLengthEvent
  rw [read, setup.dispatchEvent_image pointers recorded dispatched]
  exact nofun

theorem reached_safe (setup : EventSetup Ctx) (memory : EventDecoder Ctx)
    (operations : List (Operation UInt8)) :
    (setup.reached memory operations).ScratchSafe (pendingInput operations) := by
  refine ⟨?_, (setup.reached memory operations).put_smallbuf,
    (setup.reached memory operations).endFrame_smallbuf⟩
  apply (setup.reached_follows memory operations).safe
  · intro index storing
    unfold EventDecoder.storeIndex at storing
    split at storing
    · rename_i reading
      cases storing
      exact ⟨reading.1, .inr reading.2⟩
    · cases storing
  · intro size length
    obtain ⟨pointers, reached, _⟩ := (setup.reached_images memory operations).image
    rw [reached] at length ⊢
    exact setup.dispatch_known pointers _ length

end EventSetup

/-- The scratch buffers of both decoders are safe after any run, on any memory and with any
callbacks. -/
theorem reached_scratchSafe {CommandCtx EventCtx : Type} (commands : CommandSetup CommandCtx)
    (commandMemory : CommandDecoder CommandCtx) (events : EventSetup EventCtx)
    (eventMemory : EventDecoder EventCtx) (operations : List (Operation UInt8)) :
    (commands.reached commandMemory operations).ScratchSafe (pendingInput operations) ∧
      (events.reached eventMemory operations).ScratchSafe (pendingInput operations) :=
  ⟨commands.reached_safe commandMemory operations, events.reached_safe eventMemory operations⟩

end RNodeProtocol
