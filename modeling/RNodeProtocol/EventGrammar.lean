/-
What every call of an event frame answers.

The grammar says what a frame means as a whole.  Here it is read call by call:
the status of each put and of the end, and the callbacks each of them makes,
for every list of bytes, well formed or not.
-/

import RNodeProtocol.EventDecoderFrames
import RNodeProtocol.Library.CallLedger

namespace RNodeProtocol

open ByteNumerals FramedInput

/-! ### The grammar, call by call -/

abbrev EventEntry := Entry DecoderStatus EventCall

def silentEntry (status : DecoderStatus) : EventEntry :=
  { answer := some status, calls := [] }

/-- A call that reports an error and returns its status. -/
def reportEntry (header : UInt8) (index : Nat) (status : DecoderStatus) : EventEntry :=
  { answer := some status
    calls := [.error (highNibble header) (lowNibble header) (UInt32.ofNat index) status] }

/-- A payload of fixed length and the end after it. -/
def fixedEntries (header : UInt8) (length : Nat) (event : Interface → Nat → Event)
    (payload : List UInt8) : List EventEntry :=
  if payload.length = length then
    List.replicate length (silentEntry .ok) ++
      [{ answer := some .ok
         calls := (event (Interface.ofHeader header) (bigEndian payload)).calls }]
  else if payload.length < length then
    List.replicate payload.length (silentEntry .ok) ++ [reportEntry header payload.length .invalidLength]
  else
    List.replicate length (silentEntry .ok) ++ reportEntry header length .invalidLength ::
      List.replicate (payload.length - length) (silentEntry .aborted)

/-- The bytes of a stream payload, from the given position on. -/
def dataEntries (kind : StreamKind) (interface : UInt8) (first : Nat) (payload : List UInt8) :
    List EventEntry :=
  payload.mapIdx fun offset byte =>
    { answer := some .ok
      calls := [.stream kind (.data interface byte (UInt32.ofNat (first + offset))) .ok] }

/-- A stream payload and the end after it. -/
def streamEntries (kind : StreamKind) (interface : UInt8) (payload : List UInt8) :
    List EventEntry :=
  dataEntries kind interface 0 payload ++
    [{ answer := some .ok
       calls := [.stream kind (.endStream interface (UInt32.ofNat payload.length)) .ok] }]

/-- The puts of a frame and its end, by the opcode nibble of the header. -/
def payloadEntries (header : UInt8) (payload : List UInt8) (opcode : Nat) : List EventEntry :=
  match streamEvent opcode with
  | some kind =>
      { answer := some .ok, calls := [.stream kind (.start (highNibble header)) .ok] } ::
        streamEntries kind (highNibble header) payload
  | none =>
      match fixedEvent opcode with
      | some (length, event) => silentEntry .ok :: fixedEntries header length event payload
      | none =>
          reportEntry header 0 .unknownOpcode ::
            List.replicate (payload.length + 1) (silentEntry .aborted)

def frameEntries : List UInt8 → List EventEntry
  | [] => [silentEntry .aborted]
  | header :: payload => payloadEntries header payload (lowNibble header).toNat

private theorem drop_replicate_append {Item : Type} (item : Item) (tail : List Item)
    {index count : Nat} (before : index < count) :
    (List.replicate count item ++ tail).drop index =
      item :: (List.replicate count item ++ tail).drop (index + 1) := by
  have inside : index < (List.replicate count item ++ tail).length := by
    rw [List.length_append, List.length_replicate]
    omega
  rw [List.drop_eq_getElem_cons inside, List.getElem_append_left (by
    rw [List.length_replicate]
    exact before), List.getElem_replicate]

theorem fixedEntries_room (header : UInt8) (event : Interface → Nat → Event)
    {length index : Nat} {payload : List UInt8} (room : index < length)
    (before : index < payload.length) :
    (fixedEntries header length event payload).drop index =
      silentEntry .ok :: (fixedEntries header length event payload).drop (index + 1) := by
  unfold fixedEntries
  split
  · exact drop_replicate_append _ _ room
  · split
    · exact drop_replicate_append _ _ before
    · exact drop_replicate_append _ _ room

theorem fixedEntries_full (header : UInt8) (event : Interface → Nat → Event) {length : Nat}
    {payload : List UInt8} (surplus : length < payload.length) :
    (fixedEntries header length event payload).drop length =
      reportEntry header length .invalidLength ::
        List.replicate (payload.length - length) (silentEntry .aborted) := by
  unfold fixedEntries
  rw [if_neg (by omega), if_neg (by omega), List.drop_left' List.length_replicate]

namespace EventDecoder

variable {answer : EventAnswer} {decoder next : EventDecoder (List EventCall)}
  {base calls : List EventCall} {status : DecoderStatus}

/-! ### The decoder, call by call -/

theorem ledger_put {byte : UInt8} (received : decoder.put byte = (next, status))
    (added : next.context = decoder.context ++ calls) (rest : List UInt8) :
    machine.ledger EventDecoder.context decoder (frameOperations (byte :: rest)) =
      { answer := some status, calls := calls } ::
        machine.ledger EventDecoder.context next (frameOperations rest) := by
  have stepped : machine.step decoder (.put byte) = (next, some status) :=
    congrArg (fun result => (result.1, some result.2)) received
  exact Machine.ledger_step stepped added (frameOperations rest)

theorem ledger_end (ended : decoder.endFrame = (next, status))
    (added : next.context = decoder.context ++ calls) :
    machine.ledger EventDecoder.context decoder (frameOperations []) =
      [{ answer := some status, calls := calls }] := by
  have stepped : machine.step decoder .endFrame = (next, some status) :=
    congrArg (fun result => (result.1, some result.2)) ended
  exact Machine.ledger_step stepped added []

theorem ledger_abort (aborted : decoder.state = .abort) (payload : List UInt8) :
    machine.ledger EventDecoder.context decoder (frameOperations payload) =
      List.replicate (payload.length + 1) (silentEntry .aborted) := by
  have unchanged : decoder.context = decoder.context ++ [] := (List.append_nil _).symm
  induction payload with
  | nil => exact ledger_end (end_idle (.inr aborted)) unchanged
  | cons byte rest ih =>
      rw [ledger_put (put_abort aborted byte) unchanged, ih]
      rfl

/-- The rest of a fixed-length event, when some of its payload is in the buffer already. -/
theorem Recorded.ledger_fixed (recorded : Recorded (fun _ => true) answer decoder)
    (reading : decoder.state = .readFixed) {header : UInt8} {length : Nat} (short : length ≤ 1)
    (interface : decoder.interface = highNibble header) (opcode : decoder.opcode = lowNibble header)
    (opcodeLength : decoder.opcodeLength.toNat = length) {event : Interface → Nat → Event}
    (agrees : ∀ value, ∃ call, (event (Interface.ofHeader header) value).calls = [call] ∧
      dispatchCall (highNibble header) (lowNibble header) (UInt32.ofNat value) = .ok call)
    {received : List UInt8} (holds : decoder.smallbuf.Holds received)
    (counted : decoder.payloadIndex.toNat = received.length) (within : received.length ≤ length)
    (payload : List UInt8) :
    machine.ledger EventDecoder.context decoder (frameOperations payload) =
      (fixedEntries header length event (received ++ payload)).drop received.length := by
  induction payload generalizing decoder received with
  | nil =>
      rw [List.append_nil]
      unfold fixedEntries
      by_cases complete : received.length = length
      · have exact : decoder.payloadIndex = decoder.opcodeLength.toUInt32 := by
          apply UInt32.toNat_inj.mp
          rw [counted, complete, UInt8.toNat_toUInt32, opcodeLength]
        have value := holds.value_eq decoder.opcodeLength (complete.trans opcodeLength.symm)
        obtain ⟨call, calls, dispatched⟩ := agrees (bigEndian received)
        rw [← value, ← interface, ← opcode] at dispatched
        rw [ledger_end (recorded.end_event reading exact dispatched) rfl, if_pos complete, calls,
          complete, List.drop_left' List.length_replicate]
        rfl
      · have different : decoder.payloadIndex ≠ decoder.opcodeLength.toUInt32 := by
          intro same
          rw [same, UInt8.toNat_toUInt32, opcodeLength] at counted
          exact complete counted.symm
        have index : decoder.payloadIndex = UInt32.ofNat received.length := by
          rw [← counted, UInt32.ofNat_toNat]
        rw [ledger_end (recorded.end_short reading different) rfl, if_neg complete,
          if_pos (by omega), List.drop_left' List.length_replicate, interface, opcode, index]
        rfl
  | cons byte rest ih =>
      by_cases room : decoder.payloadIndex < decoder.opcodeLength.toUInt32
      · have before : received.length < length := by
          have smaller := UInt32.lt_iff_toNat_lt.mp room
          rw [counted, UInt8.toNat_toUInt32, opcodeLength] at smaller
          exact smaller
        have stored := put_room reading byte room
        have next := holds.store byte decoder.payloadIndex counted (by omega)
        have advanced : (decoder.payloadIndex + 1).toNat = (received ++ [byte]).length := by
          rw [UInt32.toNat_add, counted, List.length_append, List.length_singleton]
          change (received.length + 1) % 2 ^ 32 = received.length + 1
          omega
        have kept := recorded.put byte
        rw [stored] at kept
        have more : (received ++ [byte]).length = received.length + 1 := by
          rw [List.length_append, List.length_singleton]
        have inside : received.length < (received ++ byte :: rest).length := by
          rw [List.length_append, List.length_cons]
          omega
        rw [ledger_put stored (List.append_nil _).symm, fixedEntries_room header event before inside,
          ih kept reading interface opcode opcodeLength next advanced (by omega), more,
          List.append_assoc, List.singleton_append]
        rfl
      · have full : received.length = length := by
          have larger := UInt32.le_iff_toNat_le.mp (UInt32.not_lt.mp room)
          rw [counted, UInt8.toNat_toUInt32, opcodeLength] at larger
          omega
        have index : decoder.payloadIndex = UInt32.ofNat length := by
          rw [← full, ← counted, UInt32.ofNat_toNat]
        have surplus : (received ++ byte :: rest).length = length + (rest.length + 1) := by
          rw [List.length_append, List.length_cons, full]
        rw [ledger_put (recorded.put_full reading byte room) rfl, ledger_abort rfl, full,
          fixedEntries_full header event (by omega), surplus, Nat.add_sub_cancel_left, interface,
          opcode, index]
        rfl

/-- The rest of a stream frame, from a position on. -/
theorem Recorded.ledger_stream (recorded : Recorded (fun _ => true) answer decoder)
    {kind : StreamKind} (streaming : decoder.state = .streamData)
    (selected : decoder.stream.toStreamCallbacks = recordingStream (fun _ => true) answer kind)
    (accepting : AcceptsAfter answer base) (later : base <+: decoder.context) (first : Nat)
    (counted : decoder.stream.byteIndex = UInt32.ofNat first) (payload : List UInt8) :
    machine.ledger EventDecoder.context decoder (frameOperations payload) =
      dataEntries kind decoder.interface first payload ++
        [{ answer := some .ok
           calls := [.stream kind (.endStream decoder.interface
             (UInt32.ofNat (first + payload.length))) .ok] }] := by
  induction payload generalizing decoder first with
  | nil =>
      have answered := accepting decoder.context
        (kind, .endStream decoder.interface decoder.stream.byteIndex) later
      have ended := end_accepted streaming selected (by rw [answered, reply_ok])
      rw [answered, counted] at ended
      exact ledger_end ended rfl
  | cons byte rest ih =>
      have answered := accepting decoder.context
        (kind, .data decoder.interface byte decoder.stream.byteIndex) later
      have received := put_accepted streaming selected byte (by rw [answered, reply_ok])
      rw [answered, counted, if_pos rfl, counter_succ] at received
      have kept := recorded.put byte
      rw [received] at kept
      have entries : dataEntries kind decoder.interface first (byte :: rest) =
          { answer := some .ok
            calls := [.stream kind (.data decoder.interface byte (UInt32.ofNat first)) .ok] } ::
            dataEntries kind decoder.interface (first + 1) rest := by
        unfold dataEntries
        rw [List.mapIdx_cons]
        congr 2
        funext offset byte
        rw [Nat.add_assoc, Nat.add_comm 1 offset]
      rw [ledger_put received rfl, entries,
        ih kept streaming selected (later.trans (List.prefix_append _ _)) (first + 1) rfl,
        List.length_cons, Nat.add_assoc, Nat.add_comm 1]
      rfl

theorem Recorded.ledger_frame (recorded : Recorded (fun _ => true) answer decoder)
    (waiting : decoder.state = .wait) (accepting : AcceptsAfter answer decoder.context)
    (frame : List UInt8) :
    machine.ledger EventDecoder.context decoder (frameOperations frame) = frameEntries frame := by
  cases frame with
  | nil => exact ledger_end (end_idle (.inl waiting)) (List.append_nil _).symm
  | cons header payload =>
      have kept := recorded.put header
      change _ = payloadEntries header payload (lowNibble header).toNat
      unfold payloadEntries
      cases opcodeReading (lowNibble_lt header) with
      | unknown length notStream table =>
          rw [ledger_put (recorded.put_unknown waiting header length) rfl, ledger_abort rfl,
            notStream, table]
          rfl
      | streamed kind nibble length table =>
          have opened := recorded.put_streamHeader waiting header nibble length
          rw [accepting decoder.context _ (List.prefix_refl _), if_pos rfl] at opened
          rw [opened] at kept
          have rest := kept.ledger_stream rfl rfl accepting (List.prefix_append _ _) 0 rfl payload
          rw [Nat.zero_add] at rest
          rw [ledger_put opened rfl, table, rest]
          rfl
      | fixed size short length notStream event table agrees =>
          have headed := put_fixedHeader waiting header (by omega) (by omega)
          rw [headed] at kept
          have sized : (UInt8.ofInt (rnodeEventOpcodeLength (lowNibble header))).toNat = size := by
            rw [length]
            rcases Nat.le_one_iff_eq_zero_or_eq_one.mp short with rfl | rfl
            · rfl
            · rfl
          have rest := kept.ledger_fixed rfl short rfl rfl sized
            (agrees (Interface.ofHeader header)) (ScratchBuffer.holds_nil _) rfl
            (Nat.zero_le size) payload
          rw [ledger_put headed (List.append_nil _).symm, rest, notStream, table]
          rfl

end EventDecoder

/-- Started after any run, the decoder answers a frame call by call as the grammar reads it. -/
theorem started_frame_ledger (memory : EventDecoder (List EventCall)) (answer : EventAnswer)
    (operations : List (Operation UInt8)) (frame : List UInt8)
    (accepting : AcceptsAfter answer
      (EventDecoder.reached memory (fun _ => true) answer operations).context) :
    EventDecoder.machine.ledger EventDecoder.context
        (EventDecoder.reached memory (fun _ => true) answer operations)
        (.start :: frameOperations frame) =
      { answer := none, calls := [] } :: frameEntries frame := by
  have recorded := EventDecoder.reached_recorded memory (fun _ => true) answer operations
  have ledger := recorded.start.ledger_frame rfl accepting frame
  rw [← ledger]
  exact Machine.ledger_step rfl (List.append_nil _).symm (frameOperations frame)

/-- A signal report with a byte too many, after a stream whose callbacks refused. -/
theorem started_frame_ledger_surplus :
    EventDecoder.machine.ledger EventDecoder.context
        (EventDecoder.reached (EventDecoder.zeroed []) (fun _ => true)
          (fun log _ => if log.length < 2 then .abort else .ok)
          [.start, .put 0x11, .put 0x55])
        (.start :: frameOperations [0x23, 0xD8, 0x07]) =
      { answer := none, calls := [] } :: frameEntries [0x23, 0xD8, 0x07] := by
  refine started_frame_ledger _ _ _ _ ?_
  intro log query later
  have long := later.length_le
  have recorded : (EventDecoder.reached (EventDecoder.zeroed []) (fun _ => true)
      (fun log _ => if log.length < 2 then .abort else .ok)
      [.start, .put 0x11, .put 0x55]).context.length = 3 := by
    decide
  apply if_neg
  omega

example : frameEntries [0x23, 0xD8, 0x07] =
    [silentEntry .ok, silentEntry .ok, reportEntry 0x23 1 .invalidLength,
      silentEntry .aborted] := by
  decide

end RNodeProtocol
