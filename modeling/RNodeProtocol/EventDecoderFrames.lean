/-
The event decoder on whole frames.

The callbacks that are registered are a parameter throughout.  A frame that the
grammar accepts is taken byte for byte and reported through the registered
callbacks; a stream frame counts from wherever the last one left the counter
unless its start callback is registered.
-/

import RNodeProtocol.EventFormat

namespace RNodeProtocol

open ByteNumerals FramedInput

namespace EventDecoder

/-! ### The grammar against the decoder's tables -/

/-- What the grammar and the decoder's tables both say about an opcode nibble. -/
inductive OpcodeReading (opcode : UInt8) : Prop where
  | unknown (length : rnodeEventOpcodeLength opcode = -2)
      (notStream : streamEvent opcode.toNat = none) (table : fixedEvent opcode.toNat = none)
  | streamed (kind : StreamKind) (nibble : opcode = kind.nibble)
      (length : rnodeEventOpcodeLength opcode = -1)
      (table : streamEvent opcode.toNat = some kind)
  | fixed (size : Nat) (short : size ≤ 1) (length : rnodeEventOpcodeLength opcode = size)
      (notStream : streamEvent opcode.toNat = none) (build : Interface → Nat → Event)
      (table : fixedEvent opcode.toNat = some (size, build))
      (agrees : ∀ interface value, ∃ call, (build interface value).calls = [call] ∧
        dispatchCall interface.value opcode (UInt32.ofNat value) = .ok call)

theorem opcodeReading {opcode : UInt8} (inRange : opcode.toNat < 16) : OpcodeReading opcode := by
  rcases nibble_cases inRange with
    rfl | rfl | rfl | rfl | rfl | rfl | rfl | rfl | rfl | rfl | rfl | rfl | rfl | rfl | rfl | rfl
  · exact .fixed 0 (by decide) rfl rfl _ rfl (fun _ _ => ⟨_, rfl, rfl⟩)
  · exact .streamed .statRx rfl rfl rfl
  · exact .streamed .statTx rfl rfl rfl
  · refine .fixed 1 (by decide) rfl rfl _ rfl (fun _ value => ⟨_, rfl, ?_⟩)
    rw [← UInt32.toUInt8_ofNat']
    rfl
  · refine .fixed 1 (by decide) rfl rfl _ rfl (fun _ value => ⟨_, rfl, ?_⟩)
    rw [← UInt32.toUInt8_ofNat']
    rfl
  · exact .unknown rfl rfl rfl
  · exact .unknown rfl rfl rfl
  · exact .unknown rfl rfl rfl
  · refine .fixed 1 (by decide) rfl rfl _ rfl (fun _ value => ⟨_, rfl, ?_⟩)
    rw [← UInt32.toUInt8_ofNat']
    rfl
  · refine .fixed 1 (by decide) rfl rfl _ rfl (fun _ value => ⟨_, rfl, ?_⟩)
    rw [← UInt32.toUInt8_ofNat']
    rfl
  · exact .unknown rfl rfl rfl
  · exact .unknown rfl rfl rfl
  · exact .unknown rfl rfl rfl
  · exact .unknown rfl rfl rfl
  · exact .unknown rfl rfl rfl
  · exact .unknown rfl rfl rfl

variable {registered : EventSlot → Bool} {answer : EventAnswer}
  {decoder : EventDecoder (List EventCall)} {base : List EventCall}

/-! ### Stream payloads -/

/-- How far a payload advances the counter. -/
def dataCounted (registered : EventSlot → Bool) (kind : StreamKind) (payload : List UInt8) : Nat :=
  if registered (.stream kind .data) then payload.length else 0

/-- The data calls of a payload whose first byte meets the counter at `first`. -/
def dataHeard (registered : EventSlot → Bool) (kind : StreamKind) (interface : UInt8)
    (first : Nat) (payload : List UInt8) : List EventCall :=
  if registered (.stream kind .data) then dataCalls (.stream kind) interface first payload else []

/-- All calls of a stream frame that meets the counter at `first`. -/
def streamHeard (registered : EventSlot → Bool) (kind : StreamKind) (interface : UInt8)
    (first : Nat) (payload : List UInt8) : List EventCall :=
  emit (registered (.stream kind .start)) (.stream kind (.start interface) .ok) ++
    dataHeard registered kind interface first payload ++
    emit (registered (.stream kind .endStream)) (.stream kind
      (.endStream interface (UInt32.ofNat (first + dataCounted registered kind payload))) .ok)

theorem dataCounted_cons (registered : EventSlot → Bool) (kind : StreamKind) (byte : UInt8)
    (rest : List UInt8) :
    dataCounted registered kind (byte :: rest) =
      dataCounted registered kind [byte] + dataCounted registered kind rest := by
  unfold dataCounted
  split
  · rw [List.length_cons, List.length_singleton, Nat.add_comm]
  · rfl

theorem dataHeard_cons (registered : EventSlot → Bool) (kind : StreamKind) (interface : UInt8)
    (first : Nat) (byte : UInt8) (rest : List UInt8) :
    dataHeard registered kind interface first (byte :: rest) =
      emit (registered (.stream kind .data))
          (.stream kind (.data interface byte (UInt32.ofNat first)) .ok) ++
        dataHeard registered kind interface (first + dataCounted registered kind [byte]) rest := by
  unfold dataHeard dataCounted
  cases registered (.stream kind .data) with
  | true => exact dataCalls_cons (EventCall.stream kind) interface first byte rest
  | false => rfl

/-- An accepted stream payload is taken whole; only a registered data callback counts it. -/
theorem putAll_stream {kind : StreamKind} (streaming : decoder.state = .streamData)
    (selected : decoder.stream.toStreamCallbacks = recordingStream registered answer kind)
    (accepting : AcceptsAfter answer base) (later : base <+: decoder.context) (first : Nat)
    (counted : decoder.stream.byteIndex = UInt32.ofNat first) (payload : List UInt8) :
    machine.Accepts decoder payload ∧
      machine.putAll decoder payload =
        { decoder with
          stream := { decoder.stream with
            byteIndex := UInt32.ofNat (first + dataCounted registered kind payload) }
          payloadIndex := decoder.payloadIndex + UInt32.ofNat payload.length
          context := decoder.context ++
            dataHeard registered kind decoder.interface first payload } := by
  induction payload generalizing decoder first with
  | nil =>
      have nothing : dataHeard registered kind decoder.interface first [] = [] := by
        unfold dataHeard
        split <;> rfl
      have still : dataCounted registered kind [] = 0 := by
        unfold dataCounted
        split <;> rfl
      refine ⟨trivial, ?_⟩
      rw [nothing, still, Nat.add_zero, List.append_nil, ← counted]
      change decoder = { decoder with payloadIndex := decoder.payloadIndex + 0 }
      rw [UInt32.add_zero]
  | cons byte rest ih =>
      have answered := accepting decoder.context
        (kind, .data decoder.interface byte decoder.stream.byteIndex) later
      have accepted : reply (registered (.stream kind .data)) (answer decoder.context
          (kind, .data decoder.interface byte decoder.stream.byteIndex)) = .ok := by
        rw [answered, reply_ok]
      have received := put_accepted streaming selected byte accepted
      have advanced : (if registered (.stream kind .data) then decoder.stream.byteIndex + 1
          else decoder.stream.byteIndex) =
            UInt32.ofNat (first + dataCounted registered kind [byte]) := by
        unfold dataCounted
        rw [counted]
        split
        · exact counter_succ first
        · rfl
      rw [answered, advanced, counted] at received
      have step := @ih (decoder.put byte).1 (by rw [received]; exact streaming)
        (by rw [received]; exact selected)
        (by rw [received]; exact later.trans (List.prefix_append _ _))
        (first + dataCounted registered kind [byte]) (by rw [received])
      obtain ⟨accepts, final⟩ := step
      refine ⟨⟨congrArg Prod.snd received, accepts⟩, ?_⟩
      rw [EventDecoder.putAll_cons]
      refine Eq.trans final ?_
      rw [received, dataCounted_cons registered kind byte rest, dataHeard_cons, List.length_cons,
        Nat.add_assoc, ← List.append_assoc, ← counter_succ rest.length,
        UInt32.add_comm (UInt32.ofNat rest.length), ← UInt32.add_assoc]

/-! ### Frames -/

theorem put_stops {Ctx : Type} (decoder : EventDecoder Ctx) (byte : UInt8) :
    (decoder.put byte).2 = .ok ∨ (decoder.put byte).1.state = .abort := by
  unfold EventDecoder.put
  cases state : decoder.state with
  | wait =>
      dsimp only
      split
      · exact .inr rfl
      · repeat' split
        all_goals exact .inl rfl
  | readFixed =>
      dsimp only
      split
      · exact .inl rfl
      · exact .inr rfl
  | streamData =>
      dsimp only
      split
      · split
        · exact .inr rfl
        · exact .inl rfl
      · exact .inl rfl
  | abort => exact .inr state

theorem failStop {Ctx : Type} :
    machine.FailStop (fun decoder : EventDecoder Ctx => decoder.state = .abort) where
  refused := fun decoder byte refused => (decoder.put_stops byte).resolve_left refused
  inert := fun _ byte aborted => congrArg Prod.fst (put_abort aborted byte)

/-- Where the counter stands when the payload of a stream frame begins. -/
def streamFirst (registered : EventSlot → Bool) (kind : StreamKind)
    (decoder : EventDecoder (List EventCall)) : Nat :=
  if registered (.stream kind .start) then 0 else decoder.stream.byteIndex.toNat

theorem Recorded.frame_streamed (recorded : Recorded registered answer decoder)
    (waiting : decoder.state = .wait) (accepting : AcceptsAfter answer decoder.context)
    (header : UInt8) (payload : List UInt8) {kind : StreamKind}
    (nibble : lowNibble header = kind.nibble)
    (streamed : rnodeEventOpcodeLength (lowNibble header) = -1) :
    machine.Accepts decoder (header :: payload) ∧
      (machine.putAll decoder (header :: payload)).endFrame.2 = .ok ∧
      (machine.putAll decoder (header :: payload)).endFrame.1.context =
        decoder.context ++ streamHeard registered kind (highNibble header)
          (streamFirst registered kind decoder) payload := by
  have opened := recorded.put_streamHeader waiting header nibble streamed
  rw [accepting decoder.context _ (List.prefix_refl _)] at opened
  have counted : (decoder.put header).1.stream.byteIndex =
      UInt32.ofNat (streamFirst registered kind decoder) := by
    rw [opened]
    unfold streamFirst
    split
    · rfl
    · exact (UInt32.ofNat_toNat).symm
  have streaming : (decoder.put header).1.state = .streamData := by rw [opened]
  have selected : (decoder.put header).1.stream.toStreamCallbacks =
      recordingStream registered answer kind := by rw [opened]
  have later : decoder.context <+: (decoder.put header).1.context := by
    rw [opened]
    exact List.prefix_append _ _
  obtain ⟨accepts, fed⟩ := putAll_stream streaming selected accepting later
    (streamFirst registered kind decoder) counted payload
  have streamingEnd : (machine.putAll (decoder.put header).1 payload).state = .streamData := by
    rw [fed]
    exact streaming
  have selectedEnd : (machine.putAll (decoder.put header).1 payload).stream.toStreamCallbacks =
      recordingStream registered answer kind := by
    rw [fed]
    exact selected
  have laterEnd : decoder.context <+: (machine.putAll (decoder.put header).1 payload).context := by
    rw [fed]
    exact later.trans (List.prefix_append _ _)
  have answered := accepting _ (kind,
    .endStream (machine.putAll (decoder.put header).1 payload).interface
      (machine.putAll (decoder.put header).1 payload).stream.byteIndex) laterEnd
  have ended := end_accepted streamingEnd selectedEnd (by rw [answered, reply_ok])
  rw [answered] at ended
  rw [EventDecoder.putAll_cons, ended]
  refine ⟨⟨congrArg Prod.snd opened, accepts⟩, rfl, ?_⟩
  change (machine.putAll (decoder.put header).1 payload).context ++ _ = _
  rw [fed, opened]
  unfold streamHeard
  change decoder.context ++ _ ++ _ ++ _ = _
  rw [List.append_assoc, List.append_assoc, ← List.append_assoc (emit _ _)]

theorem Recorded.frame_fixed (recorded : Recorded registered answer decoder)
    (waiting : decoder.state = .wait) (header : UInt8) (payload : List UInt8)
    (short : payload.length ≤ 1)
    (length : rnodeEventOpcodeLength (lowNibble header) = payload.length) {call : EventCall}
    (dispatched : dispatchCall (highNibble header) (lowNibble header)
      (UInt32.ofNat (bigEndian payload)) = .ok call) :
    machine.Accepts decoder (header :: payload) ∧
      (machine.putAll decoder (header :: payload)).endFrame.2 = .ok ∧
      (machine.putAll decoder (header :: payload)).endFrame.1.context =
        decoder.context ++ emit (registered call.slot) call := by
  have headed := put_fixedHeader waiting header (by omega) (by omega)
  have kept := recorded.put header
  rw [length] at headed
  cases payload with
  | nil =>
      have ended := kept.end_event (by rw [headed]) (by rw [headed]; rfl)
        (by rw [headed]; exact dispatched)
      rw [EventDecoder.putAll_cons, Machine.putAll_nil, ended, headed]
      exact ⟨⟨congrArg Prod.snd headed, trivial⟩, rfl, rfl⟩
  | cons byte rest =>
      obtain rfl : rest = [] := List.eq_nil_of_length_eq_zero (by
        rw [List.length_cons] at short
        omega)
      have room : (decoder.put header).1.payloadIndex <
          (decoder.put header).1.opcodeLength.toUInt32 := by
        rw [headed]
        exact (by decide : (0 : UInt32) < (UInt8.ofInt (1 : Nat)).toUInt32)
      have stored := put_room (by rw [headed]) byte room
      have holds := (ScratchBuffer.holds_nil (decoder.put header).1.smallbuf).store byte
        (decoder.put header).1.payloadIndex (by rw [headed]; rfl) (by decide)
      have read := holds.value_eq (decoder.put header).1.opcodeLength (by rw [headed]; rfl)
      have interface : (decoder.put header).1.interface = highNibble header := by rw [headed]
      have opcode : (decoder.put header).1.opcode = lowNibble header := by rw [headed]
      have ended := (kept.put byte).end_event (by rw [stored, headed])
        (by rw [stored, headed]; rfl) (by
          rw [stored]
          dsimp only
          rw [interface, opcode]
          exact (congrArg (dispatchCall (highNibble header) (lowNibble header)) read).trans
            dispatched)
      rw [EventDecoder.putAll_cons, EventDecoder.putAll_cons, Machine.putAll_nil, ended, stored,
        headed]
      refine ⟨⟨congrArg Prod.snd headed, ?_, trivial⟩, rfl, rfl⟩
      exact congrArg Prod.snd stored

/-- The calls an event makes when only some callbacks are registered. -/
def heard (registered : EventSlot → Bool) (first : StreamKind → Nat) : Event → List EventCall
  | .stat kind interface payload =>
      streamHeard registered kind interface.value (first kind) payload
  | event => event.calls.filter (fun call => registered call.slot)

theorem heard_single {event : Event} {call : EventCall} (calls : event.calls = [call])
    (first : StreamKind → Nat) :
    heard registered first event = emit (registered call.slot) call := by
  have filtered : [call].filter (fun call => registered call.slot) =
      emit (registered call.slot) call := by
    rw [List.filter_singleton]
    cases registered call.slot <;> rfl
  cases event with
  | stat kind interface payload =>
      have lengths := congrArg List.length calls
      change (_ :: (dataCalls _ _ 0 payload ++ [_])).length = 1 at lengths
      rw [List.length_cons, List.length_append, List.length_singleton] at lengths
      omega
  | rssi => exact (congrArg _ calls).trans filtered
  | snr => exact (congrArg _ calls).trans filtered
  | blink => exact (congrArg _ calls).trans filtered
  | platform => exact (congrArg _ calls).trans filtered
  | mcu => exact (congrArg _ calls).trans filtered

/-- A frame of the grammar is accepted byte for byte and reported once. -/
theorem Recorded.frame_accepted (recorded : Recorded registered answer decoder)
    (waiting : decoder.state = .wait) (accepting : AcceptsAfter answer decoder.context)
    {frame : List UInt8} {event : Event} (parsed : parseEvent frame = .accepted event) :
    machine.Accepts decoder frame ∧
      (machine.putAll decoder frame).endFrame.2 = .ok ∧
      (machine.putAll decoder frame).endFrame.1.context = decoder.context ++
        heard registered (fun kind => streamFirst registered kind decoder) event := by
  cases frame with
  | nil => cases parsed
  | cons header payload =>
      change parseEventPayload header payload (lowNibble header).toNat = _ at parsed
      unfold parseEventPayload at parsed
      cases opcodeReading (lowNibble_lt header) with
      | unknown length notStream table =>
          rw [notStream, table] at parsed
          cases parsed
      | streamed kind nibble length table =>
          rw [table] at parsed
          cases parsed
          exact recorded.frame_streamed waiting accepting header payload nibble length
      | fixed size short length notStream build table agrees =>
          rw [notStream, table] at parsed
          dsimp only at parsed
          split at parsed
          · rename_i sized
            cases parsed
            subst sized
            obtain ⟨call, calls, dispatched⟩ :=
              agrees (Interface.ofHeader header) (bigEndian payload)
            rw [heard_single calls]
            exact recorded.frame_fixed waiting header payload short length dispatched
          · cases parsed

theorem Recorded.frame_unknown (recorded : Recorded registered answer decoder)
    (waiting : decoder.state = .wait) (header : UInt8) (payload : List UInt8)
    (unknown : rnodeEventOpcodeLength (lowNibble header) = -2) :
    (machine.write decoder (header :: payload)).2 = .unknownOpcode := by
  have stopped : (machine.put decoder header).2 = .unknownOpcode :=
    congrArg Prod.snd (recorded.put_unknown waiting header unknown)
  rw [Machine.write_refused (by rw [stopped]; decide), stopped]

/-- A byte after an event without arguments is one too many. -/
theorem Recorded.frame_surplus (recorded : Recorded registered answer decoder)
    (waiting : decoder.state = .wait) (header byte : UInt8) (rest : List UInt8)
    (length : rnodeEventOpcodeLength (lowNibble header) = (0 : Nat)) :
    (machine.write decoder (header :: byte :: rest)).2 = .invalidLength := by
  have headed := put_fixedHeader waiting header (by omega) (by omega)
  rw [length] at headed
  have full : ¬ (decoder.put header).1.payloadIndex <
      (decoder.put header).1.opcodeLength.toUInt32 := by
    rw [headed]
    exact (by decide : ¬ (0 : UInt32) < (UInt8.ofInt (0 : Nat)).toUInt32)
  have stopped : (machine.put (machine.put decoder header).1 byte).2 = .invalidLength :=
    congrArg Prod.snd ((recorded.put header).put_full (by rw [headed]) byte full)
  rw [Machine.write_accepted (congrArg Prod.snd headed),
    Machine.write_refused (by rw [stopped]; decide), stopped]

end EventDecoder

end RNodeProtocol
