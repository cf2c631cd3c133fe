/-
What an event decoder reports, told from its input.

The event decoder keeps to a script of the same kind as the command decoder.
Its payloads overrun at the length of their own table entry, and a stream is
one of two kinds.
-/

import RNodeProtocol.EventContexts
import RNodeProtocol.EventDecoderFrames
import RNodeProtocol.Library.Narration

namespace RNodeProtocol

open ByteNumerals FramedInput

/-! ### The script -/

inductive EventReading where
  | unknown
  | streamed (kind : StreamKind)
  | fixed (length : Nat)
  deriving Repr, DecidableEq

def eventReading (header : UInt8) : EventReading :=
  match streamEvent (lowNibble header).toNat with
  | some kind => .streamed kind
  | none =>
      match fixedEvent (lowNibble header).toNat with
      | some (length, _) => .fixed length
      | none => .unknown

/-- The calls of a byte after this input of its frame. -/
def eventPutCalls : List UInt8 → UInt8 → List EventCall
  | [], header =>
      match eventReading header with
      | .unknown => [.error (highNibble header) (lowNibble header) 0 .unknownOpcode]
      | .streamed kind => [.stream kind (.start (highNibble header)) .ok]
      | .fixed _ => []
  | header :: payload, byte =>
      match eventReading header with
      | .unknown => []
      | .streamed kind =>
          [.stream kind (.data (highNibble header) byte (UInt32.ofNat payload.length)) .ok]
      | .fixed length =>
          if payload.length = length then
            [.error (highNibble header) (lowNibble header) (UInt32.ofNat length) .invalidLength]
          else []

/-- The calls of the end of a frame with this input. -/
def eventEndCalls : List UInt8 → List EventCall
  | [] => []
  | header :: payload =>
      match eventReading header with
      | .unknown => []
      | .streamed kind =>
          [.stream kind (.endStream (highNibble header) (UInt32.ofNat payload.length)) .ok]
      | .fixed length =>
          match parseEvent (header :: payload) with
          | .empty => []
          | .accepted event => event.calls
          | .rejected interface opcode status =>
              if payload.length ≤ length then
                [.error interface opcode (UInt32.ofNat payload.length) status]
              else []

def eventScript : Script UInt8 EventCall :=
  { put := eventPutCalls
    endFrame := eventEndCalls }

namespace EventDecoder

/-- The grammar and the decoder's length table read a payload alike. -/
theorem eventReading_unknown {header : UInt8}
    (unknown : rnodeEventOpcodeLength (lowNibble header) = -2) :
    eventReading header = .unknown := by
  unfold eventReading
  cases opcodeReading (lowNibble_lt header) with
  | unknown _ notStream table => rw [notStream, table]
  | streamed _ _ length _ => omega
  | fixed size _ length _ _ _ _ => omega

theorem eventReading_streamed {header : UInt8} {kind : StreamKind}
    (nibble : lowNibble header = kind.nibble) : eventReading header = .streamed kind := by
  unfold eventReading
  rw [nibble]
  cases kind <;> rfl

theorem eventReading_fixed {header : UInt8} {size : Nat}
    (length : rnodeEventOpcodeLength (lowNibble header) = size) :
    eventReading header = .fixed size := by
  unfold eventReading
  cases opcodeReading (lowNibble_lt header) with
  | unknown unknown _ _ => omega
  | streamed _ _ streamed _ => omega
  | fixed read _ table notStream _ found _ =>
      have same : read = size := by omega
      subst same
      rw [notStream, found]

theorem opcodeLength_short {header : UInt8} {size : Nat}
    (length : rnodeEventOpcodeLength (lowNibble header) = size) : size ≤ 1 := by
  cases opcodeClass (lowNibble_lt header) with
  | unknown unknown => omega
  | streamed _ _ streamed => omega
  | fixed read short table => omega

theorem stored_toNat {header opcodeLength : UInt8} {size : Nat}
    (length : rnodeEventOpcodeLength (lowNibble header) = size)
    (stored : opcodeLength = UInt8.ofInt size) : opcodeLength.toUInt32.toNat = size := by
  rw [stored]
  rcases Nat.le_one_iff_eq_zero_or_eq_one.mp (opcodeLength_short length) with rfl | rfl <;> rfl

theorem putCalls_unknown {header : UInt8}
    (unknown : rnodeEventOpcodeLength (lowNibble header) = -2) :
    eventPutCalls [] header =
      [.error (highNibble header) (lowNibble header) 0 .unknownOpcode] := by
  rw [eventPutCalls, eventReading_unknown unknown]

theorem putCalls_streamed {header : UInt8} {kind : StreamKind}
    (nibble : lowNibble header = kind.nibble) :
    eventPutCalls [] header = [.stream kind (.start (highNibble header)) .ok] := by
  rw [eventPutCalls, eventReading_streamed nibble]

theorem putCalls_fixed {header : UInt8} {size : Nat}
    (length : rnodeEventOpcodeLength (lowNibble header) = size) :
    eventPutCalls [] header = [] := by
  rw [eventPutCalls, eventReading_fixed length]

theorem putCalls_data {header : UInt8} {kind : StreamKind}
    (nibble : lowNibble header = kind.nibble) (payload : List UInt8) (byte : UInt8) :
    eventPutCalls (header :: payload) byte =
      [.stream kind (.data (highNibble header) byte (UInt32.ofNat payload.length)) .ok] := by
  rw [eventPutCalls, eventReading_streamed nibble]

theorem putCalls_refused {header : UInt8}
    (unknown : rnodeEventOpcodeLength (lowNibble header) = -2) (payload : List UInt8)
    (byte : UInt8) : eventPutCalls (header :: payload) byte = [] := by
  rw [eventPutCalls, eventReading_unknown unknown]

theorem putCalls_collected {header : UInt8} {size : Nat}
    (length : rnodeEventOpcodeLength (lowNibble header) = size) {payload : List UInt8}
    (notFull : payload.length ≠ size) (byte : UInt8) :
    eventPutCalls (header :: payload) byte = [] := by
  rw [eventPutCalls, eventReading_fixed length]
  exact if_neg notFull

theorem putCalls_full {header : UInt8} {payload : List UInt8}
    (length : rnodeEventOpcodeLength (lowNibble header) = payload.length) (byte : UInt8) :
    eventPutCalls (header :: payload) byte =
      [.error (highNibble header) (lowNibble header) (UInt32.ofNat payload.length)
        .invalidLength] := by
  rw [eventPutCalls, eventReading_fixed length]
  exact if_pos rfl

theorem endCalls_refused {header : UInt8}
    (unknown : rnodeEventOpcodeLength (lowNibble header) = -2) (payload : List UInt8) :
    eventEndCalls (header :: payload) = [] := by
  rw [eventEndCalls, eventReading_unknown unknown]

theorem endCalls_streamed {header : UInt8} {kind : StreamKind}
    (nibble : lowNibble header = kind.nibble) (payload : List UInt8) :
    eventEndCalls (header :: payload) =
      [.stream kind (.endStream (highNibble header) (UInt32.ofNat payload.length)) .ok] := by
  rw [eventEndCalls, eventReading_streamed nibble]

/-- What the grammar makes of a frame of fixed length, beside the dispatch of its value. -/
theorem parseEvent_fixedFrame {header : UInt8} {size : Nat}
    (length : rnodeEventOpcodeLength (lowNibble header) = size) (payload : List UInt8) :
    (payload.length ≠ size → parseEvent (header :: payload) =
        .rejected (highNibble header) (lowNibble header) .invalidLength) ∧
      (payload.length = size → ∃ event call,
        parseEvent (header :: payload) = .accepted event ∧ event.calls = [call] ∧
          dispatchCall (highNibble header) (lowNibble header)
            (UInt32.ofNat (bigEndian payload)) = .ok call) := by
  change (_ → parseEventPayload header payload (lowNibble header).toNat = _) ∧
    (_ → ∃ event call, parseEventPayload header payload (lowNibble header).toNat = _ ∧ _)
  unfold parseEventPayload
  cases opcodeReading (lowNibble_lt header) with
  | unknown unknown _ _ => omega
  | streamed _ _ streamed _ => omega
  | fixed read _ table notStream build found agrees =>
      have same : read = size := by omega
      subst same
      rw [notStream, found]
      constructor
      · intro different
        exact if_neg different
      · intro sized
        obtain ⟨call, calls, dispatched⟩ := agrees (Interface.ofHeader header) (bigEndian payload)
        exact ⟨_, call, if_pos sized, calls, dispatched⟩

theorem endCalls_short {header : UInt8} {size : Nat}
    (length : rnodeEventOpcodeLength (lowNibble header) = size) {payload : List UInt8}
    (short : payload.length < size) :
    eventEndCalls (header :: payload) =
      [.error (highNibble header) (lowNibble header) (UInt32.ofNat payload.length)
        .invalidLength] := by
  rw [eventEndCalls, eventReading_fixed length,
    (parseEvent_fixedFrame length payload).1 (Nat.ne_of_lt short)]
  exact if_pos (Nat.le_of_lt short)

theorem endCalls_overrun {header : UInt8} {size : Nat}
    (length : rnodeEventOpcodeLength (lowNibble header) = size) {payload : List UInt8}
    (long : size < payload.length) : eventEndCalls (header :: payload) = [] := by
  rw [eventEndCalls, eventReading_fixed length,
    (parseEvent_fixedFrame length payload).1 (Nat.ne_of_gt long)]
  exact if_neg (Nat.not_le.mpr long)

theorem endCalls_dispatched {header : UInt8} {payload : List UInt8}
    (length : rnodeEventOpcodeLength (lowNibble header) = payload.length) :
    ∃ call, eventEndCalls (header :: payload) = [call] ∧
      dispatchCall (highNibble header) (lowNibble header)
        (UInt32.ofNat (bigEndian payload)) = .ok call := by
  obtain ⟨event, call, parsed, calls, dispatched⟩ :=
    (parseEvent_fixedFrame length payload).2 rfl
  refine ⟨call, ?_, dispatched⟩
  rw [eventEndCalls, eventReading_fixed length, parsed]
  exact calls

/-! ### Where a frame has come to -/

/-- The input of the frame at hand, as the fields of the decoder show it. -/
inductive Hears (decoder : EventDecoder (List EventCall)) : List UInt8 → Prop where
  | waiting (waiting : decoder.state = .wait) : Hears decoder []
  | reading (header : UInt8) (payload : List UInt8) (size : Nat)
      (reading : decoder.state = .readFixed)
      (interface : decoder.interface = highNibble header)
      (opcode : decoder.opcode = lowNibble header)
      (length : rnodeEventOpcodeLength (lowNibble header) = size)
      (stored : decoder.opcodeLength = UInt8.ofInt size)
      (counted : decoder.payloadIndex.toNat = payload.length) (fits : payload.length ≤ size)
      (holds : decoder.smallbuf.Holds payload) : Hears decoder (header :: payload)
  | streaming (header : UInt8) (payload : List UInt8) (kind : StreamKind)
      (streaming : decoder.state = .streamData)
      (selected : decoder.opcode = kind.nibble)
      (interface : decoder.interface = highNibble header)
      (nibble : lowNibble header = kind.nibble)
      (counted : decoder.stream.byteIndex = UInt32.ofNat payload.length) :
      Hears decoder (header :: payload)
  | refused (header : UInt8) (payload : List UInt8) (aborted : decoder.state = .abort)
      (unknown : rnodeEventOpcodeLength (lowNibble header) = -2) :
      Hears decoder (header :: payload)
  | overrun (header : UInt8) (payload : List UInt8) (size : Nat)
      (aborted : decoder.state = .abort)
      (length : rnodeEventOpcodeLength (lowNibble header) = size)
      (long : size < payload.length) : Hears decoder (header :: payload)

variable {decoder : EventDecoder (List EventCall)} {input : List UInt8} {answer : EventAnswer}

/-- While a stream is received its callbacks are those of the kind in the header. -/
theorem Recorded.selected_kind (recorded : Recorded (fun _ => true) answer decoder)
    (streaming : decoder.state = .streamData) {kind : StreamKind}
    (nibble : decoder.opcode = kind.nibble) :
    decoder.stream.toStreamCallbacks = recordingStream (fun _ => true) answer kind := by
  obtain ⟨other, otherNibble, selected⟩ := recorded.selected streaming
  have same : other = kind := by
    rw [nibble] at otherNibble
    cases other <;> cases kind <;> first | rfl | exact absurd otherNibble (by decide)
  rw [← same]
  exact selected

theorem Recorded.put_hears (recorded : Recorded (fun _ => true) answer decoder)
    (accepts : ∀ log query, answer log query = .ok) (hears : Hears decoder input)
    (byte : UInt8) :
    Hears (decoder.put byte).1 (input ++ [byte]) ∧
      (decoder.put byte).1.context = decoder.context ++ eventPutCalls input byte := by
  cases hears with
  | waiting state =>
      cases opcodeClass (lowNibble_lt byte) with
      | unknown length =>
          rw [recorded.put_unknown state byte length, putCalls_unknown length]
          exact ⟨.refused byte [] rfl length, rfl⟩
      | streamed kind nibble length =>
          have opened := recorded.put_streamHeader state byte nibble length
          rw [accepts] at opened
          rw [opened, putCalls_streamed nibble]
          exact ⟨.streaming byte [] kind rfl nibble rfl nibble rfl, rfl⟩
      | fixed size short length =>
          rw [put_fixedHeader state byte (by omega) (by omega), putCalls_fixed length]
          refine ⟨.reading byte [] size rfl rfl rfl length ?_ rfl (Nat.zero_le size)
            (ScratchBuffer.holds_nil _), (List.append_nil _).symm⟩
          dsimp only
          rw [length]
  | reading header payload size state interface opcode length stored counted fits holds =>
      have short := opcodeLength_short length
      have size_eq := stored_toNat length stored
      by_cases room : decoder.payloadIndex < decoder.opcodeLength.toUInt32
      · have before : payload.length < size := by
          have smaller : decoder.payloadIndex.toNat < decoder.opcodeLength.toUInt32.toNat := room
          omega
        rw [put_room state byte room, putCalls_collected length (by omega)]
        refine ⟨.reading header (payload ++ [byte]) size state interface opcode length stored ?_
          ?_ (holds.store byte _ counted (by omega)), (List.append_nil _).symm⟩
        · dsimp only
          rw [UInt32.toNat_add, counted, List.length_append]
          change (payload.length + 1) % 2 ^ 32 = payload.length + 1
          omega
        · rw [List.length_append, List.length_singleton]
          exact before
      · have past : decoder.opcodeLength.toUInt32.toNat ≤ decoder.payloadIndex.toNat :=
          Nat.not_lt.mp room
        have full : size = payload.length := by omega
        subst full
        have index : decoder.payloadIndex = UInt32.ofNat payload.length := by
          apply UInt32.toNat_inj.mp
          rw [counted, UInt32.toNat_ofNat_of_lt' (Nat.lt_of_le_of_lt short (by decide))]
        rw [recorded.put_full state byte room, putCalls_full length]
        refine ⟨.overrun header (payload ++ [byte]) payload.length rfl length ?_, ?_⟩
        · rw [List.length_append, List.length_singleton]
          omega
        · dsimp only
          rw [interface, opcode, index]
          rfl
  | streaming header payload kind state selected interface nibble counted =>
      have received := put_accepted state (recorded.selected_kind state selected) byte
        (by rw [accepts]; rfl)
      rw [received, putCalls_data nibble]
      refine ⟨.streaming header (payload ++ [byte]) kind state selected interface nibble ?_, ?_⟩
      · dsimp only
        rw [if_pos rfl, counted, counter_succ, List.length_append, List.length_singleton]
      · dsimp only
        rw [accepts, interface, counted]
        rfl
  | refused header payload state unknown =>
      rw [put_abort state byte, putCalls_refused unknown]
      exact ⟨.refused header (payload ++ [byte]) state unknown, (List.append_nil _).symm⟩
  | overrun header payload size state length long =>
      rw [put_abort state byte, putCalls_collected length (by omega)]
      refine ⟨.overrun header (payload ++ [byte]) size state length ?_, (List.append_nil _).symm⟩
      rw [List.length_append]
      omega

theorem Recorded.end_hears (recorded : Recorded (fun _ => true) answer decoder)
    (accepts : ∀ log query, answer log query = .ok) (hears : Hears decoder input) :
    Hears decoder.endFrame.1 [] ∧
      decoder.endFrame.1.context = decoder.context ++ eventEndCalls input := by
  cases hears with
  | waiting state =>
      rw [end_idle (.inl state)]
      exact ⟨.waiting rfl, (List.append_nil _).symm⟩
  | reading header payload size state interface opcode length stored counted fits holds =>
      have short := opcodeLength_short length
      have size_eq := stored_toNat length stored
      have index : decoder.payloadIndex = UInt32.ofNat payload.length := by
        apply UInt32.toNat_inj.mp
        rw [counted, UInt32.toNat_ofNat_of_lt' (Nat.lt_of_le_of_lt holds.1 (by decide))]
      by_cases sized : payload.length = size
      · subst sized
        have complete : decoder.payloadIndex = decoder.opcodeLength.toUInt32 := by
          apply UInt32.toNat_inj.mp
          rw [counted, size_eq]
        rw [UInt8.toNat_toUInt32] at size_eq
        have read := holds.value_eq decoder.opcodeLength size_eq.symm
        obtain ⟨call, told, dispatched⟩ := endCalls_dispatched length
        rw [recorded.end_event state complete (by
          rw [interface, opcode, read]
          exact dispatched), told]
        exact ⟨.waiting rfl, rfl⟩
      · have different : decoder.payloadIndex ≠ decoder.opcodeLength.toUInt32 := by
          intro same
          have values := congrArg UInt32.toNat same
          rw [counted, size_eq] at values
          exact sized values
        rw [recorded.end_short state different, endCalls_short length (by omega)]
        refine ⟨.waiting rfl, ?_⟩
        rw [← interface, ← opcode, ← index]
        rfl
  | streaming header payload kind state selected interface nibble counted =>
      rw [end_accepted state (recorded.selected_kind state selected) (by rw [accepts]; rfl),
        endCalls_streamed nibble]
      refine ⟨.waiting rfl, ?_⟩
      rw [accepts, ← interface, ← counted]
      rfl
  | refused header payload state unknown =>
      rw [end_idle (.inr state), endCalls_refused unknown]
      exact ⟨.waiting rfl, (List.append_nil _).symm⟩
  | overrun header payload size state length long =>
      rw [end_idle (.inr state), endCalls_overrun length long]
      exact ⟨.waiting rfl, (List.append_nil _).symm⟩

theorem narrates (accepts : ∀ log query, answer log query = .ok) :
    machine.Narrates eventScript context fun decoder input =>
      Recorded (fun _ => true) answer decoder ∧ Hears decoder input where
  start := fun _ _ tracked => ⟨⟨tracked.1.start, .waiting rfl⟩, rfl⟩
  put := fun _ _ byte tracked =>
    have stepped := tracked.1.put_hears accepts tracked.2 byte
    ⟨⟨tracked.1.put byte, stepped.1⟩, stepped.2⟩
  endFrame := fun _ _ tracked =>
    have stepped := tracked.1.end_hears accepts tracked.2
    ⟨⟨tracked.1.endFrame, stepped.1⟩, stepped.2⟩

theorem reached_narrated (memory : EventDecoder (List EventCall))
    (operations : List (Operation UInt8)) :
    (reached memory (fun _ => true) (fun _ _ => .ok) operations).context =
      eventScript.narrate [] operations :=
  ((narrates fun _ _ => rfl).run failStop ⟨fresh_recorded memory _ _, .waiting rfl⟩ operations).2

end EventDecoder

/-! ### Any callbacks -/

namespace EventSetup

variable {Ctx : Type}

/-- The stream callbacks accept in every context. -/
def Accepting (setup : EventSetup Ctx) : Prop :=
  ∀ kind context call, ((setup.callbacks.ofKind kind).invoke context call).2 = .ok

/-- With every callback registered, a run does to the user context what the callbacks behind the
calls of the script do. -/
theorem reached_context_scripted (setup : EventSetup Ctx)
    (complete : setup.registers = fun _ => true) (accepting : setup.Accepting)
    (memory : EventDecoder Ctx)
    (operations : List (Operation UInt8)) :
    (setup.reached memory operations).context =
      (eventScript.narrate [] operations).foldl setup.effect setup.context := by
  have images := setup.reached_images memory operations
  have accepts : ∀ log query, setup.answer log query = .ok :=
    fun _ query => accepting query.1 _ query.2
  have told := ((EventDecoder.narrates accepts).run EventDecoder.failStop
    ⟨EventDecoder.fresh_recorded (memoryFor memory) (fun _ => true) setup.answer,
      .waiting rfl⟩ operations).2
  obtain ⟨pointers, reached, _⟩ := images.image
  rw [reached]
  change setup.contextAfter (setup.recording memory operations).context = _
  unfold contextAfter recording
  rw [complete]
  exact congrArg (List.foldl setup.effect setup.context) told

end EventSetup

end RNodeProtocol
