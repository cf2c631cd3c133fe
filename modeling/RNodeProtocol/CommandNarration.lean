/-
What a command decoder reports, told from its input.

With every callback registered and every stream accepted, the calls a byte or
an end of a frame leads to depend on the bytes of that frame alone: not on the
frames before it, not on what the buffer held and not on the state a broken
frame was left in.  The script below says what they are in terms of the command
grammar, and the decoder keeps to it in every run of operations.
-/

import RNodeProtocol.CommandContexts
import RNodeProtocol.CommandDecoderFrames
import RNodeProtocol.MutedCallbacks
import RNodeProtocol.Library.Narration

namespace RNodeProtocol

open ByteNumerals FramedInput

/-! ### The script -/

/-- How the payload under a header is read. -/
inductive PayloadReading where
  | unknown
  | streamed
  | fixed (length : Nat)
  deriving Repr, DecidableEq

def commandReading (header : UInt8) : PayloadReading :=
  if (lowNibble header).toNat = 0x00 then .streamed
  else
    match fixedCommand (lowNibble header).toNat with
    | some (length, _) => .fixed length
    | none => .unknown

/-- The calls of a byte after this input of its frame. -/
def commandPutCalls : List UInt8 → UInt8 → List CommandCall
  | [], header =>
      match commandReading header with
      | .unknown => [.error (highNibble header) (lowNibble header) 0 .unknownOpcode]
      | .streamed => [.tx (.start (highNibble header)) .ok]
      | .fixed _ => []
  | header :: payload, byte =>
      match commandReading header with
      | .unknown => []
      | .streamed => [.tx (.data (highNibble header) byte (UInt32.ofNat payload.length)) .ok]
      | .fixed _ =>
          if payload.length = 4 then
            [.error (highNibble header) (lowNibble header) 4 .invalidLength]
          else []

/-- The calls of the end of a frame with this input. -/
def commandEndCalls : List UInt8 → List CommandCall
  | [] => []
  | header :: payload =>
      match commandReading header with
      | .unknown => []
      | .streamed => [.tx (.endStream (highNibble header) (UInt32.ofNat payload.length)) .ok]
      | .fixed _ =>
          match parseCommand (header :: payload) with
          | .empty => []
          | .accepted command => command.calls
          | .rejected interface opcode status =>
              if payload.length ≤ 4 then
                [.error interface opcode (UInt32.ofNat payload.length) status]
              else []

def commandScript : Script UInt8 CommandCall :=
  { put := commandPutCalls
    endFrame := commandEndCalls }

namespace CommandDecoder

/-- The grammar and the decoder's length table read a payload alike. -/
theorem commandReading_unknown {header : UInt8}
    (unknown : rnodeProtoOpcodeLength (lowNibble header) = -2) :
    commandReading header = .unknown := by
  unfold commandReading
  cases opcodeClass (lowNibble_lt header) with
  | unknown _ notData table => rw [if_neg notData, table]
  | streamed length _ => rw [length] at unknown; cases unknown
  | fixed size _ length _ _ _ _ => omega

theorem commandReading_streamed {header : UInt8}
    (streamed : rnodeProtoOpcodeLength (lowNibble header) = -1) :
    commandReading header = .streamed := by
  unfold commandReading
  cases opcodeClass (lowNibble_lt header) with
  | unknown length _ _ => rw [length] at streamed; cases streamed
  | streamed _ data => rw [if_pos data]
  | fixed size _ length _ _ _ _ => omega

theorem commandReading_fixed {header : UInt8} {size : Nat}
    (length : rnodeProtoOpcodeLength (lowNibble header) = size) :
    commandReading header = .fixed size := by
  unfold commandReading
  cases opcodeClass (lowNibble_lt header) with
  | unknown unknown _ _ => omega
  | streamed streamed _ => omega
  | fixed read _ table notData _ found _ =>
      have same : read = size := by omega
      subst same
      rw [if_neg notData, found]

theorem putCalls_unknown {header : UInt8}
    (unknown : rnodeProtoOpcodeLength (lowNibble header) = -2) :
    commandPutCalls [] header =
      [.error (highNibble header) (lowNibble header) 0 .unknownOpcode] := by
  rw [commandPutCalls, commandReading_unknown unknown]

theorem putCalls_streamed {header : UInt8}
    (streamed : rnodeProtoOpcodeLength (lowNibble header) = -1) :
    commandPutCalls [] header = [.tx (.start (highNibble header)) .ok] := by
  rw [commandPutCalls, commandReading_streamed streamed]

theorem putCalls_fixed {header : UInt8} {size : Nat}
    (length : rnodeProtoOpcodeLength (lowNibble header) = size) :
    commandPutCalls [] header = [] := by
  rw [commandPutCalls, commandReading_fixed length]

theorem putCalls_data {header : UInt8}
    (streamed : rnodeProtoOpcodeLength (lowNibble header) = -1) (payload : List UInt8)
    (byte : UInt8) :
    commandPutCalls (header :: payload) byte =
      [.tx (.data (highNibble header) byte (UInt32.ofNat payload.length)) .ok] := by
  rw [commandPutCalls, commandReading_streamed streamed]

theorem putCalls_refused {header : UInt8}
    (unknown : rnodeProtoOpcodeLength (lowNibble header) = -2) (payload : List UInt8)
    (byte : UInt8) : commandPutCalls (header :: payload) byte = [] := by
  rw [commandPutCalls, commandReading_unknown unknown]

theorem putCalls_collected {header : UInt8} {size : Nat}
    (length : rnodeProtoOpcodeLength (lowNibble header) = size) {payload : List UInt8}
    (notFull : payload.length ≠ 4) (byte : UInt8) :
    commandPutCalls (header :: payload) byte = [] := by
  rw [commandPutCalls, commandReading_fixed length]
  exact if_neg notFull

theorem putCalls_full {header : UInt8} {size : Nat}
    (length : rnodeProtoOpcodeLength (lowNibble header) = size) {payload : List UInt8}
    (full : payload.length = 4) (byte : UInt8) :
    commandPutCalls (header :: payload) byte =
      [.error (highNibble header) (lowNibble header) 4 .invalidLength] := by
  rw [commandPutCalls, commandReading_fixed length]
  exact if_pos full

theorem opcodeLength_short {header : UInt8} {size : Nat}
    (length : rnodeProtoOpcodeLength (lowNibble header) = size) : size ≤ 4 := by
  cases opcodeClass (lowNibble_lt header) with
  | unknown unknown _ _ => omega
  | streamed streamed _ => omega
  | fixed read short table _ _ _ _ => omega

theorem endCalls_refused {header : UInt8}
    (unknown : rnodeProtoOpcodeLength (lowNibble header) = -2) (payload : List UInt8) :
    commandEndCalls (header :: payload) = [] := by
  rw [commandEndCalls, commandReading_unknown unknown]

theorem endCalls_streamed {header : UInt8}
    (streamed : rnodeProtoOpcodeLength (lowNibble header) = -1) (payload : List UInt8) :
    commandEndCalls (header :: payload) =
      [.tx (.endStream (highNibble header) (UInt32.ofNat payload.length)) .ok] := by
  rw [commandEndCalls, commandReading_streamed streamed]

theorem parseCommand_length {header : UInt8} {size : Nat}
    (length : rnodeProtoOpcodeLength (lowNibble header) = size) {payload : List UInt8}
    (different : payload.length ≠ size) :
    parseCommand (header :: payload) =
      .rejected (highNibble header) (lowNibble header) .invalidLength := by
  change parsePayload header payload (lowNibble header).toNat = _
  unfold parsePayload
  cases opcodeClass (lowNibble_lt header) with
  | unknown unknown _ _ => omega
  | streamed streamed _ => omega
  | fixed read _ table notData _ found _ =>
      rw [if_neg notData, found]
      exact if_neg (by omega)

theorem endCalls_short {header : UInt8} {size : Nat}
    (length : rnodeProtoOpcodeLength (lowNibble header) = size) {payload : List UInt8}
    (different : payload.length ≠ size) (fits : payload.length ≤ 4) :
    commandEndCalls (header :: payload) =
      [.error (highNibble header) (lowNibble header) (UInt32.ofNat payload.length)
        .invalidLength] := by
  rw [commandEndCalls, commandReading_fixed length, parseCommand_length length different]
  exact if_pos fits

theorem endCalls_overrun {header : UInt8} {size : Nat} (short : size ≤ 4)
    (length : rnodeProtoOpcodeLength (lowNibble header) = size) {payload : List UInt8}
    (long : 4 < payload.length) : commandEndCalls (header :: payload) = [] := by
  rw [commandEndCalls, commandReading_fixed length, parseCommand_length length (by omega)]
  exact if_neg (by omega)

theorem endCalls_dispatched {header : UInt8} {payload : List UInt8}
    (length : rnodeProtoOpcodeLength (lowNibble header) = payload.length)
    (fits : payload.length ≤ 4) :
    commandEndCalls (header :: payload) =
      [match dispatchCall (highNibble header) (lowNibble header)
          (UInt32.ofNat (bigEndian payload)) with
        | .ok call => call
        | .error status =>
            .error (highNibble header) (lowNibble header) (UInt32.ofNat payload.length)
              status] := by
  rw [commandEndCalls, commandReading_fixed length]
  change (match parsePayload header payload (lowNibble header).toNat with
    | .empty => []
    | .accepted command => command.calls
    | .rejected interface opcode status => _) = _
  unfold parsePayload
  cases opcodeClass (lowNibble_lt header) with
  | unknown unknown _ _ => omega
  | streamed streamed _ => omega
  | fixed read _ table notData build found agrees =>
      have same : read = payload.length := by omega
      subst same
      have meaning := agrees (Interface.ofHeader header) (bigEndian payload) (bigEndian_lt payload)
      change Agrees (dispatchCall (highNibble header) (lowNibble header) _) _ at meaning
      rw [if_neg notData, found]
      unfold parseFixed
      dsimp only
      rw [if_pos rfl]
      generalize dispatchCall (highNibble header) (lowNibble header)
        (UInt32.ofNat (bigEndian payload)) = dispatched at meaning ⊢
      generalize build (Interface.ofHeader header) (bigEndian payload) = read at meaning ⊢
      cases meaning with
      | accepted command calls => exact calls
      | rejected => exact if_pos fits

/-! ### Where a frame has come to -/

/-- The input of the frame at hand, as the fields of the decoder show it. -/
inductive Hears (decoder : CommandDecoder (List CommandCall)) : List UInt8 → Prop where
  | waiting (waiting : decoder.state = .wait) : Hears decoder []
  | reading (header : UInt8) (payload : List UInt8) (size : Nat)
      (reading : decoder.state = .readFixed)
      (interface : decoder.interface = highNibble header)
      (opcode : decoder.opcode = lowNibble header)
      (length : rnodeProtoOpcodeLength (lowNibble header) = size)
      (stored : decoder.opcodeLength = UInt8.ofInt size)
      (counted : decoder.payloadIndex.toNat = payload.length)
      (holds : decoder.smallbuf.Holds payload) : Hears decoder (header :: payload)
  | streaming (header : UInt8) (payload : List UInt8) (streaming : decoder.state = .streamData)
      (interface : decoder.interface = highNibble header)
      (length : rnodeProtoOpcodeLength (lowNibble header) = -1)
      (counted : decoder.txStream.byteIndex = UInt32.ofNat payload.length) :
      Hears decoder (header :: payload)
  | refused (header : UInt8) (payload : List UInt8) (aborted : decoder.state = .abort)
      (unknown : rnodeProtoOpcodeLength (lowNibble header) = -2) :
      Hears decoder (header :: payload)
  | overrun (header : UInt8) (payload : List UInt8) (size : Nat)
      (aborted : decoder.state = .abort)
      (length : rnodeProtoOpcodeLength (lowNibble header) = size)
      (long : 4 < payload.length) : Hears decoder (header :: payload)

variable {decoder : CommandDecoder (List CommandCall)} {input : List UInt8}

section Steps

variable {answer : CommandAnswer}

theorem Recorded.put_hears (recorded : Recorded (fun _ => true) answer decoder)
    (accepts : ∀ log query, answer log query = .ok) (hears : Hears decoder input)
    (byte : UInt8) :
    Hears (decoder.put byte).1 (input ++ [byte]) ∧
      (decoder.put byte).1.context = decoder.context ++ commandPutCalls input byte := by
  cases hears with
  | waiting state =>
      cases opcodeClass (lowNibble_lt byte) with
      | unknown length _ _ =>
          rw [recorded.put_unknown state byte length, putCalls_unknown length]
          exact ⟨.refused byte [] rfl length, rfl⟩
      | streamed length _ =>
          have opened := recorded.put_streamHeader state byte length
          rw [accepts] at opened
          rw [opened, putCalls_streamed length]
          exact ⟨.streaming byte [] rfl rfl length rfl, rfl⟩
      | fixed size _ length _ _ _ _ =>
          rw [put_fixedHeader state byte (by omega) (by omega), putCalls_fixed length]
          refine ⟨.reading byte [] size rfl rfl rfl length ?_ rfl (ScratchBuffer.holds_nil _), ?_⟩
          · dsimp only
            rw [length]
          · exact (List.append_nil _).symm
  | reading header payload size state interface opcode length stored counted holds =>
      by_cases room : decoder.payloadIndex < 4
      · have before : payload.length < 4 := by
          rw [← counted]
          exact room
        rw [put_room state byte room, putCalls_collected length (by omega)]
        refine ⟨.reading header (payload ++ [byte]) size state interface opcode length stored ?_
          (holds.store byte _ counted before), (List.append_nil _).symm⟩
        dsimp only
        rw [UInt32.toNat_add, counted, List.length_append]
        change (payload.length + 1) % 2 ^ 32 = payload.length + 1
        omega
      · have past : 4 ≤ decoder.payloadIndex.toNat := Nat.not_lt.mp room
        have fits := holds.1
        have full : payload.length = 4 := by omega
        have index : decoder.payloadIndex = 4 := by
          apply UInt32.toNat_inj.mp
          rw [counted, full]
          rfl
        rw [recorded.put_full state byte room, putCalls_full length full]
        refine ⟨.overrun header (payload ++ [byte]) size rfl length ?_, ?_⟩
        · rw [List.length_append, full, List.length_singleton]
          decide
        · dsimp only
          rw [interface, opcode, index]
          rfl
  | streaming header payload state interface length counted =>
      have received := recorded.put_accepted state byte (by rw [accepts]; rfl)
      rw [received, putCalls_data length]
      refine ⟨.streaming header (payload ++ [byte]) state interface length ?_, ?_⟩
      · dsimp only
        rw [counted, counter_succ, List.length_append, List.length_singleton]
      · dsimp only
        rw [accepts, interface, counted]
        rfl
  | refused header payload state unknown =>
      rw [put_abort state byte, putCalls_refused unknown]
      exact ⟨.refused header (payload ++ [byte]) state unknown, (List.append_nil _).symm⟩
  | overrun header payload size state length long =>
      rw [put_abort state byte, putCalls_collected length (by omega)]
      refine ⟨.overrun header (payload ++ [byte]) size state length ?_, (List.append_nil _).symm⟩
      rw [List.length_append]
      omega

theorem Recorded.end_hears (recorded : Recorded (fun _ => true) answer decoder)
    (accepts : ∀ log query, answer log query = .ok) (hears : Hears decoder input) :
    Hears decoder.endFrame.1 [] ∧
      decoder.endFrame.1.context = decoder.context ++ commandEndCalls input := by
  cases hears with
  | waiting state =>
      rw [end_idle (.inl state)]
      exact ⟨.waiting rfl, (List.append_nil _).symm⟩
  | reading header payload size state interface opcode length stored counted holds =>
      have fits := holds.1
      have short := opcodeLength_short length
      have size_eq : decoder.opcodeLength.toNat = size := by
        rw [stored]
        exact opcodeLength_ofInt size short
      have index : decoder.payloadIndex = UInt32.ofNat payload.length := by
        apply UInt32.toNat_inj.mp
        rw [counted, UInt32.toNat_ofNat_of_lt' (Nat.lt_of_le_of_lt fits (by decide))]
      by_cases sized : payload.length = size
      · subst sized
        have complete : decoder.payloadIndex = decoder.opcodeLength.toUInt32 := by
          apply UInt32.toNat_inj.mp
          rw [counted, UInt8.toNat_toUInt32, size_eq]
        have read := holds.value_eq decoder.opcodeLength size_eq.symm
        rw [endCalls_dispatched length fits]
        cases dispatched : dispatchCall (highNibble header) (lowNibble header)
            (UInt32.ofNat (bigEndian payload)) with
        | ok call =>
            rw [recorded.end_command state complete (by
              rw [interface, opcode, read]
              exact dispatched)]
            exact ⟨.waiting rfl, rfl⟩
        | error status =>
            rw [recorded.end_rejected state complete (by
              rw [interface, opcode, read]
              exact dispatched)]
            refine ⟨.waiting rfl, ?_⟩
            rw [← interface, ← opcode, ← index]
            rfl
      · have different : decoder.payloadIndex ≠ decoder.opcodeLength.toUInt32 := by
          intro same
          have values := congrArg UInt32.toNat same
          rw [counted, UInt8.toNat_toUInt32, size_eq] at values
          exact sized values
        rw [recorded.end_short state different, endCalls_short length sized fits]
        refine ⟨.waiting rfl, ?_⟩
        rw [← interface, ← opcode, ← index]
        rfl
  | streaming header payload state interface length counted =>
      rw [recorded.end_accepted state (by rw [accepts]; rfl), endCalls_streamed length]
      refine ⟨.waiting rfl, ?_⟩
      rw [accepts, ← interface, ← counted]
      rfl
  | refused header payload state unknown =>
      rw [end_idle (.inr state), endCalls_refused unknown]
      exact ⟨.waiting rfl, (List.append_nil _).symm⟩
  | overrun header payload size state length long =>
      rw [end_idle (.inr state), endCalls_overrun (opcodeLength_short length) length long]
      exact ⟨.waiting rfl, (List.append_nil _).symm⟩

theorem narrates (accepts : ∀ log query, answer log query = .ok) :
    machine.Narrates commandScript context fun decoder input =>
      Recorded (fun _ => true) answer decoder ∧ Hears decoder input where
  start := fun _ _ tracked => ⟨⟨tracked.1.start, .waiting rfl⟩, rfl⟩
  put := fun _ _ byte tracked =>
    have stepped := tracked.1.put_hears accepts tracked.2 byte
    ⟨⟨tracked.1.put byte, stepped.1⟩, stepped.2⟩
  endFrame := fun _ _ tracked =>
    have stepped := tracked.1.end_hears accepts tracked.2
    ⟨⟨tracked.1.endFrame, stepped.1⟩, stepped.2⟩

end Steps

/-- With every callback registered and every stream accepted, a run logs the calls of the script. -/
theorem reached_narrated (memory : CommandDecoder (List CommandCall))
    (operations : List (Operation UInt8)) :
    (reached memory (fun _ => true) (fun _ _ => .ok) operations).context =
      commandScript.narrate [] operations :=
  ((narrates fun _ _ => rfl).run failStop ⟨fresh_recorded memory _ _, .waiting rfl⟩ operations).2

/-- A recorded run logs the calls of the script whose callbacks are registered. -/
theorem reached_context (memory : CommandDecoder (List CommandCall))
    (registered : CommandSlot → Bool) {answer : CommandAnswer}
    (accepts : ∀ log query, answer log query = .ok) (operations : List (Operation UInt8)) :
    (reached memory registered answer operations).context =
      (commandScript.narrate [] operations).filter fun call => registered call.slot := by
  have completed : ∀ log query, answer.completed registered log query = .ok := by
    intro log query
    unfold CommandAnswer.completed
    split
    · exact accepts _ query
    · rfl
  have told := ((narrates completed).run failStop
    ⟨fresh_recorded memory (fun _ => true) _, .waiting rfl⟩ operations).2
  have together : Muted registered answer (fresh memory registered answer)
      (fresh memory (fun _ => true) (answer.completed registered)) :=
    ⟨fresh_recorded memory _ _, rfl⟩
  have muted := (muted_lockstep.run together operations).muted
  change reached memory registered answer operations = _ at muted
  rw [muted]
  unfold mute unmuted
  dsimp only
  rw [told]
  rfl

end CommandDecoder

/-! ### Any callbacks -/

namespace CommandSetup

variable {Ctx : Type}

/-- The stream callbacks accept in every context. -/
def Accepting (setup : CommandSetup Ctx) : Prop :=
  ∀ context call, (setup.tx.invoke context call).2 = .ok

theorem foldl_registered (setup : CommandSetup Ctx) (calls : List CommandCall) (context : Ctx) :
    (calls.filter fun call => setup.registers call.slot).foldl setup.effect context =
      calls.foldl setup.effect context := by
  induction calls generalizing context with
  | nil => rfl
  | cons call rest ih =>
      rw [List.foldl_cons, List.filter_cons]
      cases present : setup.registers call.slot with
      | true => exact ih _
      | false =>
          rw [effect_unregistered present]
          exact ih _

/-- Whatever is registered, a run does to the user context what the callbacks behind the calls
of the script do. -/
theorem reached_context_narrated (setup : CommandSetup Ctx) (accepting : setup.Accepting)
    (memory : CommandDecoder Ctx) (operations : List (Operation UInt8)) :
    (setup.reached memory operations).context =
      (commandScript.narrate [] operations).foldl setup.effect setup.context := by
  have images := setup.reached_images memory operations
  have accepts : ∀ log query, setup.answer log query = .ok := fun _ query => accepting _ query
  rw [images.image]
  change setup.contextAfter _ = _
  unfold contextAfter
  change ((CommandDecoder.reached _ _ _ operations).context).foldl _ _ = _
  rw [CommandDecoder.reached_context _ _ accepts, foldl_registered]

end CommandSetup

end RNodeProtocol
