/-
What becomes of a stream callback's refusal.

Both decoders give the frame up when a data or an end callback refuses: the
call answers ABORTED, the error callback hears of it once, and the stream is
left alone for the rest of the frame.  The status of a start callback is
dropped, and the stream goes on.
-/

import RNodeProtocol.CommandDecoderSteps
import RNodeProtocol.EventDecoderSteps
import RNodeProtocol.Library.Refusals

namespace RNodeProtocol

open ByteNumerals FramedInput

section Vocabulary

variable {Call : Type}

/-- A decoder's calls, told apart by the answers to stream calls and by the reports. -/
def refusalTerms (answered : Call → Option StreamCbStatus) (isError : Call → Bool)
    (noticed : List Call → Prop)
    (apart : ∀ call answer, answered call = some answer → isError call = false) :
    RefusalTerms DecoderStatus Call :=
  { stream := fun call => ∃ answer, answered call = some answer
    refusal := fun call => answered call = some .abort
    report := isError
    aborted := .aborted
    notified := noticed
    refusal_stream := fun _ refused => ⟨.abort, refused⟩
    stream_report := fun call ⟨answer, stream⟩ => apart call answer stream }

variable {answered : Call → Option StreamCbStatus} {isError : Call → Bool}
  {noticed : List Call → Prop}
  {apart : ∀ call answer, answered call = some answer → isError call = false}
  {registered : Bool} {call report : Call}

theorem emit_report_granted (isReport : isError report = true) :
    ∀ other ∈ emit registered report,
      ¬ (refusalTerms answered isError noticed apart).refusal other := by
  intro other member refused
  obtain ⟨_, rfl⟩ := mem_emit.mp member
  rw [apart other .abort refused] at isReport
  cases isReport

theorem emit_stream_quiet {answer : StreamCbStatus} (granted : reply registered answer = .ok)
    (stream : answered call = some answer) :
    (refusalTerms answered isError noticed apart).Quiet (emit registered call) := by
  intro other member
  obtain ⟨present, rfl⟩ := mem_emit.mp member
  refine ⟨?_, apart other answer stream⟩
  intro refused
  rw [present] at granted
  cases Option.some.inj (stream.symm.trans refused)
  cases granted

theorem refused_closes (refused : answered call = some .abort)
    (isReport : isError report = true) (notices : noticed (emit registered report)) :
    (refusalTerms answered isError noticed apart).Closes (call :: emit registered report) := by
  change (refusalTerms answered isError noticed apart).Closes ([] ++ call :: _)
  refine .intro [] call _ .nil refused ?_ notices
  intro other member
  obtain ⟨_, rfl⟩ := mem_emit.mp member
  refine ⟨?_, isReport⟩
  rintro ⟨answer, stream⟩
  rw [apart other answer stream] at isReport
  cases isReport

end Vocabulary

/-! ### The command decoder -/

namespace CommandDecoder

/-- What a stream callback answered; the other callbacks return nothing. -/
def streamAnswer? : CommandCall → Option StreamCbStatus
  | .tx _ answer => some answer
  | _ => none

def terms (registered : CommandSlot → Bool) : RefusalTerms DecoderStatus CommandCall :=
  refusalTerms streamAnswer? (fun call => call.slot = .error)
    (fun reports => ∃ interface opcode index,
      reports = emit (registered .error) (.error interface opcode index .aborted))
    (by
      intro call answer stream
      cases call with
      | tx streamCall _ => cases streamCall <;> rfl
      | _ => cases stream)

/-- Past the header, and neither refused nor rejected. -/
def Reading (registered : CommandSlot → Bool) (answer : CommandAnswer)
    (decoder : CommandDecoder (List CommandCall)) : Prop :=
  Recorded registered answer decoder ∧
    (decoder.state = .readFixed ∨ decoder.state = .streamData)

def Aborted (decoder : CommandDecoder (List CommandCall)) : Prop := decoder.state = .abort

/-- The start callback a header would reach answers with a refusal. -/
def StartRefused (registered : CommandSlot → Bool) (answer : CommandAnswer)
    (decoder : CommandDecoder (List CommandCall)) (header : UInt8) : Prop :=
  rnodeProtoOpcodeLength (lowNibble header) = -1 ∧ registered (.tx .start) = true ∧
    answer decoder.context (.start (highNibble header)) = .abort

variable {registered : CommandSlot → Bool} {answer : CommandAnswer}
  {decoder : CommandDecoder (List CommandCall)}

theorem dispatchCall_granted {interface opcode : UInt8} {value : UInt32} {call : CommandCall}
    (dispatched : dispatchCall interface opcode value = .ok call) :
    ¬ (terms registered).refusal call := by
  unfold dispatchCall at dispatched
  repeat' split at dispatched
  all_goals cases dispatched
  all_goals exact nofun

theorem Reading.put (reading : Reading registered answer decoder) (byte : UInt8) :
    machine.Outcome CommandDecoder.context (terms registered) (Reading registered answer)
      Aborted decoder (decoder.put byte) := by
  obtain ⟨recorded, past⟩ := reading
  have kept := recorded.put byte
  have step := recorded.put_step byte
  generalize decoder.put byte = result at kept step ⊢
  cases step with
  | unknown waiting _ => exact absurd past (by rw [waiting]; decide)
  | streamHeader waiting _ => exact absurd past (by rw [waiting]; decide)
  | fixedHeader waiting _ _ => exact absurd past (by rw [waiting]; decide)
  | room _ _ => exact .calm [] (List.append_nil _).symm rfl ⟨kept, past⟩ .nil
  | full _ _ =>
      exact .rejected _ rfl (nofun : DecoderStatus.invalidLength ≠ .ok) rfl
        (emit_report_granted rfl)
  | accepted _ accepted =>
      exact .calm _ rfl rfl ⟨kept, past⟩ (emit_stream_quiet accepted rfl)
  | refused _ _ _ =>
      exact .refused _ (List.append_assoc _ _ _) rfl rfl (refused_closes rfl rfl ⟨_, _, _, rfl⟩)
  | ignored aborted => exact absurd past (by rw [aborted]; decide)

theorem Reading.endFrame (reading : Reading registered answer decoder) :
    Machine.Ending CommandDecoder.context (terms registered) decoder decoder.endFrame := by
  obtain ⟨recorded, past⟩ := reading
  have step := recorded.end_step
  generalize decoder.endFrame = result at step ⊢
  cases step with
  | command _ _ call dispatched =>
      refine .calm _ rfl fun other member => ?_
      obtain ⟨_, rfl⟩ := mem_emit.mp member
      exact dispatchCall_granted dispatched
  | rejected _ _ _ _ => exact .calm _ rfl (emit_report_granted rfl)
  | short _ _ => exact .calm _ rfl (emit_report_granted rfl)
  | accepted _ accepted =>
      exact .calm _ rfl (RefusalTerms.Quiet.granted (emit_stream_quiet accepted rfl))
  | refused _ _ _ =>
      exact .refused _ (List.append_assoc _ _ _) rfl (refused_closes rfl rfl ⟨_, _, _, rfl⟩)
  | idle idle =>
      rcases idle with waiting | aborted
      · exact absurd past (by rw [waiting]; decide)
      · exact absurd past (by rw [aborted]; decide)

theorem disciplined (registered : CommandSlot → Bool) (answer : CommandAnswer) :
    machine.Disciplined CommandDecoder.context (terms registered)
      (Reading registered answer) Aborted where
  distinct := (nofun : DecoderStatus.aborted ≠ .ok)
  put := fun _ byte reading => reading.put byte
  endFrame := fun _ reading => reading.endFrame
  putDead := fun _ byte aborted => congrArg Prod.fst (put_abort aborted byte)
  endDead := fun _ aborted =>
    congrArg (fun result => result.1.context) (end_idle (.inr aborted))

theorem Recorded.put_header (recorded : Recorded registered answer decoder)
    (waiting : decoder.state = .wait) (header : UInt8)
    (granted : ¬ StartRefused registered answer decoder header) :
    machine.Outcome CommandDecoder.context (terms registered) (Reading registered answer)
      Aborted decoder (decoder.put header) := by
  have kept := recorded.put header
  by_cases unknown : rnodeProtoOpcodeLength (lowNibble header) = -2
  · rw [recorded.put_unknown waiting header unknown]
    exact .rejected _ rfl (nofun : DecoderStatus.unknownOpcode ≠ .ok) rfl
      (emit_report_granted rfl)
  · by_cases streamed : rnodeProtoOpcodeLength (lowNibble header) = -1
    · have accepted : reply (registered (.tx .start))
          (answer decoder.context (.start (highNibble header))) = .ok := by
        by_contra rejected
        exact granted ⟨streamed, reply_ne_ok.mp rejected⟩
      rw [recorded.put_streamHeader waiting header streamed] at kept ⊢
      exact .calm _ rfl rfl ⟨kept, .inr rfl⟩ (emit_stream_quiet accepted rfl)
    · rw [put_fixedHeader waiting header unknown streamed] at kept ⊢
      exact .calm [] (List.append_nil _).symm rfl ⟨kept, .inl rfl⟩ .nil

theorem speaks (registered : CommandSlot → Bool) (answer : CommandAnswer) :
    machine.Speaks CommandDecoder.context (terms registered)
      (fun decoder => Recorded registered answer decoder ∧ decoder.state = .streamData) where
  put := by
    rintro decoder byte ⟨recorded, streaming⟩
    change ∃ calls, (decoder.put byte).1.context = decoder.context ++ calls ∧
      ((decoder.put byte).2 = .ok ∧ Recorded registered answer (decoder.put byte).1 ∧
          (decoder.put byte).1.state = .streamData ∨
        (decoder.put byte).2 ≠ .ok ∧ ∃ call ∈ calls, (terms registered).stream call)
    have kept := recorded.put byte
    by_cases accepted : reply (registered (.tx .data)) (answer decoder.context
        (.data decoder.interface byte decoder.txStream.byteIndex)) = .ok
    · have received := recorded.put_accepted streaming byte accepted
      rw [received] at kept ⊢
      exact ⟨_, rfl, .inl ⟨rfl, kept, streaming⟩⟩
    · obtain ⟨present, refused⟩ := reply_ne_ok.mp accepted
      rw [recorded.put_refused streaming byte present refused]
      exact ⟨_, List.append_assoc _ _ _, .inr ⟨nofun, _, List.mem_cons_self, _, rfl⟩⟩

/-- Refusals are honoured in a frame unless its header meets one. -/
theorem Recorded.honoured_iff (recorded : Recorded registered answer decoder)
    (waiting : decoder.state = .wait) {operations : List (Operation UInt8)}
    (frame : OneFrame operations) :
    (terms registered).Honoured (machine.ledger CommandDecoder.context decoder operations) ↔
      ¬ ∃ header, (operations.flatMap Operation.bytes).head? = some header ∧
        StartRefused registered answer decoder header := by
  refine (disciplined registered answer).honoured_iff (speaks registered answer)
    (fun header => recorded.put_header waiting header) ?_ ?_ frame
  · rintro header ⟨streamed, present, refused⟩
    have opened := recorded.put_streamHeader waiting header streamed
    rw [present, refused] at opened
    have kept := recorded.put header
    exact ⟨.tx (.start (highNibble header)) .abort, rfl, congrArg Prod.snd opened,
      congrArg (fun result => result.1.context) opened, kept,
      congrArg (fun result => result.1.state) opened⟩
  · have ended := congrArg (fun result => result.1.context) (end_idle (.inl waiting))
    exact .calm [] (ended.trans (List.append_nil _).symm)
      fun _ member => absurd member List.not_mem_nil

end CommandDecoder

/-! ### The event decoder -/

namespace EventDecoder

def streamAnswer? : EventCall → Option StreamCbStatus
  | .stream _ _ answer => some answer
  | _ => none

def terms (registered : EventSlot → Bool) : RefusalTerms DecoderStatus EventCall :=
  refusalTerms streamAnswer? (fun call => call.slot = .error)
    (fun reports => ∃ interface opcode index,
      reports = emit (registered .error) (.error interface opcode index .aborted))
    (by
      intro call answer stream
      cases call with
      | stream kind streamCall _ => cases streamCall <;> rfl
      | _ => cases stream)

def Reading (registered : EventSlot → Bool) (answer : EventAnswer)
    (decoder : EventDecoder (List EventCall)) : Prop :=
  Recorded registered answer decoder ∧
    (decoder.state = .readFixed ∨ decoder.state = .streamData)

def Aborted (decoder : EventDecoder (List EventCall)) : Prop := decoder.state = .abort

def StartRefused (registered : EventSlot → Bool) (answer : EventAnswer)
    (decoder : EventDecoder (List EventCall)) (header : UInt8) : Prop :=
  ∃ kind : StreamKind, lowNibble header = kind.nibble ∧
    registered (.stream kind .start) = true ∧
    answer decoder.context (kind, .start (highNibble header)) = .abort

variable {registered : EventSlot → Bool} {answer : EventAnswer}
  {decoder : EventDecoder (List EventCall)}

theorem dispatchCall_granted {interface opcode : UInt8} {value : UInt32} {call : EventCall}
    (dispatched : dispatchCall interface opcode value = .ok call) :
    ¬ (terms registered).refusal call := by
  cases dispatched_of_ok dispatched <;> exact nofun

theorem Reading.put (reading : Reading registered answer decoder) (byte : UInt8) :
    machine.Outcome EventDecoder.context (terms registered) (Reading registered answer)
      Aborted decoder (decoder.put byte) := by
  obtain ⟨recorded, past⟩ := reading
  have kept := recorded.put byte
  have step := recorded.put_step byte
  generalize decoder.put byte = result at kept step ⊢
  cases step with
  | unknown waiting _ => exact absurd past (by rw [waiting]; decide)
  | streamHeader waiting _ _ _ => exact absurd past (by rw [waiting]; decide)
  | fixedHeader waiting _ _ _ => exact absurd past (by rw [waiting]; decide)
  | room _ _ => exact .calm [] (List.append_nil _).symm rfl ⟨kept, past⟩ .nil
  | full _ _ =>
      exact .rejected _ rfl (nofun : DecoderStatus.invalidLength ≠ .ok) rfl
        (emit_report_granted rfl)
  | accepted _ _ _ accepted =>
      exact .calm _ rfl rfl ⟨kept, past⟩ (emit_stream_quiet accepted rfl)
  | refused _ _ _ _ _ =>
      exact .refused _ (List.append_assoc _ _ _) rfl rfl (refused_closes rfl rfl ⟨_, _, _, rfl⟩)
  | ignored aborted => exact absurd past (by rw [aborted]; decide)

theorem Reading.endFrame (reading : Reading registered answer decoder) :
    Machine.Ending EventDecoder.context (terms registered) decoder decoder.endFrame := by
  obtain ⟨recorded, past⟩ := reading
  have step := recorded.end_step
  generalize decoder.endFrame = result at step ⊢
  cases step with
  | event _ _ call dispatched =>
      refine .calm _ rfl fun other member => ?_
      obtain ⟨_, rfl⟩ := mem_emit.mp member
      exact dispatchCall_granted dispatched
  | unknown _ _ _ _ => exact .calm _ rfl (emit_report_granted rfl)
  | short _ _ => exact .calm _ rfl (emit_report_granted rfl)
  | accepted _ _ _ accepted =>
      exact .calm _ rfl (RefusalTerms.Quiet.granted (emit_stream_quiet accepted rfl))
  | refused _ _ _ _ _ =>
      exact .refused _ (List.append_assoc _ _ _) rfl (refused_closes rfl rfl ⟨_, _, _, rfl⟩)
  | idle idle =>
      rcases idle with waiting | aborted
      · exact absurd past (by rw [waiting]; decide)
      · exact absurd past (by rw [aborted]; decide)

theorem disciplined (registered : EventSlot → Bool) (answer : EventAnswer) :
    machine.Disciplined EventDecoder.context (terms registered)
      (Reading registered answer) Aborted where
  distinct := (nofun : DecoderStatus.aborted ≠ .ok)
  put := fun _ byte reading => reading.put byte
  endFrame := fun _ reading => reading.endFrame
  putDead := fun _ byte aborted => congrArg Prod.fst (put_abort aborted byte)
  endDead := fun _ aborted =>
    congrArg (fun result => result.1.context) (end_idle (.inr aborted))

theorem Recorded.put_header (recorded : Recorded registered answer decoder)
    (waiting : decoder.state = .wait) (header : UInt8)
    (granted : ¬ StartRefused registered answer decoder header) :
    machine.Outcome EventDecoder.context (terms registered) (Reading registered answer)
      Aborted decoder (decoder.put header) := by
  have kept := recorded.put header
  cases opcodeClass (lowNibble_lt header) with
  | unknown length =>
      rw [recorded.put_unknown waiting header length]
      exact .rejected _ rfl (nofun : DecoderStatus.unknownOpcode ≠ .ok) rfl
        (emit_report_granted rfl)
  | streamed kind nibble length =>
      have accepted : reply (registered (.stream kind .start))
          (answer decoder.context (kind, .start (highNibble header))) = .ok := by
        by_contra rejected
        exact granted ⟨kind, nibble, reply_ne_ok.mp rejected⟩
      rw [recorded.put_streamHeader waiting header nibble length] at kept ⊢
      exact .calm _ rfl rfl ⟨kept, .inr rfl⟩ (emit_stream_quiet accepted rfl)
  | fixed size short length =>
      rw [put_fixedHeader waiting header (by omega) (by omega)] at kept ⊢
      exact .calm [] (List.append_nil _).symm rfl ⟨kept, .inl rfl⟩ .nil

theorem speaks (registered : EventSlot → Bool) (answer : EventAnswer) :
    machine.Speaks EventDecoder.context (terms registered)
      (fun decoder => Recorded registered answer decoder ∧ decoder.state = .streamData) where
  put := by
    rintro decoder byte ⟨recorded, streaming⟩
    change ∃ calls, (decoder.put byte).1.context = decoder.context ++ calls ∧
      ((decoder.put byte).2 = .ok ∧ Recorded registered answer (decoder.put byte).1 ∧
          (decoder.put byte).1.state = .streamData ∨
        (decoder.put byte).2 ≠ .ok ∧ ∃ call ∈ calls, (terms registered).stream call)
    have kept := recorded.put byte
    obtain ⟨kind, _, selected⟩ := recorded.selected streaming
    by_cases accepted : reply (registered (.stream kind .data)) (answer decoder.context
        (kind, .data decoder.interface byte decoder.stream.byteIndex)) = .ok
    · have received := put_accepted streaming selected byte accepted
      rw [received] at kept ⊢
      exact ⟨_, rfl, .inl ⟨rfl, kept, streaming⟩⟩
    · obtain ⟨present, refused⟩ := reply_ne_ok.mp accepted
      rw [recorded.put_refused streaming selected byte present refused]
      exact ⟨_, List.append_assoc _ _ _, .inr ⟨nofun, _, List.mem_cons_self, _, rfl⟩⟩

theorem Recorded.honoured_iff (recorded : Recorded registered answer decoder)
    (waiting : decoder.state = .wait) {operations : List (Operation UInt8)}
    (frame : OneFrame operations) :
    (terms registered).Honoured (machine.ledger EventDecoder.context decoder operations) ↔
      ¬ ∃ header, (operations.flatMap Operation.bytes).head? = some header ∧
        StartRefused registered answer decoder header := by
  refine (disciplined registered answer).honoured_iff (speaks registered answer)
    (fun header => recorded.put_header waiting header) ?_ ?_ frame
  · rintro header ⟨kind, nibble, present, refused⟩
    have streamed : rnodeEventOpcodeLength (lowNibble header) = -1 := by
      rw [nibble]
      cases kind <;> rfl
    have opened := recorded.put_streamHeader waiting header nibble streamed
    rw [present, refused] at opened
    have kept := recorded.put header
    exact ⟨.stream kind (.start (highNibble header)) .abort, rfl, congrArg Prod.snd opened,
      congrArg (fun result => result.1.context) opened, kept,
      congrArg (fun result => result.1.state) opened⟩
  · have ended := congrArg (fun result => result.1.context) (end_idle (.inl waiting))
    exact .calm [] (ended.trans (List.append_nil _).symm)
      fun _ member => absurd member List.not_mem_nil

end EventDecoder

/-! ### Both decoders, in any frame of any run -/

/-- A frame honours every refusal exactly when its header meets none. -/
theorem refusals_honoured_iff (commandMemory : CommandDecoder (List CommandCall))
    (eventMemory : EventDecoder (List EventCall)) (commands : CommandSlot → Bool)
    (events : EventSlot → Bool) (commandAnswer : CommandAnswer) (eventAnswer : EventAnswer)
    (operations : List (Operation UInt8)) {frame : List (Operation UInt8)}
    (oneFrame : OneFrame frame) :
    ((CommandDecoder.terms commands).Honoured
          (CommandDecoder.machine.ledger CommandDecoder.context
            (CommandDecoder.reached commandMemory commands commandAnswer operations).start
            frame) ↔
        ¬ ∃ header, (frame.flatMap Operation.bytes).head? = some header ∧
          CommandDecoder.StartRefused commands commandAnswer
            (CommandDecoder.reached commandMemory commands commandAnswer operations) header) ∧
      ((EventDecoder.terms events).Honoured
          (EventDecoder.machine.ledger EventDecoder.context
            (EventDecoder.reached eventMemory events eventAnswer operations).start frame) ↔
        ¬ ∃ header, (frame.flatMap Operation.bytes).head? = some header ∧
          EventDecoder.StartRefused events eventAnswer
            (EventDecoder.reached eventMemory events eventAnswer operations) header) := by
  have command := CommandDecoder.reached_recorded commandMemory commands commandAnswer operations
  have event := EventDecoder.reached_recorded eventMemory events eventAnswer operations
  exact ⟨command.start.honoured_iff rfl oneFrame, event.start.honoured_iff rfl oneFrame⟩

/-- The data callback refuses the second byte, and that is all the frame hears of it. -/
theorem data_refusal_honoured :
    (CommandDecoder.terms (fun _ => true)).Honoured
      (CommandDecoder.machine.ledger CommandDecoder.context
        (CommandDecoder.reached (CommandDecoder.zeroed []) (fun _ => true)
          (fun _ call => if call = .data 1 0xBB 1 then .abort else .ok) []).start
        [.put 0x10, .write [0xAA, 0xBB, 0xCC], .endFrame]) := by
  have frame : OneFrame ([.put 0x10, .write [0xAA, 0xBB, 0xCC], .endFrame] :
      List (Operation UInt8)) := .put _ (.write _ .finished)
  refine (refusals_honoured_iff (CommandDecoder.zeroed []) (EventDecoder.zeroed [])
    (fun _ => true) (fun _ => true) _ (fun _ _ => .ok) [] frame).1.mpr ?_
  rintro ⟨header, first, _, _, refused⟩
  cases first
  exact absurd refused (by decide)

/-- The start callback refuses, and the stream goes on to its end. -/
theorem start_refusal_ignored :
    CommandDecoder.machine.ledger CommandDecoder.context
        (CommandDecoder.reached (CommandDecoder.zeroed []) (fun _ => true)
          (fun _ call => if call = .start 1 then .abort else .ok) []).start
        [.put 0x10, .put 0xAA, .endFrame] =
      [⟨some .ok, [.tx (.start 1) .abort]⟩, ⟨some .ok, [.tx (.data 1 0xAA 0) .ok]⟩,
        ⟨some .ok, [.tx (.endStream 1 1) .ok]⟩] ∧
      ¬ (CommandDecoder.terms (fun _ => true)).Honoured
        [⟨some .ok, [.tx (.start 1) .abort]⟩, ⟨some .ok, [.tx (.data 1 0xAA 0) .ok]⟩,
          ⟨some .ok, [.tx (.endStream 1 1) .ok]⟩] := by
  refine ⟨by decide, ?_⟩
  intro honoured
  have answered := (honoured [] _ _ rfl [] _ [] rfl rfl).1
  exact absurd answered (by decide)

end RNodeProtocol
