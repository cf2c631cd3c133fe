/-
Reports of the command decoder and the statuses its calls return.

Every report names the status the reporting call returns, except one: the end
of a frame drops the status of the dispatch, so a rejected `RADIO_STATE` or
`DETECT` argument is reported by a call that returns OK.
-/

import RNodeProtocol.CommandDecoderFrames
import RNodeProtocol.Library.CallLedger

namespace RNodeProtocol

open ByteNumerals FramedInput

namespace CommandDecoder

/-- The argument of a fixed-length command that the dispatch rejects. -/
def RejectsArgument (opcode : UInt8) (value : UInt32) : Prop :=
  RnodeOpcode.ofValue? opcode = some .radioState ∧ RadioState.ofValue? value = none ∨
    RnodeOpcode.ofValue? opcode = some .detect ∧ value ≠ detectReq.toUInt32

instance (opcode : UInt8) (value : UInt32) : Decidable (RejectsArgument opcode value) :=
  inferInstanceAs (Decidable (_ ∨ _))

/-- A complete command whose argument the dispatch rejects. -/
def HoldsRejected {Ctx : Type} (decoder : CommandDecoder Ctx) : Prop :=
  decoder.state = .readFixed ∧ decoder.payloadIndex = decoder.opcodeLength.toUInt32 ∧
    RejectsArgument decoder.opcode (decoder.smallbuf.value decoder.opcodeLength)

/-- Every report of an operation carries the status it returns. -/
def ReportsAgree (entry : Entry DecoderStatus CommandCall) : Prop :=
  ∀ interface opcode index status, .error interface opcode index status ∈ entry.calls →
    entry.answer = some status

/-- Some operation of a frame reported an error. -/
def Reported (entries : List (Entry DecoderStatus CommandCall)) : Prop :=
  ∃ entry ∈ entries, ∃ interface opcode index status,
    CommandCall.error interface opcode index status ∈ entry.calls

def AllOk (entries : List (Entry DecoderStatus CommandCall)) : Prop :=
  ∀ entry ∈ entries, entry.answer = some .ok

/-! ### The tables -/

theorem dispatchCall_error {interface opcode : UInt8} {value : UInt32} {status : DecoderStatus}
    (known : rnodeProtoOpcodeLength opcode ≠ -2) (fixed : rnodeProtoOpcodeLength opcode ≠ -1)
    (dispatched : dispatchCall interface opcode value = .error status) :
    status = .invalidArgument ∧ RejectsArgument opcode value := by
  unfold rnodeProtoOpcodeLength at known fixed
  unfold dispatchCall at dispatched
  unfold RejectsArgument
  cases found : RnodeOpcode.ofValue? opcode with
  | none =>
      rw [found] at known
      exact absurd rfl known
  | some name =>
      rw [found] at known fixed dispatched
      cases name with
      | radioState =>
          dsimp only at dispatched
          split at dispatched
          · cases dispatched
          · rename_i unnamed
            cases dispatched
            exact ⟨rfl, .inl ⟨rfl, unnamed⟩⟩
      | detect =>
          dsimp only at dispatched
          split at dispatched
          · cases dispatched
          · rename_i different
            cases dispatched
            exact ⟨rfl, .inr ⟨rfl, different⟩⟩
      | data => exact absurd rfl fixed
      | _ =>
          first
          | exact absurd rfl known
          | cases dispatched

theorem RejectsArgument.dispatchCall {opcode : UInt8} {value : UInt32}
    (rejects : RejectsArgument opcode value) (interface : UInt8) :
    dispatchCall interface opcode value = .error .invalidArgument := by
  unfold CommandDecoder.dispatchCall
  rcases rejects with ⟨found, unnamed⟩ | ⟨found, different⟩
  · rw [found]
    dsimp only
    rw [unnamed]
  · rw [found]
    exact if_neg different

theorem RejectsArgument.length {opcode : UInt8} {value : UInt32}
    (rejects : RejectsArgument opcode value) : rnodeProtoOpcodeLength opcode = 1 := by
  unfold rnodeProtoOpcodeLength
  rcases rejects with ⟨found, _⟩ | ⟨found, _⟩
  · rw [found]
  · rw [found]

/-! ### One operation -/

section States

variable {Ctx : Type}

theorem put_stream_state (decoder : CommandDecoder Ctx) (streaming : decoder.state = .streamData)
    (byte : UInt8) :
    (decoder.put byte).1.state = .streamData ∨ (decoder.put byte).1.state = .abort := by
  unfold CommandDecoder.put
  rw [streaming]
  dsimp only
  split
  · exact .inr rfl
  · exact .inl rfl

theorem endFrame_state (decoder : CommandDecoder Ctx) :
    decoder.endFrame.1.state ≠ .readFixed := by
  unfold CommandDecoder.endFrame
  cases decoder.state with
  | wait => exact nofun
  | readFixed =>
      dsimp only
      split <;> exact nofun
  | streamData =>
      dsimp only
      split <;> exact nofun
  | abort => exact nofun

end States

/-- Every report among the new calls carries the status returned, and that is not OK. -/
def Told (decoder : CommandDecoder (List CommandCall))
    (result : CommandDecoder (List CommandCall) × DecoderStatus) : Prop :=
  ∃ calls, result.1.context = decoder.context ++ calls ∧
    ∀ interface opcode index status, .error interface opcode index status ∈ calls →
      status ≠ .ok ∧ result.2 = status

variable {registered : CommandSlot → Bool} {answer : CommandAnswer}
  {decoder : CommandDecoder (List CommandCall)}

/-- The bytes of a fixed-length command are only read under an opcode that has one. -/
structure Classified (registered : CommandSlot → Bool) (answer : CommandAnswer)
    (decoder : CommandDecoder (List CommandCall)) : Prop where
  recorded : Recorded registered answer decoder
  fixed : decoder.state = .readFixed →
    rnodeProtoOpcodeLength decoder.opcode ≠ -2 ∧ rnodeProtoOpcodeLength decoder.opcode ≠ -1

private theorem told_silent {result : CommandDecoder (List CommandCall) × DecoderStatus}
    (same : result.1.context = decoder.context) : Told decoder result :=
  ⟨[], by rw [same, List.append_nil], fun _ _ _ _ member => absurd member List.not_mem_nil⟩

private theorem told_report {result : CommandDecoder (List CommandCall) × DecoderStatus}
    {interface opcode : UInt8} {index : UInt32} (quiet : List CommandCall)
    (added : result.1.context = decoder.context ++ quiet ++
      emit (registered .error) (.error interface opcode index result.2))
    (streams : ∀ call ∈ quiet, call.slot ≠ .error) (failed : result.2 ≠ .ok) :
    Told decoder result := by
  refine ⟨_, added.trans (List.append_assoc _ _ _), ?_⟩
  intro otherInterface otherOpcode otherIndex status member
  rcases List.mem_append.mp member with inQuiet | inReport
  · exact absurd rfl (streams _ inQuiet)
  · obtain ⟨_, same⟩ := mem_emit.mp inReport
    cases same
    exact ⟨failed, rfl⟩

private theorem told_call {result : CommandDecoder (List CommandCall) × DecoderStatus}
    {present : Bool} {call : CommandCall}
    (added : result.1.context = decoder.context ++ emit present call)
    (notError : call.slot ≠ .error) : Told decoder result := by
  refine ⟨_, added, ?_⟩
  intro interface opcode index status member
  obtain ⟨_, same⟩ := mem_emit.mp member
  rw [← same] at notError
  exact absurd rfl notError

theorem Recorded.put_told (recorded : Recorded registered answer decoder) (byte : UInt8) :
    Told decoder (decoder.put byte) := by
  have step := recorded.put_step byte
  generalize decoder.put byte = result at step ⊢
  cases step with
  | unknown _ _ => exact told_report [] (by rw [List.append_nil]) nofun nofun
  | streamHeader _ _ => exact told_call rfl nofun
  | fixedHeader _ _ _ => exact told_silent rfl
  | room _ _ => exact told_silent rfl
  | full _ _ => exact told_report [] (by rw [List.append_nil]) nofun nofun
  | accepted _ _ => exact told_call rfl nofun
  | refused _ _ _ =>
      refine told_report [_] rfl ?_ nofun
      intro call member
      rw [List.mem_singleton.mp member]
      exact nofun
  | ignored _ => exact told_silent rfl

theorem Recorded.write_told (recorded : Recorded registered answer decoder)
    (bytes : List UInt8) : Told decoder (machine.write decoder bytes) := by
  induction bytes generalizing decoder with
  | nil => exact told_silent rfl
  | cons byte rest ih =>
      obtain ⟨calls, added, told⟩ := recorded.put_told byte
      by_cases accepted : (decoder.put byte).2 = .ok
      · obtain ⟨later, addedLater, toldLater⟩ := ih (recorded.put byte)
        have step : machine.write decoder (byte :: rest) =
            machine.write (decoder.put byte).1 rest := Machine.write_accepted accepted rest
        rw [step]
        refine ⟨calls ++ later, ?_, ?_⟩
        · rw [addedLater, added, List.append_assoc]
        · intro interface opcode index status member
          rcases List.mem_append.mp member with now | then_
          · obtain ⟨failed, same⟩ := told interface opcode index status now
            exact absurd (same.symm.trans accepted) failed
          · exact toldLater interface opcode index status then_
      · have step : machine.write decoder (byte :: rest) = decoder.put byte :=
          Machine.write_refused accepted rest
        rw [step]
        exact ⟨calls, added, told⟩

theorem Classified.end_told (classified : Classified registered answer decoder)
    (valid : ¬ decoder.HoldsRejected) : Told decoder decoder.endFrame := by
  have step := classified.recorded.end_step
  generalize decoder.endFrame = result at step ⊢
  cases step with
  | command _ _ call dispatched =>
      refine told_call rfl ?_
      unfold CommandDecoder.dispatchCall at dispatched
      repeat' split at dispatched
      all_goals cases dispatched
      all_goals exact nofun
  | rejected reading complete status dispatched =>
      obtain ⟨known, fixed⟩ := classified.fixed reading
      obtain ⟨_, rejects⟩ := dispatchCall_error known fixed dispatched
      exact absurd ⟨reading, complete, rejects⟩ valid
  | short _ _ => exact told_report [] (by rw [List.append_nil]; rfl) nofun nofun
  | accepted _ _ => exact told_call rfl nofun
  | refused _ _ _ =>
      refine told_report [_] rfl ?_ nofun
      intro call member
      rw [List.mem_singleton.mp member]
      exact nofun
  | idle _ => exact told_silent rfl

theorem Recorded.end_holdsRejected (recorded : Recorded registered answer decoder)
    (holds : decoder.HoldsRejected) :
    decoder.endFrame.1.context = decoder.context ++ emit (registered .error)
        (.error decoder.interface decoder.opcode decoder.payloadIndex .invalidArgument) ∧
      decoder.endFrame.2 = .ok := by
  obtain ⟨state, complete, rejects⟩ := holds
  rw [recorded.end_rejected state complete (rejects.dispatchCall decoder.interface)]
  exact ⟨rfl, rfl⟩

theorem Classified.put (classified : Classified registered answer decoder) (byte : UInt8) :
    Classified registered answer (decoder.put byte).1 := by
  refine ⟨classified.recorded.put byte, ?_⟩
  have step := classified.recorded.put_step byte
  generalize decoder.put byte = result at step ⊢
  cases step with
  | unknown _ _ => exact nofun
  | streamHeader _ _ => exact nofun
  | fixedHeader _ known fixed => exact fun _ => ⟨known, fixed⟩
  | room reading _ => exact fun _ => classified.fixed reading
  | full _ _ => exact nofun
  | accepted streaming _ =>
      intro reading
      cases streaming.symm.trans reading
  | refused _ _ _ => exact nofun
  | ignored aborted =>
      intro reading
      cases aborted.symm.trans reading

theorem classified_preserved : machine.Preserves (Classified registered answer) where
  start := fun _ classified => ⟨classified.recorded.start, nofun⟩
  put := fun _ byte classified => classified.put byte
  endFrame := fun decoder classified =>
    ⟨classified.recorded.endFrame, fun reading => absurd reading decoder.endFrame_state⟩

/-! ### Entries and frames -/

theorem Told.entry {operation : Operation UInt8}
    {result : CommandDecoder (List CommandCall) × DecoderStatus} (told : Told decoder result)
    (stepped : machine.step decoder operation = (result.1, some result.2)) :
    ∀ interface opcode index status, .error interface opcode index status ∈
        (machine.entry CommandDecoder.context decoder operation).calls →
      status ≠ .ok ∧
        (machine.entry CommandDecoder.context decoder operation).answer = some status := by
  obtain ⟨calls, added, reports⟩ := told
  have made : (machine.entry CommandDecoder.context decoder operation).calls = calls := by
    apply Machine.entry_calls
    rw [stepped]
    exact added
  intro interface opcode index status member
  rw [made] at member
  obtain ⟨failed, same⟩ := reports interface opcode index status member
  refine ⟨failed, ?_⟩
  unfold Machine.entry
  rw [stepped, same]

theorem Recorded.entry_holdsRejected (recorded : Recorded registered answer decoder)
    (present : registered .error = true) (holds : decoder.HoldsRejected) :
    machine.entry CommandDecoder.context decoder .endFrame =
      { answer := some .ok
        calls := [.error decoder.interface decoder.opcode decoder.payloadIndex
          .invalidArgument] } := by
  obtain ⟨added, accepted⟩ := recorded.end_holdsRejected holds
  rw [present] at added
  have answered : (machine.entry CommandDecoder.context decoder .endFrame).answer = some .ok :=
    congrArg some accepted
  have made : (machine.entry CommandDecoder.context decoder .endFrame).calls =
      [.error decoder.interface decoder.opcode decoder.payloadIndex .invalidArgument] :=
    Machine.entry_calls added
  rw [← answered, ← made]

/-- A report and its call disagree only at the end of a command with a rejected argument. -/
theorem Classified.reportsAgree_iff (classified : Classified registered answer decoder)
    (present : registered .error = true) (operation : Operation UInt8) :
    ReportsAgree (machine.entry CommandDecoder.context decoder operation) ↔
      ¬ (operation = .endFrame ∧ decoder.HoldsRejected) := by
  constructor
  · rintro agree ⟨rfl, holds⟩
    rw [classified.recorded.entry_holdsRejected present holds] at agree
    cases agree _ _ _ _ List.mem_cons_self
  · intro valid interface opcode index status member
    cases operation with
    | start =>
        have silent : (machine.entry CommandDecoder.context decoder .start).calls = [] :=
          Machine.entry_calls (List.append_nil _).symm
        rw [silent] at member
        cases member
    | put byte =>
        exact ((classified.recorded.put_told byte).entry rfl _ _ _ _ member).2
    | write bytes =>
        exact ((classified.recorded.write_told bytes).entry rfl _ _ _ _ member).2
    | endFrame =>
        have told := classified.end_told fun holds => valid ⟨rfl, holds⟩
        exact (told.entry rfl _ _ _ _ member).2

theorem reported_cons (entry : Entry DecoderStatus CommandCall)
    (rest : List (Entry DecoderStatus CommandCall)) :
    Reported (entry :: rest) ↔
      (∃ interface opcode index status,
        CommandCall.error interface opcode index status ∈ entry.calls) ∨ Reported rest := by
  unfold Reported
  rw [List.exists_mem_cons_iff]

theorem allOk_cons (entry : Entry DecoderStatus CommandCall)
    (rest : List (Entry DecoderStatus CommandCall)) :
    AllOk (entry :: rest) ↔ entry.answer = some .ok ∧ AllOk rest := by
  unfold AllOk
  rw [List.forall_mem_cons]

/-- A put or a write either leaves the question to the rest of the frame or settles it. -/
theorem frame_reports_cons {operation : Operation UInt8} {rest : List (Operation UInt8)}
    {result : CommandDecoder (List CommandCall) × DecoderStatus} (told : Told decoder result)
    (stepped : machine.step decoder operation = (result.1, some result.2))
    (fed : result.1 = machine.putAll decoder operation.bytes)
    (stops : result.2 ≠ .ok → result.1.state = .abort) (notEnd : operation ≠ .endFrame)
    (later : (Reported (machine.ledger CommandDecoder.context result.1 rest) →
        ¬ AllOk (machine.ledger CommandDecoder.context result.1 rest)) ↔
      ¬ (.endFrame ∈ rest ∧
        (machine.putAll result.1 (rest.flatMap Operation.bytes)).HoldsRejected)) :
    (Reported (machine.ledger CommandDecoder.context decoder (operation :: rest)) →
        ¬ AllOk (machine.ledger CommandDecoder.context decoder (operation :: rest))) ↔
      ¬ (.endFrame ∈ operation :: rest ∧
        (machine.putAll decoder ((operation :: rest).flatMap Operation.bytes)).HoldsRejected) := by
  have reports := told.entry stepped
  have answered : (machine.entry CommandDecoder.context decoder operation).answer =
      some result.2 := by
    unfold Machine.entry
    rw [stepped]
  have ledger : machine.ledger CommandDecoder.context decoder (operation :: rest) =
      machine.entry CommandDecoder.context decoder operation ::
        machine.ledger CommandDecoder.context result.1 rest := by
    conv => lhs; unfold Machine.ledger
    rw [stepped]
  rw [ledger, reported_cons, allOk_cons, answered, List.flatMap_cons, Machine.putAll_append,
    ← fed]
  by_cases accepted : result.2 = .ok
  · have silent : ¬ ∃ interface opcode index status,
        CommandCall.error interface opcode index status ∈
          (machine.entry CommandDecoder.context decoder operation).calls := by
      rintro ⟨interface, opcode, index, status, member⟩
      obtain ⟨failed, same⟩ := reports interface opcode index status member
      rw [answered, accepted] at same
      exact failed (Option.some.inj same).symm
    have elsewhere : .endFrame ∈ operation :: rest ↔ Operation.endFrame ∈ rest := by
      rw [List.mem_cons, or_iff_right notEnd.symm]
    rw [accepted, or_iff_right silent, and_iff_right rfl, elsewhere]
    exact later
  · have aborted := stops accepted
    constructor
    · rintro _ ⟨_, reading, _⟩
      rw [failStop.putAll_dead _ _ aborted, aborted] at reading
      cases reading
    · intro _ _ allOk
      exact accepted (Option.some.inj allOk.1)

theorem Classified.frame_reports_iff (classified : Classified registered answer decoder)
    (present : registered .error = true) {operations : List (Operation UInt8)}
    (frame : OneFrame operations) :
    (Reported (machine.ledger CommandDecoder.context decoder operations) →
        ¬ AllOk (machine.ledger CommandDecoder.context decoder operations)) ↔
      ¬ (.endFrame ∈ operations ∧
        (machine.putAll decoder (operations.flatMap Operation.bytes)).HoldsRejected) := by
  induction frame generalizing decoder with
  | unfinished =>
      constructor
      · rintro _ ⟨member, _⟩
        cases member
      · rintro _ ⟨entry, member, _⟩
        cases member
  | finished =>
      change (Reported [machine.entry CommandDecoder.context decoder .endFrame] →
        ¬ AllOk [machine.entry CommandDecoder.context decoder .endFrame]) ↔
          ¬ (_ ∧ decoder.HoldsRejected)
      constructor
      · rintro flagged ⟨_, holds⟩
        rw [classified.recorded.entry_holdsRejected present holds] at flagged
        refine flagged ⟨_, List.mem_cons_self, _, _, _, _, List.mem_cons_self⟩ ?_
        intro entry member
        rw [List.mem_singleton.mp member]
      · rintro valid ⟨entry, member, interface, opcode, index, status, report⟩ allOk
        have told := classified.end_told fun holds => valid ⟨List.mem_cons_self, holds⟩
        have accepted := allOk entry member
        rw [List.mem_singleton.mp member] at report accepted
        obtain ⟨failed, same⟩ := told.entry rfl _ _ _ _ report
        rw [accepted] at same
        exact failed (Option.some.inj same).symm
  | put byte within ih =>
      exact frame_reports_cons (classified.recorded.put_told byte) rfl rfl
        (decoder.put_stops byte).resolve_left nofun (ih (classified.put byte))
  | write bytes within ih =>
      have kept := classified_preserved.write decoder bytes classified
      exact frame_reports_cons (classified.recorded.write_told bytes) rfl
        (failStop.write_fst decoder bytes) (failStop.write_stops decoder bytes) nofun (ih kept)

/-! ### Which frames hold a rejected argument -/

theorem putAll_stream_state {Ctx : Type} (decoder : CommandDecoder Ctx) (bytes : List UInt8)
    (streaming : decoder.state = .streamData ∨ decoder.state = .abort) :
    (machine.putAll decoder bytes).state = .streamData ∨
      (machine.putAll decoder bytes).state = .abort := by
  induction bytes generalizing decoder with
  | nil => exact streaming
  | cons byte rest ih =>
      rcases streaming with streaming | aborted
      · exact ih _ (decoder.put_stream_state streaming byte)
      · rw [failStop.putAll_dead decoder _ aborted]
        exact .inr aborted

/-- A command of a table length holds one exactly when its payload is the argument. -/
theorem holdsRejected_fixed {Ctx : Type} {decoder : CommandDecoder Ctx}
    (waiting : decoder.state = .wait) (header : UInt8) (payload : List UInt8) {size : Nat}
    (length : rnodeProtoOpcodeLength (lowNibble header) = size) (fits : payload.length ≤ 4) :
    (machine.putAll decoder (header :: payload)).HoldsRejected ↔
      ∃ argument, payload = [argument] ∧
        RejectsArgument (lowNibble header) argument.toUInt32 := by
  obtain ⟨_, buffer, holds, final⟩ := putAll_fixedHeader waiting header payload length fits
  have single : ∀ {value}, RejectsArgument (lowNibble header) value → size = 1 := by
    intro value rejects
    have sized := rejects.length
    omega
  have read : ∀ argument, payload = [argument] →
      buffer.value (UInt8.ofInt (1 : Nat)) = argument.toUInt32 := by
    rintro argument rfl
    rw [holds.value_eq _ rfl, bigEndian_singleton, UInt32.ofNat_uInt8ToNat]
  rw [final]
  constructor
  · rintro ⟨_, complete, rejects⟩
    obtain rfl := single rejects
    have counted := congrArg UInt32.toNat complete
    rw [UInt32.toNat_ofNat_of_lt' (Nat.lt_of_le_of_lt fits (by decide))] at counted
    obtain ⟨argument, rfl⟩ := List.length_eq_one_iff.mp counted
    refine ⟨argument, rfl, ?_⟩
    rw [← read argument rfl]
    exact rejects
  · rintro ⟨argument, rfl, rejects⟩
    obtain rfl := single rejects
    rw [← read argument rfl] at rejects
    exact ⟨rfl, rfl, rejects⟩

theorem holdsRejected_excluded {Ctx : Type} {decoder : CommandDecoder Ctx} {header : UInt8}
    {payload : List UInt8} (notReading : decoder.state ≠ .readFixed)
    (notSingle : payload.length = 1 → rnodeProtoOpcodeLength (lowNibble header) ≠ 1) :
    decoder.HoldsRejected ↔
      ∃ argument, payload = [argument] ∧
        RejectsArgument (lowNibble header) argument.toUInt32 := by
  constructor
  · intro holds
    exact absurd holds.1 notReading
  · rintro ⟨argument, rfl, rejects⟩
    exact absurd rejects.length (notSingle rfl)

theorem Recorded.holdsRejected_cons (recorded : Recorded registered answer decoder)
    (waiting : decoder.state = .wait) (header : UInt8) (payload : List UInt8) :
    (machine.putAll decoder (header :: payload)).HoldsRejected ↔
      ∃ argument, payload = [argument] ∧
        RejectsArgument (lowNibble header) argument.toUInt32 := by
  cases opcodeClass (lowNibble_lt header) with
  | unknown length _ _ =>
      have aborted : (decoder.put header).1.state = .abort := by
        rw [recorded.put_unknown waiting header length]
      rw [CommandDecoder.putAll_cons, failStop.putAll_dead _ payload aborted]
      refine holdsRejected_excluded ?_ (fun _ => by omega)
      rw [aborted]
      exact nofun
  | streamed length _ =>
      have streaming : (decoder.put header).1.state = .streamData := by
        rw [recorded.put_streamHeader waiting header length]
      refine holdsRejected_excluded ?_ (fun _ => by omega)
      rw [CommandDecoder.putAll_cons]
      rcases putAll_stream_state _ payload (.inl streaming) with state | state
      · rw [state]
        exact nofun
      · rw [state]
        exact nofun
  | fixed size short length _ _ _ _ =>
      by_cases fits : payload.length ≤ 4
      · exact holdsRejected_fixed waiting header payload length fits
      · refine holdsRejected_excluded ?_ (fun single => by omega)
        rw [putAll_overflow waiting header payload length (Nat.lt_of_not_le fits)]
        exact nofun

/-- Only a two-byte frame holds one: a header and the argument. -/
theorem Recorded.holdsRejected_iff (recorded : Recorded registered answer decoder)
    (waiting : decoder.state = .wait) (bytes : List UInt8) :
    (machine.putAll decoder bytes).HoldsRejected ↔
      ∃ header argument, bytes = [header, argument] ∧
        RejectsArgument (lowNibble header) argument.toUInt32 := by
  cases bytes with
  | nil =>
      constructor
      · rintro ⟨reading, _⟩
        rw [Machine.putAll_nil, waiting] at reading
        cases reading
      · rintro ⟨_, _, same, _⟩
        cases same
  | cons header payload =>
      rw [recorded.holdsRejected_cons waiting header payload]
      constructor
      · rintro ⟨argument, rfl, rejects⟩
        exact ⟨header, argument, rfl, rejects⟩
      · rintro ⟨_, argument, same, rejects⟩
        cases same
        exact ⟨argument, rfl, rejects⟩

/-! ### Any operation and any frame after any run -/

theorem reached_classified (memory : CommandDecoder (List CommandCall))
    (registered : CommandSlot → Bool) (answer : CommandAnswer)
    (operations : List (Operation UInt8)) :
    Classified registered answer (reached memory registered answer operations) :=
  classified_preserved.run _ operations ⟨fresh_recorded memory registered answer, nofun⟩

/-- Reports and statuses agree, but for the end of a command with a rejected argument. -/
theorem reached_reportsAgree_iff (memory : CommandDecoder (List CommandCall))
    (registered : CommandSlot → Bool) (answer : CommandAnswer)
    (operations : List (Operation UInt8)) (present : registered .error = true) :
    (∀ operation, ReportsAgree (machine.entry CommandDecoder.context
          (reached memory registered answer operations) operation) ↔
        ¬ (operation = .endFrame ∧
          (reached memory registered answer operations).HoldsRejected)) ∧
      ∀ frame, OneFrame frame →
        ((Reported (machine.ledger CommandDecoder.context
              (reached memory registered answer operations).start frame) →
            ¬ AllOk (machine.ledger CommandDecoder.context
              (reached memory registered answer operations).start frame)) ↔
          ¬ (.endFrame ∈ frame ∧ ∃ header argument,
            frame.flatMap Operation.bytes = [header, argument] ∧
              RejectsArgument (lowNibble header) argument.toUInt32)) := by
  have classified := reached_classified memory registered answer operations
  have started : Classified registered answer
      (reached memory registered answer operations).start :=
    classified_preserved.start _ classified
  refine ⟨classified.reportsAgree_iff present, ?_⟩
  intro frame oneFrame
  rw [started.frame_reports_iff present oneFrame,
    started.recorded.holdsRejected_iff rfl (frame.flatMap Operation.bytes)]

/-- A `RADIO_STATE` frame that lacks its argument: the end reports the length and returns it. -/
theorem reached_reportsAgree_shortFrame :
    let decoder := reached (zeroed []) (fun _ => true) (fun _ _ => .ok) [.start, .put 0x06]
    let frame : List (Operation UInt8) := [.put 0x06, .endFrame]
    machine.entry CommandDecoder.context decoder .endFrame =
        ⟨some .invalidLength, [.error 0 0x06 0 .invalidLength]⟩ ∧
      ReportsAgree (machine.entry CommandDecoder.context decoder .endFrame) ∧
      Reported (machine.ledger CommandDecoder.context decoder.start frame) ∧
      ¬ AllOk (machine.ledger CommandDecoder.context decoder.start frame) := by
  intro decoder frame
  obtain ⟨each, whole⟩ := reached_reportsAgree_iff (zeroed []) (fun _ => true) (fun _ _ => .ok)
    [.start, .put 0x06] rfl
  have told : machine.ledger CommandDecoder.context decoder.start frame =
      [⟨some .ok, []⟩, ⟨some .invalidLength, [.error 0 0x06 0 .invalidLength]⟩] := by
    decide
  have reported : Reported (machine.ledger CommandDecoder.context decoder.start frame) := by
    rw [told]
    exact ⟨_, List.mem_cons_of_mem _ List.mem_cons_self, _, _, _, _, List.mem_cons_self⟩
  refine ⟨by decide, (each .endFrame).mpr ?_, reported, (whole frame ?_).mpr ?_ reported⟩
  · rintro ⟨_, held⟩
    exact absurd held.2.1 (by decide)
  · exact .put 0x06 .finished
  · rintro ⟨_, header, argument, same, _⟩
    injection same with _ rest
    injection rest

/-- The argument 5 of `RADIO_STATE` is reported as invalid, and every call returns OK. -/
theorem radioState_rejected_ok :
    machine.ledger CommandDecoder.context
        (reached (zeroed []) (fun _ => true) (fun _ _ => .ok) []).start
        [.put 0x06, .put 0x05, .endFrame] =
      [⟨some .ok, []⟩, ⟨some .ok, []⟩, ⟨some .ok, [.error 0 0x06 1 .invalidArgument]⟩] ∧
      ¬ ReportsAgree ⟨some .ok, [.error 0 0x06 1 .invalidArgument]⟩ := by
  refine ⟨by decide, ?_⟩
  intro agree
  exact absurd (agree _ _ _ _ List.mem_cons_self) (by decide)

end CommandDecoder

end RNodeProtocol
