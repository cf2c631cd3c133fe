/-
The command decoder on whole frames.

Started on any state, the decoder reports a frame exactly as the grammar reads
it, whatever came before.
-/

import RNodeProtocol.CommandFormat

namespace RNodeProtocol

open ByteNumerals FramedInput

namespace CommandDecoder

/-! ### The grammar against the decoder's tables -/

theorem radioState_ofValue? (value : Nat) (small : value < 256) :
    RadioState.ofValue? (UInt32.ofNat value) = parseRadioState value := by
  have same : (UInt32.ofNat value).toNat = value :=
    UInt32.toNat_ofNat_of_lt' (Nat.lt_trans small (by decide))
  unfold parseRadioState
  split
  · rfl
  · rfl
  · rfl
  · rename_i notOff notOn notAsk
    apply List.find?_eq_none.mpr
    intro state _ matched
    have found := congrArg UInt32.toNat (eq_of_beq matched)
    rw [same] at found
    cases state with
    | off => exact notOff found.symm
    | on => exact notOn found.symm
    | ask => exact notAsk found.symm

/-- The dispatch on a value and the grammar's reading of it report the same thing. -/
inductive Agrees : Except DecoderStatus CommandCall → Option Command → Prop where
  | accepted {call : CommandCall} (command : Command) (calls : command.calls = [call]) :
      Agrees (.ok call) (some command)
  | rejected : Agrees (.error .invalidArgument) none

theorem Agrees.reported {dispatched : Except DecoderStatus CommandCall} {read : Option Command}
    (interface opcode : UInt8) (index : UInt32) :
    Agrees dispatched read →
      ParsedCommand.ReportedBy
        (match read with
          | some command => .accepted command
          | none => .rejected interface opcode .invalidArgument)
        [match dispatched with
          | .ok call => call
          | .error status => .error interface opcode index status] := by
  intro agrees
  cases agrees with
  | accepted command calls => exact calls.symm
  | rejected => exact ⟨index, rfl⟩

/-- How the decoder's length table and the grammar class an opcode nibble. -/
inductive OpcodeClass (opcode : UInt8) : Prop where
  | unknown (length : rnodeProtoOpcodeLength opcode = -2) (notData : opcode.toNat ≠ 0)
      (table : fixedCommand opcode.toNat = none)
  | streamed (length : rnodeProtoOpcodeLength opcode = -1) (data : opcode.toNat = 0)
  | fixed (size : Nat) (short : size ≤ 4) (length : rnodeProtoOpcodeLength opcode = size)
      (notData : opcode.toNat ≠ 0) (build : Interface → Nat → Option Command)
      (table : fixedCommand opcode.toNat = some (size, build))
      (agrees : ∀ interface value, value < 256 ^ size →
        Agrees (dispatchCall interface.value opcode (UInt32.ofNat value))
          (build interface value))

theorem opcodeClass {opcode : UInt8} (inRange : opcode.toNat < 16) : OpcodeClass opcode := by
  rcases nibble_cases inRange with
    rfl | rfl | rfl | rfl | rfl | rfl | rfl | rfl | rfl | rfl | rfl | rfl | rfl | rfl | rfl | rfl
  · exact .streamed rfl rfl
  · exact .fixed 4 (by decide) rfl (by decide) _ rfl (fun _ _ _ => .accepted _ rfl)
  · exact .fixed 4 (by decide) rfl (by decide) _ rfl (fun _ _ _ => .accepted _ rfl)
  · refine .fixed 1 (by decide) rfl (by decide) _ rfl (fun interface value _ => ?_)
    rw [← UInt32.toUInt8_ofNat']
    exact .accepted _ rfl
  · refine .fixed 1 (by decide) rfl (by decide) _ rfl (fun interface value _ => ?_)
    rw [← UInt32.toUInt8_ofNat']
    exact .accepted _ rfl
  · refine .fixed 1 (by decide) rfl (by decide) _ rfl (fun interface value _ => ?_)
    rw [← UInt32.toUInt8_ofNat']
    exact .accepted _ rfl
  · refine .fixed 1 (by decide) rfl (by decide) _ rfl (fun interface value small => ?_)
    change Agrees (dispatchCall _ RnodeOpcode.radioState.value _) _
    rw [dispatchCall_radioState, radioState_ofValue? value small]
    cases parseRadioState value with
    | none => exact .rejected
    | some state => exact .accepted _ rfl
  · refine .fixed 1 (by decide) rfl (by decide) _ rfl (fun interface value _ => ?_)
    rw [← UInt32.toUInt8_ofNat']
    exact .accepted _ rfl
  · refine .fixed 1 (by decide) rfl (by decide) _ rfl (fun interface value small => ?_)
    change Agrees (if UInt32.ofNat value = detectReq.toUInt32 then .ok .detect
      else .error .invalidArgument) (if value = 0x73 then some .detect else none)
    by_cases request : value = 0x73
    · subst value
      exact .accepted _ rfl
    · have different : UInt32.ofNat value ≠ detectReq.toUInt32 := by
        intro same
        have values := congrArg UInt32.toNat same
        rw [UInt32.toNat_ofNat_of_lt' (Nat.lt_trans small (by decide))] at values
        exact request values
      rw [if_neg request, if_neg different]
      exact .rejected
  · exact .unknown rfl (by decide) rfl
  · exact .fixed 1 (by decide) rfl (by decide) _ rfl (fun _ _ _ => .accepted _ rfl)
  · exact .unknown rfl (by decide) rfl
  · exact .unknown rfl (by decide) rfl
  · exact .unknown rfl (by decide) rfl
  · exact .unknown rfl (by decide) rfl
  · exact .fixed 0 (by decide) rfl (by decide) _ rfl (fun _ _ _ => .accepted _ rfl)

/-! ### Payloads -/

section Payloads

variable {Ctx : Type}

theorem put_stops (decoder : CommandDecoder Ctx) (byte : UInt8) :
    (decoder.put byte).2 = .ok ∨ (decoder.put byte).1.state = .abort := by
  unfold CommandDecoder.put
  cases decoder.state with
  | wait =>
      dsimp only
      split
      · exact .inr rfl
      · split <;> exact .inl rfl
  | readFixed =>
      dsimp only
      split
      · exact .inl rfl
      · exact .inr rfl
  | streamData =>
      dsimp only
      split
      · exact .inr rfl
      · exact .inl rfl
  | abort => exact .inl rfl

theorem failStop :
    machine.FailStop (fun decoder : CommandDecoder Ctx => decoder.state = .abort) where
  refused := fun decoder byte refused => (decoder.put_stops byte).resolve_left refused
  inert := fun _ byte aborted => congrArg Prod.fst (put_abort aborted byte)

/-- A payload that fits the buffer is collected in it, without any callback. -/
theorem putAll_fixed {decoder : CommandDecoder Ctx} {received : List UInt8}
    (reading : decoder.state = .readFixed) (holds : decoder.smallbuf.Holds received)
    (counted : decoder.payloadIndex.toNat = received.length) (payload : List UInt8)
    (fits : received.length + payload.length ≤ 4) :
    machine.Accepts decoder payload ∧
      ∃ buffer, ScratchBuffer.Holds buffer (received ++ payload) ∧
        machine.putAll decoder payload =
          { decoder with
            smallbuf := buffer
            payloadIndex := UInt32.ofNat (received.length + payload.length) } := by
  induction payload generalizing decoder received with
  | nil =>
      have same : decoder.payloadIndex =
          UInt32.ofNat (received.length + ([] : List UInt8).length) := by
        rw [List.length_nil, Nat.add_zero, ← counted, UInt32.ofNat_toNat]
      rw [← same, List.append_nil]
      exact ⟨trivial, decoder.smallbuf, holds, rfl⟩
  | cons byte rest ih =>
      rw [List.length_cons] at fits
      have room : decoder.payloadIndex < 4 := by
        change decoder.payloadIndex.toNat < 4
        omega
      have stored := put_room reading byte room
      have next := holds.store byte decoder.payloadIndex counted (by omega)
      have advanced : (decoder.payloadIndex + 1).toNat = received.length + 1 := by
        rw [UInt32.toNat_add, counted]
        change (received.length + 1) % 2 ^ 32 = received.length + 1
        omega
      have length : (received ++ [byte]).length = received.length + 1 := by
        rw [List.length_append, List.length_singleton]
      have step := @ih (decoder.put byte).1 (received ++ [byte])
        (by rw [stored]; exact reading) (by rw [stored]; exact next)
        (by rw [stored, length]; exact advanced) (by rw [length]; omega)
      obtain ⟨accepts, buffer, collected, final⟩ := step
      rw [List.append_assoc, List.singleton_append] at collected
      refine ⟨⟨congrArg Prod.snd stored, accepts⟩, buffer, collected, ?_⟩
      rw [CommandDecoder.putAll_cons]
      refine Eq.trans final ?_
      rw [stored, length, List.length_cons, Nat.add_assoc, Nat.add_comm 1]

theorem putAll_fixedHeader {decoder : CommandDecoder Ctx} (waiting : decoder.state = .wait)
    (header : UInt8) (payload : List UInt8) {size : Nat}
    (length : rnodeProtoOpcodeLength (lowNibble header) = size) (fits : payload.length ≤ 4) :
    machine.Accepts decoder (header :: payload) ∧
      ∃ buffer, ScratchBuffer.Holds buffer payload ∧
        machine.putAll decoder (header :: payload) =
          { decoder with
            interface := highNibble header
            opcode := lowNibble header
            opcodeLength := UInt8.ofInt size
            state := .readFixed
            smallbuf := buffer
            payloadIndex := UInt32.ofNat payload.length } := by
  have headed := put_fixedHeader waiting header (by omega) (by omega)
  let reading : CommandDecoder Ctx :=
    { decoder with
      interface := highNibble header
      opcode := lowNibble header
      payloadIndex := 0
      opcodeLength := UInt8.ofInt (rnodeProtoOpcodeLength (lowNibble header))
      state := .readFixed }
  change decoder.put header = (reading, .ok) at headed
  have empty : reading.smallbuf.Holds [] := ScratchBuffer.holds_nil _
  have fit : ([] : List UInt8).length + payload.length ≤ 4 := by
    rw [List.length_nil, Nat.zero_add]
    exact fits
  obtain ⟨accepts, buffer, holds, final⟩ := putAll_fixed rfl empty rfl payload fit
  refine ⟨⟨congrArg Prod.snd headed, ?_⟩, buffer, holds, ?_⟩
  · change machine.Accepts (decoder.put header).1 payload
    rw [headed]
    exact accepts
  · rw [CommandDecoder.putAll_cons, headed, final, List.length_nil, Nat.zero_add, ← length]

end Payloads

variable {answer : CommandAnswer} {decoder : CommandDecoder (List CommandCall)}
  {base : List CommandCall}

/-- An accepted stream payload is reported byte by byte, with running positions. -/
theorem Recorded.putAll_stream (recorded : Recorded (fun _ => true) answer decoder)
    (streaming : decoder.state = .streamData) (accepting : AcceptsAfter answer base)
    (later : base <+: decoder.context) (first : Nat)
    (counted : decoder.txStream.byteIndex = UInt32.ofNat first) (payload : List UInt8) :
    machine.Accepts decoder payload ∧
      machine.putAll decoder payload =
        { decoder with
          txStream := { decoder.txStream with
            byteIndex := UInt32.ofNat (first + payload.length) }
          payloadIndex := decoder.payloadIndex + UInt32.ofNat payload.length
          context := decoder.context ++ dataCalls .tx decoder.interface first payload } := by
  induction payload generalizing decoder first with
  | nil =>
      refine ⟨trivial, ?_⟩
      change decoder = { decoder with
        txStream := { decoder.txStream with byteIndex := UInt32.ofNat first }
        payloadIndex := decoder.payloadIndex + 0
        context := decoder.context ++ [] }
      rw [← counted, UInt32.add_zero, List.append_nil]
  | cons byte rest ih =>
      have accepted := accepting decoder.context
        (.data decoder.interface byte decoder.txStream.byteIndex) later
      have received := recorded.put_accepted streaming byte accepted
      rw [accepted, counted, counter_succ] at received
      have kept := recorded.put byte
      have step := @ih (decoder.put byte).1 kept
        (by rw [received]; exact streaming)
        (by rw [received]; exact later.trans (List.prefix_append _ _)) (first + 1)
        (by rw [received])
      obtain ⟨accepts, final⟩ := step
      refine ⟨⟨congrArg Prod.snd received, accepts⟩, ?_⟩
      rw [CommandDecoder.putAll_cons]
      refine Eq.trans final ?_
      rw [received, dataCalls_cons, List.length_cons]
      congr 1
      · change decoder.context ++ [_] ++ _ = decoder.context ++ _
        rw [List.append_assoc, List.singleton_append]
      · change decoder.payloadIndex + 1 + _ = _
        rw [UInt32.add_assoc, UInt32.add_comm 1, counter_succ]
      · rw [Nat.add_assoc, Nat.add_comm 1]

/-! ### Frames -/

theorem Recorded.frame_unknown (recorded : Recorded (fun _ => true) answer decoder)
    (waiting : decoder.state = .wait) (header : UInt8) (payload : List UInt8)
    (unknown : rnodeProtoOpcodeLength (lowNibble header) = -2) :
    (machine.putAll decoder (header :: payload)).endFrame.1.context = decoder.context ++
      [.error (highNibble header) (lowNibble header) 0 .unknownOpcode] := by
  have stopped := recorded.put_unknown waiting header unknown
  have aborted : (decoder.put header).1.state = .abort := by rw [stopped]
  rw [CommandDecoder.putAll_cons, failStop.putAll_dead _ payload aborted,
    end_idle (.inr aborted), stopped]
  rfl

theorem Recorded.frame_streamed (recorded : Recorded (fun _ => true) answer decoder)
    (waiting : decoder.state = .wait) (accepting : AcceptsAfter answer decoder.context)
    (header : UInt8) (payload : List UInt8)
    (streamed : rnodeProtoOpcodeLength (lowNibble header) = -1) :
    (machine.putAll decoder (header :: payload)).endFrame.1.context =
      decoder.context ++ streamCalls .tx (highNibble header) payload := by
  have opened := recorded.put_streamHeader waiting header streamed
  rw [accepting decoder.context _ (List.prefix_refl _)] at opened
  have kept := recorded.put header
  have later : decoder.context <+: (decoder.put header).1.context := by
    rw [opened]
    exact List.prefix_append _ _
  have fed := (kept.putAll_stream (by rw [opened]) accepting later 0 (by rw [opened]; rfl)
    payload).2
  have recordedEnd := recorded_preserved.putAll _ payload kept
  have streaming : (machine.putAll (decoder.put header).1 payload).state = .streamData := by
    rw [fed, opened]
  have laterEnd : decoder.context <+: (machine.putAll (decoder.put header).1 payload).context := by
    rw [fed]
    exact later.trans (List.prefix_append _ _)
  have answered := accepting _ (.endStream (machine.putAll (decoder.put header).1 payload).interface
    (machine.putAll (decoder.put header).1 payload).txStream.byteIndex) laterEnd
  rw [CommandDecoder.putAll_cons, recordedEnd.end_accepted streaming answered, answered, fed,
    opened, Nat.zero_add]
  change decoder.context ++ [_] ++ _ ++ [_] = decoder.context ++ (_ :: _ ++ [_])
  rw [List.append_assoc, List.append_assoc]
  rfl

theorem opcodeLength_ofInt :
    ∀ size, size ≤ 4 → (UInt8.ofInt (size : Nat)).toNat = size := by
  decide

private theorem split_overflow (header : UInt8) {payload : List UInt8}
    (long : 4 < payload.length) :
    header :: payload = (header :: payload.take 4) ++ (payload[4] :: payload.drop 5) := by
  rw [List.cons_append, ← List.drop_eq_getElem_cons long, List.take_append_drop]

/-- The fifth byte of a payload aborts the command, whatever its opcode. -/
theorem putAll_overflow {Ctx : Type} {decoder : CommandDecoder Ctx}
    (waiting : decoder.state = .wait) (header : UInt8) (payload : List UInt8) {size : Nat}
    (length : rnodeProtoOpcodeLength (lowNibble header) = size) (long : 4 < payload.length) :
    (machine.putAll decoder (header :: payload)).state = .abort := by
  have taken : (payload.take 4).length = 4 := List.length_take_of_le (by omega)
  obtain ⟨_, buffer, _, final⟩ :=
    putAll_fixedHeader waiting header (payload.take 4) length (by omega)
  have aborted : ((machine.putAll decoder (header :: payload.take 4)).put
      payload[4]).1.state = .abort := by
    rw [final, taken]
    rfl
  rw [split_overflow header long, Machine.putAll_append, CommandDecoder.putAll_cons,
    failStop.putAll_dead _ _ aborted]
  exact aborted

/-- A payload of another length than the table's is rejected, wherever that is noticed. -/
theorem Recorded.frame_fixed_length (recorded : Recorded (fun _ => true) answer decoder)
    (waiting : decoder.state = .wait) (header : UInt8) (payload : List UInt8) {size : Nat}
    (short : size ≤ 4) (length : rnodeProtoOpcodeLength (lowNibble header) = size)
    (different : payload.length ≠ size) :
    (machine.putAll decoder (header :: payload)).endFrame.1.context = decoder.context ++
      [.error (highNibble header) (lowNibble header) (UInt32.ofNat (min payload.length 4))
        .invalidLength] := by
  by_cases fits : payload.length ≤ 4
  · obtain ⟨_, buffer, _, final⟩ := putAll_fixedHeader waiting header payload length fits
    have kept := recorded_preserved.putAll _ (header :: payload) recorded
    have mismatch : (machine.putAll decoder (header :: payload)).payloadIndex ≠
        (machine.putAll decoder (header :: payload)).opcodeLength.toUInt32 := by
      rw [final]
      intro same
      have values := congrArg UInt32.toNat same
      rw [UInt32.toNat_ofNat_of_lt' (Nat.lt_of_le_of_lt fits (by decide)), UInt8.toNat_toUInt32,
        opcodeLength_ofInt size short] at values
      exact different values
    rw [kept.end_short (by rw [final]) mismatch, final, Nat.min_eq_left fits]
    rfl
  · have long : 4 < payload.length := Nat.lt_of_not_le fits
    have taken : (payload.take 4).length = 4 := List.length_take_of_le (by omega)
    obtain ⟨_, buffer, _, final⟩ :=
      putAll_fixedHeader waiting header (payload.take 4) length (by omega)
    have kept := recorded_preserved.putAll _ (header :: payload.take 4) recorded
    have full : ¬ (machine.putAll decoder (header :: payload.take 4)).payloadIndex < 4 := by
      rw [final, taken]
      exact (by decide : ¬ UInt32.ofNat 4 < 4)
    have overflow := kept.put_full (by rw [final]) payload[4] full
    have aborted : ((machine.putAll decoder (header :: payload.take 4)).put
        payload[4]).1.state = .abort := by
      rw [overflow]
    rw [split_overflow header long, Machine.putAll_append, CommandDecoder.putAll_cons,
      failStop.putAll_dead _ _ aborted, end_idle (.inr aborted), overflow, final, taken,
      Nat.min_eq_right (Nat.le_of_lt long)]
    rfl

/-- A payload of the table's length is dispatched once, or rejected for its value. -/
theorem Recorded.frame_fixed (recorded : Recorded (fun _ => true) answer decoder)
    (waiting : decoder.state = .wait) (header : UInt8) (payload : List UInt8)
    (short : payload.length ≤ 4)
    (length : rnodeProtoOpcodeLength (lowNibble header) = payload.length) :
    (machine.putAll decoder (header :: payload)).endFrame.1.context = decoder.context ++
      [match dispatchCall (highNibble header) (lowNibble header)
          (UInt32.ofNat (bigEndian payload)) with
        | .ok call => call
        | .error status =>
            .error (highNibble header) (lowNibble header) (UInt32.ofNat payload.length)
              status] := by
  obtain ⟨_, buffer, holds, final⟩ := putAll_fixedHeader waiting header payload length short
  have kept := recorded_preserved.putAll _ (header :: payload) recorded
  have complete : (machine.putAll decoder (header :: payload)).payloadIndex =
      (machine.putAll decoder (header :: payload)).opcodeLength.toUInt32 := by
    rw [final]
    apply UInt32.toNat_inj.mp
    rw [UInt32.toNat_ofNat_of_lt' (Nat.lt_of_le_of_lt short (by decide)),
      UInt8.toNat_toUInt32, opcodeLength_ofInt payload.length short]
  have read := holds.value_eq (UInt8.ofInt payload.length)
    (opcodeLength_ofInt payload.length short).symm
  cases dispatched : dispatchCall (highNibble header) (lowNibble header)
      (UInt32.ofNat (bigEndian payload)) with
  | ok call =>
      rw [kept.end_command (by rw [final]) complete (by rw [final, read]; exact dispatched), final]
      rfl
  | error status =>
      rw [kept.end_rejected (by rw [final]) complete (by rw [final, read]; exact dispatched),
        final]
      rfl

/-- One frame adds to the log what the grammar says about it. -/
theorem Recorded.frame (recorded : Recorded (fun _ => true) answer decoder)
    (waiting : decoder.state = .wait) (accepting : AcceptsAfter answer decoder.context)
    (frame : List UInt8) :
    ∃ calls, (parseCommand frame).ReportedBy calls ∧
      (machine.putAll decoder frame).endFrame.1.context = decoder.context ++ calls := by
  cases frame with
  | nil =>
      refine ⟨[], rfl, ?_⟩
      rw [Machine.putAll_nil, end_idle (.inl waiting), List.append_nil]
      rfl
  | cons header payload =>
      change ∃ calls, (parsePayload header payload (lowNibble header).toNat).ReportedBy calls ∧ _
      unfold parsePayload
      cases opcodeClass (lowNibble_lt header) with
      | unknown length notData table =>
          refine ⟨_, ?_, recorded.frame_unknown waiting header payload length⟩
          rw [if_neg notData, table]
          exact ⟨0, rfl⟩
      | streamed length data =>
          refine ⟨_, ?_, recorded.frame_streamed waiting accepting header payload length⟩
          rw [if_pos data]
          rfl
      | fixed size short length notData build table agrees =>
          rw [if_neg notData, table]
          change ∃ calls, (parseFixed header size payload build).ReportedBy calls ∧ _
          unfold parseFixed
          by_cases sized : payload.length = size
          · subst sized
            refine ⟨_, ?_, recorded.frame_fixed waiting header payload short length⟩
            have bounded := bigEndian_lt payload
            have meaning := agrees (Interface.ofHeader header) (bigEndian payload) bounded
            rw [if_pos rfl]
            exact Agrees.reported (highNibble header) (lowNibble header) _ meaning
          · refine ⟨_, ?_, recorded.frame_fixed_length waiting header payload short length sized⟩
            rw [if_neg sized]
            exact ⟨_, rfl⟩

/-- After any run, a started decoder reports a frame exactly as the grammar reads it. -/
theorem reached_frame (memory : CommandDecoder (List CommandCall)) (answer : CommandAnswer)
    (operations : List (Operation UInt8)) (frame : List UInt8)
    (accepting : AcceptsAfter answer
      (reached memory (fun _ => true) answer operations).context) :
    ∃ calls, (parseCommand frame).ReportedBy calls ∧
      (machine.endFrame (machine.putAll (machine.start
          (reached memory (fun _ => true) answer operations)) frame)).1.context =
        (reached memory (fun _ => true) answer operations).context ++ calls :=
  (reached_recorded memory _ answer operations).start.frame rfl accepting frame

/-- Two refused answers and a half-read frame come before this frequency command. -/
theorem reached_frame_frequency :
    ∃ calls, (parseCommand [0x21, 0x33, 0xBC, 0xA1, 0x00]).ReportedBy calls ∧
      (machine.endFrame (machine.putAll (machine.start
          (reached (zeroed []) (fun _ => true)
            (fun log _ => if log.length < 2 then .abort else .ok)
            [.start, .put 0x10, .put 0x55, .start, .put 0x14]))
          [0x21, 0x33, 0xBC, 0xA1, 0x00])).1.context =
        (reached (zeroed []) (fun _ => true)
          (fun log _ => if log.length < 2 then .abort else .ok)
          [.start, .put 0x10, .put 0x55, .start, .put 0x14]).context ++ calls := by
  refine reached_frame _ _ _ _ ?_
  intro log call later
  have long := later.length_le
  have recorded : (reached (zeroed []) (fun _ => true)
      (fun log _ => if log.length < 2 then .abort else .ok)
      [.start, .put 0x10, .put 0x55, .start, .put 0x14]).context.length = 3 := by
    decide
  change (if log.length < 2 then StreamCbStatus.abort else StreamCbStatus.ok) = .ok
  rw [if_neg (by omega)]

end CommandDecoder

end RNodeProtocol
