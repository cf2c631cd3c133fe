/-
How the encoder drives its transport.

A one-shot send leaves the transfer it began finished, whatever the callbacks
answer.  The streaming path does not: after a refused byte the encoder stays in
its transmitting state, and the next data or end goes to a transfer that is
already over.  Runs are well formed exactly when no such call is made.
-/

import RNodeProtocol.Transport
import RNodeProtocol.Library.FrameWords

namespace RNodeProtocol

open FrameWords RequestLog

def FrameCall.mark : FrameCall → Mark
  | { request := .start, answer := .ok } => .opened
  | { request := .start, answer := .abort } => .refused
  | { request := .put _, answer := .ok } => .carried
  | { request := .put _, answer := .abort } => .broken
  | { request := .endFrame, answer := _ } => .closed

/-- The transport has seen the beginning of a sequence of well-formed transfers. -/
def WellFormed (log : List FrameCall) : Prop := BeginsWord (log.map FrameCall.mark)

def phase (log : List FrameCall) : Option Phase := scan .outside (log.map FrameCall.mark)

theorem wellFormed_iff (log : List FrameCall) : WellFormed log ↔ phase log ≠ none :=
  beginsWord_iff (log.map FrameCall.mark)

theorem phase_concat (log : List FrameCall) (call : FrameCall) :
    phase (log ++ [call]) = (phase log).bind fun current => current.next call.mark := by
  unfold phase
  rw [List.map_append, List.map_singleton, scan_concat]

theorem phase_append (log more : List FrameCall) (stuck : phase log = none) :
    phase (log ++ more) = none := by
  unfold phase at stuck ⊢
  rw [List.map_append, scan_append, stuck]
  rfl

/-! ### Single callbacks -/

/-- Outside a transfer after a refusal, inside one otherwise. -/
def FrameCbStatus.phase : FrameCbStatus → Phase
  | .ok => .inside
  | .abort => .outside

theorem FrameCbStatus.phase_refused {status : FrameCbStatus} (refused : status ≠ .ok) :
    status.phase = .outside := by
  cases status with
  | ok => exact absurd rfl refused
  | abort => rfl

variable {answer : FrameAnswer} {encoder : Encoder (List FrameCall)}

theorem startFrame_phase (recording : encoder.frame.Recording answer)
    (outside : phase encoder.context = some .outside) :
    phase encoder.startFrame.1.context = some encoder.startFrame.2.phase := by
  change phase (encoder.frame.start encoder.context).2.1 =
    some (encoder.frame.start encoder.context).2.2.phase
  rw [recording.start_eq]
  unfold FrameAnswer.record FrameAnswer.call
  rw [phase_concat, outside]
  cases answer encoder.context .start <;> rfl

theorem sendByte_phase (recording : encoder.frame.Recording answer)
    (inside : phase encoder.context = some .inside) (byte : UInt8) :
    phase (encoder.sendByte byte).1.context = some (encoder.sendByte byte).2.phase := by
  change phase (encoder.frame.putByte encoder.context byte).2.1 =
    some (encoder.frame.putByte encoder.context byte).2.2.phase
  rw [recording.putByte_eq]
  unfold FrameAnswer.record FrameAnswer.call
  rw [phase_concat, inside]
  cases answer encoder.context (.put byte) <;> rfl

theorem finishFrame_phase (recording : encoder.frame.Recording answer)
    (inside : phase encoder.context = some .inside) :
    phase encoder.finishFrame.1.context = some .outside := by
  change phase (encoder.frame.endFrame encoder.context).1 = _
  rw [recording.endFrame_eq]
  unfold FrameAnswer.record FrameAnswer.call
  rw [phase_concat, inside]
  rfl

theorem sendPayload_phase (recording : encoder.frame.Recording answer)
    (inside : phase encoder.context = some .inside) (bytes : List UInt8) :
    phase (encoder.sendPayload bytes).1.context = some (encoder.sendPayload bytes).2.phase := by
  induction bytes generalizing encoder with
  | nil => exact inside
  | cons byte rest ih =>
      have sent := sendByte_phase recording inside byte
      unfold Encoder.sendPayload
      dsimp only
      split
      · exact sent
      · rename_i accepted
        rw [not_not.mp accepted] at sent
        exact ih ⟨recording.start, recording.put, recording.endFrame⟩ sent

/-! ### Whole operations -/

/-- A one-shot send begins and finishes its transfer, at whatever point it is refused. -/
theorem send_disciplined (recording : encoder.frame.Recording answer)
    (idle : encoder.state = .idle) (outside : phase encoder.context = some .outside)
    (interface : UInt8) (opcode : RnodeOpcode) (bytes : List UInt8) :
    (encoder.sendCommandAndBytes interface opcode bytes).1.state = .idle ∧
      phase (encoder.sendCommandAndBytes interface opcode bytes).1.context = some .outside := by
  have started := startFrame_phase recording outside
  have still : encoder.startFrame.1.frame.Recording answer :=
    ⟨recording.start, recording.put, recording.endFrame⟩
  unfold Encoder.sendCommandAndBytes
  dsimp only
  rw [if_neg (by rw [idle]; decide)]
  split
  · rename_i refused
    rw [FrameCbStatus.phase_refused refused] at started
    exact ⟨idle, started⟩
  · rename_i accepted
    rw [not_not.mp accepted] at started
    let opened : Encoder (List FrameCall) := { encoder.startFrame.1 with state := .transmitting }
    have openedRecording : opened.frame.Recording answer := still
    have headed := sendByte_phase openedRecording started
      ((interface <<< 4) ||| (opcode.value &&& 0x0F))
    change phase (opened.sendHeader interface opcode).1.context =
      some (opened.sendHeader interface opcode).2.phase at headed
    split
    · rename_i refused
      rw [FrameCbStatus.phase_refused refused] at headed
      exact ⟨rfl, headed⟩
    · rename_i accepted
      rw [not_not.mp accepted] at headed
      have headedRecording : (opened.sendHeader interface opcode).1.frame.Recording answer :=
        ⟨recording.start, recording.put, recording.endFrame⟩
      have sent := sendPayload_phase headedRecording headed bytes
      split
      · rename_i refused
        rw [FrameCbStatus.phase_refused refused] at sent
        exact ⟨rfl, sent⟩
      · rename_i accepted
        rw [not_not.mp accepted] at sent
        obtain ⟨count, same⟩ := Encoder.sendPayload_frame
          (opened.sendHeader interface opcode).1 bytes
        have sentRecording : ((opened.sendHeader interface opcode).1.sendPayload
            bytes).1.frame.Recording answer := by
          rw [same]
          exact ⟨recording.start, recording.put, recording.endFrame⟩
        have finished := finishFrame_phase sentRecording sent
        split
        · exact ⟨rfl, finished⟩
        · exact ⟨rfl, finished⟩

theorem start_disciplined (recording : encoder.frame.Recording answer)
    (idle : encoder.state = .idle) (outside : phase encoder.context = some .outside)
    (interface : UInt8) :
    (encoder.start interface).1.state = .idle ∧
        phase (encoder.start interface).1.context = some .outside ∨
      (encoder.start interface).1.state = .transmitting ∧
        phase (encoder.start interface).1.context = some .inside := by
  have started := startFrame_phase recording outside
  unfold Encoder.start
  dsimp only
  rw [if_neg (by rw [idle]; decide)]
  split
  · rename_i refused
    rw [FrameCbStatus.phase_refused refused] at started
    exact .inl ⟨idle, started⟩
  · rename_i accepted
    rw [not_not.mp accepted] at started
    let opened : Encoder (List FrameCall) := { encoder.startFrame.1 with state := .transmitting }
    have openedRecording : opened.frame.Recording answer :=
      ⟨recording.start, recording.put, recording.endFrame⟩
    have headed := sendByte_phase openedRecording started
      ((interface <<< 4) ||| (RnodeOpcode.data.value &&& 0x0F))
    change phase (opened.sendHeader interface .data).1.context =
      some (opened.sendHeader interface .data).2.phase at headed
    split
    · rename_i refused
      rw [FrameCbStatus.phase_refused refused] at headed
      exact .inl ⟨rfl, headed⟩
    · rename_i accepted
      rw [not_not.mp accepted] at headed
      exact .inr ⟨rfl, headed⟩

/-! ### Runs -/

/-- A byte of the stream has just been refused, and the encoder is still transmitting. -/
def Encoder.Refused (encoder : Encoder (List FrameCall)) : Prop :=
  encoder.state = .transmitting ∧
    ∃ byte, encoder.context.getLast? = some { request := .put byte, answer := .abort }

/-- The requests that go on with an open stream. -/
def EncoderRequest.Continues : EncoderRequest → Prop
  | .start _ => False
  | .data _ => True
  | .endFrame => True
  | .send _ _ _ => False

theorem phase_of_refused {log : List FrameCall} {byte : UInt8}
    (last : log.getLast? = some { request := .put byte, answer := .abort }) :
    phase log ≠ some .inside := by
  obtain ⟨before, rfl⟩ := List.getLast?_eq_some_iff.mp last
  rw [phase_concat]
  change ((phase before).bind fun current => current.next .broken) ≠ some .inside
  cases phase before with
  | none => decide
  | some current => cases current <;> decide

inductive Disciplined (encoder : Encoder (List FrameCall)) : Prop where
  | idle (idle : encoder.state = .idle) (outside : phase encoder.context = some .outside)
  | streaming (transmitting : encoder.state = .transmitting)
      (inside : phase encoder.context = some .inside)
  | refused (refused : encoder.Refused) (outside : phase encoder.context = some .outside)

theorem Disciplined.wellFormed (disciplined : Disciplined encoder) :
    WellFormed encoder.context := by
  rw [wellFormed_iff]
  cases disciplined with
  | idle _ outside => rw [outside]; exact Option.some_ne_none _
  | streaming _ inside => rw [inside]; exact Option.some_ne_none _
  | refused _ outside => rw [outside]; exact Option.some_ne_none _

theorem data_disciplined (recording : encoder.frame.Recording answer)
    (transmitting : encoder.state = .transmitting)
    (inside : phase encoder.context = some .inside) (byte : UInt8) :
    Disciplined (encoder.data byte).1 := by
  have sent := sendByte_phase recording inside byte
  change phase (encoder.frame.sent encoder.context byte) =
    some (encoder.frame.putByte encoder.context byte).2.2.phase at sent
  rw [recording.sent, recording.putByte_eq] at sent
  rw [Encoder.data_transmitting transmitting byte, recording.sent]
  cases answered : answer encoder.context (.put byte) with
  | ok =>
      refine .streaming transmitting (sent.trans ?_)
      unfold FrameAnswer.record
      rw [answered]
      rfl
  | abort =>
      refine .refused ⟨transmitting, byte, ?_⟩ (sent.trans ?_)
      · change (encoder.context ++ [answer.call encoder.context (.put byte)]).getLast? = _
        rw [List.getLast?_concat]
        unfold FrameAnswer.call
        rw [answered]
      · unfold FrameAnswer.record
        rw [answered]
        rfl

theorem endFrame_disciplined (recording : encoder.frame.Recording answer)
    (transmitting : encoder.state = .transmitting)
    (inside : phase encoder.context = some .inside) :
    Disciplined encoder.endFrame.1 := by
  rw [Encoder.endFrame_transmitting transmitting]
  exact .idle rfl (finishFrame_phase recording inside)

/-- A request that does not go on with a refused stream keeps the discipline. -/
theorem Disciplined.perform (disciplined : Disciplined encoder)
    (recording : encoder.frame.Recording answer) (request : EncoderRequest)
    (allowed : request.Continues → ¬ encoder.Refused) :
    Disciplined (request.perform encoder).1 := by
  cases request with
  | start interface =>
      change Disciplined (encoder.start interface).1
      cases disciplined with
      | idle idle outside =>
          rcases start_disciplined recording idle outside interface with
            ⟨state, after⟩ | ⟨state, after⟩
          · exact .idle state after
          · exact .streaming state after
      | streaming transmitting inside =>
          rw [Encoder.start_busy transmitting]
          exact .streaming transmitting inside
      | refused refused outside =>
          rw [Encoder.start_busy refused.1]
          exact .refused refused outside
  | data byte =>
      change Disciplined (encoder.data byte).1
      cases disciplined with
      | idle idle outside =>
          rw [Encoder.data_idle idle]
          exact .idle idle outside
      | streaming transmitting inside =>
          exact data_disciplined recording transmitting inside byte
      | refused refused _ => exact absurd refused (allowed trivial)
  | endFrame =>
      change Disciplined encoder.endFrame.1
      cases disciplined with
      | idle idle outside =>
          rw [Encoder.endFrame_idle idle]
          exact .idle idle outside
      | streaming transmitting inside =>
          exact endFrame_disciplined recording transmitting inside
      | refused refused _ => exact absurd refused (allowed trivial)
  | send interface opcode bytes =>
      change Disciplined (encoder.sendCommandAndBytes interface opcode bytes).1
      cases disciplined with
      | idle idle outside =>
          obtain ⟨state, after⟩ :=
            send_disciplined recording idle outside interface opcode bytes
          exact .idle state after
      | streaming transmitting inside =>
          rw [Encoder.sendCommandAndBytes_busy transmitting]
          exact .streaming transmitting inside
      | refused refused outside =>
          rw [Encoder.sendCommandAndBytes_busy refused.1]
          exact .refused refused outside

/-- A request that does go on with a refused stream breaks it. -/
theorem Encoder.Refused.perform (refused : encoder.Refused)
    (recording : encoder.frame.Recording answer)
    (outside : phase encoder.context = some .outside) {request : EncoderRequest}
    (continues : request.Continues) : phase (request.perform encoder).1.context = none := by
  cases request with
  | start => exact absurd continues not_false
  | data byte =>
      change phase (encoder.data byte).1.context = none
      rw [Encoder.data_transmitting refused.1, recording.sent, phase_concat, outside]
      unfold FrameAnswer.call
      cases answer encoder.context (.put byte) <;> rfl
  | endFrame =>
      change phase encoder.endFrame.1.context = none
      rw [Encoder.endFrame_transmitting refused.1, recording.closed, phase_concat, outside]
      rfl
  | send => exact absurd continues not_false

/-- In every part of the run, no request goes on with a stream that has been refused. -/
def RespectsRefusals (answer : FrameAnswer) (requests : List EncoderRequest) : Prop :=
  ∀ earlier request later, requests = earlier ++ request :: later → request.Continues →
    ¬ (encoderServer.run (recordingEncoder answer) earlier).Refused

theorem respectsRefusals_concat (answer : FrameAnswer) (requests : List EncoderRequest)
    (request : EncoderRequest) :
    RespectsRefusals answer (requests ++ [request]) ↔
      RespectsRefusals answer requests ∧
        (request.Continues → ¬ (encoderServer.run (recordingEncoder answer) requests).Refused) := by
  constructor
  · intro respects
    constructor
    · intro earlier step later split
      refine respects earlier step (later ++ [request]) ?_
      rw [split, List.append_assoc, List.cons_append]
    · exact respects requests request [] rfl
  · rintro ⟨respects, last⟩ earlier step later split
    rcases List.eq_nil_or_concat later with rfl | ⟨before, final, rfl⟩
    · obtain ⟨rfl, same⟩ := List.append_inj' split rfl
      cases same
      exact last
    · rw [List.concat_eq_append, ← List.cons_append, ← List.append_assoc] at split
      obtain ⟨same, _⟩ := List.append_inj' split rfl
      exact respects earlier step before same

theorem disciplined_run (answer : FrameAnswer) (requests : List EncoderRequest)
    (respects : RespectsRefusals answer requests) :
    Disciplined (encoderServer.run (recordingEncoder answer) requests) := by
  induction requests using List.reverseRecOn with
  | nil => exact .idle rfl rfl
  | append_singleton earlier request ih =>
      obtain ⟨before, last⟩ := (respectsRefusals_concat answer earlier request).mp respects
      rw [Server.run_append]
      exact (ih before).perform (recording_run answer earlier) request last

/-- The transport sees well-formed transfers exactly in the runs that respect refusals. -/
theorem run_wellFormed_iff (answer : FrameAnswer) (requests : List EncoderRequest) :
    WellFormed (encoderServer.run (recordingEncoder answer) requests).context ↔
      RespectsRefusals answer requests := by
  constructor
  · intro wellFormed
    induction requests using List.reverseRecOn with
    | nil =>
        intro earlier request later split
        have lengths := congrArg List.length split
        rw [List.length_append, List.length_cons, List.length_nil] at lengths
        omega
    | append_singleton earlier request ih =>
        have recording := recording_run answer earlier
        rw [Server.run_append, wellFormed_iff] at wellFormed
        change phase (request.perform _).1.context ≠ none at wellFormed
        have before : RespectsRefusals answer earlier := by
          apply ih
          rw [wellFormed_iff]
          intro stuck
          have grows : ∀ log call, phase log = none → phase (log ++ [call]) = none :=
            fun log call => phase_append log [call]
          have after := perform_kept recording grows request stuck
          exact wellFormed after
        refine (respectsRefusals_concat answer earlier request).mpr ⟨before, ?_⟩
        intro continues refused
        cases disciplined_run answer earlier before with
        | idle idle _ =>
            rw [refused.1] at idle
            cases idle
        | streaming _ inside =>
            obtain ⟨_, last⟩ := refused.2
            exact absurd inside (phase_of_refused last)
        | refused _ outside =>
            exact wellFormed (refused.perform recording outside continues)
  · intro respects
    exact (disciplined_run answer requests respects).wellFormed

/-- A byte put into a transfer that the transport has already broken off. -/
theorem data_after_refusal :
    ¬ WellFormed (encoderServer.run
      (recordingEncoder fun _ request => if request = .put 0x11 then .abort else .ok)
      [.start 0, .data 0x11, .data 0x22]).context := by
  rw [wellFormed_iff]
  exact not_not_intro (by decide)

end RNodeProtocol
