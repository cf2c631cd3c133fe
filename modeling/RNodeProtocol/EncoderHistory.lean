/-
The encoder and its history.

Any of the transport callbacks may be NULL.  The transport such an encoder
drives is then compared with a complete one, whose added callbacks record and
accept: it sees every byte handed over, and the two encoders go through the same
states with the same statuses and the same counter.
-/

import RNodeProtocol.EncoderScripts
import RNodeProtocol.Transcript

namespace RNodeProtocol

open RequestLog

/-! ### The calls of the interface -/

inductive EncoderCall where
  | start (interface : UInt8)
  | data (byte : UInt8)
  | endFrame
  | sendCommandAndBytes (interface : UInt8) (opcode : RnodeOpcode) (bytes : List UInt8)
  | sendCommandAndWord (interface : UInt8) (opcode : RnodeOpcode) (word : UInt32)
  | sendCommandAndByte (interface : UInt8) (opcode : RnodeOpcode) (value : UInt8)
  deriving DecidableEq

def EncoderCall.perform {Ctx : Type} (encoder : Encoder Ctx) :
    EncoderCall → Encoder Ctx × EncoderStatus
  | .start interface => encoder.start interface
  | .data byte => encoder.data byte
  | .endFrame => encoder.endFrame
  | .sendCommandAndBytes interface opcode bytes =>
      encoder.sendCommandAndBytes interface opcode bytes
  | .sendCommandAndWord interface opcode word => encoder.sendCommandAndWord interface opcode word
  | .sendCommandAndByte interface opcode value =>
      encoder.sendCommandAndByte interface opcode value

def encoderInterface {Ctx : Type} : Server (Encoder Ctx) EncoderCall EncoderStatus :=
  { perform := EncoderCall.perform }

/-- A call starts or sends while a frame is open, or continues or ends one while none is. -/
def EncoderCall.OutOfOrder (state : EncoderState) : EncoderCall → Prop
  | .start _ => state = .transmitting
  | .data _ => state = .idle
  | .endFrame => state = .idle
  | .sendCommandAndBytes _ _ _ => state = .transmitting
  | .sendCommandAndWord _ _ _ => state = .transmitting
  | .sendCommandAndByte _ _ _ => state = .transmitting

/-- Every call is a request: words and single bytes are sent as lists of bytes. -/
theorem EncoderCall.request_exists (call : EncoderCall) :
    ∃ request : EncoderRequest,
      (∀ {Ctx : Type} (encoder : Encoder Ctx), call.perform encoder = request.perform encoder) ∧
        (∀ state, call.OutOfOrder state ↔ request.OutOfOrder state) ∧
        (∀ interface, call = .start interface ↔ request = .start interface) ∧
        (call = .endFrame ↔ request = .endFrame) := by
  cases call with
  | start interface => exact ⟨.start interface, fun _ => rfl, fun _ => .rfl, by simp, by simp⟩
  | data byte => exact ⟨.data byte, fun _ => rfl, fun _ => .rfl, by simp, by simp⟩
  | endFrame => exact ⟨.endFrame, fun _ => rfl, fun _ => .rfl, by simp, by simp⟩
  | sendCommandAndBytes interface opcode bytes =>
      exact ⟨.send interface opcode bytes, fun _ => rfl, fun _ => .rfl, by simp, by simp⟩
  | sendCommandAndWord interface opcode word =>
      exact ⟨.send interface opcode _, fun _ => rfl, fun _ => .rfl, by simp, by simp⟩
  | sendCommandAndByte interface opcode value =>
      exact ⟨.send interface opcode _, fun _ => rfl, fun _ => .rfl, by simp, by simp⟩

/-! ### Transports with callbacks missing -/

inductive FrameSlot where
  | start
  | put
  | endFrame
  deriving Repr, DecidableEq

def FrameRequest.slot : FrameRequest → FrameSlot
  | .start => .start
  | .put _ => .put
  | .endFrame => .endFrame

/-- A fresh encoder on a recording transport that may lack callbacks. -/
def registeredEncoder (registered : FrameSlot → Bool) (answer : FrameAnswer) :
    Encoder (List FrameCall) :=
  Encoder.init [] (pointer (registered .start) fun log => answer.record log .start)
    (pointer (registered .put) fun log byte => answer.record log (.put byte))
    (pointer (registered .endFrame) fun log => answer.record log .endFrame)

structure Frame.Registered (registered : FrameSlot → Bool) (answer : FrameAnswer)
    (frame : Frame (List FrameCall)) : Prop where
  start : frame.startCb = pointer (registered .start) fun log => answer.record log .start
  put : frame.putCb = pointer (registered .put) fun log byte => answer.record log (.put byte)
  endFrame : frame.endCb = pointer (registered .endFrame) fun log => answer.record log .endFrame

/-- The answers of a transport whose missing callbacks are replaced by accepting ones. -/
def FrameAnswer.completed (registered : FrameSlot → Bool) (answer : FrameAnswer) : FrameAnswer :=
  fun log request =>
    if registered request.slot then
      answer (log.filter fun call => registered call.request.slot) request
    else .ok

/-- The bytes handed over since the last start of a frame, accepted or not. -/
def handed (log : List FrameCall) : Nat :=
  log.foldl (fun count call =>
    match call.request with
    | .start => 0
    | .put _ => count + 1
    | .endFrame => count) 0

variable {registered : FrameSlot → Bool} {answer : FrameAnswer}
  {encoder complete : Encoder (List FrameCall)}

/-- The answer an encoder sees; a missing callback counts as accepting. -/
def FrameAnswer.seen (answer : FrameAnswer) (registered : FrameSlot → Bool)
    (log : List FrameCall) (request : FrameRequest) : FrameCbStatus :=
  if registered request.slot then answer log request else .ok

/-- What a request of a frame leaves in the log and answers. -/
def FrameAnswer.noted (answer : FrameAnswer) (registered : FrameSlot → Bool)
    (log : List FrameCall) (request : FrameRequest) : List FrameCall × FrameCbStatus :=
  (log ++ emit (registered request.slot) (answer.call log request),
    answer.seen registered log request)

private theorem noted_present {request : FrameRequest} (present : registered request.slot = true)
    (log : List FrameCall) : answer.record log request = answer.noted registered log request := by
  unfold FrameAnswer.noted FrameAnswer.seen
  rw [present]
  rfl

private theorem noted_missing {request : FrameRequest} (missing : registered request.slot = false)
    (log : List FrameCall) : (log, FrameCbStatus.ok) = answer.noted registered log request := by
  unfold FrameAnswer.noted FrameAnswer.seen
  rw [missing, emit_false, List.append_nil]
  rfl

theorem Frame.Registered.ask (callbacks : encoder.frame.Registered registered answer)
    (request : FrameRequest) :
    ((encoder.ask request).1.context, (encoder.ask request).2) =
      answer.noted registered encoder.context request := by
  cases request with
  | start =>
      have same := callbacks.start
      change (encoder.frame.start encoder.context).2 = _
      unfold Frame.start
      rw [same]
      cases present : registered .start with
      | true => exact noted_present present _
      | false => exact noted_missing present _
  | put byte =>
      have same := callbacks.put
      change (encoder.frame.putByte encoder.context byte).2 = _
      unfold Frame.putByte
      rw [same]
      cases present : registered .put with
      | true =>
          have slot : registered (FrameRequest.put byte).slot = true := present
          exact noted_present slot _
      | false =>
          have slot : registered (FrameRequest.put byte).slot = false := present
          exact noted_missing slot _
  | endFrame =>
      have same := callbacks.endFrame
      change encoder.frame.endFrame encoder.context = _
      unfold Frame.endFrame
      rw [same]
      cases present : registered .endFrame with
      | true => exact noted_present present _
      | false => exact noted_missing present _

theorem Frame.Registered.asked (callbacks : encoder.frame.Registered registered answer)
    (request : FrameRequest) : (encoder.ask request).1.frame.Registered registered answer := by
  cases request with
  | start => exact ⟨callbacks.start, callbacks.put, callbacks.endFrame⟩
  | put byte => exact ⟨callbacks.start, callbacks.put, callbacks.endFrame⟩
  | endFrame => exact callbacks

theorem Frame.Registered.attempted (callbacks : encoder.frame.Registered registered answer)
    (script : List FrameRequest) :
    (encoder.attempt script).1.frame.Registered registered answer := by
  induction script generalizing encoder with
  | nil => exact callbacks
  | cons request rest ih =>
      unfold Encoder.attempt
      split
      · exact callbacks.asked request
      · exact ih (callbacks.asked request)

/-! ### Statuses -/

/-- The calls of a script, all of them accepted exactly when the script is. -/
theorem Frame.Registered.attempt_calls (callbacks : encoder.frame.Registered registered answer)
    (script : List FrameRequest) :
    ∃ calls, (encoder.attempt script).1.context = encoder.context ++ calls ∧
      ((encoder.attempt script).2 = .ok ↔ ∀ call ∈ calls, call.answer = .ok) := by
  induction script generalizing encoder with
  | nil => exact ⟨[], (List.append_nil _).symm, by simp [Encoder.attempt]⟩
  | cons request rest ih =>
      have noted := callbacks.ask request
      have added := congrArg Prod.fst noted
      have answered := congrArg Prod.snd noted
      dsimp only [FrameAnswer.noted] at added answered
      have honest : (encoder.ask request).2 = .ok ↔
          ∀ call ∈ emit (registered request.slot) (answer.call encoder.context request),
            call.answer = .ok := by
        rw [answered]
        unfold FrameAnswer.seen
        cases registered request.slot with
        | true => simp [FrameAnswer.call]
        | false => simp
      by_cases accepted : (encoder.ask request).2 = .ok
      · obtain ⟨later, addedLater, honestLater⟩ := ih (callbacks.asked request)
        rw [Encoder.attempt_accepted accepted]
        refine ⟨emit (registered request.slot) (answer.call encoder.context request) ++ later,
          ?_, ?_⟩
        · rw [addedLater, added, List.append_assoc]
        · rw [honestLater, List.forall_mem_append]
          exact ⟨fun all => ⟨honest.mp accepted, all⟩, fun all => all.2⟩
      · rw [Encoder.attempt_refused accepted]
        exact ⟨_, added, honest⟩

theorem EncoderRequest.perform_calls (callbacks : encoder.frame.Registered registered answer)
    {request : EncoderRequest} (inOrder : ¬ request.OutOfOrder encoder.state) :
    ∃ calls, (request.perform encoder).1.context = encoder.context ++ calls ∧
      ((request.perform encoder).2 = .ok ↔ ∀ call ∈ calls, call.answer = .ok) ∧
      ((request.perform encoder).2 = .aborted ↔ ∃ call ∈ calls, call.answer = .abort) := by
  obtain ⟨calls, added, honest⟩ := callbacks.attempt_calls request.script
  have result := EncoderRequest.perform_inOrder inOrder
  have left : (request.perform encoder).1.context =
      (encoder.attempt request.script).1.context := by
    rw [result]
    rfl
  have answered : (request.perform encoder).2 =
      translateFrameCbStatus (encoder.attempt request.script).2 := by
    rw [result]
    rfl
  refine ⟨calls, left.trans added, ?_, ?_⟩
  · rw [answered, translateFrameCbStatus_ok, honest]
  · have some : (∃ call ∈ calls, call.answer = .abort) ↔ ¬ ∀ call ∈ calls, call.answer = .ok := by
      rw [not_forall]
      apply exists_congr
      intro call
      cases call.answer <;> simp
    rw [answered, some, ← honest]
    cases (encoder.attempt request.script).2 <;> simp [translateFrameCbStatus]

/-! ### The complete transport -/

theorem handed_concat (log : List FrameCall) (call : FrameCall) :
    handed (log ++ [call]) =
      match call.request with
      | .start => 0
      | .put _ => handed log + 1
      | .endFrame => handed log := by
  unfold handed
  rw [List.foldl_append]
  rfl

/-- Two encoders of one history, the second on the completed transport. -/
structure Completes (registered : FrameSlot → Bool) (answer : FrameAnswer)
    (encoder complete : Encoder (List FrameCall)) : Prop where
  callbacks : encoder.frame.Registered registered answer
  completed : complete.frame.Registered (fun _ => true) (answer.completed registered)
  state : encoder.state = complete.state
  log : encoder.context = complete.context.filter fun call => registered call.request.slot
  counter : encoder.frame.byteIndex = complete.frame.byteIndex
  counted : complete.frame.byteIndex = UInt32.ofNat (handed complete.context)

theorem registeredEncoder_completes (registered : FrameSlot → Bool) (answer : FrameAnswer) :
    Completes registered answer (registeredEncoder registered answer)
      (registeredEncoder (fun _ => true) (answer.completed registered)) :=
  ⟨⟨rfl, rfl, rfl⟩, ⟨rfl, rfl, rfl⟩, rfl, rfl, rfl, rfl⟩

theorem Completes.ask (completes : Completes registered answer encoder complete)
    (request : FrameRequest) :
    Completes registered answer (encoder.ask request).1 (complete.ask request).1 ∧
      (encoder.ask request).2 = (complete.ask request).2 := by
  have noted := completes.callbacks.ask request
  have completeNoted := completes.completed.ask request
  have added := congrArg Prod.fst noted
  have completeAdded := congrArg Prod.fst completeNoted
  have answered := congrArg Prod.snd noted
  have completeAnswered := congrArg Prod.snd completeNoted
  dsimp only [FrameAnswer.noted] at added completeAdded answered completeAnswered
  have seen : (answer.completed registered).seen (fun _ => true) complete.context request =
      answer.seen registered encoder.context request := by
    unfold FrameAnswer.seen FrameAnswer.completed
    rw [← completes.log]
    rfl
  refine ⟨⟨completes.callbacks.asked request, completes.completed.asked request, ?_, ?_, ?_, ?_⟩,
    ?_⟩
  · cases request <;> exact completes.state
  · rw [added, completeAdded, List.filter_append, ← completes.log, emit_true,
      List.filter_singleton]
    congr 1
    change _ = bif registered request.slot then [_] else []
    cases present : registered request.slot with
    | true =>
        have same : (answer.completed registered) complete.context request =
            answer encoder.context request := by
          unfold FrameAnswer.completed
          rw [present, ← completes.log]
          rfl
        unfold FrameAnswer.call
        rw [same]
        rfl
    | false => rfl
  · cases request with
    | start => rfl
    | put byte => exact congrArg (fun count => count + 1) completes.counter
    | endFrame => exact completes.counter
  · rw [completeAdded, emit_true, handed_concat]
    cases request with
    | start => rfl
    | put byte =>
        change complete.frame.byteIndex + 1 = UInt32.ofNat (handed complete.context + 1)
        rw [completes.counted, counter_succ]
    | endFrame => exact completes.counted
  · rw [answered, completeAnswered, seen]

theorem Completes.attempt (completes : Completes registered answer encoder complete)
    (script : List FrameRequest) :
    Completes registered answer (encoder.attempt script).1 (complete.attempt script).1 ∧
      (encoder.attempt script).2 = (complete.attempt script).2 := by
  induction script generalizing encoder complete with
  | nil => exact ⟨completes, rfl⟩
  | cons request rest ih =>
      obtain ⟨next, same⟩ := completes.ask request
      by_cases accepted : (encoder.ask request).2 = .ok
      · have completeAccepted : (complete.ask request).2 = .ok := by
          rw [← same]
          exact accepted
        rw [Encoder.attempt_accepted accepted, Encoder.attempt_accepted completeAccepted]
        exact ih next
      · have completeRefused : (complete.ask request).2 ≠ .ok := by
          rw [← same]
          exact accepted
        rw [Encoder.attempt_refused accepted, Encoder.attempt_refused completeRefused]
        exact ⟨next, same⟩

theorem Completes.perform (completes : Completes registered answer encoder complete)
    (request : EncoderRequest) :
    Completes registered answer (request.perform encoder).1 (request.perform complete).1 := by
  by_cases outOfOrder : request.OutOfOrder encoder.state
  · have completeOutOfOrder : request.OutOfOrder complete.state := by
      rw [← completes.state]
      exact outOfOrder
    rw [EncoderRequest.perform_outOfOrder outOfOrder,
      EncoderRequest.perform_outOfOrder completeOutOfOrder]
    exact completes
  · have completeInOrder : ¬ request.OutOfOrder complete.state := by
      rw [← completes.state]
      exact outOfOrder
    obtain ⟨next, same⟩ := completes.attempt request.script
    rw [EncoderRequest.perform_inOrder outOfOrder, EncoderRequest.perform_inOrder completeInOrder,
      same]
    exact ⟨next.callbacks, next.completed, rfl, next.log, next.counter, next.counted⟩

/-! ### Whole histories -/

/-- A start that returns OK. -/
def Opens (encoder : Encoder (List FrameCall)) (call : EncoderCall) : Prop :=
  ∃ interface, call = .start interface ∧ (call.perform encoder).2 = .ok

/-- An end made while transmitting. -/
def Closes (encoder : Encoder (List FrameCall)) (call : EncoderCall) : Prop :=
  call = .endFrame ∧ encoder.state = .transmitting

/-- What a call answers, and whether it does anything. -/
structure Answered (encoder : Encoder (List FrameCall)) (call : EncoderCall) : Prop where
  frameError : (call.perform encoder).2 = .frameError ↔ call.OutOfOrder encoder.state
  atomic : call.OutOfOrder encoder.state → (call.perform encoder).1 = encoder
  invoked : ¬ call.OutOfOrder encoder.state →
    ∃ calls, (call.perform encoder).1.context = encoder.context ++ calls ∧
      ((call.perform encoder).2 = .ok ↔ ∀ made ∈ calls, made.answer = .ok) ∧
      ((call.perform encoder).2 = .aborted ↔ ∃ made ∈ calls, made.answer = .abort)

theorem Frame.Registered.answered (callbacks : encoder.frame.Registered registered answer)
    (call : EncoderCall) : Answered encoder call := by
  obtain ⟨request, performs, order, _, _⟩ := call.request_exists
  refine ⟨?_, ?_, ?_⟩
  · rw [performs, order]
    constructor
    · intro failed
      by_contra inOrder
      rw [EncoderRequest.perform_inOrder inOrder] at failed
      change translateFrameCbStatus (encoder.attempt request.script).2 = .frameError at failed
      cases answer : (encoder.attempt request.script).2 with
      | ok =>
          rw [answer] at failed
          cases failed
      | abort =>
          rw [answer] at failed
          cases failed
    · intro outOfOrder
      rw [EncoderRequest.perform_outOfOrder outOfOrder]
  · rw [performs, order]
    intro outOfOrder
    rw [EncoderRequest.perform_outOfOrder outOfOrder]
  · rw [performs, order]
    exact EncoderRequest.perform_calls callbacks

theorem EncoderRequest.perform_transmitting (encoder : Encoder (List FrameCall))
    (request : EncoderRequest) :
    (request.perform encoder).1.state = .transmitting ↔
      (∃ interface, request = .start interface ∧ (request.perform encoder).2 = .ok) ∨
        encoder.state = .transmitting ∧ request ≠ .endFrame := by
  by_cases outOfOrder : request.OutOfOrder encoder.state
  · rw [EncoderRequest.perform_outOfOrder outOfOrder]
    cases request with
    | start interface =>
        have transmitting : encoder.state = .transmitting := outOfOrder
        simp [transmitting]
    | data byte =>
        have idle : encoder.state = .idle := outOfOrder
        simp [idle]
    | endFrame =>
        have idle : encoder.state = .idle := outOfOrder
        simp [idle]
    | send interface opcode bytes =>
        have transmitting : encoder.state = .transmitting := outOfOrder
        simp [transmitting]
  · have result := EncoderRequest.perform_inOrder outOfOrder
    have left : (request.perform encoder).1.state =
        request.leaves (encoder.attempt request.script).2 := by
      rw [result]
      rfl
    have answered : (request.perform encoder).2 =
        translateFrameCbStatus (encoder.attempt request.script).2 := by
      rw [result]
      rfl
    rw [left, answered, translateFrameCbStatus_ok]
    cases request with
    | start interface =>
        have idle : encoder.state ≠ .transmitting := outOfOrder
        simp [EncoderRequest.leaves, idle]
    | data byte =>
        have transmitting : encoder.state = .transmitting := by
          cases state : encoder.state with
          | idle => exact absurd state outOfOrder
          | transmitting => rfl
        simp [EncoderRequest.leaves, transmitting]
    | endFrame => simp [EncoderRequest.leaves]
    | send interface opcode bytes =>
        have idle : encoder.state ≠ .transmitting := outOfOrder
        simp [EncoderRequest.leaves, idle]

theorem EncoderCall.perform_transmitting (encoder : Encoder (List FrameCall))
    (call : EncoderCall) :
    (call.perform encoder).1.state = .transmitting ↔
      Opens encoder call ∨ encoder.state = .transmitting ∧ ¬ Closes encoder call := by
  obtain ⟨request, performs, _, starts, ends⟩ := call.request_exists
  unfold Opens Closes
  rw [performs, request.perform_transmitting, ends]
  simp only [starts]
  constructor
  · intro turned
    rcases turned with opened | ⟨transmitting, notEnd⟩
    · exact .inl opened
    · exact .inr ⟨transmitting, fun closed => notEnd closed.1⟩
  · intro turned
    rcases turned with opened | ⟨transmitting, unclosed⟩
    · exact .inl opened
    · exact .inr ⟨transmitting, fun isEnd => unclosed ⟨isEnd, transmitting⟩⟩

theorem completes_run (registered : FrameSlot → Bool) (answer : FrameAnswer)
    (calls : List EncoderCall) :
    Completes registered answer (encoderInterface.run (registeredEncoder registered answer) calls)
      (encoderInterface.run (registeredEncoder (fun _ => true) (answer.completed registered))
        calls) := by
  induction calls using List.reverseRecOn with
  | nil => exact registeredEncoder_completes registered answer
  | append_singleton earlier call ih =>
      obtain ⟨request, performs, _, _, _⟩ := call.request_exists
      rw [Server.run_append, Server.run_append]
      change Completes registered answer (call.perform _).1 (call.perform _).1
      rw [performs, performs]
      exact ih.perform request

/-- State, statuses and counter of an encoder, told from the calls made of it. -/
theorem encoder_history (registered : FrameSlot → Bool) (answer : FrameAnswer)
    (calls : List EncoderCall) (next : EncoderCall) :
    ((encoderInterface.run (registeredEncoder registered answer) calls).state = .transmitting ↔
        encoderInterface.Since Opens Closes (registeredEncoder registered answer) calls) ∧
      Answered (encoderInterface.run (registeredEncoder registered answer) calls) next ∧
      (encoderInterface.run (registeredEncoder registered answer) calls).frame.byteIndex =
        UInt32.ofNat (handed (encoderInterface.run
          (registeredEncoder (fun _ => true) (answer.completed registered)) calls).context) := by
  have completes := completes_run registered answer calls
  refine ⟨?_, completes.callbacks.answered next, completes.counter.trans completes.counted⟩
  let transmits : Encoder (List FrameCall) → Prop := fun current => current.state = .transmitting
  have fresh : ¬ transmits (registeredEncoder registered answer) := nofun
  have turns : ∀ current call, transmits (encoderInterface.perform current call).1 ↔
      Opens current call ∨ transmits current ∧ ¬ Closes current call :=
    EncoderCall.perform_transmitting
  exact Server.since_iff fresh turns calls

end RNodeProtocol
