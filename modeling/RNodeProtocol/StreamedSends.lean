/-
Sending a frame in one call and streaming it.

Requests made one after another until one is refused go through their scripts
as if these were one script.  A streamed payload and a one-shot send of the same
payload have the same script, so a transport cannot tell them apart, wherever
it refuses.
-/

import RNodeProtocol.EncoderScripts

namespace RNodeProtocol

variable {Ctx : Type}

/-- Make the requests in turn, up to the first that does not return OK. -/
def Encoder.performAll (encoder : Encoder Ctx) : List EncoderRequest → Encoder Ctx × EncoderStatus
  | [] => (encoder, .ok)
  | request :: rest =>
      if (request.perform encoder).2 ≠ .ok then request.perform encoder
      else (request.perform encoder).1.performAll rest

/-- A start, a data request for every byte and an end. -/
def EncoderRequest.streamed (interface : UInt8) (payload : List UInt8) : List EncoderRequest :=
  .start interface :: payload.map .data ++ [.endFrame]

/-- Every request is in order as long as those before it are accepted. -/
def EncoderRequest.InOrder : EncoderState → List EncoderRequest → Prop
  | _, [] => True
  | state, request :: rest => ¬ request.OutOfOrder state ∧ InOrder (request.leaves .ok) rest

/-- A request had its frame asked for the same things as a script, with the same outcome. -/
structure SameWire (result : Encoder Ctx × EncoderStatus)
    (attempted : Encoder Ctx × FrameCbStatus) : Prop where
  context : result.1.context = attempted.1.context
  frame : result.1.frame = attempted.1.frame
  status : result.2 = translateFrameCbStatus attempted.2

theorem EncoderRequest.perform_sameWire {encoder : Encoder Ctx} {request : EncoderRequest}
    (inOrder : ¬ request.OutOfOrder encoder.state) :
    SameWire (request.perform encoder) (encoder.attempt request.script) := by
  rw [EncoderRequest.perform_inOrder inOrder]
  exact ⟨rfl, rfl, rfl⟩

theorem SameWire.of_settle {result : Encoder Ctx × EncoderStatus}
    {attempted : Encoder Ctx × FrameCbStatus} {state : EncoderState}
    (same : SameWire result (Encoder.settle attempted state)) : SameWire result attempted :=
  ⟨same.context, same.frame, same.status⟩

/-- Requests in order go through the concatenation of their scripts. -/
theorem Encoder.performAll_attempt (encoder : Encoder Ctx) {requests : List EncoderRequest}
    (inOrder : EncoderRequest.InOrder encoder.state requests) :
    SameWire (encoder.performAll requests)
      (encoder.attempt (requests.flatMap EncoderRequest.script)) := by
  induction requests generalizing encoder with
  | nil => exact ⟨rfl, rfl, rfl⟩
  | cons request rest ih =>
      obtain ⟨first, others⟩ := inOrder
      have performed := EncoderRequest.perform_inOrder first
      have answered : (request.perform encoder).2 =
          translateFrameCbStatus (encoder.attempt request.script).2 := by
        rw [performed]
        rfl
      rw [List.flatMap_cons, Encoder.attempt_append]
      by_cases accepted : (encoder.attempt request.script).2 = .ok
      · have returned : (request.perform encoder).2 = .ok := by
          rw [answered, accepted]
          rfl
        rw [accepted] at performed
        have left : (request.perform encoder).1 =
            (Encoder.settle (encoder.attempt request.script) (request.leaves .ok)).1 := by
          rw [performed]
          rfl
        have continued : (request.perform encoder).1.attempt
            (rest.flatMap EncoderRequest.script) =
              Encoder.settle ((encoder.attempt request.script).1.attempt
                (rest.flatMap EncoderRequest.script)) (request.leaves .ok) := by
          rw [left]
          exact Encoder.attempt_settle _ _ _
        have later := ih (request.perform encoder).1 (by rw [left]; exact others)
        rw [continued] at later
        rw [if_neg (not_not_intro accepted)]
        unfold Encoder.performAll
        rw [if_neg (not_not_intro returned)]
        exact later.of_settle
      · have refused : (request.perform encoder).2 ≠ .ok := by
          rw [answered]
          exact fun returned => accepted (translateFrameCbStatus_ok.mp returned)
        rw [if_pos accepted]
        unfold Encoder.performAll
        rw [if_pos refused]
        exact EncoderRequest.perform_sameWire first

/-! ### A streamed payload -/

theorem EncoderRequest.streamed_inOrder (interface : UInt8) (payload : List UInt8) :
    EncoderRequest.InOrder .idle (EncoderRequest.streamed interface payload) := by
  have carried : EncoderRequest.InOrder .transmitting
      (payload.map EncoderRequest.data ++ [.endFrame]) := by
    induction payload with
    | nil => exact ⟨nofun, trivial⟩
    | cons byte rest ih => exact ⟨nofun, ih⟩
  exact ⟨nofun, carried⟩

theorem EncoderRequest.streamed_script (interface : UInt8) (payload : List UInt8) :
    (EncoderRequest.streamed interface payload).flatMap EncoderRequest.script =
      (EncoderRequest.send interface .data payload).script := by
  have carried : (payload.map EncoderRequest.data ++ [EncoderRequest.endFrame]).flatMap
      EncoderRequest.script = payload.map FrameRequest.put ++ [.endFrame] := by
    induction payload with
    | nil => rfl
    | cons byte rest ih =>
        rw [List.map_cons, List.cons_append, List.flatMap_cons, ih]
        rfl
  unfold EncoderRequest.streamed
  rw [List.cons_append, List.flatMap_cons, carried]
  exact (List.append_assoc _ _ _).symm

theorem EncoderRequest.streamed_sameWire {encoder : Encoder Ctx} (idle : encoder.state = .idle)
    (interface : UInt8) (payload : List UInt8) :
    SameWire (encoder.performAll (EncoderRequest.streamed interface payload))
      (encoder.attempt (EncoderRequest.send interface .data payload).script) := by
  have ordered := EncoderRequest.streamed_inOrder interface payload
  rw [← idle] at ordered
  have streamed := encoder.performAll_attempt ordered
  rw [EncoderRequest.streamed_script] at streamed
  exact streamed

theorem EncoderRequest.send_sameWire {encoder : Encoder Ctx} (idle : encoder.state = .idle)
    (interface : UInt8) (payload : List UInt8) :
    SameWire (encoder.sendCommandAndBytes interface .data payload)
      (encoder.attempt (EncoderRequest.send interface .data payload).script) := by
  have free : ¬ (EncoderRequest.send interface .data payload).OutOfOrder encoder.state := by
    rw [idle]
    nofun
  exact EncoderRequest.perform_sameWire free

/-- Whatever the callbacks do with the context and answer, they do and answer the same on
both paths. -/
theorem streamed_as_sent {encoder : Encoder Ctx} (idle : encoder.state = .idle)
    (interface : UInt8) (payload : List UInt8) :
    (encoder.performAll (EncoderRequest.streamed interface payload)).1.context =
        (encoder.sendCommandAndBytes interface .data payload).1.context ∧
      (encoder.performAll (EncoderRequest.streamed interface payload)).1.frame.byteIndex =
        (encoder.sendCommandAndBytes interface .data payload).1.frame.byteIndex ∧
      (encoder.performAll (EncoderRequest.streamed interface payload)).2 =
        (encoder.sendCommandAndBytes interface .data payload).2 := by
  have streamed := EncoderRequest.streamed_sameWire idle interface payload
  have sent := EncoderRequest.send_sameWire idle interface payload
  refine ⟨streamed.context.trans sent.context.symm, ?_, streamed.status.trans sent.status.symm⟩
  exact congrArg Frame.byteIndex (streamed.frame.trans sent.frame.symm)

/-- A transport that refuses the third thing it is asked for. -/
theorem streamed_as_sent_refused :
    ((recordingEncoder fun log _ => if log.length < 2 then .ok else .abort).performAll
        (EncoderRequest.streamed 3 [0xAA, 0xBB])).1.context =
      ((recordingEncoder fun log _ => if log.length < 2 then .ok else .abort).sendCommandAndBytes
        3 .data [0xAA, 0xBB]).1.context :=
  (streamed_as_sent rfl 3 [0xAA, 0xBB]).1

end RNodeProtocol
