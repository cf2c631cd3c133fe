/-
A transport that records its callbacks.

The context of a recorded encoder is the list of callback invocations so far,
each with the status it answered.  Answers come from a function of the history,
so a callback may refuse at any point.
-/

import RNodeProtocol.EncoderSteps
import RNodeProtocol.Library.RequestLog

namespace RNodeProtocol

open ByteNumerals RequestLog

inductive FrameRequest where
  | start
  | put (byte : UInt8)
  | endFrame
  deriving Repr, DecidableEq

structure FrameCall where
  request : FrameRequest
  answer : FrameCbStatus
  deriving Repr, DecidableEq

abbrev FrameAnswer := List FrameCall → FrameRequest → FrameCbStatus

def FrameAnswer.call (answer : FrameAnswer) (log : List FrameCall) (request : FrameRequest) :
    FrameCall :=
  { request := request
    answer := answer log request }

def FrameAnswer.record (answer : FrameAnswer) (log : List FrameCall) (request : FrameRequest) :
    List FrameCall × FrameCbStatus :=
  (log ++ [answer.call log request], answer log request)

/-- A fresh encoder on a recording transport. -/
def recordingEncoder (answer : FrameAnswer) : Encoder (List FrameCall) :=
  Encoder.init [] (some fun log => answer.record log .start)
    (some fun log byte => answer.record log (.put byte))
    (some fun log => answer.record log .endFrame)

structure Frame.Recording (answer : FrameAnswer) (frame : Frame (List FrameCall)) : Prop where
  start : frame.startCb = some fun log => answer.record log .start
  put : frame.putCb = some fun log byte => answer.record log (.put byte)
  endFrame : frame.endCb = some fun log => answer.record log .endFrame

variable {answer : FrameAnswer} {frame : Frame (List FrameCall)}

theorem recordingEncoder_recording (answer : FrameAnswer) :
    (recordingEncoder answer).frame.Recording answer :=
  ⟨rfl, rfl, rfl⟩

theorem Frame.Recording.start_eq (recording : frame.Recording answer) (log : List FrameCall) :
    (frame.start log).2 = answer.record log .start := by
  unfold Frame.start
  rw [recording.start]

theorem Frame.Recording.putByte_eq (recording : frame.Recording answer) (log : List FrameCall)
    (byte : UInt8) : (frame.putByte log byte).2 = answer.record log (.put byte) := by
  unfold Frame.putByte
  rw [recording.put]

theorem Frame.Recording.endFrame_eq (recording : frame.Recording answer)
    (log : List FrameCall) : frame.endFrame log = answer.record log .endFrame := by
  unfold Frame.endFrame
  rw [recording.endFrame]

theorem Frame.Recording.opened (recording : frame.Recording answer) (log : List FrameCall) :
    frame.opened log = log ++ [answer.call log .start] :=
  congrArg Prod.fst (recording.start_eq log)

theorem Frame.Recording.sent (recording : frame.Recording answer) (log : List FrameCall)
    (byte : UInt8) : frame.sent log byte = log ++ [answer.call log (.put byte)] :=
  congrArg Prod.fst (recording.putByte_eq log byte)

theorem Frame.Recording.closed (recording : frame.Recording answer) (log : List FrameCall) :
    frame.closed log = log ++ [answer.call log .endFrame] :=
  congrArg Prod.fst (recording.endFrame_eq log)

/-! ### The operations of the protocol encoder -/

inductive EncoderRequest where
  | start (interface : UInt8)
  | data (byte : UInt8)
  | endFrame
  | send (interface : UInt8) (opcode : RnodeOpcode) (bytes : List UInt8)
  deriving DecidableEq

def EncoderRequest.perform {Ctx : Type} (encoder : Encoder Ctx) :
    EncoderRequest → Encoder Ctx × EncoderStatus
  | .start interface => encoder.start interface
  | .data byte => encoder.data byte
  | .endFrame => encoder.endFrame
  | .send interface opcode bytes => encoder.sendCommandAndBytes interface opcode bytes

def encoderServer {Ctx : Type} : Server (Encoder Ctx) EncoderRequest EncoderStatus :=
  { perform := EncoderRequest.perform }

/-! ### Frame callbacks are never reassigned -/

section Unchanged

variable {Ctx : Type}

theorem Encoder.sendPayload_frame (encoder : Encoder Ctx) (bytes : List UInt8) :
    ∃ count, (encoder.sendPayload bytes).1.frame = { encoder.frame with byteIndex := count } := by
  induction bytes generalizing encoder with
  | nil => exact ⟨_, rfl⟩
  | cons byte rest ih =>
      unfold Encoder.sendPayload
      dsimp only
      split
      · exact ⟨_, rfl⟩
      · exact ih (encoder.sendByte byte).1

theorem EncoderRequest.perform_frame (encoder : Encoder Ctx) (request : EncoderRequest) :
    ∃ count, (request.perform encoder).1.frame = { encoder.frame with byteIndex := count } := by
  cases request with
  | start interface =>
      change ∃ count, (encoder.start interface).1.frame = _
      unfold Encoder.start
      dsimp only
      repeat' split
      all_goals exact ⟨_, rfl⟩
  | data byte =>
      change ∃ count, (encoder.data byte).1.frame = _
      unfold Encoder.data
      dsimp only
      split <;> exact ⟨_, rfl⟩
  | endFrame =>
      change ∃ count, encoder.endFrame.1.frame = _
      unfold Encoder.endFrame
      dsimp only
      split <;> exact ⟨_, rfl⟩
  | send interface opcode bytes =>
      change ∃ count, (encoder.sendCommandAndBytes interface opcode bytes).1.frame = _
      unfold Encoder.sendCommandAndBytes
      dsimp only
      split
      · exact ⟨_, rfl⟩
      · split
        · exact ⟨_, rfl⟩
        · split
          · exact ⟨_, rfl⟩
          · obtain ⟨count, sent⟩ := Encoder.sendPayload_frame
              (Encoder.sendHeader { encoder.startFrame.1 with state := .transmitting }
                interface opcode).1 bytes
            split
            · exact ⟨count, sent⟩
            · split
              · exact ⟨count, sent⟩
              · exact ⟨count, sent⟩

theorem recording_perform {encoder : Encoder (List FrameCall)}
    (recording : encoder.frame.Recording answer) (request : EncoderRequest) :
    (request.perform encoder).1.frame.Recording answer := by
  obtain ⟨count, same⟩ := request.perform_frame encoder
  rw [same]
  exact ⟨recording.start, recording.put, recording.endFrame⟩

end Unchanged

theorem recording_run (answer : FrameAnswer) (requests : List EncoderRequest) :
    (encoderServer.run (recordingEncoder answer) requests).frame.Recording answer := by
  induction requests using List.reverseRecOn with
  | nil => exact recordingEncoder_recording answer
  | append_singleton earlier request ih =>
      rw [Server.run_append]
      exact recording_perform ih request

/-! ### Logs only grow -/

section Growth

variable {encoder : Encoder (List FrameCall)} {kept : List FrameCall → Prop}

theorem sendByte_kept (recording : encoder.frame.Recording answer)
    (grows : ∀ log call, kept log → kept (log ++ [call])) (byte : UInt8)
    (holds : kept encoder.context) : kept (encoder.sendByte byte).1.context := by
  change kept (encoder.frame.putByte encoder.context byte).2.1
  rw [recording.putByte_eq]
  exact grows _ _ holds

theorem sendPayload_kept (recording : encoder.frame.Recording answer)
    (grows : ∀ log call, kept log → kept (log ++ [call])) (bytes : List UInt8)
    (holds : kept encoder.context) : kept (encoder.sendPayload bytes).1.context := by
  induction bytes generalizing encoder with
  | nil => exact holds
  | cons byte rest ih =>
      have sent := sendByte_kept recording grows byte holds
      unfold Encoder.sendPayload
      dsimp only
      split
      · exact sent
      · exact ih ⟨recording.start, recording.put, recording.endFrame⟩ sent

theorem startFrame_kept (recording : encoder.frame.Recording answer)
    (grows : ∀ log call, kept log → kept (log ++ [call]))
    (holds : kept encoder.context) : kept encoder.startFrame.1.context := by
  change kept (encoder.frame.start encoder.context).2.1
  rw [recording.start_eq]
  exact grows _ _ holds

theorem finishFrame_kept (recording : encoder.frame.Recording answer)
    (grows : ∀ log call, kept log → kept (log ++ [call]))
    (holds : kept encoder.context) : kept encoder.finishFrame.1.context := by
  change kept (encoder.frame.endFrame encoder.context).1
  rw [recording.endFrame_eq]
  exact grows _ _ holds

/-- What survives one more callback survives every request. -/
theorem perform_kept (recording : encoder.frame.Recording answer)
    (grows : ∀ log call, kept log → kept (log ++ [call])) (request : EncoderRequest)
    (holds : kept encoder.context) : kept (request.perform encoder).1.context := by
  have started := startFrame_kept recording grows holds
  let opened : Encoder (List FrameCall) := { encoder.startFrame.1 with state := .transmitting }
  have openedRecording : opened.frame.Recording answer :=
    ⟨recording.start, recording.put, recording.endFrame⟩
  cases request with
  | start interface =>
      change kept (encoder.start interface).1.context
      unfold Encoder.start
      dsimp only
      split
      · exact holds
      · split
        · exact started
        · have headed := sendByte_kept openedRecording grows
            ((interface <<< 4) ||| (RnodeOpcode.data.value &&& 0x0F)) started
          split
          · exact headed
          · exact headed
  | data byte =>
      change kept (encoder.data byte).1.context
      unfold Encoder.data
      dsimp only
      split
      · exact holds
      · exact sendByte_kept recording grows byte holds
  | endFrame =>
      change kept encoder.endFrame.1.context
      unfold Encoder.endFrame
      dsimp only
      split
      · exact holds
      · let closed : Encoder (List FrameCall) := { encoder with state := .idle }
        have closedRecording : closed.frame.Recording answer := recording
        exact finishFrame_kept closedRecording grows holds
  | send interface opcode bytes =>
      have headed := sendByte_kept openedRecording grows
        ((interface <<< 4) ||| (opcode.value &&& 0x0F)) started
      change kept (opened.sendHeader interface opcode).1.context at headed
      have headedRecording : (opened.sendHeader interface opcode).1.frame.Recording answer :=
        ⟨recording.start, recording.put, recording.endFrame⟩
      have sent := sendPayload_kept headedRecording grows bytes headed
      obtain ⟨count, same⟩ := Encoder.sendPayload_frame
        (opened.sendHeader interface opcode).1 bytes
      have sentRecording : ((opened.sendHeader interface opcode).1.sendPayload
          bytes).1.frame.Recording answer := by
        rw [same]
        exact ⟨recording.start, recording.put, recording.endFrame⟩
      have finished := finishFrame_kept sentRecording grows sent
      change kept (encoder.sendCommandAndBytes interface opcode bytes).1.context
      unfold Encoder.sendCommandAndBytes
      dsimp only
      split
      · exact holds
      · split
        · exact started
        · split
          · exact headed
          · split
            · exact sent
            · split
              · exact finished
              · exact finished

end Growth

end RNodeProtocol
