/-
What an encoder operation leaves behind when it succeeds, and when it does.

An operation that returns OK has run its callbacks to the end, so the context it
leaves is the one the transport makes of the whole frame.  With callbacks that
always accept, an operation succeeds in every state it is meant for.
-/

import RNodeProtocol.Encoder

namespace RNodeProtocol

open ByteNumerals

variable {Ctx : Type}

/-! ### The transport behind a frame -/

def Frame.opened (frame : Frame Ctx) (context : Ctx) : Ctx := (frame.start context).2.1

def Frame.sent (frame : Frame Ctx) (context : Ctx) (byte : UInt8) : Ctx :=
  (frame.putByte context byte).2.1

def Frame.closed (frame : Frame Ctx) (context : Ctx) : Ctx := (frame.endFrame context).1

/-- A complete frame, as the transport sees it. -/
def Frame.deliver (frame : Frame Ctx) (context : Ctx) (bytes : List UInt8) : Ctx :=
  frame.closed (bytes.foldl frame.sent (frame.opened context))

structure Frame.Accepts (frame : Frame Ctx) : Prop where
  start : ∀ context, (frame.start context).2.2 = .ok
  put : ∀ context byte, (frame.putByte context byte).2.2 = .ok
  endFrame : ∀ context, (frame.endFrame context).2 = .ok

/-! ### Operations that return OK -/

theorem translateFrameCbStatus_ok {status : FrameCbStatus} :
    translateFrameCbStatus status = .ok ↔ status = .ok := by
  cases status <;> decide

private theorem counter_cons (index : UInt32) (count : Nat) :
    index + 1 + UInt32.ofNat count = index + UInt32.ofNat (count + 1) := by
  rw [UInt32.ofNat_add, UInt32.add_assoc, UInt32.add_comm (UInt32.ofNat count)]
  rfl

theorem Encoder.sendPayload_ok {encoder : Encoder Ctx} {bytes : List UInt8}
    (returned : (encoder.sendPayload bytes).2 = .ok) :
    (encoder.sendPayload bytes).1 =
      { encoder with
        context := bytes.foldl encoder.frame.sent encoder.context
        frame := { encoder.frame with
          byteIndex := encoder.frame.byteIndex + UInt32.ofNat bytes.length } } := by
  induction bytes generalizing encoder with
  | nil =>
      change encoder = { encoder with
        frame := { encoder.frame with byteIndex := encoder.frame.byteIndex + 0 } }
      rw [UInt32.add_zero]
  | cons byte rest ih =>
      unfold Encoder.sendPayload at returned ⊢
      dsimp only at returned ⊢
      split at returned
      · rename_i refused
        exact absurd returned refused
      · rename_i accepted
        rw [if_neg accepted, ih returned, List.length_cons, ← counter_cons]
        rfl

/-- A one-shot send that succeeds was made while idle and delivered one complete frame. -/
theorem Encoder.sendCommandAndBytes_ok {encoder : Encoder Ctx} {interface : UInt8}
    {opcode : RnodeOpcode} {bytes : List UInt8}
    (returned : (encoder.sendCommandAndBytes interface opcode bytes).2 = .ok) :
    encoder.state ≠ .transmitting ∧
      (encoder.sendCommandAndBytes interface opcode bytes).1 =
        { encoder with
          context := encoder.frame.deliver encoder.context
            (packNibbles interface opcode.value :: bytes)
          state := .idle
          frame := { encoder.frame with
            byteIndex := 1 + UInt32.ofNat bytes.length } } := by
  unfold Encoder.sendCommandAndBytes at returned ⊢
  dsimp only at returned ⊢
  split at returned
  · cases returned
  · rename_i free
    refine ⟨free, ?_⟩
    rw [if_neg free]
    split at returned
    · rename_i refused
      exact absurd (translateFrameCbStatus_ok.mp returned) refused
    · rename_i opened
      rw [if_neg opened]
      split at returned
      · rename_i refused
        exact absurd (translateFrameCbStatus_ok.mp returned) refused
      · rename_i headed
        rw [if_neg headed]
        split at returned
        · rename_i refused
          exact absurd (translateFrameCbStatus_ok.mp returned) refused
        · rename_i sent
          rw [if_neg sent]
          split at returned
          · rename_i refused
            exact absurd (translateFrameCbStatus_ok.mp returned) refused
          · rename_i closed
            rw [if_neg closed, Encoder.sendPayload_ok (not_not.mp sent)]
            rfl

theorem Encoder.start_ok {encoder : Encoder Ctx} {interface : UInt8}
    (returned : (encoder.start interface).2 = .ok) :
    encoder.state ≠ .transmitting ∧
      (encoder.start interface).1 =
        { encoder with
          context := encoder.frame.sent (encoder.frame.opened encoder.context)
            (packNibbles interface RnodeOpcode.data.value)
          state := .transmitting
          frame := { encoder.frame with byteIndex := 1 } } := by
  unfold Encoder.start at returned ⊢
  dsimp only at returned ⊢
  split at returned
  · cases returned
  · rename_i free
    refine ⟨free, ?_⟩
    rw [if_neg free]
    split at returned
    · rename_i refused
      exact absurd (translateFrameCbStatus_ok.mp returned) refused
    · rename_i opened
      rw [if_neg opened]
      split at returned
      · rename_i refused
        exact absurd (translateFrameCbStatus_ok.mp returned) refused
      · rename_i headed
        rw [if_neg headed]
        rfl

theorem Encoder.data_transmitting {encoder : Encoder Ctx}
    (transmitting : encoder.state = .transmitting) (byte : UInt8) :
    encoder.data byte =
      ({ encoder with
          context := encoder.frame.sent encoder.context byte
          frame := { encoder.frame with byteIndex := encoder.frame.byteIndex + 1 } },
        translateFrameCbStatus (encoder.frame.putByte encoder.context byte).2.2) := by
  unfold Encoder.data
  rw [if_neg (not_not_intro transmitting)]
  rfl

theorem Encoder.endFrame_transmitting {encoder : Encoder Ctx}
    (transmitting : encoder.state = .transmitting) :
    encoder.endFrame =
      ({ encoder with
          context := encoder.frame.closed encoder.context
          state := .idle },
        translateFrameCbStatus (encoder.frame.endFrame encoder.context).2) := by
  unfold Encoder.endFrame
  rw [if_neg (not_not_intro transmitting)]
  rfl

/-- A streamed payload reaches the transport byte by byte, whatever the transport answers. -/
theorem Encoder.data_all {encoder : Encoder Ctx} (transmitting : encoder.state = .transmitting)
    (payload : List UInt8) :
    payload.foldl (fun current byte => (current.data byte).1) encoder =
      { encoder with
        context := payload.foldl encoder.frame.sent encoder.context
        frame := { encoder.frame with
          byteIndex := encoder.frame.byteIndex + UInt32.ofNat payload.length } } := by
  induction payload generalizing encoder with
  | nil =>
      change encoder = { encoder with
        frame := { encoder.frame with byteIndex := encoder.frame.byteIndex + 0 } }
      rw [UInt32.add_zero]
  | cons byte rest ih =>
      have sent := Encoder.data_transmitting transmitting byte
      have next : (encoder.data byte).1.state = .transmitting := by
        rw [sent]
        exact transmitting
      rw [List.foldl_cons, ih next, sent, List.length_cons, ← counter_cons]
      rfl

/-- A stream whose start succeeds delivers one complete frame. -/
theorem Encoder.stream_delivers {encoder : Encoder Ctx} {interface : UInt8}
    (returned : (encoder.start interface).2 = .ok) (payload : List UInt8) :
    (payload.foldl (fun current byte => (current.data byte).1)
        (encoder.start interface).1).endFrame.1.context =
      encoder.frame.deliver encoder.context
        (packNibbles interface RnodeOpcode.data.value :: payload) := by
  have started := (Encoder.start_ok returned).2
  have transmitting : (encoder.start interface).1.state = .transmitting := by
    rw [started]
  have fed := Encoder.data_all transmitting payload
  have still : (payload.foldl (fun current byte => (current.data byte).1)
      (encoder.start interface).1).state = .transmitting := by
    rw [fed]
    exact transmitting
  rw [Encoder.endFrame_transmitting still, fed, started]
  rfl

/-! ### Operations outside their state -/

theorem Encoder.sendCommandAndBytes_busy {encoder : Encoder Ctx}
    (transmitting : encoder.state = .transmitting) (interface : UInt8) (opcode : RnodeOpcode)
    (bytes : List UInt8) :
    encoder.sendCommandAndBytes interface opcode bytes = (encoder, .frameError) := by
  unfold Encoder.sendCommandAndBytes
  rw [if_pos transmitting]

theorem Encoder.start_busy {encoder : Encoder Ctx}
    (transmitting : encoder.state = .transmitting) (interface : UInt8) :
    encoder.start interface = (encoder, .frameError) := by
  unfold Encoder.start
  rw [if_pos transmitting]

theorem Encoder.data_idle {encoder : Encoder Ctx} (idle : encoder.state = .idle) (byte : UInt8) :
    encoder.data byte = (encoder, .frameError) := by
  unfold Encoder.data
  rw [if_pos (by rw [idle]; decide)]

theorem Encoder.endFrame_idle {encoder : Encoder Ctx} (idle : encoder.state = .idle) :
    encoder.endFrame = (encoder, .frameError) := by
  unfold Encoder.endFrame
  rw [if_pos (by rw [idle]; decide)]

/-! ### Transports that accept everything -/

theorem Encoder.sendPayload_accepted {encoder : Encoder Ctx} (accepts : encoder.frame.Accepts)
    (bytes : List UInt8) : (encoder.sendPayload bytes).2 = .ok := by
  induction bytes generalizing encoder with
  | nil => rfl
  | cons byte rest ih =>
      have accepted : (encoder.sendByte byte).2 = .ok := accepts.put encoder.context byte
      unfold Encoder.sendPayload
      dsimp only
      rw [if_neg (not_not_intro accepted)]
      exact ih ⟨accepts.start, accepts.put, accepts.endFrame⟩

theorem Encoder.sendCommandAndBytes_accepted {encoder : Encoder Ctx}
    (accepts : encoder.frame.Accepts) (idle : encoder.state = .idle) (interface : UInt8)
    (opcode : RnodeOpcode) (bytes : List UInt8) :
    (encoder.sendCommandAndBytes interface opcode bytes).2 = .ok := by
  unfold Encoder.sendCommandAndBytes
  dsimp only
  rw [if_neg (by rw [idle]; decide)]
  split
  · rename_i refused
    exact absurd (accepts.start encoder.context) refused
  · split
    · rename_i refused
      exact absurd (accepts.put _ _) refused
    · split
      · rename_i refused
        refine absurd (Encoder.sendPayload_accepted ?_ bytes) refused
        exact ⟨accepts.start, accepts.put, accepts.endFrame⟩
      · rename_i sent
        split
        · rename_i refused
          rw [Encoder.sendPayload_ok (not_not.mp sent)] at refused
          exact absurd (accepts.endFrame _) refused
        · rfl

theorem Encoder.start_accepted {encoder : Encoder Ctx} (accepts : encoder.frame.Accepts)
    (idle : encoder.state = .idle) (interface : UInt8) :
    (encoder.start interface).2 = .ok := by
  unfold Encoder.start
  dsimp only
  rw [if_neg (by rw [idle]; decide)]
  split
  · rename_i refused
    exact absurd (accepts.start encoder.context) refused
  · split
    · rename_i refused
      exact absurd (accepts.put _ _) refused
    · rfl

end RNodeProtocol
