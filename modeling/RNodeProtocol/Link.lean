/-
An encoder wired to a decoder.

The transport callbacks of the encoder run the start, put and end of a decoder
and accept whatever it answers; the link keeps those answers.  The decoder may
be any machine that takes frames of bytes.
-/

import RNodeProtocol.EncoderSteps
import RNodeProtocol.Library.FramedInput

namespace RNodeProtocol

open FramedInput

structure Link (Receiver : Type) where
  receiver : Receiver
  statuses : List DecoderStatus

namespace Link

variable {Receiver : Type}

def startCb (machine : Machine Receiver UInt8 DecoderStatus) (link : Link Receiver) :
    Link Receiver × FrameCbStatus :=
  ({ link with receiver := machine.start link.receiver }, .ok)

def putCb (machine : Machine Receiver UInt8 DecoderStatus) (link : Link Receiver)
    (byte : UInt8) : Link Receiver × FrameCbStatus :=
  ({ receiver := (machine.put link.receiver byte).1
     statuses := link.statuses ++ [(machine.put link.receiver byte).2] }, .ok)

def endCb (machine : Machine Receiver UInt8 DecoderStatus) (link : Link Receiver) :
    Link Receiver × FrameCbStatus :=
  ({ receiver := (machine.endFrame link.receiver).1
     statuses := link.statuses ++ [(machine.endFrame link.receiver).2] }, .ok)

/-- The frame callbacks of an encoder run this machine. -/
structure Wired (machine : Machine Receiver UInt8 DecoderStatus)
    (frame : Frame (Link Receiver)) : Prop where
  start : frame.startCb = some (startCb machine)
  put : frame.putCb = some (putCb machine)
  endFrame : frame.endCb = some (endCb machine)

variable {machine : Machine Receiver UInt8 DecoderStatus} {frame : Frame (Link Receiver)}

theorem Wired.start_eq (wired : Wired machine frame) (link : Link Receiver) :
    (frame.start link).2 = startCb machine link := by
  unfold Frame.start
  rw [wired.start]

theorem Wired.putByte_eq (wired : Wired machine frame) (link : Link Receiver) (byte : UInt8) :
    (frame.putByte link byte).2 = putCb machine link byte := by
  unfold Frame.putByte
  rw [wired.put]

theorem Wired.endFrame_eq (wired : Wired machine frame) (link : Link Receiver) :
    frame.endFrame link = endCb machine link := by
  unfold Frame.endFrame
  rw [wired.endFrame]

theorem Wired.accepts (wired : Wired machine frame) : frame.Accepts where
  start := fun link => congrArg Prod.snd (wired.start_eq link)
  put := fun link byte => congrArg Prod.snd (wired.putByte_eq link byte)
  endFrame := fun link => congrArg Prod.snd (wired.endFrame_eq link)

theorem Wired.opened (wired : Wired machine frame) (link : Link Receiver) :
    frame.opened link = { link with receiver := machine.start link.receiver } :=
  congrArg Prod.fst (wired.start_eq link)

theorem Wired.sent (wired : Wired machine frame) (link : Link Receiver) (byte : UInt8) :
    frame.sent link byte =
      { receiver := (machine.put link.receiver byte).1
        statuses := link.statuses ++ [(machine.put link.receiver byte).2] } :=
  congrArg Prod.fst (wired.putByte_eq link byte)

theorem Wired.closed (wired : Wired machine frame) (link : Link Receiver) :
    frame.closed link =
      { receiver := (machine.endFrame link.receiver).1
        statuses := link.statuses ++ [(machine.endFrame link.receiver).2] } :=
  congrArg Prod.fst (wired.endFrame_eq link)

theorem Wired.sent_receiver (wired : Wired machine frame) (link : Link Receiver)
    (bytes : List UInt8) :
    (bytes.foldl frame.sent link).receiver = machine.putAll link.receiver bytes := by
  induction bytes generalizing link with
  | nil => rfl
  | cons byte rest ih => rw [List.foldl_cons, ih, wired.sent, Machine.putAll_cons]

/-- A frame sent over the link is a frame put into the machine. -/
theorem Wired.deliver_receiver (wired : Wired machine frame) (link : Link Receiver)
    (bytes : List UInt8) :
    (frame.deliver link bytes).receiver =
      (machine.endFrame (machine.putAll (machine.start link.receiver) bytes)).1 := by
  unfold Frame.deliver
  rw [wired.closed, wired.sent_receiver, wired.opened]

theorem Wired.sent_statuses (wired : Wired machine frame) {link : Link Receiver}
    {bytes : List UInt8} (accepts : machine.Accepts link.receiver bytes)
    (earlier : ∀ status ∈ link.statuses, status = machine.accepted) :
    ∀ status ∈ (bytes.foldl frame.sent link).statuses, status = machine.accepted := by
  induction bytes generalizing link with
  | nil => exact earlier
  | cons byte rest ih =>
      rw [List.foldl_cons]
      apply ih
      · rw [wired.sent]
        exact accepts.2
      · intro status member
        rw [wired.sent] at member
        rcases List.mem_append.mp member with old | new
        · exact earlier status old
        · rw [List.mem_singleton.mp new]
          exact accepts.1

theorem Wired.deliver_statuses (wired : Wired machine frame) {link : Link Receiver}
    {bytes : List UInt8} (accepts : machine.Accepts (machine.start link.receiver) bytes)
    (ended : (machine.endFrame (machine.putAll (machine.start link.receiver) bytes)).2 =
      machine.accepted)
    (earlier : ∀ status ∈ link.statuses, status = machine.accepted) :
    ∀ status ∈ (frame.deliver link bytes).statuses, status = machine.accepted := by
  have opened := wired.opened link
  intro status member
  unfold Frame.deliver at member
  rw [wired.closed] at member
  rcases List.mem_append.mp member with sent | closed
  · refine wired.sent_statuses ?_ ?_ status sent
    · rw [opened]
      exact accepts
    · rw [opened]
      exact earlier
  · rw [List.mem_singleton.mp closed, wired.sent_receiver, opened]
    exact ended

end Link

end RNodeProtocol
