/-
The end of a frame and the frame after it.

Every exit of end but one passes through start, so that the next frame may be
fed without another start.  The exit taken when the end callback of a stream
refuses returns early and leaves the decoder aborted; the whole next frame is
then swallowed unless a start comes first.
-/

import RNodeProtocol.CommandDecoderSteps
import RNodeProtocol.EventDecoderSteps

namespace RNodeProtocol

open FramedInput

variable {Ctx : Type}

/-- The end callback, invoked now, answers with a refusal. -/
def Stream.RefusesEnd (stream : Stream Ctx) (context : Ctx) (interface : UInt8) : Prop :=
  ∃ endCb, stream.endCb = some endCb ∧ (endCb context interface stream.byteIndex).2 = .abort

theorem Stream.refusesEnd_iff (stream : Stream Ctx) (context : Ctx) (interface : UInt8) :
    stream.RefusesEnd context interface ↔ (stream.endStream context interface).2 ≠ .ok := by
  unfold Stream.RefusesEnd Stream.endStream
  cases stream.endCb with
  | none =>
      constructor
      · rintro ⟨_, present, _⟩
        cases present
      · intro refused
        exact absurd rfl refused
  | some endCb =>
      change _ ↔ (endCb context interface stream.byteIndex).2 ≠ .ok
      constructor
      · rintro ⟨_, present, refused⟩
        cases present
        rw [refused]
        decide
      · intro refused
        refine ⟨endCb, rfl, ?_⟩
        cases answer : (endCb context interface stream.byteIndex).2 with
        | ok => exact absurd answer refused
        | abort => rfl

/-! ### The command decoder -/

namespace CommandDecoder

def Idle (decoder : CommandDecoder Ctx) : Prop :=
  decoder.state = .wait ∧ decoder.payloadIndex = 0

def EndRefused (decoder : CommandDecoder Ctx) : Prop :=
  decoder.state = .streamData ∧
    decoder.txStream.RefusesEnd decoder.context decoder.interface

/-- The early return, or some record passed through start. -/
theorem endFrame_exits (decoder : CommandDecoder Ctx) :
    decoder.EndRefused ∧ ¬ decoder.endFrame.1.Idle ∨
      ¬ decoder.EndRefused ∧ ∃ before : CommandDecoder Ctx,
        decoder.endFrame.1 = before.start := by
  unfold EndRefused endFrame
  rw [Stream.refusesEnd_iff]
  cases decoder.state with
  | wait => exact .inr ⟨nofun, decoder, rfl⟩
  | readFixed =>
      dsimp only
      split
      · exact .inr ⟨nofun, decoder.fixedLengthCommand.1, rfl⟩
      · exact .inr ⟨nofun, decoder.reportError .invalidLength, rfl⟩
  | streamData =>
      dsimp only
      split
      · rename_i refused
        exact .inl ⟨⟨rfl, refused⟩, fun idle => by cases idle.1⟩
      · rename_i accepted
        exact .inr ⟨fun refused => accepted refused.2, _, rfl⟩
  | abort => exact .inr ⟨nofun, decoder, rfl⟩

end CommandDecoder

/-! ### The event decoder -/

namespace EventDecoder

def Idle (decoder : EventDecoder Ctx) : Prop :=
  decoder.state = .wait ∧ decoder.payloadIndex = 0

def EndRefused (decoder : EventDecoder Ctx) : Prop :=
  decoder.state = .streamData ∧
    decoder.stream.RefusesEnd decoder.context decoder.interface

theorem endFrame_exits (decoder : EventDecoder Ctx) :
    decoder.EndRefused ∧ ¬ decoder.endFrame.1.Idle ∨
      ¬ decoder.EndRefused ∧ ∃ before : EventDecoder Ctx,
        decoder.endFrame.1 = before.start := by
  unfold EndRefused endFrame
  cases decoder.state with
  | wait => exact .inr ⟨nofun, decoder, rfl⟩
  | readFixed =>
      dsimp only
      split
      · exact .inr ⟨nofun, decoder.fixedLengthEvent.1, rfl⟩
      · exact .inr ⟨nofun, decoder.reportError .invalidLength, rfl⟩
  | streamData =>
      dsimp only
      rw [Stream.refusesEnd_iff]
      split
      · split
        · rename_i refused
          exact .inl ⟨⟨rfl, refused⟩, fun idle => by cases idle.1⟩
        · rename_i accepted
          exact .inr ⟨fun refused => accepted refused.2, _, rfl⟩
      · rename_i absent
        refine .inr ⟨?_, decoder, rfl⟩
        rintro ⟨_, refused⟩
        obtain ⟨endCb, present, _⟩ := (decoder.stream.refusesEnd_iff _ _).mpr refused
        rw [present] at absent
        exact absent rfl
  | abort => exact .inr ⟨nofun, decoder, rfl⟩

end EventDecoder

/-! ### Both decoders, wherever a run has taken them -/

/-- Ending a frame rearms a decoder unless the end callback of the open stream refuses. -/
theorem endFrame_rearms_iff (commandMemory : CommandDecoder Ctx) (eventMemory : EventDecoder Ctx)
    (context : Ctx) (commands : CommandCallbacks Ctx) (tx : StreamCallbacks Ctx)
    (events : EventCallbacks Ctx) (operations : List (Operation UInt8)) :
    (CommandDecoder.machine.Rearmed CommandDecoder.Idle CommandDecoder.context
          (CommandDecoder.machine.run (commandMemory.init context commands tx)
            operations).endFrame.1 ↔
        ¬ (CommandDecoder.machine.run (commandMemory.init context commands tx)
            operations).EndRefused) ∧
      (EventDecoder.machine.Rearmed EventDecoder.Idle EventDecoder.context
          (EventDecoder.machine.run (eventMemory.init context events)
            operations).endFrame.1 ↔
        ¬ (EventDecoder.machine.run (eventMemory.init context events)
            operations).EndRefused) :=
  ⟨Machine.rearmed_iff (fun _ => ⟨rfl, rfl⟩) (fun _ => rfl) (CommandDecoder.endFrame_exits _),
    Machine.rearmed_iff (fun _ => ⟨rfl, rfl⟩) (fun _ => rfl) (EventDecoder.endFrame_exits _)⟩

/-- A data frame without payload whose end callback refuses. -/
def afterRefusedEnd : CommandDecoder (List CommandCall) :=
  (CommandDecoder.reached (CommandDecoder.zeroed []) (fun _ => true)
    (fun _ call => if call = .endStream 1 0 then .abort else .ok)
    [.start, .put 0x10]).endFrame.1

/-- The frequency frame after it is swallowed; a start would have saved it. -/
theorem refused_end_not_rearmed :
    ¬ CommandDecoder.machine.Rearmed CommandDecoder.Idle CommandDecoder.context
        afterRefusedEnd ∧
      (CommandDecoder.machine.run afterRefusedEnd
          [.write [0x01, 0x00, 0x00, 0x00, 0x2A], .endFrame]).context =
        afterRefusedEnd.context ∧
      (CommandDecoder.machine.run afterRefusedEnd.start
          [.write [0x01, 0x00, 0x00, 0x00, 0x2A], .endFrame]).context =
        afterRefusedEnd.context ++ [.setFrequency 0 0x2A] :=
  ⟨fun rearmed => absurd rearmed.idle.1 (by decide), by decide⟩

end RNodeProtocol
