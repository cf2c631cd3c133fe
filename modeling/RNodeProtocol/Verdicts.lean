/-
The verdict on a frame.

Whatever calls are made of a decoder, each stretch of a run between two starts,
two ends or one of each tells its listener one thing: a command or an event
reported whole by the closing end, or a stream, or either cut short by one
error.  The state of the decoder says how much of that has been told.
-/

import RNodeProtocol.CommandDecoderSteps
import RNodeProtocol.EventDecoderSteps
import RNodeProtocol.Library.FrameVerdicts

namespace RNodeProtocol

open ByteNumerals FramedInput

def DecoderState.phase : DecoderState → Phase
  | .wait => .quiet
  | .readFixed => .quiet
  | .streamData => .streaming
  | .abort => .dead

section Kinds

variable {Call : Type} {kind : Call → CallKind} {heard : List Call}

private theorem heard_unchanged {phase : Phase} (sofar : Heard kind phase heard) :
    Heard kind phase (heard ++ []) := by
  rw [List.append_nil]
  exact sofar

private theorem heard_quiet (sofar : Heard kind .quiet heard) : heard = [] := by
  cases sofar
  rfl

private theorem heard_streams (sofar : Heard kind .streaming heard) :
    ∀ call ∈ heard, kind call = .stream := by
  cases sofar with
  | streaming _ streams => exact streams

private theorem streams_emit (streams : ∀ call ∈ heard, kind call = .stream) {present : Bool}
    {call : Call} (isStream : kind call = .stream) :
    ∀ other ∈ heard ++ emit present call, kind other = .stream := by
  intro other member
  rcases List.mem_append.mp member with early | late
  · exact streams other early
  · rw [(mem_emit.mp late).2]
    exact isStream

private theorem told_emit (streams : ∀ call ∈ heard, kind call = .stream) {present : Bool}
    {error : Call} (isError : kind error = .error) : Told kind (heard ++ emit present error) := by
  cases present with
  | true => exact Told.report streams isError
  | false =>
      rw [emit_false, List.append_nil]
      exact Told.streams streams

private theorem told_refused (streams : ∀ call ∈ heard, kind call = .stream) {present : Bool}
    {call error : Call} (isStream : kind call = .stream) (isError : kind error = .error) :
    Told kind (heard ++ ([call] ++ emit present error)) := by
  have all : ∀ other ∈ heard ++ emit true call, kind other = .stream :=
    streams_emit streams isStream
  rw [← List.append_assoc]
  exact told_emit all isError

private theorem closing_whole (silent : heard = []) {present : Bool} {call : Call}
    (isWhole : kind call = .whole) : Closing kind heard (emit present call) := by
  cases present with
  | true => exact .whole silent call rfl isWhole
  | false =>
      rw [silent]
      exact .told (Told.streams fun _ member => absurd member List.not_mem_nil)

end Kinds

/-! ### The command decoder -/

def CommandCall.kind : CommandCall → CallKind
  | .tx _ _ => .stream
  | .error _ _ _ _ => .error
  | _ => .whole

namespace CommandDecoder

variable {registered : CommandSlot → Bool} {answer : CommandAnswer}
  {decoder : CommandDecoder (List CommandCall)}

theorem dispatchCall_whole {interface opcode : UInt8} {value : UInt32} {call : CommandCall}
    (dispatched : dispatchCall interface opcode value = .ok call) : call.kind = .whole := by
  unfold dispatchCall at dispatched
  repeat' split at dispatched
  all_goals cases dispatched
  all_goals rfl

theorem Recorded.put_heard (recorded : Recorded registered answer decoder) (byte : UInt8)
    (heard : List CommandCall) (sofar : Heard CommandCall.kind decoder.state.phase heard) :
    ∃ calls, (decoder.put byte).1.context = decoder.context ++ calls ∧
      Heard CommandCall.kind (decoder.put byte).1.state.phase (heard ++ calls) := by
  have step := recorded.put_step byte
  generalize decoder.put byte = result at step ⊢
  cases step with
  | unknown waiting _ =>
      rw [waiting] at sofar
      obtain rfl := heard_quiet sofar
      exact ⟨_, rfl, .dead _ (told_emit nofun rfl)⟩
  | streamHeader waiting _ =>
      rw [waiting] at sofar
      obtain rfl := heard_quiet sofar
      exact ⟨_, rfl, .streaming _ (streams_emit nofun rfl)⟩
  | fixedHeader waiting _ _ =>
      rw [waiting] at sofar
      exact ⟨[], (List.append_nil _).symm, heard_unchanged sofar⟩
  | room _ _ => exact ⟨[], (List.append_nil _).symm, heard_unchanged sofar⟩
  | full reading _ =>
      rw [reading] at sofar
      obtain rfl := heard_quiet sofar
      exact ⟨_, rfl, .dead _ (told_emit nofun rfl)⟩
  | accepted streaming _ =>
      rw [streaming] at sofar
      rw [streaming]
      exact ⟨_, rfl, .streaming _ (streams_emit (heard_streams sofar) rfl)⟩
  | refused streaming _ _ =>
      rw [streaming] at sofar
      exact ⟨_, List.append_assoc _ _ _, .dead _ (told_refused (heard_streams sofar) rfl rfl)⟩
  | ignored _ => exact ⟨[], (List.append_nil _).symm, heard_unchanged sofar⟩

theorem Recorded.end_heard (recorded : Recorded registered answer decoder)
    (heard : List CommandCall) (sofar : Heard CommandCall.kind decoder.state.phase heard) :
    ∃ calls, decoder.endFrame.1.context = decoder.context ++ calls ∧
      Closing CommandCall.kind heard calls ∧ decoder.endFrame.1.state.phase ≠ .streaming := by
  have step := recorded.end_step
  generalize decoder.endFrame = result at step ⊢
  cases step with
  | command reading _ call dispatched =>
      rw [reading] at sofar
      exact ⟨_, rfl, closing_whole (heard_quiet sofar) (dispatchCall_whole dispatched), nofun⟩
  | rejected reading _ _ _ =>
      rw [reading] at sofar
      rw [heard_quiet sofar]
      exact ⟨_, rfl, .told (told_emit nofun rfl), nofun⟩
  | short reading _ =>
      rw [reading] at sofar
      rw [heard_quiet sofar]
      exact ⟨_, rfl, .told (told_emit nofun rfl), nofun⟩
  | accepted streaming _ =>
      rw [streaming] at sofar
      have streams := heard_streams sofar
      exact ⟨_, rfl, .told (Told.streams (streams_emit streams rfl)), nofun⟩
  | refused streaming _ _ =>
      rw [streaming] at sofar
      have streams := heard_streams sofar
      exact ⟨_, List.append_assoc _ _ _, .told (told_refused streams rfl rfl), nofun⟩
  | idle _ =>
      exact ⟨[], (List.append_nil _).symm, .told (heard_unchanged sofar).told, nofun⟩

theorem judges : machine.Judges CommandDecoder.context CommandCall.kind
    (fun decoder => decoder.state.phase) (Recorded registered answer) where
  preserves := recorded_preserved
  start := fun _ _ => ⟨rfl, rfl⟩
  put := fun _ byte recorded heard sofar => recorded.put_heard byte heard sofar
  endFrame := fun _ recorded heard sofar => recorded.end_heard heard sofar

end CommandDecoder

/-! ### The event decoder -/

def EventCall.kind : EventCall → CallKind
  | .stream _ _ _ => .stream
  | .error _ _ _ _ => .error
  | _ => .whole

namespace EventDecoder

variable {registered : EventSlot → Bool} {answer : EventAnswer}
  {decoder : EventDecoder (List EventCall)}

theorem dispatchCall_whole {interface opcode : UInt8} {value : UInt32} {call : EventCall}
    (dispatched : dispatchCall interface opcode value = .ok call) : call.kind = .whole := by
  cases dispatched_of_ok dispatched <;> rfl

theorem Recorded.put_heard (recorded : Recorded registered answer decoder) (byte : UInt8)
    (heard : List EventCall) (sofar : Heard EventCall.kind decoder.state.phase heard) :
    ∃ calls, (decoder.put byte).1.context = decoder.context ++ calls ∧
      Heard EventCall.kind (decoder.put byte).1.state.phase (heard ++ calls) := by
  have step := recorded.put_step byte
  generalize decoder.put byte = result at step ⊢
  cases step with
  | unknown waiting _ =>
      rw [waiting] at sofar
      obtain rfl := heard_quiet sofar
      exact ⟨_, rfl, .dead _ (told_emit nofun rfl)⟩
  | streamHeader waiting _ _ _ =>
      rw [waiting] at sofar
      obtain rfl := heard_quiet sofar
      exact ⟨_, rfl, .streaming _ (streams_emit nofun rfl)⟩
  | fixedHeader waiting _ _ _ =>
      rw [waiting] at sofar
      exact ⟨[], (List.append_nil _).symm, heard_unchanged sofar⟩
  | room _ _ => exact ⟨[], (List.append_nil _).symm, heard_unchanged sofar⟩
  | full reading _ =>
      rw [reading] at sofar
      obtain rfl := heard_quiet sofar
      exact ⟨_, rfl, .dead _ (told_emit nofun rfl)⟩
  | accepted streaming _ _ _ =>
      rw [streaming] at sofar
      rw [streaming]
      exact ⟨_, rfl, .streaming _ (streams_emit (heard_streams sofar) rfl)⟩
  | refused streaming _ _ _ _ =>
      rw [streaming] at sofar
      exact ⟨_, List.append_assoc _ _ _, .dead _ (told_refused (heard_streams sofar) rfl rfl)⟩
  | ignored _ => exact ⟨[], (List.append_nil _).symm, heard_unchanged sofar⟩

theorem Recorded.end_heard (recorded : Recorded registered answer decoder)
    (heard : List EventCall) (sofar : Heard EventCall.kind decoder.state.phase heard) :
    ∃ calls, decoder.endFrame.1.context = decoder.context ++ calls ∧
      Closing EventCall.kind heard calls ∧ decoder.endFrame.1.state.phase ≠ .streaming := by
  have step := recorded.end_step
  generalize decoder.endFrame = result at step ⊢
  cases step with
  | event reading _ call dispatched =>
      rw [reading] at sofar
      exact ⟨_, rfl, closing_whole (heard_quiet sofar) (dispatchCall_whole dispatched), nofun⟩
  | unknown reading _ _ _ =>
      rw [reading] at sofar
      rw [heard_quiet sofar]
      exact ⟨_, rfl, .told (told_emit nofun rfl), nofun⟩
  | short reading _ =>
      rw [reading] at sofar
      rw [heard_quiet sofar]
      exact ⟨_, rfl, .told (told_emit nofun rfl), nofun⟩
  | accepted streaming _ _ _ =>
      rw [streaming] at sofar
      have streams := heard_streams sofar
      exact ⟨_, rfl, .told (Told.streams (streams_emit streams rfl)), nofun⟩
  | refused streaming _ _ _ _ =>
      rw [streaming] at sofar
      have streams := heard_streams sofar
      exact ⟨_, List.append_assoc _ _ _, .told (told_refused streams rfl rfl), nofun⟩
  | idle _ =>
      exact ⟨[], (List.append_nil _).symm, .told (heard_unchanged sofar).told, nofun⟩

theorem judges : machine.Judges EventDecoder.context EventCall.kind
    (fun decoder => decoder.state.phase) (Recorded registered answer) where
  preserves := recorded_preserved
  start := fun _ _ => ⟨rfl, rfl⟩
  put := fun _ byte recorded heard sofar => recorded.put_heard byte heard sofar
  endFrame := fun _ recorded heard sofar => recorded.end_heard heard sofar

end EventDecoder

/-! ### Both decoders, over whole runs -/

/-- An error is the last a listener hears of its frame, and a whole frame is heard alone. -/
theorem segments_one_verdict (commandMemory : CommandDecoder (List CommandCall))
    (eventMemory : EventDecoder (List EventCall)) (commandSlots : CommandSlot → Bool)
    (eventSlots : EventSlot → Bool) (commandAnswer : CommandAnswer) (eventAnswer : EventAnswer)
    (operations : List (Operation UInt8)) :
    (∀ segment ∈ segments [] (CommandDecoder.machine.history CommandDecoder.context
        (CommandDecoder.fresh commandMemory commandSlots commandAnswer) operations),
      OneVerdict CommandCall.kind segment) ∧
    (∀ segment ∈ segments [] (EventDecoder.machine.history EventDecoder.context
        (EventDecoder.fresh eventMemory eventSlots eventAnswer) operations),
      OneVerdict EventCall.kind segment) := by
  constructor
  · have recorded := CommandDecoder.fresh_recorded commandMemory commandSlots commandAnswer
    exact CommandDecoder.judges.segments recorded .quiet operations
  · have recorded := EventDecoder.fresh_recorded eventMemory eventSlots eventAnswer
    exact EventDecoder.judges.segments recorded .quiet operations

end RNodeProtocol
