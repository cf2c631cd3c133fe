/-
What a feeder may do and what it is told.

Both decoders ignore every byte after one they refused, up to the next start or
end, so chunking and the handling of statuses make no difference to a frame.
The event decoder also says so at every later byte; the command decoder answers
those bytes as if it had taken them.
-/

import RNodeProtocol.CommandDecoderFrames
import RNodeProtocol.EventDecoderFrames
import RNodeProtocol.Library.Feeding

namespace RNodeProtocol

open FramedInput

/-- However a frame is cut and whether or not statuses are heeded, the calls and states agree. -/
theorem feeding_agrees (operations : List (Operation UInt8)) (chunks others : List (Chunk UInt8))
    (policy other : Policy) (sameBytes : carried chunks = carried others) :
    (∀ (memory : CommandDecoder (List CommandCall)) (registered : CommandSlot → Bool)
        (answer : CommandAnswer),
      CommandDecoder.machine.feed policy
          (CommandDecoder.reached memory registered answer operations) chunks =
        CommandDecoder.machine.feed other
          (CommandDecoder.reached memory registered answer operations) others ∧
      (CommandDecoder.machine.feed policy
          (CommandDecoder.reached memory registered answer operations) chunks).endFrame =
        (CommandDecoder.machine.feed other
          (CommandDecoder.reached memory registered answer operations) others).endFrame) ∧
    (∀ (memory : EventDecoder (List EventCall)) (registered : EventSlot → Bool)
        (answer : EventAnswer),
      EventDecoder.machine.feed policy
          (EventDecoder.reached memory registered answer operations) chunks =
        EventDecoder.machine.feed other
          (EventDecoder.reached memory registered answer operations) others ∧
      (EventDecoder.machine.feed policy
          (EventDecoder.reached memory registered answer operations) chunks).endFrame =
        (EventDecoder.machine.feed other
          (EventDecoder.reached memory registered answer operations) others).endFrame) := by
  constructor
  · intro memory registered answer
    have same := CommandDecoder.failStop.feed_eq policy
      (CommandDecoder.reached memory registered answer operations) chunks
    rw [sameBytes, ← CommandDecoder.failStop.feed_eq other] at same
    exact ⟨same, congrArg CommandDecoder.endFrame same⟩
  · intro memory registered answer
    have same := EventDecoder.failStop.feed_eq policy
      (EventDecoder.reached memory registered answer operations) chunks
    rw [sameBytes, ← EventDecoder.failStop.feed_eq other] at same
    exact ⟨same, congrArg EventDecoder.endFrame same⟩

/-- An unknown opcode, written in one piece and byte by byte past the refusal. -/
theorem feeding_agrees_unknown :
    (CommandDecoder.machine.feed .stop
        (CommandDecoder.reached (CommandDecoder.zeroed []) (fun _ => true) (fun _ _ => .ok) [.start])
        [.write [0x09, 0x01], .put 0x02]).endFrame =
      (CommandDecoder.machine.feed .carryOn
        (CommandDecoder.reached (CommandDecoder.zeroed []) (fun _ => true) (fun _ _ => .ok) [.start])
        [.put 0x09, .write [], .put 0x01, .put 0x02]).endFrame :=
  ((feeding_agrees [.start] [.write [0x09, 0x01], .put 0x02]
    [.put 0x09, .write [], .put 0x01, .put 0x02] .stop .carryOn (by decide)).1 _ _ _).2

/-! ### What later bytes are answered -/

theorem CommandDecoder.staysFailed_iff {Ctx : Type} {decoder : CommandDecoder Ctx}
    (aborted : decoder.state = .abort) (later : List (Chunk UInt8)) :
    CommandDecoder.machine.StaysFailed .aborted decoder later ↔ carried later = [] := by
  have answers : ∀ byte, (CommandDecoder.machine.put decoder byte).2 = .ok :=
    fun byte => congrArg Prod.snd (CommandDecoder.put_abort aborted byte)
  have ended : (CommandDecoder.machine.endFrame decoder).2 = .aborted :=
    congrArg Prod.snd (CommandDecoder.end_idle (.inr aborted))
  rw [CommandDecoder.failStop.staysFailed_iff aborted answers ended later]
  constructor
  · intro said
    rcases said with impossible | empty
    · cases impossible
    · exact empty
  · exact Or.inr

theorem EventDecoder.staysFailed {Ctx : Type} {decoder : EventDecoder Ctx}
    (aborted : decoder.state = .abort) (later : List (Chunk UInt8)) :
    EventDecoder.machine.StaysFailed .aborted decoder later := by
  have answers : ∀ byte, (EventDecoder.machine.put decoder byte).2 = .aborted :=
    fun byte => congrArg Prod.snd (EventDecoder.put_abort aborted byte)
  have ended : (EventDecoder.machine.endFrame decoder).2 = .aborted :=
    congrArg Prod.snd (EventDecoder.end_idle (.inr aborted))
  exact (EventDecoder.failStop.staysFailed_iff aborted answers ended later).mpr (.inl rfl)

/-- After a refused chunk a feeder keeps hearing ABORTED from the event decoder, and from the
command decoder unless it feeds another byte. -/
theorem refused_staysFailed_iff (operations : List (Operation UInt8)) (refused : Chunk UInt8)
    (later : List (Chunk UInt8)) :
    (∀ (memory : CommandDecoder (List CommandCall)) (registered : CommandSlot → Bool)
        (answer : CommandAnswer),
      (CommandDecoder.machine.give
        (CommandDecoder.reached memory registered answer operations) refused).2 ≠ .ok →
      (CommandDecoder.machine.StaysFailed .aborted (CommandDecoder.machine.give
          (CommandDecoder.reached memory registered answer operations) refused).1 later ↔
        carried later = [])) ∧
    (∀ (memory : EventDecoder (List EventCall)) (registered : EventSlot → Bool)
        (answer : EventAnswer),
      (EventDecoder.machine.give
        (EventDecoder.reached memory registered answer operations) refused).2 ≠ .ok →
      EventDecoder.machine.StaysFailed .aborted (EventDecoder.machine.give
        (EventDecoder.reached memory registered answer operations) refused).1 later) := by
  constructor
  · intro memory registered answer notOk
    exact CommandDecoder.staysFailed_iff (CommandDecoder.failStop.give_stops notOk) later
  · intro memory registered answer notOk
    exact EventDecoder.staysFailed (EventDecoder.failStop.give_stops notOk) later

/-- An unknown opcode, and in the event decoder a byte after it. -/
theorem refused_staysFailed_unknown :
    CommandDecoder.machine.StaysFailed .aborted (CommandDecoder.machine.give
        (CommandDecoder.reached (CommandDecoder.zeroed []) (fun _ => true) (fun _ _ => .ok) [.start])
        (.put 0x09)).1 [.write []] ∧
      EventDecoder.machine.StaysFailed .aborted (EventDecoder.machine.give
        (EventDecoder.reached (EventDecoder.zeroed []) (fun _ => true) (fun _ _ => .ok) [.start])
        (.put 0x0F)).1 [.put 0x00, .write [0x01]] :=
  ⟨((refused_staysFailed_iff [.start] (.put 0x09) [.write []]).1 _ _ _ (by decide)).mpr rfl,
    (refused_staysFailed_iff [.start] (.put 0x0F) [.put 0x00, .write [0x01]]).2 _ _ _ (by decide)⟩

/-- The command decoder answers a byte after an unknown opcode as if it had taken it. -/
theorem unknown_opcode_then_ok :
    (CommandDecoder.machine.give
        (CommandDecoder.reached (CommandDecoder.zeroed []) (fun _ => true) (fun _ _ => .ok) [.start])
        (.put 0x09)).2 = .unknownOpcode ∧
      ¬ CommandDecoder.machine.StaysFailed .aborted (CommandDecoder.machine.give
        (CommandDecoder.reached (CommandDecoder.zeroed []) (fun _ => true) (fun _ _ => .ok) [.start])
        (.put 0x09)).1 [.put 0x00] := by
  constructor
  · decide
  · intro stays
    have heard := stays.chunks [] (.put 0x00) [] rfl (List.cons_ne_nil _ _)
    revert heard
    decide

end RNodeProtocol
