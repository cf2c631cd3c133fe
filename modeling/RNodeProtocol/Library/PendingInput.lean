/-
The input of the frame at hand.

The bytes handed over since the last start or end are the input of the frame a
machine is in.  A relation between its state and this input that every call
keeps is kept by whole runs.  After a byte that is not accepted the rest of a
chunk is dropped, so there the relation has to hold for any bytes that follow.
-/

import RNodeProtocol.Library.FramedInput

namespace FramedInput

variable {State Byte Status : Type}

/-- The input of the frame after an operation, from the input before it. -/
def Operation.carry (input : List Byte) : Operation Byte → List Byte
  | .start => []
  | .put byte => input ++ [byte]
  | .write bytes => input ++ bytes
  | .endFrame => []

/-- The bytes handed over since the last start or end. -/
def pendingInput (operations : List (Operation Byte)) : List Byte :=
  operations.foldl Operation.carry []

structure Machine.Tracks (machine : Machine State Byte Status)
    (tracks : State → List Byte → Prop) : Prop where
  start : ∀ state input, tracks state input → tracks (machine.start state) []
  put : ∀ state input byte, tracks state input →
    tracks (machine.put state byte).1 (input ++ [byte])
  refused : ∀ state input byte rest, tracks state input →
    (machine.put state byte).2 ≠ machine.accepted →
      tracks (machine.put state byte).1 (input ++ byte :: rest)
  endFrame : ∀ state input, tracks state input → tracks (machine.endFrame state).1 []

variable [DecidableEq Status] {machine : Machine State Byte Status}
  {tracks : State → List Byte → Prop}

theorem Machine.Tracks.write (keeps : machine.Tracks tracks) {state : State}
    {input : List Byte} (tracked : tracks state input) (bytes : List Byte) :
    tracks (machine.write state bytes).1 (input ++ bytes) := by
  induction bytes generalizing state input with
  | nil =>
      rw [List.append_nil]
      exact tracked
  | cons byte rest ih =>
      by_cases accepted : (machine.put state byte).2 = machine.accepted
      · have next := ih (keeps.put state input byte tracked)
        rw [List.append_assoc, List.singleton_append] at next
        rw [Machine.write_accepted accepted]
        exact next
      · rw [Machine.write_refused accepted]
        exact keeps.refused state input byte rest tracked accepted

theorem Machine.Tracks.step (keeps : machine.Tracks tracks) {state : State} {input : List Byte}
    (tracked : tracks state input) (operation : Operation Byte) :
    tracks (machine.step state operation).1 (operation.carry input) := by
  cases operation with
  | start => exact keeps.start state input tracked
  | put byte => exact keeps.put state input byte tracked
  | write bytes => exact keeps.write tracked bytes
  | endFrame => exact keeps.endFrame state input tracked

theorem Machine.Tracks.run (keeps : machine.Tracks tracks) {state : State} {input : List Byte}
    (tracked : tracks state input) (operations : List (Operation Byte)) :
    tracks (machine.run state operations) (operations.foldl Operation.carry input) := by
  induction operations generalizing state input with
  | nil => exact tracked
  | cons operation rest ih => exact ih (keeps.step tracked operation)

end FramedInput
