/-
Feeding a frame in chunks.

A feeder hands over the bytes of a frame in single puts and in writes, and
either gives up at the first chunk that is not accepted or carries on.  Where a
machine that has refused a byte ignores all later bytes, neither the chunks nor
the policy matters to the state it is left in.
-/

import RNodeProtocol.Library.FramedInput

namespace FramedInput

inductive Chunk (Byte : Type) where
  | put (byte : Byte)
  | write (bytes : List Byte)
  deriving Repr, DecidableEq

def Chunk.bytes {Byte : Type} : Chunk Byte → List Byte
  | .put byte => [byte]
  | .write bytes => bytes

def Chunk.operation {Byte : Type} : Chunk Byte → Operation Byte
  | .put byte => .put byte
  | .write bytes => .write bytes

/-- What all chunks hand over together. -/
def carried {Byte : Type} (chunks : List (Chunk Byte)) : List Byte :=
  chunks.flatMap Chunk.bytes

inductive Policy where
  | stop
  | carryOn
  deriving Repr, DecidableEq

variable {State Byte Status : Type} [DecidableEq Status]

def Machine.give (machine : Machine State Byte Status) (state : State) :
    Chunk Byte → State × Status
  | .put byte => machine.put state byte
  | .write bytes => machine.write state bytes

/-- Hand over the chunks; under `stop` those after the first one not accepted are kept back. -/
def Machine.feed (machine : Machine State Byte Status) (policy : Policy) :
    State → List (Chunk Byte) → State
  | state, [] => state
  | state, chunk :: rest =>
      if policy = .stop ∧ (machine.give state chunk).2 ≠ machine.accepted then
        (machine.give state chunk).1
      else machine.feed policy (machine.give state chunk).1 rest

variable {machine : Machine State Byte Status} {dead : State → Prop}

theorem Machine.step_operation (machine : Machine State Byte Status) (state : State)
    (chunk : Chunk Byte) :
    machine.step state chunk.operation =
      ((machine.give state chunk).1, some (machine.give state chunk).2) := by
  cases chunk <;> rfl

/-- A feeder that carries on runs one operation for every chunk. -/
theorem Machine.feed_carryOn (machine : Machine State Byte Status) (state : State)
    (chunks : List (Chunk Byte)) :
    machine.feed .carryOn state chunks = machine.run state (chunks.map Chunk.operation) := by
  induction chunks generalizing state with
  | nil => rfl
  | cons chunk rest ih =>
      change machine.feed .carryOn _ rest =
        machine.run (machine.step state chunk.operation).1 (rest.map Chunk.operation)
      rw [machine.step_operation, ih]

/-! ### The state a feeding leads to -/

theorem Machine.FailStop.give_fst (failStop : machine.FailStop dead) (state : State)
    (chunk : Chunk Byte) :
    (machine.give state chunk).1 = machine.putAll state chunk.bytes := by
  cases chunk with
  | put byte => rfl
  | write bytes => exact failStop.write_fst state bytes

theorem Machine.FailStop.give_stops (failStop : machine.FailStop dead) {state : State}
    {chunk : Chunk Byte} (refused : (machine.give state chunk).2 ≠ machine.accepted) :
    dead (machine.give state chunk).1 := by
  cases chunk with
  | put byte => exact failStop.refused state byte refused
  | write bytes => exact failStop.write_stops state bytes refused

/-- Only the bytes handed over matter, neither the chunks nor the policy. -/
theorem Machine.FailStop.feed_eq (failStop : machine.FailStop dead) (policy : Policy)
    (state : State) (chunks : List (Chunk Byte)) :
    machine.feed policy state chunks = machine.putAll state (carried chunks) := by
  induction chunks generalizing state with
  | nil => rfl
  | cons chunk rest ih =>
      have bytes : machine.putAll state (carried (chunk :: rest)) =
          machine.putAll (machine.give state chunk).1 (carried rest) := by
        rw [failStop.give_fst]
        exact machine.putAll_append state chunk.bytes (carried rest)
      rw [bytes]
      unfold Machine.feed
      split
      · rename_i stopped
        exact (failStop.putAll_dead _ _ (failStop.give_stops stopped.2)).symm
      · exact ih _

/-! ### What a feeder hears once a chunk was refused -/

/-- Every later chunk with a byte in it is answered alike, and so is the end of the frame. -/
structure Machine.StaysFailed (machine : Machine State Byte Status) (failed : Status)
    (state : State) (later : List (Chunk Byte)) : Prop where
  chunks : ∀ earlier chunk rest, later = earlier ++ chunk :: rest → chunk.bytes ≠ [] →
    (machine.give (machine.run state (earlier.map Chunk.operation)) chunk).2 = failed
  ended : (machine.endFrame (machine.run state (later.map Chunk.operation))).2 = failed

theorem Machine.FailStop.run_dead (failStop : machine.FailStop dead) {state : State}
    (isDead : dead state) (chunks : List (Chunk Byte)) :
    machine.run state (chunks.map Chunk.operation) = state := by
  rw [← machine.feed_carryOn, failStop.feed_eq]
  exact failStop.putAll_dead state _ isDead

theorem Machine.FailStop.write_dead (failStop : machine.FailStop dead) {state : State}
    (isDead : dead state) {answer : Status}
    (answers : ∀ byte, (machine.put state byte).2 = answer) {bytes : List Byte}
    (filled : bytes ≠ []) : (machine.write state bytes).2 = answer := by
  induction bytes with
  | nil => exact absurd rfl filled
  | cons byte rest ih =>
      by_cases accepted : (machine.put state byte).2 = machine.accepted
      · rw [Machine.write_accepted accepted, failStop.inert state byte isDead]
        cases rest with
        | nil => exact accepted.symm.trans (answers byte)
        | cons next others => exact ih (List.cons_ne_nil next others)
      · rw [Machine.write_refused accepted]
        exact answers byte

theorem Machine.FailStop.give_dead (failStop : machine.FailStop dead) {state : State}
    (isDead : dead state) {answer : Status}
    (answers : ∀ byte, (machine.put state byte).2 = answer) {chunk : Chunk Byte}
    (filled : chunk.bytes ≠ []) : (machine.give state chunk).2 = answer := by
  cases chunk with
  | put byte => exact answers byte
  | write bytes => exact failStop.write_dead isDead answers filled

/-- A dead machine keeps saying so exactly when its puts do, or when nothing more is fed. -/
theorem Machine.FailStop.staysFailed_iff (failStop : machine.FailStop dead) {state : State}
    (isDead : dead state) {answer failed : Status}
    (answers : ∀ byte, (machine.put state byte).2 = answer)
    (ended : (machine.endFrame state).2 = failed) (later : List (Chunk Byte)) :
    machine.StaysFailed failed state later ↔ answer = failed ∨ carried later = [] := by
  constructor
  · intro stays
    by_cases silent : ∀ chunk ∈ later, chunk.bytes = []
    · exact .inr (List.flatMap_eq_nil_iff.mpr silent)
    left
    push Not at silent
    obtain ⟨chunk, member, filled⟩ := silent
    obtain ⟨earlier, rest, split⟩ := List.append_of_mem member
    have heard := stays.chunks earlier chunk rest split filled
    rw [failStop.run_dead isDead] at heard
    exact (failStop.give_dead isDead answers filled).symm.trans heard
  · intro said
    constructor
    · intro earlier chunk rest split filled
      rw [failStop.run_dead isDead]
      rcases said with same | empty
      · exact (failStop.give_dead isDead answers filled).trans same
      · have member : chunk ∈ later := by
          rw [split]
          exact List.mem_append_right earlier List.mem_cons_self
        exact absurd (List.flatMap_eq_nil_iff.mp empty chunk member) filled
    · rw [failStop.run_dead isDead]
      exact ended

end FramedInput
