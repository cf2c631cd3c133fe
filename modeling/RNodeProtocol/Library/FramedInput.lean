/-
Machines that take their input one frame at a time.

A feeder starts a frame, puts its bytes one by one or in chunks, and ends the
frame.  Every put, chunk and end answers with a status; a chunk stops at the
first byte that is not accepted.

Nothing here fixes what a byte or a status is.
-/

import Mathlib.Data.List.Basic

namespace FramedInput

inductive Operation (Byte : Type) where
  | start
  | put (byte : Byte)
  | write (bytes : List Byte)
  | endFrame
  deriving Repr, DecidableEq

/-- The bytes an operation hands over. -/
def Operation.bytes {Byte : Type} : Operation Byte → List Byte
  | .start => []
  | .put byte => [byte]
  | .write bytes => bytes
  | .endFrame => []

structure Machine (State Byte Status : Type) where
  accepted : Status
  start : State → State
  put : State → Byte → State × Status
  endFrame : State → State × Status

variable {State Byte Status : Type}

/-- Feed byte by byte, whatever the statuses say. -/
def Machine.putAll (machine : Machine State Byte Status) (state : State)
    (bytes : List Byte) : State :=
  bytes.foldl (fun current byte => (machine.put current byte).1) state

@[simp] theorem Machine.putAll_nil (machine : Machine State Byte Status) (state : State) :
    machine.putAll state [] = state := rfl

@[simp] theorem Machine.putAll_cons (machine : Machine State Byte Status) (state : State)
    (byte : Byte) (rest : List Byte) :
    machine.putAll state (byte :: rest) = machine.putAll (machine.put state byte).1 rest := rfl

theorem Machine.putAll_append (machine : Machine State Byte Status) (state : State)
    (first second : List Byte) :
    machine.putAll state (first ++ second) =
      machine.putAll (machine.putAll state first) second :=
  List.foldl_append

/-- Every byte is accepted when fed in this order. -/
def Machine.Accepts (machine : Machine State Byte Status) : State → List Byte → Prop
  | _, [] => True
  | state, byte :: rest =>
      (machine.put state byte).2 = machine.accepted ∧
        machine.Accepts (machine.put state byte).1 rest

variable [DecidableEq Status]

/-- Feed a chunk; the rest of it is dropped after the first byte not accepted. -/
def Machine.write (machine : Machine State Byte Status) (state : State) :
    List Byte → State × Status
  | [] => (state, machine.accepted)
  | byte :: rest =>
      if (machine.put state byte).2 ≠ machine.accepted then machine.put state byte
      else machine.write (machine.put state byte).1 rest

def Machine.step (machine : Machine State Byte Status) (state : State) :
    Operation Byte → State × Option Status
  | .start => (machine.start state, none)
  | .put byte => ((machine.put state byte).1, some (machine.put state byte).2)
  | .write bytes => ((machine.write state bytes).1, some (machine.write state bytes).2)
  | .endFrame => ((machine.endFrame state).1, some (machine.endFrame state).2)

def Machine.run (machine : Machine State Byte Status) (state : State)
    (operations : List (Operation Byte)) : State :=
  operations.foldl (fun current operation => (machine.step current operation).1) state

/-- What the operations answer, in order; a start answers nothing. -/
def Machine.statuses (machine : Machine State Byte Status) :
    State → List (Operation Byte) → List (Option Status)
  | _, [] => []
  | state, operation :: rest =>
      (machine.step state operation).2 ::
        machine.statuses (machine.step state operation).1 rest

variable {machine : Machine State Byte Status}

theorem Machine.write_accepted {state : State} {byte : Byte}
    (accepted : (machine.put state byte).2 = machine.accepted) (rest : List Byte) :
    machine.write state (byte :: rest) = machine.write (machine.put state byte).1 rest :=
  if_neg (not_not_intro accepted)

theorem Machine.write_refused {state : State} {byte : Byte}
    (refused : (machine.put state byte).2 ≠ machine.accepted) (rest : List Byte) :
    machine.write state (byte :: rest) = machine.put state byte :=
  if_pos refused

theorem Machine.Accepts.write {state : State} {bytes : List Byte}
    (accepts : machine.Accepts state bytes) :
    machine.write state bytes = (machine.putAll state bytes, machine.accepted) := by
  induction bytes generalizing state with
  | nil => rfl
  | cons byte rest ih => exact (Machine.write_accepted accepts.1 rest).trans (ih accepts.2)

/-! ### Invariants -/

/-- A property of states that every call keeps. -/
structure Machine.Preserves (machine : Machine State Byte Status)
    (invariant : State → Prop) : Prop where
  start : ∀ state, invariant state → invariant (machine.start state)
  put : ∀ state byte, invariant state → invariant (machine.put state byte).1
  endFrame : ∀ state, invariant state → invariant (machine.endFrame state).1

theorem Machine.Preserves.write {invariant : State → Prop}
    (preserves : machine.Preserves invariant) (state : State) (bytes : List Byte)
    (holds : invariant state) : invariant (machine.write state bytes).1 := by
  induction bytes generalizing state with
  | nil => exact holds
  | cons byte rest ih =>
      have next := preserves.put state byte holds
      unfold Machine.write
      split
      · exact next
      · exact ih _ next

omit [DecidableEq Status] in
theorem Machine.Preserves.putAll {invariant : State → Prop}
    (preserves : machine.Preserves invariant) (state : State) (bytes : List Byte)
    (holds : invariant state) : invariant (machine.putAll state bytes) := by
  induction bytes generalizing state with
  | nil => exact holds
  | cons byte rest ih => exact ih _ (preserves.put state byte holds)

theorem Machine.Preserves.step {invariant : State → Prop}
    (preserves : machine.Preserves invariant) (state : State) (operation : Operation Byte)
    (holds : invariant state) : invariant (machine.step state operation).1 := by
  cases operation with
  | start => exact preserves.start state holds
  | put byte => exact preserves.put state byte holds
  | write bytes => exact preserves.write state bytes holds
  | endFrame => exact preserves.endFrame state holds

theorem Machine.Preserves.run {invariant : State → Prop}
    (preserves : machine.Preserves invariant) (state : State)
    (operations : List (Operation Byte)) (holds : invariant state) :
    invariant (machine.run state operations) := by
  induction operations generalizing state with
  | nil => exact holds
  | cons operation rest ih => exact ih _ (preserves.step state operation holds)

/-! ### Machines that fail for the rest of the frame -/

/-- A byte that is not accepted leaves a dead state, which later bytes cannot change. -/
structure Machine.FailStop (machine : Machine State Byte Status) (dead : State → Prop) :
    Prop where
  refused : ∀ state byte, (machine.put state byte).2 ≠ machine.accepted →
    dead (machine.put state byte).1
  inert : ∀ state byte, dead state → (machine.put state byte).1 = state

omit [DecidableEq Status] in
theorem Machine.FailStop.putAll_dead {dead : State → Prop} (failStop : machine.FailStop dead)
    (state : State) (bytes : List Byte) (isDead : dead state) :
    machine.putAll state bytes = state := by
  induction bytes with
  | nil => rfl
  | cons byte rest ih => rw [Machine.putAll_cons, failStop.inert state byte isDead, ih]

/-- Dropping the rest of a refused chunk or feeding it anyway leads to one state. -/
theorem Machine.FailStop.write_fst {dead : State → Prop} (failStop : machine.FailStop dead)
    (state : State) (bytes : List Byte) :
    (machine.write state bytes).1 = machine.putAll state bytes := by
  induction bytes generalizing state with
  | nil => rfl
  | cons byte rest ih =>
      rw [Machine.putAll_cons]
      unfold Machine.write
      split
      · rename_i refused
        exact (failStop.putAll_dead _ rest (failStop.refused state byte refused)).symm
      · exact ih _

/-- Where a frame leads that is started, handed over in one chunk and ended. -/
def Machine.fed (machine : Machine State Byte Status) (state : State) (frame : List Byte) :
    State :=
  (machine.endFrame (machine.write (machine.start state) frame).1).1

theorem Machine.FailStop.fed_eq {dead : State → Prop} (failStop : machine.FailStop dead)
    (state : State) (frame : List Byte) :
    machine.fed state frame =
      (machine.endFrame (machine.putAll (machine.start state) frame)).1 := by
  unfold Machine.fed
  rw [failStop.write_fst]

theorem Machine.run_fed (machine : Machine State Byte Status) (state : State)
    (frame : List Byte) :
    machine.run state [.start, .write frame, .endFrame] = machine.fed state frame := rfl

theorem Machine.FailStop.write_stops {dead : State → Prop} (failStop : machine.FailStop dead)
    (state : State) (bytes : List Byte)
    (refused : (machine.write state bytes).2 ≠ machine.accepted) :
    dead (machine.write state bytes).1 := by
  induction bytes generalizing state with
  | nil => exact absurd rfl refused
  | cons byte rest ih =>
      by_cases accepted : (machine.put state byte).2 = machine.accepted
      · rw [Machine.write_accepted accepted] at refused ⊢
        exact ih _ refused
      · rw [Machine.write_refused accepted]
        exact failStop.refused state byte accepted

/-! ### States that need no start -/

/-- Idle, and a start would change no call and no status of what follows. -/
structure Machine.Rearmed {Calls : Type} (machine : Machine State Byte Status)
    (idle : State → Prop) (calls : State → Calls) (state : State) : Prop where
  idle : idle state
  calls : ∀ next,
    calls (machine.run state next) = calls (machine.run (machine.start state) next)
  statuses : ∀ next,
    machine.statuses state next = machine.statuses (machine.start state) next

/-- Where only a start makes a state idle, it is rearmed exactly when it came out of one. -/
theorem Machine.rearmed_iff {Calls : Type} {idle : State → Prop} {calls : State → Calls}
    {state : State} {refused : Prop} (starts : ∀ before, idle (machine.start before))
    (again : ∀ before, machine.start (machine.start before) = machine.start before)
    (exits : refused ∧ ¬ idle state ∨ ¬ refused ∧ ∃ before, state = machine.start before) :
    machine.Rearmed idle calls state ↔ ¬ refused := by
  rcases exits with ⟨isRefused, notIdle⟩ | ⟨notRefused, before, rfl⟩
  · constructor
    · intro rearmed
      exact absurd rearmed.idle notIdle
    · intro notRefused
      exact absurd isRefused notRefused
  · constructor
    · intro _
      exact notRefused
    · intro _
      refine ⟨starts before, ?_, ?_⟩
      · intro next
        rw [again]
      · intro next
        rw [again]

end FramedInput
