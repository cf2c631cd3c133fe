/-
What every operation of a run answers, and the calls it makes.

A machine whose state carries a log of calls has a ledger: one entry for each
operation of a run, with its answer and the calls it added to the log.
-/

import RNodeProtocol.Library.FramedInput

namespace FramedInput

structure Entry (Status Call : Type) where
  answer : Option Status
  calls : List Call
  deriving Repr, DecidableEq

/-- Within one frame: puts and writes, and at most one end, which comes last. -/
inductive OneFrame {Byte : Type} : List (Operation Byte) → Prop where
  | unfinished : OneFrame []
  | finished : OneFrame [.endFrame]
  | put (byte : Byte) {rest : List (Operation Byte)} (within : OneFrame rest) :
      OneFrame (.put byte :: rest)
  | write (bytes : List Byte) {rest : List (Operation Byte)} (within : OneFrame rest) :
      OneFrame (.write bytes :: rest)

variable {State Byte Status Call : Type} [DecidableEq Status]
  {machine : Machine State Byte Status} {log : State → List Call}

def Machine.entry (machine : Machine State Byte Status) (log : State → List Call)
    (state : State) (operation : Operation Byte) : Entry Status Call :=
  { answer := (machine.step state operation).2
    calls := (log (machine.step state operation).1).drop (log state).length }

def Machine.ledger (machine : Machine State Byte Status) (log : State → List Call) :
    State → List (Operation Byte) → List (Entry Status Call)
  | _, [] => []
  | state, operation :: rest =>
      machine.entry log state operation ::
        machine.ledger log (machine.step state operation).1 rest

theorem Machine.entry_calls {state : State} {operation : Operation Byte} {calls : List Call}
    (added : log (machine.step state operation).1 = log state ++ calls) :
    (machine.entry log state operation).calls = calls := by
  unfold Machine.entry
  rw [added]
  exact List.drop_left

/-- One step of a ledger, from the state it leads to and the calls it makes. -/
theorem Machine.ledger_step {state next : State} {operation : Operation Byte}
    {answer : Option Status} {calls : List Call}
    (stepped : machine.step state operation = (next, answer))
    (added : log next = log state ++ calls) (rest : List (Operation Byte)) :
    machine.ledger log state (operation :: rest) =
      { answer := answer, calls := calls } :: machine.ledger log next rest := by
  have made : (machine.entry log state operation).calls = calls := by
    apply Machine.entry_calls
    rw [stepped]
    exact added
  have answered : (machine.entry log state operation).answer = answer := by
    unfold Machine.entry
    rw [stepped]
  change machine.entry log state operation ::
    machine.ledger log (machine.step state operation).1 rest = _
  rw [stepped, ← made, ← answered]

/-- The bytes of a frame one by one, then its end. -/
def frameOperations (bytes : List Byte) : List (Operation Byte) :=
  bytes.map .put ++ [.endFrame]

end FramedInput
