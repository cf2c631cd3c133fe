/-
Two machines in lockstep.

The machines take the same operations and may differ in their states.  A
relation that every call keeps, and under which every call answers alike, is
kept by whole runs; when the relation also ties the logs together, so are the
ledgers.
-/

import RNodeProtocol.Library.CallLedger

namespace FramedInput

variable {First Second Byte Status Call : Type}

structure Machine.Lockstep (first : Machine First Byte Status)
    (second : Machine Second Byte Status) (related : First → Second → Prop) : Prop where
  accepted : first.accepted = second.accepted
  start : ∀ state twin, related state twin → related (first.start state) (second.start twin)
  put : ∀ state twin byte, related state twin →
    related (first.put state byte).1 (second.put twin byte).1 ∧
      (first.put state byte).2 = (second.put twin byte).2
  endFrame : ∀ state twin, related state twin →
    related (first.endFrame state).1 (second.endFrame twin).1 ∧
      (first.endFrame state).2 = (second.endFrame twin).2

variable [DecidableEq Status] {first : Machine First Byte Status}
  {second : Machine Second Byte Status} {related : First → Second → Prop}

theorem Machine.Lockstep.write (lockstep : first.Lockstep second related) {state : First}
    {twin : Second} (together : related state twin) (bytes : List Byte) :
    related (first.write state bytes).1 (second.write twin bytes).1 ∧
      (first.write state bytes).2 = (second.write twin bytes).2 := by
  induction bytes generalizing state twin with
  | nil => exact ⟨together, lockstep.accepted⟩
  | cons byte rest ih =>
      obtain ⟨next, same⟩ := lockstep.put state twin byte together
      by_cases accepted : (first.put state byte).2 = first.accepted
      · have twinAccepted : (second.put twin byte).2 = second.accepted := by
          rw [← same, accepted, lockstep.accepted]
        rw [Machine.write_accepted accepted, Machine.write_accepted twinAccepted]
        exact ih next
      · have refused : (second.put twin byte).2 ≠ second.accepted := by
          rw [← same, ← lockstep.accepted]
          exact accepted
        rw [Machine.write_refused accepted, Machine.write_refused refused]
        exact ⟨next, same⟩

theorem Machine.Lockstep.step (lockstep : first.Lockstep second related) {state : First}
    {twin : Second} (together : related state twin) (operation : Operation Byte) :
    related (first.step state operation).1 (second.step twin operation).1 ∧
      (first.step state operation).2 = (second.step twin operation).2 := by
  cases operation with
  | start => exact ⟨lockstep.start state twin together, rfl⟩
  | put byte =>
      obtain ⟨next, same⟩ := lockstep.put state twin byte together
      exact ⟨next, congrArg some same⟩
  | write bytes =>
      obtain ⟨next, same⟩ := lockstep.write together bytes
      exact ⟨next, congrArg some same⟩
  | endFrame =>
      obtain ⟨next, same⟩ := lockstep.endFrame state twin together
      exact ⟨next, congrArg some same⟩

theorem Machine.Lockstep.run (lockstep : first.Lockstep second related) {state : First}
    {twin : Second} (together : related state twin) (operations : List (Operation Byte)) :
    related (first.run state operations) (second.run twin operations) := by
  induction operations generalizing state twin with
  | nil => exact together
  | cons operation rest ih => exact ih (lockstep.step together operation).1

theorem Machine.Lockstep.statuses (lockstep : first.Lockstep second related) {state : First}
    {twin : Second} (together : related state twin) (operations : List (Operation Byte)) :
    first.statuses state operations = second.statuses twin operations := by
  induction operations generalizing state twin with
  | nil => rfl
  | cons operation rest ih =>
      obtain ⟨next, same⟩ := lockstep.step together operation
      unfold Machine.statuses
      rw [same, ih next]

/-- Where one log is the other after a fixed past, every operation makes the same calls. -/
theorem Machine.Lockstep.ledger (lockstep : first.Lockstep second related)
    {log : First → List Call} {twinLog : Second → List Call} {past : List Call}
    (shifted : ∀ state twin, related state twin → log state = past ++ twinLog twin)
    {state : First} {twin : Second} (together : related state twin)
    (operations : List (Operation Byte)) :
    first.ledger log state operations = second.ledger twinLog twin operations := by
  induction operations generalizing state twin with
  | nil => rfl
  | cons operation rest ih =>
      obtain ⟨next, same⟩ := lockstep.step together operation
      have entries : first.entry log state operation = second.entry twinLog twin operation := by
        unfold Machine.entry
        rw [same, shifted _ _ next, shifted _ _ together, List.length_append,
          List.drop_length_add_append]
      unfold Machine.ledger
      rw [entries, ih next]

end FramedInput
