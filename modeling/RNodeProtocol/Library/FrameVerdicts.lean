/-
One verdict a frame.

A machine reports a frame whole, byte by byte as a stream, or as an error.  A
run is cut before each start and after each end.  In every piece an error is the
last call, and a frame reported whole is the only one, made by the end that
closes the piece.
-/

import RNodeProtocol.Library.CallLedger
import Mathlib.Data.List.Count

namespace FramedInput

inductive CallKind where
  | whole
  | stream
  | error
  deriving Repr, DecidableEq

/-- An operation of a run beside what it answered and called. -/
structure Turn (Byte Status Call : Type) where
  operation : Operation Byte
  entry : Entry Status Call

variable {State Byte Status Call : Type}

/-- Cut before each start and after each end; the first list is the piece under way. -/
def segments : List (Turn Byte Status Call) → List (Turn Byte Status Call) →
    List (List (Turn Byte Status Call))
  | current, [] => [current]
  | current, turn :: rest =>
      match turn.operation with
      | .start => current :: segments [turn] rest
      | .put _ => segments (current ++ [turn]) rest
      | .write _ => segments (current ++ [turn]) rest
      | .endFrame => (current ++ [turn]) :: segments [] rest

def heardIn (segment : List (Turn Byte Status Call)) : List Call :=
  segment.flatMap fun turn => turn.entry.calls

theorem heardIn_snoc (segment : List (Turn Byte Status Call)) (turn : Turn Byte Status Call) :
    heardIn (segment ++ [turn]) = heardIn segment ++ turn.entry.calls := by
  unfold heardIn
  rw [List.flatMap_append, List.flatMap_singleton]

/-- An error ends what is heard, and a whole frame is heard alone and from the closing end. -/
structure OneVerdict (kind : Call → CallKind) (segment : List (Turn Byte Status Call)) :
    Prop where
  oneError : (heardIn segment).countP (fun call => kind call = .error) ≤ 1
  errorLast : ∀ before error after, heardIn segment = before ++ error :: after →
    kind error = .error → ∀ call ∈ after, kind call ≠ .whole ∧ kind call ≠ .stream
  oneWhole : (heardIn segment).countP (fun call => kind call = .whole) ≤ 1
  wholeCloses : ∀ before turn after, segment = before ++ turn :: after →
    (∃ call ∈ turn.entry.calls, kind call = .whole) → turn.operation = .endFrame ∧ after = []
  wholeAlone : ∀ call ∈ heardIn segment, kind call = .whole →
    ∀ other ∈ heardIn segment, kind other ≠ .error ∧ kind other ≠ .stream

/-! ### Calls of a piece -/

/-- Stream calls, then at most one error. -/
structure Told (kind : Call → CallKind) (calls : List Call) : Prop where
  split : ∃ streams errors, calls = streams ++ errors ∧
    (∀ call ∈ streams, kind call = .stream) ∧ errors.length ≤ 1 ∧
      ∀ call ∈ errors, kind call = .error

variable {kind : Call → CallKind}

theorem Told.no_whole {calls : List Call} (told : Told kind calls) :
    ∀ call ∈ calls, kind call ≠ .whole := by
  obtain ⟨streams, errors, rfl, areStreams, _, areErrors⟩ := told.split
  intro call member
  rcases List.mem_append.mp member with early | late
  · rw [areStreams call early]
    nofun
  · rw [areErrors call late]
    nofun

theorem Told.error_last {before after : List Call} {error : Call}
    (told : Told kind (before ++ error :: after)) (isError : kind error = .error) :
    after = [] := by
  obtain ⟨streams, errors, same, areStreams, short, _⟩ := told.split
  rcases List.append_eq_append_iff.mp same with ⟨between, rfl, rest⟩ | ⟨between, _, rest⟩
  · cases between with
    | nil =>
        have length := congrArg List.length rest
        rw [List.nil_append, List.length_cons] at length
        apply List.eq_nil_of_length_eq_zero
        omega
    | cons call others =>
        rw [List.cons_append] at rest
        cases (List.cons.inj rest).1
        have stream := areStreams error (List.mem_append_right before List.mem_cons_self)
        rw [isError] at stream
        cases stream
  · have length := congrArg List.length rest
    rw [List.length_append, List.length_cons] at length
    apply List.eq_nil_of_length_eq_zero
    omega

theorem Told.one_error {calls : List Call} (told : Told kind calls) :
    calls.countP (fun call => kind call = .error) ≤ 1 := by
  obtain ⟨streams, errors, rfl, areStreams, short, _⟩ := told.split
  have none : streams.countP (fun call => kind call = .error) = 0 := by
    apply List.countP_eq_zero.mpr
    intro call member
    rw [areStreams call member]
    decide
  have few : errors.countP (fun call => kind call = .error) ≤ errors.length :=
    List.countP_le_length
  rw [List.countP_append, none, Nat.zero_add]
  exact Nat.le_trans few short

theorem Told.verdict {segment : List (Turn Byte Status Call)}
    (told : Told kind (heardIn segment)) : OneVerdict kind segment where
  oneError := told.one_error
  errorLast := by
    intro before error after same isError call member
    rw [same] at told
    rw [told.error_last isError] at member
    exact absurd member List.not_mem_nil
  oneWhole := by
    have none : (heardIn segment).countP (fun call => kind call = .whole) = 0 := by
      apply List.countP_eq_zero.mpr
      intro call member isWhole
      exact told.no_whole call member (of_decide_eq_true isWhole)
    omega
  wholeCloses := by
    intro before turn after same made
    obtain ⟨call, member, isWhole⟩ := made
    have heard : call ∈ heardIn segment := by
      rw [same]
      exact List.mem_flatMap.mpr ⟨turn, List.mem_append_right before List.mem_cons_self, member⟩
    exact absurd isWhole (told.no_whole call heard)
  wholeAlone := by
    intro call member isWhole
    exact absurd isWhole (told.no_whole call member)

/-- A silent piece closed by an end that reports a frame whole. -/
theorem OneVerdict.whole {segment : List (Turn Byte Status Call)} {turn : Turn Byte Status Call}
    {call : Call} (silent : heardIn segment = []) (closes : turn.operation = .endFrame)
    (calls : turn.entry.calls = [call]) (isWhole : kind call = .whole) :
    OneVerdict kind (segment ++ [turn]) := by
  have heard : heardIn (segment ++ [turn]) = [call] := by
    rw [heardIn_snoc, silent, calls, List.nil_append]
  have only : ∀ other ∈ heardIn (segment ++ [turn]), kind other = .whole := by
    intro other member
    rw [heard] at member
    rw [List.mem_singleton.mp member]
    exact isWhole
  refine ⟨?_, ?_, ?_, ?_, ?_⟩
  · rw [heard, List.countP_singleton, isWhole]
    decide
  · intro before error after same isError
    have member : error ∈ heardIn (segment ++ [turn]) := by
      rw [same]
      exact List.mem_append_right before List.mem_cons_self
    rw [only error member] at isError
    cases isError
  · rw [heard, List.countP_singleton]
    split <;> omega
  · intro before other after same made
    rcases List.eq_nil_or_concat after with rfl | ⟨front, last, rfl⟩
    · obtain ⟨_, here⟩ := List.append_inj' same rfl
      cases here
      exact ⟨closes, rfl⟩
    · obtain ⟨made, member, isWhole⟩ := made
      have split : segment ++ [turn] = (before ++ other :: front) ++ [last] := by
        rw [same, List.append_assoc, List.cons_append, List.concat_eq_append]
      obtain ⟨earlier, _⟩ := List.append_inj' split rfl
      have early : made ∈ heardIn segment := by
        rw [earlier]
        exact List.mem_flatMap.mpr ⟨other, List.mem_append_right before List.mem_cons_self, member⟩
      rw [silent] at early
      exact absurd early List.not_mem_nil
  · intro _ _ _ other member
    rw [only other member]
    exact ⟨nofun, nofun⟩

/-! ### Machines that give one verdict a frame -/

/-- What the state of a machine tells about the piece under way. -/
inductive Phase where
  | quiet
  | streaming
  | dead
  deriving Repr, DecidableEq

/-- What has been heard of a piece whose end is still to come. -/
inductive Heard (kind : Call → CallKind) : Phase → List Call → Prop where
  | quiet : Heard kind .quiet []
  | streaming (calls : List Call) (streams : ∀ call ∈ calls, kind call = .stream) :
      Heard kind .streaming calls
  | dead (calls : List Call) (told : Told kind calls) : Heard kind .dead calls

theorem Told.streams {calls : List Call} (streams : ∀ call ∈ calls, kind call = .stream) :
    Told kind calls :=
  ⟨calls, [], (List.append_nil calls).symm, streams, Nat.zero_le 1,
    fun _ member => absurd member List.not_mem_nil⟩

theorem Told.report {calls : List Call} {error : Call}
    (streams : ∀ call ∈ calls, kind call = .stream) (isError : kind error = .error) :
    Told kind (calls ++ [error]) := by
  refine ⟨calls, [error], rfl, streams, Nat.le_refl 1, ?_⟩
  intro call member
  rw [List.mem_singleton.mp member]
  exact isError

theorem Heard.told {phase : Phase} {calls : List Call} (heard : Heard kind phase calls) :
    Told kind calls := by
  cases heard with
  | quiet => exact Told.streams fun _ member => absurd member List.not_mem_nil
  | streaming _ streams => exact Told.streams streams
  | dead _ told => exact told

/-- What an end makes of the piece it closes. -/
inductive Closing (kind : Call → CallKind) (heard calls : List Call) : Prop where
  | told (told : Told kind (heard ++ calls))
  | whole (silent : heard = []) (call : Call) (made : calls = [call])
      (isWhole : kind call = .whole)

variable [DecidableEq Status] {machine : Machine State Byte Status} {log : State → List Call}
  {phase : State → Phase} {invariant : State → Prop}

structure Machine.Judges (machine : Machine State Byte Status) (log : State → List Call)
    (kind : Call → CallKind) (phase : State → Phase) (invariant : State → Prop) : Prop where
  preserves : machine.Preserves invariant
  start : ∀ state, invariant state →
    log (machine.start state) = log state ∧ phase (machine.start state) = .quiet
  put : ∀ state byte, invariant state → ∀ heard, Heard kind (phase state) heard →
    ∃ calls, log (machine.put state byte).1 = log state ++ calls ∧
      Heard kind (phase (machine.put state byte).1) (heard ++ calls)
  endFrame : ∀ state, invariant state → ∀ heard, Heard kind (phase state) heard →
    ∃ calls, log (machine.endFrame state).1 = log state ++ calls ∧
      Closing kind heard calls ∧ phase (machine.endFrame state).1 ≠ .streaming

theorem Machine.Judges.write (judges : machine.Judges log kind phase invariant) {state : State}
    (holds : invariant state) (bytes : List Byte) {heard : List Call}
    (sofar : Heard kind (phase state) heard) :
    ∃ calls, log (machine.write state bytes).1 = log state ++ calls ∧
      Heard kind (phase (machine.write state bytes).1) (heard ++ calls) := by
  induction bytes generalizing state heard with
  | nil =>
      refine ⟨[], (List.append_nil _).symm, ?_⟩
      rw [List.append_nil]
      exact sofar
  | cons byte rest ih =>
      obtain ⟨calls, added, next⟩ := judges.put state byte holds heard sofar
      by_cases accepted : (machine.put state byte).2 = machine.accepted
      · obtain ⟨later, addedLater, final⟩ := ih (judges.preserves.put state byte holds) next
        rw [Machine.write_accepted accepted]
        refine ⟨calls ++ later, ?_, ?_⟩
        · rw [addedLater, added, List.append_assoc]
        · rw [← List.append_assoc]
          exact final
      · rw [Machine.write_refused accepted]
        exact ⟨calls, added, next⟩

theorem Heard.nothing {phase : Phase} (stopped : phase ≠ .streaming) : Heard kind phase [] := by
  cases phase with
  | quiet => exact .quiet
  | streaming => exact absurd rfl stopped
  | dead => exact .dead [] (Told.streams fun _ member => absurd member List.not_mem_nil)

def Machine.history (machine : Machine State Byte Status) (log : State → List Call)
    (state : State) (operations : List (Operation Byte)) : List (Turn Byte Status Call) :=
  List.zipWith Turn.mk operations (machine.ledger log state operations)

theorem Machine.Judges.segments (judges : machine.Judges log kind phase invariant)
    {state : State} (holds : invariant state) {current : List (Turn Byte Status Call)}
    (sofar : Heard kind (phase state) (heardIn current)) (operations : List (Operation Byte)) :
    ∀ segment ∈ segments current (machine.history log state operations),
      OneVerdict kind segment := by
  induction operations generalizing state current with
  | nil =>
      intro segment member
      rw [List.mem_singleton.mp member]
      exact sofar.told.verdict
  | cons operation rest ih =>
      have kept := judges.preserves.step state operation holds
      have turned : ∀ calls, log (machine.step state operation).1 = log state ++ calls →
          heardIn (current ++ [⟨operation, machine.entry log state operation⟩]) =
            heardIn current ++ calls := by
        intro calls added
        rw [heardIn_snoc, Machine.entry_calls added]
      cases operation with
      | start =>
          obtain ⟨same, quiet⟩ := judges.start state holds
          have silent : heardIn [(⟨.start, machine.entry log state .start⟩ :
              Turn Byte Status Call)] = [] := by
            unfold heardIn
            rw [List.flatMap_singleton]
            apply Machine.entry_calls
            rw [List.append_nil]
            exact same
          have stopped : phase (machine.start state) ≠ .streaming := by
            rw [quiet]
            nofun
          intro segment member
          rcases List.mem_cons.mp member with rfl | later
          · exact sofar.told.verdict
          · refine ih kept ?_ segment later
            rw [silent]
            exact Heard.nothing stopped
      | put byte =>
          obtain ⟨calls, added, next⟩ := judges.put state byte holds _ sofar
          rw [← turned calls added] at next
          exact ih kept next
      | write bytes =>
          obtain ⟨calls, added, next⟩ := judges.write holds bytes sofar
          rw [← turned calls added] at next
          exact ih kept next
      | endFrame =>
          obtain ⟨calls, added, closing, stopped⟩ := judges.endFrame state holds _ sofar
          intro segment member
          rcases List.mem_cons.mp member with rfl | later
          · cases closing with
            | told told =>
                rw [← turned calls added] at told
                exact told.verdict
            | whole silent call made isWhole =>
                refine OneVerdict.whole silent rfl ?_ isWhole
                rw [← made]
                exact Machine.entry_calls added
          · exact ih kept (Heard.nothing stopped) segment later

end FramedInput
