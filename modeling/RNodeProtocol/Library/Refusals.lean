/-
Calls the environment may refuse.

A refusal is honoured when the operation that made the call answers that it was
aborted, no further call of that kind follows in the frame, and the reports of
the frame are the notices of that one refusal.  A machine that takes every
refusal to a dead state honours all of them, and one that ignores a refusal
while it goes on cannot make up for it.
-/

import RNodeProtocol.Library.CallLedger

namespace FramedInput

section Terms

variable {Status Call : Type}

/-- Which calls may be refused, which report, and what one refusal has to bring about. -/
structure RefusalTerms (Status Call : Type) where
  stream : Call → Prop
  refusal : Call → Prop
  report : Call → Bool
  aborted : Status
  notified : List Call → Prop
  refusal_stream : ∀ call, refusal call → stream call
  stream_report : ∀ call, stream call → report call = false

variable {terms : RefusalTerms Status Call}

/-- After a refusal the operation is aborted, the stream is left alone, and it is noticed once. -/
def RefusalTerms.Honoured (terms : RefusalTerms Status Call)
    (entries : List (Entry Status Call)) : Prop :=
  ∀ before entry after, entries = before ++ entry :: after →
    ∀ earlier refusal later, entry.calls = earlier ++ refusal :: later →
      terms.refusal refusal →
        entry.answer = some terms.aborted ∧
          (∀ call ∈ later ++ after.flatMap Entry.calls, ¬ terms.stream call) ∧
          terms.notified ((entries.flatMap Entry.calls).filter terms.report)

def RefusalTerms.Quiet (terms : RefusalTerms Status Call) (calls : List Call) : Prop :=
  ∀ call ∈ calls, ¬ terms.refusal call ∧ terms.report call = false

/-- One refusal after quiet calls, and then only the notices of it. -/
inductive RefusalTerms.Closes (terms : RefusalTerms Status Call) : List Call → Prop where
  | intro (earlier : List Call) (refusal : Call) (notices : List Call)
      (quiet : terms.Quiet earlier) (refused : terms.refusal refusal)
      (reports : ∀ call ∈ notices, ¬ terms.stream call ∧ terms.report call = true)
      (notified : terms.notified notices) :
      terms.Closes (earlier ++ refusal :: notices)

theorem RefusalTerms.Quiet.nil : terms.Quiet [] :=
  fun _ member => absurd member List.not_mem_nil

theorem RefusalTerms.Quiet.granted {calls : List Call} (quiet : terms.Quiet calls) :
    ∀ call ∈ calls, ¬ terms.refusal call :=
  fun call member => (quiet call member).1

theorem RefusalTerms.Quiet.append {first second : List Call} (quiet : terms.Quiet first)
    (later : terms.Quiet second) : terms.Quiet (first ++ second) :=
  fun call member => (List.mem_append.mp member).elim (quiet call) (later call)

theorem RefusalTerms.Quiet.filter_report {calls : List Call} (quiet : terms.Quiet calls) :
    calls.filter terms.report = [] :=
  List.filter_eq_nil_iff.mpr fun call member reported => by
    rw [(quiet call member).2] at reported
    cases reported

theorem RefusalTerms.Closes.prepend {first second : List Call} (closes : terms.Closes second)
    (quiet : terms.Quiet first) : terms.Closes (first ++ second) := by
  obtain ⟨earlier, refusal, notices, quietEarlier, refused, reports, notified⟩ := closes
  rw [← List.append_assoc]
  exact .intro _ refusal notices (quiet.append quietEarlier) refused reports notified

theorem RefusalTerms.Closes.filter_report {calls : List Call} (closes : terms.Closes calls) :
    terms.notified (calls.filter terms.report) := by
  obtain ⟨earlier, refusal, notices, quiet, refused, reports, notified⟩ := closes
  have silent := terms.stream_report refusal (terms.refusal_stream refusal refused)
  rw [List.filter_append, quiet.filter_report, List.nil_append,
    List.filter_cons_of_neg (by rw [silent]; decide),
    List.filter_eq_self.mpr fun call member => (reports call member).2]
  exact notified

/-- Nothing that may be refused follows the refusal. -/
theorem RefusalTerms.Closes.last {calls earlier later : List Call} {refusal : Call}
    (closes : terms.Closes calls) (split : calls = earlier ++ refusal :: later)
    (refused : terms.refusal refusal) : ∀ call ∈ later, ¬ terms.stream call := by
  obtain ⟨prior, first, notices, quiet, _, reports, _⟩ := closes
  have notBefore : refusal ∉ prior := fun member => (quiet refusal member).1 refused
  have notAfter : refusal ∉ notices := fun member =>
    (reports refusal member).1 (terms.refusal_stream refusal refused)
  obtain ⟨_, _, rfl⟩ := (List.append_cons_inj_of_notMem notBefore notAfter).mp split
  exact fun call member => (reports call member).1

/-- How the ledger of a frame looks when refusals are honoured. -/
inductive RefusalTerms.Course (terms : RefusalTerms Status Call) :
    List (Entry Status Call) → Prop where
  | calm (entries : List (Entry Status Call))
      (granted : ∀ entry ∈ entries, ∀ call ∈ entry.calls, ¬ terms.refusal call) :
      terms.Course entries
  | refused (before : List (Entry Status Call)) (entry : Entry Status Call)
      (after : List (Entry Status Call))
      (quiet : ∀ prior ∈ before, terms.Quiet prior.calls)
      (answer : entry.answer = some terms.aborted) (closes : terms.Closes entry.calls)
      (silent : ∀ next ∈ after, next.calls = []) :
      terms.Course (before ++ entry :: after)

theorem RefusalTerms.Course.cons {entry : Entry Status Call}
    {entries : List (Entry Status Call)} (course : terms.Course entries)
    (quiet : terms.Quiet entry.calls) : terms.Course (entry :: entries) := by
  cases course with
  | calm entries granted =>
      refine .calm _ fun other member => ?_
      rcases List.mem_cons.mp member with rfl | later
      · exact quiet.granted
      · exact granted other later
  | refused before refusing after quietBefore answer closes silent =>
      rw [← List.cons_append]
      refine .refused (entry :: before) refusing after (fun prior member => ?_) answer closes silent
      rcases List.mem_cons.mp member with rfl | later
      · exact quiet
      · exact quietBefore prior later

theorem RefusalTerms.Course.honoured {entries : List (Entry Status Call)}
    (course : terms.Course entries) : terms.Honoured entries := by
  intro before entry after split earlier refusal later calls refused
  have inCalls : refusal ∈ entry.calls := by
    rw [calls]
    exact List.mem_append_right earlier List.mem_cons_self
  cases course with
  | calm entries granted =>
      have member : entry ∈ entries := by
        rw [split]
        exact List.mem_append_right before List.mem_cons_self
      exact absurd refused (granted entry member refusal inCalls)
  | refused prior refusing next quiet answer closes silent =>
      have notBefore : entry ∉ prior := fun member =>
        (quiet entry member refusal inCalls).1 refused
      have notAfter : entry ∉ next := by
        intro member
        rw [silent entry member] at inCalls
        cases inCalls
      obtain ⟨rfl, rfl, rfl⟩ := (List.append_cons_inj_of_notMem notBefore notAfter).mp split
      have noneAfter : next.flatMap Entry.calls = [] := List.flatMap_eq_nil_iff.mpr silent
      have noneBefore : (prior.flatMap Entry.calls).filter terms.report = [] := by
        rw [List.filter_flatMap]
        exact List.flatMap_eq_nil_iff.mpr fun other member => (quiet other member).filter_report
      refine ⟨answer, ?_, ?_⟩
      · rw [noneAfter, List.append_nil]
        exact closes.last calls refused
      · rw [List.flatMap_append, List.flatMap_cons, noneAfter, List.append_nil,
          List.filter_append, noneBefore, List.nil_append]
        exact closes.filter_report

theorem RefusalTerms.Honoured.tail {entry : Entry Status Call}
    {entries : List (Entry Status Call)} (honoured : terms.Honoured (entry :: entries))
    (silent : entry.calls = []) : terms.Honoured entries := by
  intro before other after split earlier refusal later calls refused
  have whole : entry :: entries = (entry :: before) ++ other :: after := by
    rw [split, List.cons_append]
  have result := honoured (entry :: before) other after whole earlier refusal later calls refused
  rw [List.flatMap_cons, silent, List.nil_append] at result
  exact result

end Terms

section Machines

variable {State Byte Status Call : Type} [DecidableEq Status]
  {machine : Machine State Byte Status} {log : State → List Call}
  {terms : RefusalTerms Status Call} {live dead : State → Prop}

/-- How a put or a write goes while no refusal is pending. -/
inductive Machine.Outcome (machine : Machine State Byte Status) (log : State → List Call)
    (terms : RefusalTerms Status Call) (live dead : State → Prop) (state : State)
    (result : State × Status) : Prop where
  | calm (calls : List Call) (added : log result.1 = log state ++ calls)
      (answer : result.2 = machine.accepted) (next : live result.1) (quiet : terms.Quiet calls)
  | refused (calls : List Call) (added : log result.1 = log state ++ calls)
      (answer : result.2 = terms.aborted) (next : dead result.1) (closes : terms.Closes calls)
  | rejected (calls : List Call) (added : log result.1 = log state ++ calls)
      (answer : result.2 ≠ machine.accepted) (next : dead result.1)
      (granted : ∀ call ∈ calls, ¬ terms.refusal call)

/-- How an end goes while no refusal is pending. -/
inductive Machine.Ending (log : State → List Call) (terms : RefusalTerms Status Call)
    (state : State) (result : State × Status) : Prop where
  | calm (calls : List Call) (added : log result.1 = log state ++ calls)
      (granted : ∀ call ∈ calls, ¬ terms.refusal call)
  | refused (calls : List Call) (added : log result.1 = log state ++ calls)
      (answer : result.2 = terms.aborted) (closes : terms.Closes calls)

/-- A machine that takes every refusal to a dead state, where it makes no further call. -/
structure Machine.Disciplined (machine : Machine State Byte Status) (log : State → List Call)
    (terms : RefusalTerms Status Call) (live dead : State → Prop) : Prop where
  distinct : terms.aborted ≠ machine.accepted
  put : ∀ state byte, live state →
    machine.Outcome log terms live dead state (machine.put state byte)
  endFrame : ∀ state, live state → Machine.Ending log terms state (machine.endFrame state)
  putDead : ∀ state byte, dead state → (machine.put state byte).1 = state
  endDead : ∀ state, dead state → log (machine.endFrame state).1 = log state

theorem Machine.Disciplined.writeCons (disciplined : machine.Disciplined log terms live dead)
    {state : State} {byte : Byte} {rest : List Byte}
    (head : machine.Outcome log terms live dead state (machine.put state byte))
    (tail : live (machine.put state byte).1 →
      machine.Outcome log terms live dead (machine.put state byte).1
        (machine.write (machine.put state byte).1 rest)) :
    machine.Outcome log terms live dead state (machine.write state (byte :: rest)) := by
  cases head with
  | calm calls added answer next quiet =>
      rw [Machine.write_accepted answer]
      cases tail next with
      | calm later addedLater answer next quietLater =>
          rw [added, List.append_assoc] at addedLater
          exact .calm _ addedLater answer next (quiet.append quietLater)
      | refused later addedLater answer next closes =>
          rw [added, List.append_assoc] at addedLater
          exact .refused _ addedLater answer next (closes.prepend quiet)
      | rejected later addedLater answer next granted =>
          rw [added, List.append_assoc] at addedLater
          refine .rejected _ addedLater answer next fun call member => ?_
          rcases List.mem_append.mp member with first | second
          · exact quiet.granted call first
          · exact granted call second
  | refused calls added answer next closes =>
      rw [Machine.write_refused (by rw [answer]; exact disciplined.distinct)]
      exact .refused calls added answer next closes
  | rejected calls added answer next granted =>
      rw [Machine.write_refused answer]
      exact .rejected calls added answer next granted

theorem Machine.Disciplined.write (disciplined : machine.Disciplined log terms live dead)
    {state : State} (isLive : live state) (bytes : List Byte) :
    machine.Outcome log terms live dead state (machine.write state bytes) := by
  induction bytes generalizing state with
  | nil => exact .calm [] (List.append_nil _).symm rfl isLive .nil
  | cons byte rest ih => exact disciplined.writeCons (disciplined.put state byte isLive) ih

theorem Machine.Disciplined.writeDead (disciplined : machine.Disciplined log terms live dead)
    {state : State} (isDead : dead state) (bytes : List Byte) :
    (machine.write state bytes).1 = state := by
  induction bytes with
  | nil => rfl
  | cons byte rest ih =>
      have inert := disciplined.putDead state byte isDead
      unfold Machine.write
      split
      · exact inert
      · rw [inert]
        exact ih

theorem Machine.Disciplined.ledgerDead (disciplined : machine.Disciplined log terms live dead)
    {state : State} (isDead : dead state) {operations : List (Operation Byte)}
    (frame : OneFrame operations) :
    ∀ entry ∈ machine.ledger log state operations, entry.calls = [] := by
  have unchanged : ∀ operation : Operation Byte, (machine.step state operation).1 = state →
      (machine.entry log state operation).calls = [] := by
    intro operation inert
    apply Machine.entry_calls
    rw [inert, List.append_nil]
  induction frame with
  | unfinished => exact fun _ member => absurd member List.not_mem_nil
  | finished =>
      intro entry member
      rw [List.mem_singleton.mp member]
      apply Machine.entry_calls
      rw [List.append_nil]
      exact disciplined.endDead state isDead
  | put byte within ih =>
      have inert : (machine.step state (.put byte)).1 = state :=
        disciplined.putDead state byte isDead
      intro entry member
      unfold Machine.ledger at member
      rw [inert] at member
      rcases List.mem_cons.mp member with rfl | later
      · exact unchanged _ inert
      · exact ih entry later
  | write bytes within ih =>
      have inert : (machine.step state (.write bytes)).1 = state :=
        disciplined.writeDead isDead bytes
      intro entry member
      unfold Machine.ledger at member
      rw [inert] at member
      rcases List.mem_cons.mp member with rfl | later
      · exact unchanged _ inert
      · exact ih entry later

/-- The ledger of a frame, from the outcome of its first operation. -/
theorem Machine.Disciplined.courseCons (disciplined : machine.Disciplined log terms live dead)
    {state : State} {operation : Operation Byte} {result : State × Status}
    (stepped : machine.step state operation = (result.1, some result.2))
    (outcome : machine.Outcome log terms live dead state result)
    {rest : List (Operation Byte)} (frame : OneFrame rest)
    (later : live result.1 → terms.Course (machine.ledger log result.1 rest)) :
    terms.Course (machine.ledger log state (operation :: rest)) := by
  have answered : (machine.entry log state operation).answer = some result.2 := by
    unfold Machine.entry
    rw [stepped]
  have made : ∀ calls, log result.1 = log state ++ calls →
      (machine.entry log state operation).calls = calls := by
    intro calls added
    apply Machine.entry_calls
    rw [stepped]
    exact added
  unfold Machine.ledger
  rw [stepped]
  cases outcome with
  | calm calls added answer next quiet =>
      refine (later next).cons ?_
      rw [made calls added]
      exact quiet
  | refused calls added answer next closes =>
      refine .refused [] _ _ (fun _ member => absurd member List.not_mem_nil) ?_ ?_
        (disciplined.ledgerDead next frame)
      · rw [answered, answer]
      · rw [made calls added]
        exact closes
  | rejected calls added answer next granted =>
      refine .calm _ fun entry member => ?_
      rcases List.mem_cons.mp member with rfl | after
      · rw [made calls added]
        exact granted
      · rw [disciplined.ledgerDead next frame entry after]
        exact fun _ member => absurd member List.not_mem_nil

/-- A frame honours refusals once its first byte goes as bytes of a live state do. -/
theorem Machine.Disciplined.course (disciplined : machine.Disciplined log terms live dead)
    {state : State} {operations : List (Operation Byte)} (frame : OneFrame operations)
    (first : ∀ byte, (operations.flatMap Operation.bytes).head? = some byte →
      machine.Outcome log terms live dead state (machine.put state byte))
    (empty : Machine.Ending log terms state (machine.endFrame state)) :
    terms.Course (machine.ledger log state operations) := by
  induction frame generalizing state with
  | unfinished => exact .calm [] fun _ member => absurd member List.not_mem_nil
  | finished =>
      cases empty with
      | calm calls added granted =>
          refine .calm _ fun entry member => ?_
          rw [List.mem_singleton.mp member, Machine.entry_calls added]
          exact granted
      | refused calls added answer closes =>
          refine .refused [] _ [] (fun _ member => absurd member List.not_mem_nil)
            (congrArg some answer) ?_ (fun _ member => absurd member List.not_mem_nil)
          rw [Machine.entry_calls added]
          exact closes
  | put byte within ih =>
      refine disciplined.courseCons rfl (first byte rfl) within fun isLive => ?_
      exact ih (fun byte _ => disciplined.put _ byte isLive) (disciplined.endFrame _ isLive)
  | write bytes within ih =>
      cases bytes with
      | nil =>
          refine (ih first empty).cons ?_
          rw [Machine.entry_calls (List.append_nil _).symm]
          exact .nil
      | cons byte others =>
          have outcome : machine.Outcome log terms live dead state
              (machine.write state (byte :: others)) :=
            disciplined.writeCons (first byte rfl) (fun isLive => disciplined.write isLive others)
          refine disciplined.courseCons rfl outcome within fun isLive => ?_
          exact ih (fun byte _ => disciplined.put _ byte isLive) (disciplined.endFrame _ isLive)

/-- Where every byte not accepted comes with a call of its own. -/
structure Machine.Speaks (machine : Machine State Byte Status) (log : State → List Call)
    (terms : RefusalTerms Status Call) (streaming : State → Prop) : Prop where
  put : ∀ state byte, streaming state →
    ∃ calls, log (machine.put state byte).1 = log state ++ calls ∧
      ((machine.put state byte).2 = machine.accepted ∧ streaming (machine.put state byte).1 ∨
        (machine.put state byte).2 ≠ machine.accepted ∧ ∃ call ∈ calls, terms.stream call)

theorem Machine.Speaks.write {streaming : State → Prop}
    (speaks : machine.Speaks log terms streaming) {state : State} (isStreaming : streaming state)
    (bytes : List Byte) :
    ∃ calls, log (machine.write state bytes).1 = log state ++ calls ∧
      ((machine.write state bytes).2 = machine.accepted ∨ ∃ call ∈ calls, terms.stream call) := by
  induction bytes generalizing state with
  | nil => exact ⟨[], (List.append_nil _).symm, .inl rfl⟩
  | cons byte rest ih =>
      obtain ⟨calls, added, goesOn | stops⟩ := speaks.put state byte isStreaming
      · obtain ⟨later, addedLater, outcome⟩ := ih goesOn.2
        rw [added, List.append_assoc] at addedLater
        rw [Machine.write_accepted goesOn.1]
        refine ⟨calls ++ later, addedLater, outcome.imp_right ?_⟩
        rintro ⟨call, member, stream⟩
        exact ⟨call, List.mem_append_right calls member, stream⟩
      · rw [Machine.write_refused stops.1]
        exact ⟨calls, added, .inr stops.2⟩

/-- A refusal the first byte meets and ignores is not honoured, however the frame goes on. -/
theorem Machine.Speaks.not_honoured {streaming : State → Prop}
    (speaks : machine.Speaks log terms streaming) (distinct : terms.aborted ≠ machine.accepted)
    {state : State} {byte : Byte} {refusal : Call}
    (answer : (machine.put state byte).2 = machine.accepted)
    (added : log (machine.put state byte).1 = log state ++ [refusal])
    (refused : terms.refusal refusal) (next : streaming (machine.put state byte).1)
    {operations : List (Operation Byte)} (frame : OneFrame operations)
    (first : (operations.flatMap Operation.bytes).head? = some byte) :
    ¬ terms.Honoured (machine.ledger log state operations) := by
  induction frame with
  | unfinished => cases first
  | finished => cases first
  | put header within ih =>
      cases Option.some.inj first
      intro honoured
      have ignored := (honoured [] _ _ rfl [] refusal [] (Machine.entry_calls added) refused).1
      have accepted := Option.some.inj (ignored.symm.trans (congrArg some answer))
      exact distinct accepted
  | write bytes within ih =>
      cases bytes with
      | nil =>
          intro honoured
          refine ih first (honoured.tail ?_)
          exact Machine.entry_calls (List.append_nil _).symm
      | cons header rest =>
          cases Option.some.inj first
          obtain ⟨later, addedLater, outcome⟩ := speaks.write next rest
          rw [added, List.append_assoc] at addedLater
          intro honoured
          have calls : (machine.entry log state (.write (byte :: rest))).calls =
              refusal :: later := by
            apply Machine.entry_calls
            change log (machine.write state (byte :: rest)).1 = _
            rw [Machine.write_accepted answer]
            exact addedLater
          obtain ⟨aborted, silenced, _⟩ := honoured [] _ _ rfl [] refusal later calls refused
          rcases outcome with accepted | ⟨call, member, stream⟩
          · have same : (machine.write state (byte :: rest)).2 = terms.aborted :=
              Option.some.inj aborted
            rw [Machine.write_accepted answer, accepted] at same
            exact distinct same.symm
          · exact silenced call (List.mem_append_left _ member) stream

/-- Refusals are honoured in a frame exactly when its first byte meets none it ignores. -/
theorem Machine.Disciplined.honoured_iff
    (disciplined : machine.Disciplined log terms live dead) {streaming : State → Prop}
    (speaks : machine.Speaks log terms streaming) {state : State} {ignores : Byte → Prop}
    (heeds : ∀ byte, ¬ ignores byte →
      machine.Outcome log terms live dead state (machine.put state byte))
    (ignored : ∀ byte, ignores byte → ∃ refusal, terms.refusal refusal ∧
      (machine.put state byte).2 = machine.accepted ∧
      log (machine.put state byte).1 = log state ++ [refusal] ∧
      streaming (machine.put state byte).1)
    (empty : Machine.Ending log terms state (machine.endFrame state))
    {operations : List (Operation Byte)} (frame : OneFrame operations) :
    terms.Honoured (machine.ledger log state operations) ↔
      ¬ ∃ byte, (operations.flatMap Operation.bytes).head? = some byte ∧ ignores byte := by
  constructor
  · rintro honoured ⟨byte, first, met⟩
    obtain ⟨refusal, refused, answer, added, next⟩ := ignored byte met
    exact speaks.not_honoured disciplined.distinct answer added refused next frame first honoured
  · intro unmet
    refine (disciplined.course frame (fun byte first => heeds byte ?_) empty).honoured
    intro met
    exact unmet ⟨byte, first, met⟩

end Machines

end FramedInput
