/-
Servers that take requests one at a time and keep a log.

A request changes the state of the server and is answered with a status.  Some
statuses reject the request.  A meaning says, over an abstract state of its own,
what each request that is not rejected adds to the log; a server implements a
meaning when every step does, and then whole runs do.
-/

import Mathlib.Data.List.Induction

namespace RequestLog

structure Server (State Request Status : Type) where
  perform : State → Request → State × Status

structure Meaning (Abstract Request Call : Type) where
  calls : Abstract → Request → List Call
  next : Abstract → Request → Abstract

variable {State Request Status Abstract Call : Type}

def Server.run (server : Server State Request Status) (state : State)
    (requests : List Request) : State :=
  requests.foldl (fun current request => (server.perform current request).1) state

def Server.answers (server : Server State Request Status) : State → List Request → List Status
  | _, [] => []
  | state, request :: rest =>
      (server.perform state request).2 :: server.answers (server.perform state request).1 rest

/-- The requests that were not rejected, in order. -/
def Server.granted (server : Server State Request Status) (rejected : Status → Prop)
    [DecidablePred rejected] : State → List Request → List Request
  | _, [] => []
  | state, request :: rest =>
      if rejected (server.perform state request).2 then
        server.granted rejected (server.perform state request).1 rest
      else request :: server.granted rejected (server.perform state request).1 rest

/-- What a list of requests adds to the log when all of them are granted. -/
def Meaning.transcript (meaning : Meaning Abstract Request Call) :
    Abstract → List Request → List Call
  | _, [] => []
  | abstract, request :: rest =>
      meaning.calls abstract request ++ meaning.transcript (meaning.next abstract request) rest

variable {server : Server State Request Status} {rejected : Status → Prop}
  [DecidablePred rejected] {meaning : Meaning Abstract Request Call}
  {log : State → List Call} {related : State → Abstract → Prop}

theorem Server.run_cons (state : State) (request : Request) (rest : List Request) :
    server.run state (request :: rest) = server.run (server.perform state request).1 rest := rfl

theorem Server.run_append (state : State) (first second : List Request) :
    server.run state (first ++ second) = server.run (server.run state first) second :=
  List.foldl_append

theorem Server.granted_all {state : State} {requests : List Request}
    (accepted : ∀ answer ∈ server.answers state requests, ¬ rejected answer) :
    server.granted rejected state requests = requests := by
  induction requests generalizing state with
  | nil => rfl
  | cons request rest ih =>
      unfold Server.granted
      rw [if_neg (accepted _ List.mem_cons_self),
        ih (fun answer member => accepted answer (List.mem_cons_of_mem _ member))]

structure Server.Implements (server : Server State Request Status) (rejected : Status → Prop)
    (meaning : Meaning Abstract Request Call) (log : State → List Call)
    (related : State → Abstract → Prop) : Prop where
  rejects : ∀ state abstract request, related state abstract →
    rejected (server.perform state request).2 →
      related (server.perform state request).1 abstract ∧
        log (server.perform state request).1 = log state
  grants : ∀ state abstract request, related state abstract →
    ¬ rejected (server.perform state request).2 →
      related (server.perform state request).1 (meaning.next abstract request) ∧
        log (server.perform state request).1 = log state ++ meaning.calls abstract request

/-- A run logs the meaning of its granted requests and nothing else. -/
theorem Server.Implements.log_run
    (implements : server.Implements rejected meaning log related) {state : State}
    {abstract : Abstract} (start : related state abstract) (requests : List Request) :
    log (server.run state requests) =
      log state ++ meaning.transcript abstract (server.granted rejected state requests) := by
  induction requests generalizing state abstract with
  | nil => exact (List.append_nil _).symm
  | cons request rest ih =>
      rw [Server.run_cons]
      unfold Server.granted
      split
      · rename_i refused
        obtain ⟨kept, same⟩ := implements.rejects state abstract request start refused
        rw [ih kept, same]
      · rename_i granted
        obtain ⟨kept, added⟩ := implements.grants state abstract request start granted
        rw [ih kept, added]
        change _ = log state ++ (_ ++ meaning.transcript (meaning.next abstract request) _)
        rw [List.append_assoc]

theorem Server.Implements.related_run
    (implements : server.Implements rejected meaning log related) {state : State}
    {abstract : Abstract} (start : related state abstract) (requests : List Request) :
    ∃ final, related (server.run state requests) final := by
  induction requests generalizing state abstract with
  | nil => exact ⟨abstract, start⟩
  | cons request rest ih =>
      by_cases refused : rejected (server.perform state request).2
      · exact ih (implements.rejects state abstract request start refused).1
      · exact ih (implements.grants state abstract request start refused).1

/-- A property of the answers that follows from every related state. -/
theorem Server.Implements.answers
    (implements : server.Implements rejected meaning log related) {state : State}
    {abstract : Abstract} (start : related state abstract) {good : Status → Prop}
    (each : ∀ state abstract request, related state abstract →
      good (server.perform state request).2) (requests : List Request) :
    ∀ answer ∈ server.answers state requests, good answer := by
  induction requests generalizing state abstract with
  | nil => exact fun _ member => absurd member List.not_mem_nil
  | cons request rest ih =>
      intro answer member
      rcases List.mem_cons.mp member with first | later
      · rw [first]
        exact each state abstract request start
      · by_cases refused : rejected (server.perform state request).2
        · exact ih (implements.rejects state abstract request start refused).1 answer later
        · exact ih (implements.grants state abstract request start refused).1 answer later

/-! ### Two servers side by side -/

/-- The servers answer related states alike and leave related states. -/
structure Server.Lockstep {Other : Type} (first : Server State Request Status)
    (second : Server Other Request Status) (together : State → Other → Prop) : Prop where
  perform : ∀ state twin request, together state twin →
    together (first.perform state request).1 (second.perform twin request).1 ∧
      (first.perform state request).2 = (second.perform twin request).2

section Lockstep

variable {Other : Type} {first : Server State Request Status}
  {second : Server Other Request Status} {together : State → Other → Prop}

theorem Server.Lockstep.run (lockstep : first.Lockstep second together) {state : State}
    {twin : Other} (start : together state twin) (requests : List Request) :
    together (first.run state requests) (second.run twin requests) := by
  induction requests generalizing state twin with
  | nil => exact start
  | cons request rest ih => exact ih (lockstep.perform state twin request start).1

theorem Server.Lockstep.granted (lockstep : first.Lockstep second together) {state : State}
    {twin : Other} (start : together state twin) (requests : List Request) :
    first.granted rejected state requests = second.granted rejected twin requests := by
  induction requests generalizing state twin with
  | nil => rfl
  | cons request rest ih =>
      obtain ⟨next, same⟩ := lockstep.perform state twin request start
      unfold Server.granted
      rw [same, ih next]

end Lockstep

/-! ### Requests that are served in part -/

/-- A request that is rejected may have been served all the same. -/
structure Server.Serves (server : Server State Request Status) (rejected : Status → Prop)
    (meaning : Meaning Abstract Request Call) (log : State → List Call)
    (related : State → Abstract → Prop) : Prop where
  step : ∀ state abstract request, related state abstract →
    (related (server.perform state request).1 (meaning.next abstract request) ∧
        log (server.perform state request).1 = log state ++ meaning.calls abstract request) ∨
      rejected (server.perform state request).2 ∧
        related (server.perform state request).1 abstract ∧
          log (server.perform state request).1 = log state

/-- A run serves its requests once at most and in order, and every request it grants. -/
theorem Server.Serves.log_run (serves : server.Serves rejected meaning log related)
    {state : State} {abstract : Abstract} (start : related state abstract)
    (requests : List Request) :
    ∃ served, (server.granted rejected state requests).Sublist served ∧
      served.Sublist requests ∧
      log (server.run state requests) = log state ++ meaning.transcript abstract served := by
  induction requests generalizing state abstract with
  | nil => exact ⟨[], List.Sublist.refl _, List.Sublist.refl _, (List.append_nil _).symm⟩
  | cons request rest ih =>
      rw [Server.run_cons]
      unfold Server.granted
      rcases serves.step state abstract request start with ⟨next, added⟩ | ⟨refused, kept, same⟩
      · obtain ⟨served, granted, requested, logged⟩ := ih next
        refine ⟨request :: served, ?_, requested.cons_cons request, ?_⟩
        · by_cases refused : rejected (server.perform state request).2
          · rw [if_pos refused]
            exact granted.cons request
          · rw [if_neg refused]
            exact granted.cons_cons request
        · rw [logged, added, List.append_assoc]
          rfl
      · obtain ⟨served, granted, requested, logged⟩ := ih kept
        rw [if_pos refused]
        exact ⟨served, granted, requested.cons request, by rw [logged, same]⟩

/-- What a request adds to the log goes with its answer. -/
structure Server.Adds (server : Server State Request Status) (log : State → List Call)
    (holds : State → Prop) (adds : Request → Status → List Call → Prop) : Prop where
  step : ∀ state request, holds state →
    holds (server.perform state request).1 ∧
      ∃ calls, adds request (server.perform state request).2 calls ∧
        log (server.perform state request).1 = log state ++ calls

theorem Server.Adds.log_run {holds : State → Prop} {adds : Request → Status → List Call → Prop}
    (each : server.Adds log holds adds) {state : State} (start : holds state)
    (requests : List Request) :
    ∃ parts, List.Forall₂ (fun sent calls => adds sent.1 sent.2 calls)
        (requests.zip (server.answers state requests)) parts ∧
      log (server.run state requests) = log state ++ parts.flatten := by
  induction requests generalizing state with
  | nil => exact ⟨[], .nil, (List.append_nil _).symm⟩
  | cons request rest ih =>
      obtain ⟨next, calls, added, logged⟩ := each.step state request start
      obtain ⟨parts, later, total⟩ := ih next
      refine ⟨calls :: parts, .cons added later, ?_⟩
      rw [Server.run_cons, total, logged, List.flatten_cons, List.append_assoc]

/-! ### What has happened since -/

/-- A request has opened something and no later one has closed it. -/
def Server.Since (server : Server State Request Status) (opens closes : State → Request → Prop)
    (state : State) (requests : List Request) : Prop :=
  ∃ before opening after, requests = before ++ opening :: after ∧
    opens (server.run state before) opening ∧
    ∀ middle closing rest, after = middle ++ closing :: rest →
      ¬ closes (server.run state (before ++ opening :: middle)) closing

theorem Server.since_concat {opens closes : State → Request → Prop} (state : State)
    (earlier : List Request) (request : Request) :
    server.Since opens closes state (earlier ++ [request]) ↔
      opens (server.run state earlier) request ∨
        server.Since opens closes state earlier ∧ ¬ closes (server.run state earlier) request := by
  constructor
  · intro since
    obtain ⟨before, opening, after, same, opened, unclosed⟩ := since
    rcases List.eq_nil_or_concat after with rfl | ⟨front, last, rfl⟩
    · obtain ⟨rfl, lasts⟩ := List.append_inj' same rfl
      cases lasts
      exact .inl opened
    · rw [List.concat_eq_append, ← List.cons_append, ← List.append_assoc] at same
      obtain ⟨rfl, lasts⟩ := List.append_inj' same rfl
      cases lasts
      refine .inr ⟨⟨before, opening, front, rfl, opened, ?_⟩, ?_⟩
      · intro middle closing rest split
        refine unclosed middle closing (rest ++ [request]) ?_
        rw [List.concat_eq_append, split, List.append_assoc, List.cons_append]
      · exact unclosed front request [] List.concat_eq_append
  · intro turned
    rcases turned with opened | ⟨⟨before, opening, after, rfl, opened, unclosed⟩, stillOpen⟩
    · refine ⟨earlier, request, [], rfl, opened, ?_⟩
      intro middle closing rest split
      have lengths := congrArg List.length split
      rw [List.length_append, List.length_cons, List.length_nil] at lengths
      omega
    · refine ⟨before, opening, after ++ [request], ?_, opened, ?_⟩
      · rw [List.append_assoc, List.cons_append]
      · intro middle closing rest split
        rcases List.eq_nil_or_concat rest with rfl | ⟨front, last, rfl⟩
        · obtain ⟨rfl, lasts⟩ := List.append_inj' split rfl
          cases lasts
          exact stillOpen
        · rw [List.concat_eq_append, ← List.cons_append, ← List.append_assoc] at split
          obtain ⟨same, _⟩ := List.append_inj' split rfl
          exact unclosed middle closing front same

/-- A property of states that every request turns on by opening and off by closing. -/
theorem Server.since_iff {opens closes : State → Request → Prop} {holds : State → Prop}
    {state : State} (fresh : ¬ holds state)
    (turns : ∀ current request, holds (server.perform current request).1 ↔
      opens current request ∨ holds current ∧ ¬ closes current request)
    (requests : List Request) :
    holds (server.run state requests) ↔ server.Since opens closes state requests := by
  induction requests using List.reverseRecOn with
  | nil =>
      constructor
      · intro now
        exact absurd now fresh
      · intro since
        obtain ⟨before, opening, after, same, _⟩ := since
        have lengths := congrArg List.length same
        rw [List.length_append, List.length_cons, List.length_nil] at lengths
        omega
  | append_singleton earlier request ih =>
      rw [Server.since_concat, Server.run_append, ← ih]
      exact turns (server.run state earlier) request

end RequestLog
