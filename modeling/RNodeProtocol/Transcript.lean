/-
Recording callbacks.

A recorded run uses the list of calls made so far as its user context: every
registered callback appends the call it receives, with its arguments and, for a
stream callback, the status it answers with.  The answers come from a function
of the calls made so far and the call at hand, so they may depend on the whole
history.  A callback that is not registered is NULL.
-/

import RNodeProtocol.Callback
import RNodeProtocol.Stream

namespace RNodeProtocol

def pointer {Callback : Type} (registered : Bool) (callback : Callback) : Option Callback :=
  if registered then some callback else none

/-- What a recorded run adds to its log when it invokes a callback. -/
def emit {Call : Type} (registered : Bool) (call : Call) : List Call :=
  if registered then [call] else []

/-- The status a decoder sees; a NULL callback counts as accepting. -/
def reply (registered : Bool) (answer : StreamCbStatus) : StreamCbStatus :=
  if registered then answer else .ok

theorem invoke_recorded {Call Callback : Type} {registered : Bool} {callback : Callback}
    {target : Option Callback} (recorded : target = pointer registered callback)
    {apply : Callback → List Call → List Call} {log : List Call} {call : Call}
    (records : apply callback log = log ++ [call]) :
    invoke (target.map apply) log = log ++ emit registered call := by
  subst target
  cases registered with
  | true => exact records
  | false => exact (List.append_nil log).symm

theorem invoke_recorded_self {Call : Type} {registered : Bool}
    {callback : List Call → List Call} {target : Option (List Call → List Call)}
    (recorded : target = pointer registered callback) {log : List Call} {call : Call}
    (records : callback log = log ++ [call]) :
    invoke target log = log ++ emit registered call := by
  subst target
  cases registered with
  | true => exact records
  | false => exact (List.append_nil log).symm

@[simp] theorem emit_true {Call : Type} (call : Call) : emit true call = [call] := rfl

@[simp] theorem emit_false {Call : Type} (call : Call) : emit false call = [] := rfl

@[simp] theorem reply_true (answer : StreamCbStatus) : reply true answer = answer := rfl

@[simp] theorem reply_false (answer : StreamCbStatus) : reply false answer = .ok := rfl

@[simp] theorem reply_ok (registered : Bool) : reply registered .ok = .ok := by
  cases registered <;> rfl

theorem reply_ne_ok {registered : Bool} {answer : StreamCbStatus} :
    reply registered answer ≠ .ok ↔ registered = true ∧ answer = .abort := by
  cases registered <;> cases answer <;> simp

theorem mem_emit {Call : Type} {registered : Bool} {call other : Call} :
    other ∈ emit registered call ↔ registered = true ∧ other = call := by
  cases registered <;> simp

/-- Once a log extends the given one, every answer accepts. -/
def AcceptsAfter {Call Query : Type} (answer : List Call → Query → StreamCbStatus)
    (base : List Call) : Prop :=
  ∀ log query, base <+: log → answer log query = .ok

/-- The first answers after the given past as the second does from the beginning. -/
def AnswersAlike {Call Query : Type} (answer other : List Call → Query → StreamCbStatus)
    (past : List Call) : Prop :=
  ∀ log query, answer (past ++ log) query = other log query

/-! ### Streams -/

inductive StreamSlot where
  | start
  | data
  | endStream
  deriving Repr, DecidableEq

inductive StreamCall where
  | start (interface : UInt8)
  | data (interface byte : UInt8) (byteIndex : UInt32)
  | endStream (interface : UInt8) (length : UInt32)
  deriving Repr, DecidableEq

def recordStream {Call : Type} (wrap : StreamCall → StreamCbStatus → Call)
    (answer : List Call → StreamCall → StreamCbStatus) (registered : StreamSlot → Bool) :
    StreamCallbacks (List Call) :=
  { startCb := pointer (registered .start) fun log interface =>
      (log ++ [wrap (.start interface) (answer log (.start interface))],
        answer log (.start interface))
    dataCb := pointer (registered .data) fun log interface byte byteIndex =>
      (log ++ [wrap (.data interface byte byteIndex) (answer log (.data interface byte byteIndex))],
        answer log (.data interface byte byteIndex))
    endCb := pointer (registered .endStream) fun log interface length =>
      (log ++ [wrap (.endStream interface length) (answer log (.endStream interface length))],
        answer log (.endStream interface length)) }

/-- The data calls for a payload whose first byte has the given position. -/
def dataCalls {Call : Type} (wrap : StreamCall → StreamCbStatus → Call) (interface : UInt8)
    (first : Nat) (payload : List UInt8) : List Call :=
  payload.mapIdx fun offset byte =>
    wrap (.data interface byte (UInt32.ofNat (first + offset))) .ok

/-- All calls of a complete stream whose callbacks accept. -/
def streamCalls {Call : Type} (wrap : StreamCall → StreamCbStatus → Call) (interface : UInt8)
    (payload : List UInt8) : List Call :=
  wrap (.start interface) .ok :: dataCalls wrap interface 0 payload ++
    [wrap (.endStream interface (UInt32.ofNat payload.length)) .ok]

theorem dataCalls_cons {Call : Type} (wrap : StreamCall → StreamCbStatus → Call)
    (interface : UInt8) (first : Nat) (byte : UInt8) (rest : List UInt8) :
    dataCalls wrap interface first (byte :: rest) =
      wrap (.data interface byte (UInt32.ofNat first)) .ok ::
        dataCalls wrap interface (first + 1) rest := by
  unfold dataCalls
  rw [List.mapIdx_cons]
  congr 2
  funext offset byte
  rw [Nat.add_assoc, Nat.add_comm 1 offset]

theorem mem_dataCalls {Call : Type} {wrap : StreamCall → StreamCbStatus → Call}
    {interface : UInt8} {first : Nat} {payload : List UInt8} {call : Call}
    (member : call ∈ dataCalls wrap interface first payload) : ∃ query, call = wrap query .ok := by
  obtain ⟨offset, before, rfl⟩ := List.mem_mapIdx.mp member
  exact ⟨_, rfl⟩

theorem mem_streamCalls {Call : Type} {wrap : StreamCall → StreamCbStatus → Call}
    {interface : UInt8} {payload : List UInt8} {call : Call}
    (member : call ∈ streamCalls wrap interface payload) : ∃ query, call = wrap query .ok := by
  rcases List.mem_append.mp member with opening | closing
  · rcases List.mem_cons.mp opening with rfl | data
    · exact ⟨_, rfl⟩
    · exact mem_dataCalls data
  · exact ⟨_, List.mem_singleton.mp closing⟩

theorem counter_succ (position : Nat) :
    UInt32.ofNat position + 1 = UInt32.ofNat (position + 1) :=
  (UInt32.ofNat_add position 1).symm

theorem pointer_isSome {Callback : Type} (registered : Bool) (callback : Callback) :
    (pointer registered callback).isSome = registered := by
  cases registered <;> rfl

section RecordedStream

variable {Call : Type} {wrap : StreamCall → StreamCbStatus → Call}
  {answer : List Call → StreamCall → StreamCbStatus} {registered : StreamSlot → Bool}
  {stream : Stream (List Call)}

theorem Stream.start_recorded
    (recorded : stream.toStreamCallbacks = recordStream wrap answer registered)
    (log : List Call) (interface : UInt8) :
    stream.start log interface =
      ({ stream with byteIndex := 0 },
        log ++ emit (registered .start) (wrap (.start interface) (answer log (.start interface))),
        reply (registered .start) (answer log (.start interface))) := by
  have same := congrArg StreamCallbacks.startCb recorded
  unfold Stream.start
  rw [same]
  unfold recordStream
  cases registered .start with
  | true => rfl
  | false => simp [pointer]

theorem Stream.data_recorded
    (recorded : stream.toStreamCallbacks = recordStream wrap answer registered)
    (log : List Call) (interface byte : UInt8) :
    stream.data log interface byte =
      ({ stream with byteIndex := stream.byteIndex + 1 },
        log ++ emit (registered .data) (wrap (.data interface byte stream.byteIndex)
          (answer log (.data interface byte stream.byteIndex))),
        reply (registered .data) (answer log (.data interface byte stream.byteIndex))) := by
  have same := congrArg StreamCallbacks.dataCb recorded
  unfold Stream.data
  rw [same]
  unfold recordStream
  cases registered .data with
  | true => rfl
  | false => simp [pointer]

theorem Stream.endStream_recorded
    (recorded : stream.toStreamCallbacks = recordStream wrap answer registered)
    (log : List Call) (interface : UInt8) :
    stream.endStream log interface =
      (log ++ emit (registered .endStream) (wrap (.endStream interface stream.byteIndex)
          (answer log (.endStream interface stream.byteIndex))),
        reply (registered .endStream) (answer log (.endStream interface stream.byteIndex))) := by
  have same := congrArg StreamCallbacks.endCb recorded
  unfold Stream.endStream
  rw [same]
  unfold recordStream
  cases registered .endStream with
  | true => rfl
  | false => simp [pointer]

end RecordedStream

section AnyStream

variable {Ctx : Type}

def StreamCall.slot : StreamCall → StreamSlot
  | .start _ => .start
  | .data _ _ _ => .data
  | .endStream _ _ => .endStream

def StreamCallbacks.registers (callbacks : StreamCallbacks Ctx) : StreamSlot → Bool
  | .start => callbacks.startCb.isSome
  | .data => callbacks.dataCb.isSome
  | .endStream => callbacks.endCb.isSome

/-- What the callback behind a call leaves of the user context, and its answer. -/
def StreamCallbacks.invoke (callbacks : StreamCallbacks Ctx) (context : Ctx) :
    StreamCall → Ctx × StreamCbStatus
  | .start interface =>
      match callbacks.startCb with
      | some startCb => startCb context interface
      | none => (context, .ok)
  | .data interface byte byteIndex =>
      match callbacks.dataCb with
      | some dataCb => dataCb context interface byte byteIndex
      | none => (context, .ok)
  | .endStream interface length =>
      match callbacks.endCb with
      | some endCb => endCb context interface length
      | none => (context, .ok)

theorem pointer_missing {Callback : Type} {callback : Option Callback}
    (missing : callback.isSome = false) : callback = none :=
  Option.isNone_iff_eq_none.mp (Option.isSome_eq_false_iff.mp missing)

theorem StreamCallbacks.invoke_unregistered {callbacks : StreamCallbacks Ctx} {call : StreamCall}
    (missing : callbacks.registers call.slot = false) (context : Ctx) :
    callbacks.invoke context call = (context, .ok) := by
  cases call with
  | _ =>
      unfold StreamCallbacks.invoke
      rw [pointer_missing missing]

theorem StreamCallbacks.reply_invoke (callbacks : StreamCallbacks Ctx) (context : Ctx)
    (call : StreamCall) :
    reply (callbacks.registers call.slot) (callbacks.invoke context call).2 =
      (callbacks.invoke context call).2 := by
  cases present : callbacks.registers call.slot with
  | true => rfl
  | false =>
      rw [callbacks.invoke_unregistered present]
      rfl

end AnyStream

end RNodeProtocol
