/-
The monitor as a tap.

A KISS decoder drives the RNode decoder behind it: a start, the bytes and the
end of a complete frame are its operations.  Beside the lines of the KISS
decoder itself, the monitor prints the calls that an RNode decoder with every
callback registered makes in this run, whatever memory it was initialised in.
-/

import RNodeProtocol.MonitorFrames

namespace RNodeProtocol

open FramedInput SharedOutput TextLines

variable {KissDecoder KissStatus : Type} [DecidableEq KissStatus]

/-- The operation on the RNode decoder that a callback of the KISS decoder leads to. -/
def KissCallback.operation? (kiss : KissLibrary KissDecoder KissStatus) :
    KissCallback KissStatus → Option (Operation UInt8)
  | .start => some .start
  | .data byte _ => some (.put byte)
  | .endFrame info => if info.status = kiss.frameComplete then some .endFrame else none
  | .error _ _ => none

def tapped (kiss : KissLibrary KissDecoder KissStatus)
    (callbacks : List (KissCallback KissStatus)) : List (Operation UInt8) :=
  callbacks.filterMap (KissCallback.operation? kiss)

namespace Direction

/-- The lines of the calls of a frame, without the diagnostics. -/
def tale : Direction → Script UInt8 String
  | .hostToDevice => commandScript.map fun call =>
      hostToDevice.report (CommandDecoderText.line call)
  | .deviceToHost => eventScript.map fun call =>
      deviceToHost.report (EventDecoderText.line call)

theorem reported_command (call : CommandCall) :
    reported (hostToDevice.report (CommandDecoderText.line call)) = true := by
  unfold reported CommandDecoderText.line
  rw [wordsOf_report _ (CommandDecoderText.plain_words call)
    (CommandDecoderText.words_ne_nil call)]
  cases call with
  | tx query answered => cases query <;> rfl
  | _ => rfl

theorem reported_event (call : EventCall) :
    reported (deviceToHost.report (EventDecoderText.line call)) = true := by
  unfold reported EventDecoderText.line
  rw [wordsOf_report _ (EventDecoderText.plain_words call) (EventDecoderText.words_ne_nil call)]
  cases call with
  | stream kind query answered => cases kind <;> cases query <;> rfl
  | _ => rfl

theorem filter_reported {Call : Type} {line : Call → String}
    (isReport : ∀ call, reported (line call) = true) (calls : List Call) :
    (calls.map line).filter reported = calls.map line := by
  apply List.filter_eq_self.mpr
  intro printed member
  obtain ⟨call, _, rfl⟩ := List.mem_map.mp member
  exact isReport call

theorem reported_put (direction : Direction) (input : List UInt8) (byte : UInt8) :
    (direction.script.put input byte).filter reported = direction.tale.put input byte := by
  cases direction with
  | hostToDevice =>
      have silent : (commandPutDiagnostics input).filter reported = [] :=
        filter_announcements (fun _ => announcement_put) fun _ => id
      change (commandPutDiagnostics input ++ _).filter reported = _
      rw [List.filter_append, silent, filter_reported reported_command]
      rfl
  | deviceToHost => exact filter_reported reported_event _

theorem reported_end (direction : Direction) (input : List UInt8) :
    (direction.script.endFrame input).filter reported = direction.tale.endFrame input := by
  cases direction with
  | hostToDevice =>
      have silent : (commandEndDiagnostics input).filter reported = [] :=
        filter_announcements (fun _ => announcement_end) fun _ => id
      change (commandEndDiagnostics input ++ _).filter reported = _
      rw [List.filter_append, silent, filter_reported reported_command]
      rfl
  | deviceToHost => exact filter_reported reported_event _

end Direction

/-- The reports of callbacks are the tale of the operations they lead to. -/
theorem reported_callbacks (kiss : KissLibrary KissDecoder KissStatus) (direction : Direction)
    (capture : Capture) (callbacks : List (KissCallback KissStatus)) :
    (outputAlone (hear kiss) direction capture callbacks).filter reported =
      direction.tale.narrate capture.pending (tapped kiss callbacks) := by
  induction callbacks generalizing capture with
  | nil => rfl
  | cons callback rest ih =>
      rw [outputAlone_cons, List.filter_append, ih]
      cases callback with
      | start => rfl
      | data byte byteIndex =>
          change (direction.script.put capture.pending byte).filter reported ++ _ = _
          rw [direction.reported_put]
          rfl
      | endFrame info =>
          by_cases complete : info.status = kiss.frameComplete
          · have told : hear kiss direction capture (.endFrame info) =
                ({ capture with pending := [] }, direction.script.endFrame capture.pending) :=
              if_pos complete
            have operation : KissCallback.operation? kiss (.endFrame info) = some .endFrame :=
              if_pos complete
            unfold tapped
            rw [told, direction.reported_end, List.filterMap_cons_some operation]
            rfl
          · have told : hear kiss direction capture (.endFrame info) =
                (capture, [direction.report (frameErrorLine kiss info)]) :=
              if_neg complete
            have operation : KissCallback.operation? kiss (.endFrame info) = none :=
              if_neg complete
            have silent : reported (direction.report (frameErrorLine kiss info)) = false :=
              reported_frameError direction _ _
            unfold tapped
            rw [told, List.filter_singleton, silent, List.filterMap_cons_none operation]
            rfl
      | error status index =>
          have silent : reported (direction.report (decodeErrorLine kiss status index)) = false :=
            reported_decodeError direction _ _
          change [direction.report (decodeErrorLine kiss status index)].filter reported ++ _ = _
          rw [List.filter_singleton, silent]
          rfl

theorem Direction.labelled_tale (direction : Direction) (operations : List (Operation UInt8)) :
    ∀ line ∈ direction.tale.narrate [] operations, labelled direction.label line = true := by
  intro line member
  cases direction with
  | hostToDevice =>
      rw [tale, Script.narrate_map] at member
      obtain ⟨call, _, rfl⟩ := List.mem_map.mp member
      exact labelled_report _ _
  | deviceToHost =>
      rw [tale, Script.narrate_map] at member
      obtain ⟨call, _, rfl⟩ := List.mem_map.mp member
      exact labelled_report _ _

/-! ### Faults -/

/-- The line that says the KISS decoder gave up a byte or a frame. -/
def KissCallback.fault? (kiss : KissLibrary KissDecoder KissStatus) (direction : Direction) :
    KissCallback KissStatus → Option String
  | .endFrame info =>
      if info.status = kiss.frameComplete then none
      else some (direction.report (frameErrorLine kiss info))
  | .error status index => some (direction.report (decodeErrorLine kiss status index))
  | _ => none

/-- A labelled line that is no report. -/
def Direction.faulty (direction : Direction) (line : String) : Bool :=
  labelled direction.label line && !reported line

/-- The scripts have none: a diagnostic has no label, and the other lines are reports. -/
theorem Direction.script_faultless (direction : Direction) :
    direction.script.Tells fun line => direction.faulty line = false := by
  apply direction.script_speaks.imp
  intro line speaks
  unfold faulty
  cases speaks with
  | announced announcement =>
      rw [unlabelled_announcement _ announcement]
      rfl
  | command call =>
      rw [reported_command]
      exact Bool.and_false _
  | event call =>
      rw [reported_event]
      exact Bool.and_false _

theorem faults_callbacks (kiss : KissLibrary KissDecoder KissStatus) (direction : Direction)
    (capture : Capture) (callbacks : List (KissCallback KissStatus)) :
    (outputAlone (hear kiss) direction capture callbacks).filter direction.faulty =
      callbacks.filterMap (KissCallback.fault? kiss direction) := by
  have silent : ∀ {lines : List String}, (∀ line ∈ lines, direction.faulty line = false) →
      lines.filter direction.faulty = [] := by
    intro lines faultless
    rw [List.filter_eq_nil_iff]
    intro line member
    rw [faultless line member]
    exact Bool.false_ne_true
  have spoken : ∀ {line : String}, reported (direction.report line) = false →
      direction.faulty (direction.report line) = true := by
    intro line unreported
    unfold Direction.faulty
    rw [direction.labelled_report, unreported]
    rfl
  induction callbacks generalizing capture with
  | nil => rfl
  | cons callback rest ih =>
      rw [outputAlone_cons, List.filter_append, ih]
      cases callback with
      | start => rfl
      | data byte byteIndex =>
          change (direction.script.put capture.pending byte).filter _ ++ _ = _
          rw [silent (direction.script_faultless.put _ _)]
          rfl
      | endFrame info =>
          by_cases complete : info.status = kiss.frameComplete
          · have told : hear kiss direction capture (.endFrame info) =
                ({ capture with pending := [] }, direction.script.endFrame capture.pending) :=
              if_pos complete
            have faultless : KissCallback.fault? kiss direction (.endFrame info) = none :=
              if_pos complete
            rw [told, silent (direction.script_faultless.endFrame _),
              List.filterMap_cons_none faultless]
            rfl
          · have told : hear kiss direction capture (.endFrame info) =
                (capture, [direction.report (frameErrorLine kiss info)]) :=
              if_neg complete
            have fault : KissCallback.fault? kiss direction (.endFrame info) =
                some (direction.report (frameErrorLine kiss info)) := if_neg complete
            have heard : direction.faulty (direction.report (frameErrorLine kiss info)) = true :=
              spoken (reported_frameError direction _ _)
            rw [told, List.filter_singleton, heard, List.filterMap_cons_some fault]
            rfl
      | error status index =>
          have heard : direction.faulty
              (direction.report (decodeErrorLine kiss status index)) = true :=
            spoken (reported_decodeError direction _ _)
          change [direction.report (decodeErrorLine kiss status index)].filter _ ++ _ = _
          rw [List.filter_singleton, heard]
          rfl

namespace Monitor

variable {kiss : KissLibrary KissDecoder KissStatus}

theorem reports_tale (clean : ∀ status, OneLine (kiss.statusToString status))
    (chunks : List (Direction × List UInt8)) (direction : Direction) :
    (under direction.label ((init kiss "").decodeAll kiss chunks).stdout).filter reported =
      direction.tale.narrate []
        (tapped kiss (kissCallbacks kiss kiss.init (select direction chunks).flatten)) :=
  under_filter clean chunks (reported_callbacks kiss direction _ _) (direction.labelled_tale _)

/-- The reports of either direction are the calls a decoder of that direction logs when the
callbacks of the KISS decoder drive it, on any memory. -/
theorem taps_decoders (clean : ∀ status, OneLine (kiss.statusToString status))
    (chunks : List (Direction × List UInt8)) (commandMemory : CommandDecoder (List CommandCall))
    (eventMemory : EventDecoder (List EventCall)) :
    (under "H->D" ((init kiss "").decodeAll kiss chunks).stdout).filter reported =
        (CommandDecoder.reached commandMemory (fun _ => true) (fun _ _ => .ok)
          (tapped kiss (kissCallbacks kiss kiss.init
            (select .hostToDevice chunks).flatten))).context.map
              (fun call => "H->D " ++ CommandDecoderText.line call) ∧
      (under "H<-D" ((init kiss "").decodeAll kiss chunks).stdout).filter reported =
        (EventDecoder.reached eventMemory (fun _ => true) (fun _ _ => .ok)
          (tapped kiss (kissCallbacks kiss kiss.init
            (select .deviceToHost chunks).flatten))).context.map
              (fun call => "H<-D " ++ EventDecoderText.line call) := by
  constructor
  · rw [CommandDecoder.reached_narrated]
    refine (reports_tale clean chunks .hostToDevice).trans ?_
    rw [Direction.tale, Script.narrate_map]
    rfl
  · rw [EventDecoder.reached_narrated]
    refine (reports_tale clean chunks .deviceToHost).trans ?_
    rw [Direction.tale, Script.narrate_map]
    rfl

theorem taps_ready :
    (under "H->D" ((init .delimited "").decodeAll .delimited readyAndBlink).stdout).filter
          reported = ["H->D COMMAND READY"] ∧
      (under "H<-D" ((init .delimited "").decodeAll .delimited readyAndBlink).stdout).filter
          reported = ["H<-D EVENT BLINK"] :=
  taps_decoders (by decide) readyAndBlink (CommandDecoder.zeroed []) (EventDecoder.zeroed [])

/-- The labelled lines that are no reports are the faults of the KISS decoder of that direction,
each told once, in order. -/
theorem reports_faults (clean : ∀ status, OneLine (kiss.statusToString status))
    (chunks : List (Direction × List UInt8)) (direction : Direction) :
    (under direction.label ((init kiss "").decodeAll kiss chunks).stdout).filter
        (fun line => !reported line) =
      (kissCallbacks kiss kiss.init (select direction chunks).flatten).filterMap
        (KissCallback.fault? kiss direction) := by
  rw [under_decodeAll clean, List.filter_filter, ← faults_callbacks kiss direction]
  congr 1
  funext line
  exact Bool.and_comm _ _

/-- What a KISS decoder with escapes says of a frame. -/
inductive EscapeStatus where
  | frameComplete
  | frameIncomplete
  | invalidEscape
  deriving Repr, DecidableEq

/-- A KISS decoder with escapes.  Its state is the index of the next byte of a frame and whether an
escape stands before it; a frame that ends in an escape is incomplete, and an escape of any other
byte than the two that are escaped breaks the frame off. -/
def escaping : KissLibrary (Option (UInt32 × Bool)) EscapeStatus :=
  { init := none
    put := fun state byte =>
      match state with
      | none => if byte = 0xC0 then (some (0, false), [.start]) else (none, [])
      | some (index, false) =>
          if byte = 0xC0 then
            (none, [.endFrame
              { status := .frameComplete
                len := index }])
          else if byte = 0xDB then (some (index, true), [])
          else (some (index + 1, false), [.data byte index])
      | some (index, true) =>
          if byte = 0xDC then (some (index + 1, false), [.data 0xC0 index])
          else if byte = 0xDD then (some (index + 1, false), [.data 0xDB index])
          else if byte = 0xC0 then
            (none, [.endFrame
              { status := .frameIncomplete
                len := index }])
          else (none, [.error .invalidEscape index])
    frameComplete := .frameComplete
    statusToString := fun status =>
      match status with
      | .frameComplete => "FRAME_COMPLETE"
      | .frameIncomplete => "FRAME_INCOMPLETE"
      | .invalidEscape => "INVALID_ESCAPE" }

/-- A frame that ends in an escape, then one with an escape of a byte that is not escaped. -/
theorem reports_faults_escapes :
    (under Direction.deviceToHost.label
        ((init escaping "").decodeAll escaping
          [(.deviceToHost, [0xC0, 0x00, 0xDB]), (.hostToDevice, [0xC0, 0x0F, 0xC0]),
            (.deviceToHost, [0xC0, 0xC0, 0xDB, 0x55])]).stdout).filter
          (fun line => !reported line) =
      ["H<-D [error=FRAME_INCOMPLETE, len=1]",
        "H<-D decode error: INVALID_ESCAPE at byte index 0"] :=
  reports_faults (by intro status; cases status <;> decide)
    [(.deviceToHost, [0xC0, 0x00, 0xDB]), (.hostToDevice, [0xC0, 0x0F, 0xC0]),
      (.deviceToHost, [0xC0, 0xC0, 0xDB, 0x55])] .deviceToHost

end Monitor

end RNodeProtocol
