/-
The frames behind the standard output of a monitor.

A completed frame is reported by the line of what it says, as soon as it ends;
streams and errors are reported while their frame is still read.  So the lines
that announce a command or an event of fixed length are those of the completed
frames that say one, in their order: none is lost, none is doubled, and a frame
that is broken off announces nothing.
-/

import RNodeProtocol.MonitorReports
import RNodeProtocol.Verdicts

namespace RNodeProtocol

open ByteNumerals FramedInput SharedOutput TextLines

variable {KissDecoder KissStatus : Type} [DecidableEq KissStatus]

/-! ### Frames -/

/-- The callbacks a KISS decoder makes for these bytes. -/
def kissCallbacks (kiss : KissLibrary KissDecoder KissStatus) :
    KissDecoder → List UInt8 → List (KissCallback KissStatus)
  | _, [] => []
  | decoder, byte :: rest =>
      (kiss.put decoder byte).2 ++ kissCallbacks kiss (kiss.put decoder byte).1 rest

/-- The frames that are completed: the bytes since the last start or completed frame. -/
def completedFrames (kiss : KissLibrary KissDecoder KissStatus) :
    List UInt8 → List (KissCallback KissStatus) → List (List UInt8)
  | _, [] => []
  | _, .start :: rest => completedFrames kiss [] rest
  | pending, .data byte _ :: rest => completedFrames kiss (pending ++ [byte]) rest
  | pending, .endFrame info :: rest =>
      if info.status = kiss.frameComplete then pending :: completedFrames kiss [] rest
      else completedFrames kiss pending rest
  | pending, .error _ _ :: rest => completedFrames kiss pending rest

/-- What is made of bytes is what is made of the callbacks they lead to. -/
theorem observe_alone (kiss : KissLibrary KissDecoder KissStatus) (direction : Direction)
    (seen : Seen KissDecoder) (bytes : List UInt8) :
    outputAlone (observe kiss) direction seen bytes =
      outputAlone (hear kiss) direction seen.capture
        (kissCallbacks kiss seen.kissDecoder bytes) := by
  induction bytes generalizing seen with
  | nil => rfl
  | cons byte rest ih =>
      rw [outputAlone_cons, ih, kissCallbacks, outputAlone_append]
      rfl

/-! ### What a channel holds -/

/-- The data bytes since the last start. -/
def sinceStart : List UInt8 → List (KissCallback KissStatus) → List UInt8
  | captured, [] => captured
  | _, .start :: rest => sinceStart [] rest
  | captured, .data byte _ :: rest => sinceStart (captured ++ [byte]) rest
  | captured, .endFrame _ :: rest => sinceStart captured rest
  | captured, .error _ _ :: rest => sinceStart captured rest

theorem captured_since (kiss : KissLibrary KissDecoder KissStatus) (direction : Direction)
    (capture : Capture) (callbacks : List (KissCallback KissStatus)) :
    (stateAlone (hear kiss) direction capture callbacks).captured =
      sinceStart capture.captured callbacks := by
  induction callbacks generalizing capture with
  | nil => rfl
  | cons callback rest ih =>
      refine (ih (hear kiss direction capture callback).1).trans ?_
      cases callback with
      | endFrame info =>
          have kept : (hear kiss direction capture (.endFrame info)).1.captured =
              capture.captured := by
            unfold hear
            dsimp only
            split <;> rfl
          rw [kept]
          rfl
      | _ => rfl

theorem observe_state (kiss : KissLibrary KissDecoder KissStatus) (direction : Direction)
    (seen : Seen KissDecoder) (bytes : List UInt8) :
    (stateAlone (observe kiss) direction seen bytes).capture =
      stateAlone (hear kiss) direction seen.capture
        (kissCallbacks kiss seen.kissDecoder bytes) := by
  induction bytes generalizing seen with
  | nil => rfl
  | cons byte rest ih =>
      refine (ih (observe kiss direction seen byte).1).trans ?_
      unfold stateAlone
      rw [kissCallbacks, List.foldl_append]
      rfl

/-- Over any interleaving, the buffer of a direction holds the bytes of its frame at hand, as many
as it has room for. -/
theorem Monitor.keeps_frames (kiss : KissLibrary KissDecoder KissStatus)
    (chunks : List (Direction × List UInt8)) (direction : Direction) :
    (((init kiss "").decodeAll kiss chunks).channel direction).context.frame.held =
      (sinceStart []
        (kissCallbacks kiss kiss.init (select direction chunks).flatten)).take maxFrameBytes := by
  have follows := ((init_follows kiss "").decodeAll kiss chunks).1 direction
  rw [follows.context.holds, statesAfter_apply, select_tagged, observe_state, captured_since]
  rfl

/-! ### Reports and announcements -/

/-- The line of a call, and not of the KISS decoder or a diagnostic. -/
def reported (line : String) : Bool :=
  match wordsOf line with
  | _ :: group :: _ => ["DETECT", "COMMAND", "EVENT"].contains group
  | _ => false

/-- The line of a call that says a command or an event of fixed length. -/
def announced (line : String) : Bool :=
  reported line &&
    match wordsOf line with
    | _ :: _ :: kind :: _ => !(["TX", "STAT_RX", "STAT_TX", "ERROR"].contains kind)
    | _ => true

theorem announced_silent {line : String} (silent : reported line = false) :
    announced line = false := by
  unfold announced
  rw [silent]
  rfl

/-- Where the word after the label opens with another letter, nothing is reported. -/
theorem reported_letter {label line : String} (plain : ' ' ∉ label.toList) {letter : Char}
    {letters : List Char} (spelled : line.toList = letter :: letters)
    (other : letter ∉ [' ', 'C', 'D', 'E']) : reported (label ++ " " ++ line) = false := by
  have notBlank : letter ≠ ' ' := fun same => other (by rw [same]; decide)
  obtain ⟨word, rest, words⟩ := wordsOf_letter spelled notBlank
  have differs : ∀ {known : String} {first : Char} {tail : List Char},
      known.toList = first :: tail → first ∈ [' ', 'C', 'D', 'E'] →
      String.ofList (letter :: word) ≠ known := by
    intro known first tail written isKnown same
    have letters := congrArg String.toList same
    rw [String.toList_ofList, written] at letters
    exact other ((List.cons.inj letters).1 ▸ isKnown)
  have detect : String.ofList (letter :: word) ≠ "DETECT" := differs rfl (by decide)
  have command : String.ofList (letter :: word) ≠ "COMMAND" := differs rfl (by decide)
  have event : String.ofList (letter :: word) ≠ "EVENT" := differs rfl (by decide)
  unfold reported
  rw [wordsOf_open plain, words]
  generalize String.ofList (letter :: word) = group at detect command event
  simp [detect, command, event]

theorem reported_tooMany (expected : Nat) : reported (tooManyLine expected) = false := by
  have cut : ∀ number : String, "-------------- too many -- expected " ++ number ++ " bytes" =
      "--------------" ++ " " ++ ("too many -- expected " ++ number ++ " bytes") := by
    simp [← String.toList_inj]
  have spelled : ∀ number : String, ("too many -- expected " ++ number ++ " bytes").toList =
      't' :: ("oo many -- expected " ++ number ++ " bytes").toList := by
    simp
  unfold tooManyLine
  rw [cut]
  exact reported_letter (by decide) (spelled _) (by decide)

theorem reported_fewer (expected : Nat) : reported (fewerLine expected) = false := by
  have cut : ∀ number : String, "-------------- fewer -- expected " ++ number ++ " bytes" =
      "--------------" ++ " " ++ ("fewer -- expected " ++ number ++ " bytes") := by
    simp [← String.toList_inj]
  have spelled : ∀ number : String, ("fewer -- expected " ++ number ++ " bytes").toList =
      'f' :: ("ewer -- expected " ++ number ++ " bytes").toList := by
    simp
  unfold fewerLine
  rw [cut]
  exact reported_letter (by decide) (spelled _) (by decide)

theorem reported_announcement {line : String} (announcement : Announcement line) :
    reported line = false := by
  cases announcement with
  | tooMany expected => exact reported_tooMany expected
  | fewer expected => exact reported_fewer expected

/-- Diagnostics are no reports, and a predicate on reports picks none of them. -/
theorem filter_announcements {lines : List String} {property : String → Bool}
    (own : ∀ line ∈ lines, Announcement line)
    (silent : ∀ line, reported line = false → property line = false) :
    lines.filter property = [] := by
  apply List.filter_eq_nil_iff.mpr
  intro line member
  rw [silent line (reported_announcement (own line member))]
  exact Bool.false_ne_true

theorem reported_frameError (direction : Direction) (status len : String) :
    reported (direction.report ("[error=" ++ status ++ ", len=" ++ len ++ "]")) = false := by
  have spelled : ("[error=" ++ status ++ ", len=" ++ len ++ "]").toList =
      '[' :: ("error=" ++ status ++ ", len=" ++ len ++ "]").toList := by
    simp
  exact reported_letter direction.plain_label.1 spelled (by decide)

theorem reported_decodeError (direction : Direction) (status index : String) :
    reported (direction.report ("decode error: " ++ status ++ " at byte index " ++ index)) =
      false := by
  have spelled : ("decode error: " ++ status ++ " at byte index " ++ index).toList =
      'd' :: ("ecode error: " ++ status ++ " at byte index " ++ index).toList := by
    simp
  exact reported_letter direction.plain_label.1 spelled (by decide)

namespace Direction

theorem wordsOf_report (direction : Direction) {words : List String}
    (plain : ∀ word ∈ words, Plain word) (filled : words ≠ []) :
    wordsOf (direction.report (spaced words)) = direction.label :: words := by
  unfold report
  rw [wordsOf_open direction.plain_label.1, wordsOf_spaced plain filled]

theorem announced_command (call : CommandCall) :
    announced (hostToDevice.report (CommandDecoderText.line call)) =
      decide (call.kind = .whole) := by
  unfold announced reported CommandDecoderText.line
  rw [wordsOf_report _ (CommandDecoderText.plain_words call)
    (CommandDecoderText.words_ne_nil call)]
  cases call with
  | tx query answered => cases query <;> rfl
  | _ => rfl

theorem announced_event (call : EventCall) :
    announced (deviceToHost.report (EventDecoderText.line call)) =
      decide (call.kind = .whole) := by
  unfold announced reported EventDecoderText.line
  rw [wordsOf_report _ (EventDecoderText.plain_words call) (EventDecoderText.words_ne_nil call)]
  cases call with
  | stream kind query answered => cases kind <;> cases query <;> rfl
  | _ => rfl

end Direction

/-! ### What a frame says -/

/-- The calls of fixed length a frame leads to when it is completed. -/
def commandSaid (frame : List UInt8) : List CommandCall :=
  match parseCommand frame with
  | .accepted command => command.calls.filter fun call => call.kind = .whole
  | _ => []

def eventSaid (frame : List UInt8) : List EventCall :=
  match parseEvent frame with
  | .accepted event => event.calls.filter fun call => call.kind = .whole
  | _ => []

/-- The lines that announce what a frame says. -/
def Direction.announcements : Direction → List UInt8 → List String
  | .hostToDevice, frame => (commandSaid frame).map fun call =>
      Direction.hostToDevice.report (CommandDecoderText.line call)
  | .deviceToHost, frame => (eventSaid frame).map fun call =>
      Direction.deviceToHost.report (EventDecoderText.line call)

theorem whole_streamCalls {Call : Type} {kind : Call → CallKind}
    {wrap : StreamCall → StreamCbStatus → Call}
    (streams : ∀ query, kind (wrap query .ok) = .stream) (interface : UInt8)
    (payload : List UInt8) :
    (streamCalls wrap interface payload).filter (fun call => kind call = .whole) = [] := by
  rw [List.filter_eq_nil_iff]
  intro call member isWhole
  obtain ⟨query, rfl⟩ := mem_streamCalls member
  rw [streams] at isWhole
  exact absurd isWhole (by decide)

theorem whole_commandPut (input : List UInt8) (byte : UInt8) :
    (commandPutCalls input byte).filter (fun call => call.kind = .whole) = [] := by
  unfold commandPutCalls
  repeat' split
  all_goals rfl

theorem whole_eventPut (input : List UInt8) (byte : UInt8) :
    (eventPutCalls input byte).filter (fun call => call.kind = .whole) = [] := by
  unfold eventPutCalls
  repeat' split
  all_goals rfl

theorem whole_commandEnd (input : List UInt8) :
    (commandEndCalls input).filter (fun call => call.kind = .whole) = commandSaid input := by
  cases input with
  | nil => rfl
  | cons header payload =>
      cases CommandDecoder.opcodeClass (lowNibble_lt header) with
      | unknown length notData table =>
          have parsed : parseCommand (header :: payload) =
              .rejected (highNibble header) (lowNibble header) .unknownOpcode := by
            change parsePayload header payload (lowNibble header).toNat = _
            unfold parsePayload
            rw [if_neg notData, table]
          rw [CommandDecoder.endCalls_refused length, commandSaid, parsed]
          rfl
      | streamed length data =>
          have parsed : parseCommand (header :: payload) =
              .accepted (.transmit (Interface.ofHeader header) payload) := if_pos data
          rw [CommandDecoder.endCalls_streamed length, commandSaid, parsed]
          exact (whole_streamCalls (fun _ => rfl) _ _).symm
      | fixed size _ length _ _ _ _ =>
          rw [commandEndCalls, CommandDecoder.commandReading_fixed length, commandSaid]
          dsimp only
          cases parseCommand (header :: payload) with
          | empty => rfl
          | accepted command => rfl
          | rejected interface opcode status =>
              dsimp only
              split <;> rfl

theorem whole_eventEnd (input : List UInt8) :
    (eventEndCalls input).filter (fun call => call.kind = .whole) = eventSaid input := by
  cases input with
  | nil => rfl
  | cons header payload =>
      cases EventDecoder.opcodeReading (lowNibble_lt header) with
      | unknown length notStream table =>
          have parsed : parseEvent (header :: payload) =
              .rejected (highNibble header) (lowNibble header) .unknownOpcode := by
            change parseEventPayload header payload (lowNibble header).toNat = _
            unfold parseEventPayload
            rw [notStream, table]
          rw [EventDecoder.endCalls_refused length, eventSaid, parsed]
          rfl
      | streamed kind nibble length table =>
          have parsed : parseEvent (header :: payload) =
              .accepted (.stat kind (Interface.ofHeader header) payload) := by
            change parseEventPayload header payload (lowNibble header).toNat = _
            unfold parseEventPayload
            rw [table]
          rw [EventDecoder.endCalls_streamed nibble, eventSaid, parsed]
          exact (whole_streamCalls (fun _ => rfl) _ _).symm
      | fixed size _ length _ _ _ _ =>
          rw [eventEndCalls, EventDecoder.eventReading_fixed length, eventSaid]
          dsimp only
          cases parseEvent (header :: payload) with
          | empty => rfl
          | accepted event => rfl
          | rejected interface opcode status =>
              dsimp only
              split <;> rfl

namespace Direction

/-- Where a predicate on lines tells the kind of the calls, it picks their lines. -/
theorem filter_reports {Call : Type} {line : Call → String} {kind : Call → CallKind}
    (tells : ∀ call, announced (line call) = decide (kind call = .whole)) (calls : List Call) :
    (calls.map line).filter announced =
      (calls.filter fun call => kind call = .whole).map line := by
  rw [List.filter_map]
  congr 2
  funext call
  exact tells call

theorem announced_put (direction : Direction) (input : List UInt8) (byte : UInt8) :
    (direction.script.put input byte).filter announced = [] := by
  cases direction with
  | hostToDevice =>
      have silent : (commandPutDiagnostics input).filter announced = [] :=
        filter_announcements (fun _ => announcement_put) fun _ => announced_silent
      change (commandPutDiagnostics input ++ _).filter announced = []
      rw [List.filter_append, silent, filter_reports announced_command, whole_commandPut]
      rfl
  | deviceToHost =>
      change (List.map _ (eventPutCalls input byte)).filter announced = []
      rw [filter_reports announced_event, whole_eventPut]
      rfl

theorem announced_end (direction : Direction) (input : List UInt8) :
    (direction.script.endFrame input).filter announced = direction.announcements input := by
  cases direction with
  | hostToDevice =>
      have silent : (commandEndDiagnostics input).filter announced = [] :=
        filter_announcements (fun _ => announcement_end) fun _ => announced_silent
      change (commandEndDiagnostics input ++ _).filter announced = _
      rw [List.filter_append, silent, filter_reports announced_command, whole_commandEnd]
      rfl
  | deviceToHost =>
      change (List.map _ (eventEndCalls input)).filter announced = _
      rw [filter_reports announced_event, whole_eventEnd]
      rfl

end Direction

/-! ### What a run announces -/

/-- The callbacks announce what the frames they complete say, in order. -/
theorem announced_callbacks (kiss : KissLibrary KissDecoder KissStatus) (direction : Direction)
    (capture : Capture) (callbacks : List (KissCallback KissStatus)) :
    (outputAlone (hear kiss) direction capture callbacks).filter announced =
      (completedFrames kiss capture.pending callbacks).flatMap direction.announcements := by
  induction callbacks generalizing capture with
  | nil => rfl
  | cons callback rest ih =>
      rw [outputAlone_cons, List.filter_append, ih]
      cases callback with
      | start => rfl
      | data byte byteIndex =>
          change (direction.script.put capture.pending byte).filter announced ++ _ = _
          rw [direction.announced_put]
          rfl
      | endFrame info =>
          rw [completedFrames]
          by_cases complete : info.status = kiss.frameComplete
          · have told : hear kiss direction capture (.endFrame info) =
                ({ capture with pending := [] }, direction.script.endFrame capture.pending) :=
              if_pos complete
            rw [told, if_pos complete, List.flatMap_cons, direction.announced_end]
          · have told : hear kiss direction capture (.endFrame info) =
                (capture, [direction.report (frameErrorLine kiss info)]) :=
              if_neg complete
            have silent : announced (direction.report (frameErrorLine kiss info)) = false :=
              announced_silent (reported_frameError direction _ _)
            rw [told, if_neg complete, List.filter_singleton, silent]
            rfl
      | error status index =>
          have silent : announced (direction.report (decodeErrorLine kiss status index)) = false :=
            announced_silent (reported_decodeError direction _ _)
          change [direction.report (decodeErrorLine kiss status index)].filter announced ++ _ = _
          rw [List.filter_singleton, silent]
          rfl

theorem Direction.labelled_announcements (direction : Direction) (frame : List UInt8) :
    ∀ line ∈ direction.announcements frame, labelled direction.label line = true := by
  intro line member
  cases direction with
  | hostToDevice =>
      obtain ⟨call, _, rfl⟩ := List.mem_map.mp member
      exact Direction.labelled_report _ _
  | deviceToHost =>
      obtain ⟨call, _, rfl⟩ := List.mem_map.mp member
      exact Direction.labelled_report _ _

namespace Monitor

variable {kiss : KissLibrary KissDecoder KissStatus}

/-- The lines under a label, told from the callbacks of the bytes of its direction. -/
theorem under_decodeAll (clean : ∀ status, OneLine (kiss.statusToString status))
    (chunks : List (Direction × List UInt8)) (direction : Direction) :
    under direction.label ((init kiss "").decodeAll kiss chunks).stdout =
      (outputAlone (hear kiss) direction (unseen kiss).capture
        (kissCallbacks kiss kiss.init (select direction chunks).flatten)).filter
          (labelled direction.label) := by
  have printed := ((init_follows kiss "").decodeAll kiss chunks).2
  have nothing : (init kiss "").stdout = "" := rfl
  rw [printed, nothing, String.empty_append, under_transcript clean, select_tagged, observe_alone]
  rfl

/-- A kind of lines that are all labelled can be picked out before or after the label is. -/
theorem under_filter (clean : ∀ status, OneLine (kiss.statusToString status))
    (chunks : List (Direction × List UInt8)) {direction : Direction} {kept : String → Bool}
    {lines : List String}
    (told : (outputAlone (hear kiss) direction (unseen kiss).capture
      (kissCallbacks kiss kiss.init (select direction chunks).flatten)).filter kept = lines)
    (allLabelled : ∀ line ∈ lines, labelled direction.label line = true) :
    (under direction.label ((init kiss "").decodeAll kiss chunks).stdout).filter kept = lines := by
  rw [under_decodeAll clean, List.filter_filter, ← List.filter_eq_self.mpr allLabelled, ← told,
    List.filter_filter]
  congr 1
  funext line
  exact Bool.and_comm _ _

/-- Over any interleaving, the lines of a direction that announce something are those of the
frames completed in it. -/
theorem announces_completed (clean : ∀ status, OneLine (kiss.statusToString status))
    (chunks : List (Direction × List UInt8)) (direction : Direction) :
    (under direction.label ((init kiss "").decodeAll kiss chunks).stdout).filter announced =
      (completedFrames kiss []
        (kissCallbacks kiss kiss.init (select direction chunks).flatten)).flatMap
          direction.announcements := by
  apply under_filter clean chunks (announced_callbacks kiss direction _ _)
  intro line member
  obtain ⟨frame, _, isAnnounced⟩ := List.mem_flatMap.mp member
  exact direction.labelled_announcements frame line isAnnounced

theorem announces_ready :
    (under Direction.hostToDevice.label
        ((init .delimited "").decodeAll .delimited readyAndBlink).stdout).filter announced =
      ["H->D COMMAND READY"] :=
  announces_completed (by decide) readyAndBlink .hostToDevice

end Monitor

end RNodeProtocol
