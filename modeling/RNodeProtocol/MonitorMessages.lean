/-
Messages on the standard output of a monitor.

A message that is handed over in one whole frame is reported by the lines of
its calls and nothing else, whatever was received before it.
-/

import RNodeProtocol.Handlers
import RNodeProtocol.MonitorFrames

namespace RNodeProtocol

open ByteNumerals FramedInput SharedOutput TextLines

/-! ### Scripts of whole frames -/

namespace CommandDecoder

/-- A frame the grammar accepts leads to no diagnostics. -/
theorem diagnostics_accepted {frame : List UInt8} {command : Command}
    (accepted : parseCommand frame = .accepted command) :
    (∀ count < frame.length, commandPutDiagnostics (frame.take count) = []) ∧
      commandEndDiagnostics frame = [] := by
  cases frame with
  | nil => cases accepted
  | cons header payload =>
      have unopened : ∀ {count : Nat},
          (∀ before < payload.length,
            commandPutDiagnostics (header :: payload.take before) = []) →
          count < (header :: payload).length →
          commandPutDiagnostics ((header :: payload).take count) = [] := by
        intro count quiet inside
        cases count with
        | zero => rfl
        | succ before => exact quiet before (Nat.lt_of_succ_lt_succ inside)
      cases opcodeClass (lowNibble_lt header) with
      | unknown unknown _ _ =>
          have reading := commandReading_unknown unknown
          refine ⟨fun _ inside => unopened (fun _ _ => ?_) inside, ?_⟩
          · rw [commandPutDiagnostics, reading]
          · rw [commandEndDiagnostics, reading]
      | streamed length _ =>
          have reading := commandReading_streamed length
          refine ⟨fun _ inside => unopened (fun _ _ => ?_) inside, ?_⟩
          · rw [commandPutDiagnostics, reading]
          · rw [commandEndDiagnostics, reading]
      | fixed size short length _ _ _ _ =>
          have reading := commandReading_fixed length
          have sized : payload.length = size := by
            by_contra different
            rw [parseCommand_length length different] at accepted
            cases accepted
          refine ⟨fun _ inside => unopened (fun before here => ?_) inside, ?_⟩
          · rw [commandPutDiagnostics, reading]
            apply if_neg
            rw [List.length_take]
            omega
          · rw [commandEndDiagnostics, reading]
            exact if_neg (fun wrong => wrong.2 sized)

end CommandDecoder

namespace Direction

/-- The lines of the message that a frame is read as. -/
def meaning : Direction → List UInt8 → Option (List String)
  | .hostToDevice, frame =>
      match parseCommand frame with
      | .accepted command => some (command.calls.map fun call =>
          hostToDevice.report (CommandDecoderText.line call))
      | _ => none
  | .deviceToHost, frame =>
      match parseEvent frame with
      | .accepted event => some (event.calls.map fun call =>
          deviceToHost.report (EventDecoderText.line call))
      | _ => none

theorem puts_quiet (input bytes : List UInt8)
    (quiet : ∀ count < bytes.length, commandPutDiagnostics (input ++ bytes.take count) = []) :
    hostToDevice.script.puts input bytes =
      (commandScript.puts input bytes).map fun call =>
        hostToDevice.report (CommandDecoderText.line call) := by
  induction bytes generalizing input with
  | nil => rfl
  | cons byte rest ih =>
      have here := quiet 0 (Nat.succ_pos _)
      rw [List.take_zero, List.append_nil] at here
      have later := ih (input ++ [byte]) (by
        intro count inside
        have next := quiet (count + 1) (Nat.succ_lt_succ inside)
        rw [List.take_succ_cons] at next
        rw [List.append_assoc]
        exact next)
      rw [Script.puts_cons, Script.puts_cons, later, List.map_append]
      change (commandPutDiagnostics input ++ _) ++ _ = _
      rw [here]
      rfl

theorem script_frame {direction : Direction} {frame : List UInt8} {lines : List String}
    (meant : direction.meaning frame = some lines) : direction.script.frame frame = lines := by
  cases direction with
  | hostToDevice =>
      cases parsed : parseCommand frame with
      | accepted command =>
          rw [meaning, parsed] at meant
          obtain ⟨quiet, quietEnd⟩ := CommandDecoder.diagnostics_accepted parsed
          have reported := CommandDecoder.script_reported frame
          rw [parsed] at reported
          have calls : commandScript.frame frame = command.calls := reported
          rw [← Option.some.inj meant, ← calls]
          unfold Script.frame
          rw [puts_quiet [] frame quiet, List.map_append]
          change _ ++ (commandEndDiagnostics frame ++ _) = _
          rw [quietEnd]
          rfl
      | _ =>
          rw [meaning, parsed] at meant
          cases meant
  | deviceToHost =>
      cases parsed : parseEvent frame with
      | accepted event =>
          rw [meaning, parsed] at meant
          rw [← Option.some.inj meant, ← EventDecoder.script_accepted parsed]
          exact eventScript.frame_map _ frame
      | _ =>
          rw [meaning, parsed] at meant
          cases meant

end Direction

/-! ### Whole frames among other callbacks -/

variable {KissDecoder KissStatus : Type}

/-- The callbacks of a frame that is handed over whole; every byte comes with some index. -/
def wholeFrame (data : List (UInt8 × UInt32)) (info : KissFrameInfo KissStatus) :
    List (KissCallback KissStatus) :=
  .start :: data.map (fun item => .data item.1 item.2) ++ [.endFrame info]

variable [DecidableEq KissStatus]

/-- What was captured before is not looked at. -/
theorem hear_captured (kiss : KissLibrary KissDecoder KissStatus) (direction : Direction)
    (captured other pending : List UInt8) (callbacks : List (KissCallback KissStatus)) :
    outputAlone (hear kiss) direction ⟨captured, pending⟩ callbacks =
      outputAlone (hear kiss) direction ⟨other, pending⟩ callbacks := by
  induction callbacks generalizing captured other pending with
  | nil => rfl
  | cons callback rest ih =>
      rw [outputAlone_cons, outputAlone_cons]
      cases callback with
      | start => rfl
      | data byte byteIndex => exact congrArg (_ ++ ·) (ih _ _ _)
      | endFrame info =>
          unfold hear
          dsimp only
          split
          · exact congrArg (_ ++ ·) (ih _ _ _)
          · exact congrArg (_ ++ ·) (ih _ _ _)
      | error status index => exact congrArg (_ ++ ·) (ih _ _ _)

theorem hear_data (kiss : KissLibrary KissDecoder KissStatus) (direction : Direction)
    (capture : Capture) (data : List (UInt8 × UInt32)) :
    outputAlone (hear kiss) direction capture (data.map fun item => .data item.1 item.2) =
        direction.script.puts capture.pending (data.map Prod.fst) ∧
      stateAlone (hear kiss) direction capture (data.map fun item => .data item.1 item.2) =
        ⟨capture.captured ++ data.map Prod.fst, capture.pending ++ data.map Prod.fst⟩ := by
  induction data generalizing capture with
  | nil =>
      rw [List.map_nil, List.map_nil, List.append_nil, List.append_nil]
      exact ⟨rfl, rfl⟩
  | cons item rest ih =>
      obtain ⟨told, reached⟩ := ih ⟨capture.captured ++ [item.1], capture.pending ++ [item.1]⟩
      rw [List.map_cons, List.map_cons, outputAlone_cons, Script.puts_cons]
      constructor
      · exact congrArg (_ ++ ·) told
      · dsimp only at reached
        rw [List.append_assoc, List.append_assoc] at reached
        exact reached

/-- A whole frame prints the lines of its script, and the next callback finds a decoder as good
as new. -/
theorem hear_wholeFrame (kiss : KissLibrary KissDecoder KissStatus) (direction : Direction)
    (capture : Capture) (data : List (UInt8 × UInt32)) {info : KissFrameInfo KissStatus}
    (complete : info.status = kiss.frameComplete) (after : List (KissCallback KissStatus)) :
    outputAlone (hear kiss) direction capture (wholeFrame data info ++ after) =
      direction.script.frame (data.map Prod.fst) ++
        outputAlone (hear kiss) direction (unseen kiss).capture after := by
  have cut : wholeFrame data info ++ after =
      .start :: (data.map (fun item => .data item.1 item.2) ++ .endFrame info :: after) := by
    unfold wholeFrame
    rw [List.append_assoc]
    rfl
  have ended : ∀ current : Capture, hear kiss direction current (.endFrame info) =
      ({ current with pending := [] }, direction.script.endFrame current.pending) :=
    fun _ => if_pos complete
  obtain ⟨told, reached⟩ := hear_data kiss direction ⟨[], []⟩ data
  rw [cut, outputAlone_cons]
  change [] ++ outputAlone (hear kiss) direction ⟨[], []⟩ _ = _
  rw [outputAlone_append, told, reached, outputAlone_cons, ended, List.nil_append]
  dsimp only
  rw [hear_captured kiss direction _ [], List.nil_append]
  exact (List.append_assoc _ _ _).symm

theorem Direction.labelled_meaning {direction : Direction} {frame : List UInt8}
    {lines : List String} (meant : direction.meaning frame = some lines) :
    lines.filter (labelled direction.label) = lines := by
  apply List.filter_eq_self.mpr
  intro line member
  cases direction with
  | hostToDevice =>
      cases parsed : parseCommand frame <;> rw [meaning, parsed] at meant <;> cases meant
      obtain ⟨call, _, rfl⟩ := List.mem_map.mp member
      exact Direction.labelled_report _ _
  | deviceToHost =>
      cases parsed : parseEvent frame <;> rw [meaning, parsed] at meant <;> cases meant
      obtain ⟨call, _, rfl⟩ := List.mem_map.mp member
      exact Direction.labelled_report _ _

namespace Monitor

variable {kiss : KissLibrary KissDecoder KissStatus}

/-- Everything a direction prints, labelled or not, has its place on the standard output, and the
rest of the standard output is what the other direction prints. -/
theorem interleaved (clean : ∀ status, OneLine (kiss.statusToString status))
    (chunks : List (Direction × List UInt8)) :
    ∃ printed : List (Direction × String),
      ((init kiss "").decodeAll kiss chunks).stdout = unlines (printed.map Prod.snd) ∧
        (∀ line ∈ printed, OneLine line.2) ∧
        ∀ direction, select direction printed =
          outputAlone (observe kiss) direction (unseen kiss) (select direction chunks).flatten := by
  refine ⟨transcript kiss (fun _ => unseen kiss) (tagged chunks), ?_, ?_, ?_⟩
  · exact ((init_follows kiss "").decodeAll kiss chunks).2.trans String.empty_append
  · exact fun line member => ((observe_prints clean).together _ _ line member).1
  · intro direction
    unfold transcript
    rw [select_outputOf, select_tagged]

/-- The lines of a direction in which a message is received in one whole frame. -/
theorem observe_message (direction : Direction) {bytes : List UInt8}
    {before after : List (KissCallback KissStatus)} {data : List (UInt8 × UInt32)}
    {info : KissFrameInfo KissStatus} {lines : List String}
    (received : kissCallbacks kiss kiss.init bytes = before ++ wholeFrame data info ++ after)
    (complete : info.status = kiss.frameComplete)
    (meant : direction.meaning (data.map Prod.fst) = some lines) :
    outputAlone (observe kiss) direction (unseen kiss) bytes =
      outputAlone (hear kiss) direction (unseen kiss).capture before ++ lines ++
        outputAlone (hear kiss) direction (unseen kiss).capture after := by
  rw [observe_alone]
  change outputAlone (hear kiss) direction (unseen kiss).capture
    (kissCallbacks kiss kiss.init bytes) = _
  rw [received, List.append_assoc, outputAlone_append,
    hear_wholeFrame kiss direction _ data complete, Direction.script_frame meant,
    List.append_assoc]

/-- A message received in one whole frame is reported by its own lines, in one piece, and by
nothing else; what came before the frame makes no difference to them or to what follows. -/
theorem reports_message (clean : ∀ status, OneLine (kiss.statusToString status))
    (chunks : List (Direction × List UInt8)) (direction : Direction)
    {before after : List (KissCallback KissStatus)} {data : List (UInt8 × UInt32)}
    {info : KissFrameInfo KissStatus} {lines : List String}
    (received : kissCallbacks kiss kiss.init (select direction chunks).flatten =
      before ++ wholeFrame data info ++ after)
    (complete : info.status = kiss.frameComplete)
    (meant : direction.meaning (data.map Prod.fst) = some lines) :
    let told := outputAlone (hear kiss) direction (unseen kiss).capture
    ((init kiss "").decode kiss direction (select direction chunks).flatten).stdout =
        unlines (told before ++ lines ++ told after) ∧
      under direction.label ((init kiss "").decodeAll kiss chunks).stdout =
        (told before).filter (labelled direction.label) ++ lines ++
          (told after).filter (labelled direction.label) ∧
      ∃ printed : List (Direction × String),
        ((init kiss "").decodeAll kiss chunks).stdout = unlines (printed.map Prod.snd) ∧
          (∀ line ∈ printed, OneLine line.2) ∧
          select direction printed = told before ++ lines ++ told after ∧
          ∀ other, other ≠ direction → unlines (select other printed) =
            ((init kiss "").decode kiss other (select other chunks).flatten).stdout := by
  intro told
  have alone := observe_message direction received complete meant
  refine ⟨(stdout_decode kiss direction _).trans (congrArg unlines alone), ?_, ?_⟩
  · rw [demultiplexed clean, under_decode clean, alone, List.filter_append, List.filter_append,
      Direction.labelled_meaning meant]
  · obtain ⟨printed, text, oneLine, parts⟩ := interleaved clean chunks
    refine ⟨printed, text, oneLine, (parts direction).trans alone, ?_⟩
    intro other _
    rw [parts other, stdout_decode]

theorem reports_ready :
    ((init .delimited "").decode .delimited .hostToDevice
        (select .hostToDevice readyAndBlink).flatten).stdout =
        unlines ([] ++ ["H->D COMMAND READY"] ++ []) ∧
      under Direction.hostToDevice.label
          ((init .delimited "").decodeAll .delimited readyAndBlink).stdout =
        [] ++ ["H->D COMMAND READY"] ++ [] := by
  have received : kissCallbacks KissLibrary.delimited KissLibrary.delimited.init
      (select .hostToDevice readyAndBlink).flatten =
        [] ++ wholeFrame [(0x0F, 0)] { status := true, len := 1 } ++ [] := by decide
  have reported := reports_message (by decide) readyAndBlink .hostToDevice received rfl rfl
  exact ⟨reported.1, reported.2.1⟩

end Monitor

end RNodeProtocol
