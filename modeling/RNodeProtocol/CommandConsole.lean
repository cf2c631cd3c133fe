/-
The command decoder in text mode, with the standard output beside it.

The decoder announces a payload of the wrong length on the standard output, so
where its text goes makes a difference.  An output of its own is given one line
for each call.  The standard output, which also stands in for a missing output,
is given the same lines with the announcements among them.
-/

import RNodeProtocol.CommandDiagnostics
import RNodeProtocol.CommandTranscript

namespace RNodeProtocol

open FramedInput TextLines

/-! ### Decoders that write to the standard output -/

namespace CommandDecoder

def writingTo (decoder : CommandDecoder CommandDecoderText) (stdout : String) :
    CommandDecoder CommandDecoderText :=
  { decoder with context := { decoder.context with out := stdout } }

def putText (decoder : CommandDecoder CommandDecoderText) (stdout : String) (byte : UInt8) :
    CommandDecoder CommandDecoderText :=
  ((decoder.writingTo (stdout ++ unlines decoder.putDiagnostics)).put byte).1

def endText (decoder : CommandDecoder CommandDecoderText) (stdout : String) :
    CommandDecoder CommandDecoderText :=
  (decoder.writingTo (stdout ++ unlines decoder.endDiagnostics)).endFrame.1

end CommandDecoder

/-- The output a text decoder is given. -/
inductive TextOutput where
  | stdout
  | file
  deriving Repr, DecidableEq

/-- A text decoder with the standard output; the text of a file is kept by its context. -/
structure CommandConsole where
  stdout : String
  output : TextOutput
  decoder : CommandDecoder CommandDecoderText

namespace CommandConsole

/-- An output that is missing is replaced by the standard output; the contents are those of a
file. -/
def init (memory : CommandDecoder CommandDecoderText) (stdout contents : String)
    (out : Option TextOutput) (linePrefix : Option String) : CommandConsole :=
  { stdout := stdout
    output := out.getD .stdout
    decoder := CommandDecoderText.init memory contents linePrefix }

def start (console : CommandConsole) : CommandConsole :=
  { console with decoder := console.decoder.start }

/-- A call of the decoder that prints these lines of its own before it makes a callback. -/
def call (console : CommandConsole) (diagnostics : List String)
    (step : CommandDecoder CommandDecoderText →
      CommandDecoder CommandDecoderText × DecoderStatus) : CommandConsole × DecoderStatus :=
  let stdout := console.stdout ++ unlines diagnostics
  match console.output with
  | .stdout =>
      let stepped := step (console.decoder.writingTo stdout)
      ({ console with
          stdout := stepped.1.context.out
          decoder := stepped.1 }, stepped.2)
  | .file =>
      let stepped := step console.decoder
      ({ console with
          stdout := stdout
          decoder := stepped.1 }, stepped.2)

def put (console : CommandConsole) (byte : UInt8) : CommandConsole × DecoderStatus :=
  console.call console.decoder.putDiagnostics fun decoder => decoder.put byte

def endFrame (console : CommandConsole) : CommandConsole × DecoderStatus :=
  console.call console.decoder.endDiagnostics fun decoder => decoder.endFrame

def machine : Machine CommandConsole UInt8 DecoderStatus :=
  { accepted := .ok
    start := start
    put := put
    endFrame := endFrame }

end CommandConsole

/-! ### What is printed, told from the input -/

/-- A line of the decoder's own, or the line of a call. -/
inductive CommandPrint where
  | diagnostic (line : String)
  | told (call : CommandCall)
  deriving Repr, DecidableEq

namespace CommandPrint

def call? : CommandPrint → Option CommandCall
  | .diagnostic _ => none
  | .told call => some call

def diagnostic? : CommandPrint → Option String
  | .diagnostic line => some line
  | .told _ => none

def line (opening : String) : CommandPrint → String
  | .diagnostic line => line
  | .told call => opening ++ CommandDecoderText.line call

/-- The lines on the standard output. -/
def onStdout (output : TextOutput) (opening : String) (print : CommandPrint) : List String :=
  match output, print with
  | .file, .told _ => []
  | _, _ => [print.line opening]

def together (diagnostics : List String) (calls : List CommandCall) : List CommandPrint :=
  diagnostics.map .diagnostic ++ calls.map .told

theorem together_calls (diagnostics : List String) (calls : List CommandCall) :
    (together diagnostics calls).filterMap call? = calls := by
  unfold together
  rw [List.filterMap_append, List.filterMap_map, List.filterMap_map]
  have silent : diagnostics.filterMap (call? ∘ diagnostic) = [] :=
    List.filterMap_eq_nil_iff.mpr fun _ _ => rfl
  rw [silent]
  exact List.filterMap_some

theorem together_stdout (opening : String) (diagnostics : List String)
    (calls : List CommandCall) :
    (together diagnostics calls).flatMap (onStdout .stdout opening) =
      diagnostics ++ calls.map fun call => opening ++ CommandDecoderText.line call := by
  unfold together
  rw [List.flatMap_append, List.flatMap_map, List.flatMap_map]
  congr 1
  · exact List.flatMap_singleton' diagnostics
  · exact (List.map_eq_flatMap ..).symm

theorem together_file (opening : String) (diagnostics : List String)
    (calls : List CommandCall) :
    (together diagnostics calls).flatMap (onStdout .file opening) = diagnostics := by
  unfold together
  rw [List.flatMap_append, List.flatMap_map, List.flatMap_map]
  have silent : (calls.flatMap fun call => onStdout .file opening (.told call)) = [] :=
    List.flatMap_eq_nil_iff.mpr fun _ _ => rfl
  rw [silent, List.append_nil]
  exact List.flatMap_singleton' diagnostics

end CommandPrint

/-- The calls a command decoder is told, each with what is printed before it. -/
def commandPrintScript : Script UInt8 CommandPrint :=
  { put := fun input byte =>
      CommandPrint.together (commandPutDiagnostics input) (commandPutCalls input byte)
    endFrame := fun input =>
      CommandPrint.together (commandEndDiagnostics input) (commandEndCalls input) }

theorem commandPrintScript_calls (input : List UInt8) (operations : List (Operation UInt8)) :
    (commandPrintScript.narrate input operations).filterMap CommandPrint.call? =
      commandScript.narrate input operations := by
  have same : commandPrintScript.spell (fun print => print.call?.toList) = commandScript := by
    unfold commandPrintScript Script.spell commandScript
    simp only [← List.filterMap_eq_flatMap_toList, CommandPrint.together_calls]
  rw [List.filterMap_eq_flatMap_toList, ← Script.narrate_spell, same]

/-! ### Text decoders that follow their input -/

namespace CommandDecoder

open CommandDecoderText (setup line)

/-- The decoder has printed what it was told, and has heard this input of the frame at hand. -/
def Transcribes (linePrefix : Option String) (decoder : CommandDecoder CommandDecoderText)
    (input : List UInt8) : Prop :=
  ∃ out recorded, (setup out linePrefix).Images decoder recorded ∧
    Hears recorded input ∧ recorded.context = []

variable {linePrefix : Option String} {decoder : CommandDecoder CommandDecoderText}
  {input : List UInt8}

theorem init_transcribes (memory : CommandDecoder CommandDecoderText) (out : String)
    (linePrefix : Option String) :
    Transcribes linePrefix (CommandDecoderText.init memory out linePrefix) [] :=
  ⟨out, _, (setup out linePrefix).fresh_images memory, .waiting rfl, rfl⟩

/-- The diagnostics of a decoder depend on none of the fields an image replaces. -/
theorem Transcribes.diagnostics (transcribes : Transcribes linePrefix decoder input) :
    decoder.putDiagnostics = commandPutDiagnostics input ∧
      decoder.endDiagnostics = commandEndDiagnostics input := by
  obtain ⟨out, recorded, ⟨isRecorded, rfl⟩, hears, silent⟩ := transcribes
  exact ⟨hears.putDiagnostics_eq, hears.endDiagnostics_eq⟩

theorem Transcribes.writingTo (transcribes : Transcribes linePrefix decoder input)
    (stdout : String) : Transcribes linePrefix (decoder.writingTo stdout) input := by
  obtain ⟨out, recorded, ⟨isRecorded, rfl⟩, hears, silent⟩ := transcribes
  refine ⟨stdout, recorded, ⟨⟨isRecorded.callbacks, isRecorded.tx⟩, ?_⟩, hears, silent⟩
  unfold CommandDecoder.writingTo CommandSetup.image CommandSetup.contextAfter
  rw [silent]
  rfl

theorem Hears.silenced {recorded : CommandDecoder (List CommandCall)}
    (hears : Hears recorded input) : Hears { recorded with context := [] } input := by
  cases hears with
  | waiting state => exact .waiting state
  | reading header payload size state interface opcode length stored counted holds =>
      exact .reading header payload size state interface opcode length stored counted holds
  | streaming header payload state interface length counted =>
      exact .streaming header payload state interface length counted
  | refused header payload state unknown => exact .refused header payload state unknown
  | overrun header payload size state length long =>
      exact .overrun header payload size state length long

/-- The calls in the log of a recorded decoder are the lines its image has printed. -/
theorem Transcribes.of_images {out : String} {recorded : CommandDecoder (List CommandCall)}
    (images : (setup out linePrefix).Images decoder recorded) (hears : Hears recorded input) :
    Transcribes linePrefix decoder input ∧
      decoder.context.out = out ++
        unlines (recorded.context.map fun call => TextLog.openingOf linePrefix ++ line call) := by
  obtain ⟨isRecorded, rfl⟩ := images
  have printed := TextLog.foldl_log (CommandDecoderText.effect_line out linePrefix)
    recorded.context (TextLog.init out linePrefix)
  change (setup out linePrefix).contextAfter recorded.context = _ at printed
  constructor
  · refine ⟨out ++ (TextLog.init out linePrefix).printed line recorded.context,
      { recorded with context := [] }, ⟨⟨isRecorded.callbacks, isRecorded.tx⟩, ?_⟩,
      hears.silenced, rfl⟩
    unfold CommandSetup.image
    rw [printed]
    rfl
  · unfold CommandSetup.image
    dsimp only
    rw [printed]
    unfold TextLog.printed
    rw [List.map_map]
    rfl

theorem Transcribes.start (transcribes : Transcribes linePrefix decoder input) :
    Transcribes linePrefix decoder.start [] := by
  obtain ⟨out, recorded, images, hears, silent⟩ := transcribes
  exact ⟨out, recorded.start, (setup out linePrefix).lockstep.start _ _ images, .waiting rfl,
    silent⟩

/-- What the output of the decoder held before is what it holds now. -/
theorem Transcribes.current (transcribes : Transcribes linePrefix decoder input) :
    ∃ recorded, (setup decoder.context.out linePrefix).Images decoder recorded ∧
      Hears recorded input ∧ recorded.context = [] := by
  obtain ⟨out, recorded, images, hears, silent⟩ := transcribes
  have held : decoder.context.out = out := by
    rw [images.image, CommandSetup.image, CommandSetup.contextAfter, silent]
    rfl
  rw [held]
  exact ⟨recorded, images, hears, silent⟩

theorem Transcribes.put (transcribes : Transcribes linePrefix decoder input) (byte : UInt8) :
    Transcribes linePrefix (decoder.put byte).1 (input ++ [byte]) ∧
      (decoder.put byte).1.context.out = decoder.context.out ++
        unlines ((commandPutCalls input byte).map fun call =>
          TextLog.openingOf linePrefix ++ line call) := by
  obtain ⟨recorded, images, hears, silent⟩ := transcribes.current
  have isRecorded := images.isRecorded
  rw [CommandDecoderText.setup_registers] at isRecorded
  obtain ⟨next, told⟩ := isRecorded.put_hears
    (CommandDecoderText.setup_accepts _ _) hears byte
  have fed := (CommandSetup.lockstep _).put _ _ byte images
  obtain ⟨follows, printed⟩ := Transcribes.of_images fed.1 next
  rw [silent, List.nil_append] at told
  change (machine.put recorded byte).1.context = _ at told
  rw [told] at printed
  exact ⟨follows, printed⟩

theorem Transcribes.endFrame (transcribes : Transcribes linePrefix decoder input) :
    Transcribes linePrefix decoder.endFrame.1 [] ∧
      decoder.endFrame.1.context.out = decoder.context.out ++
        unlines ((commandEndCalls input).map fun call =>
          TextLog.openingOf linePrefix ++ line call) := by
  obtain ⟨recorded, images, hears, silent⟩ := transcribes.current
  have isRecorded := images.isRecorded
  rw [CommandDecoderText.setup_registers] at isRecorded
  obtain ⟨next, told⟩ := isRecorded.end_hears (CommandDecoderText.setup_accepts _ _) hears
  have fed := (CommandSetup.lockstep _).endFrame _ _ images
  obtain ⟨follows, printed⟩ := Transcribes.of_images fed.1 next
  rw [silent, List.nil_append] at told
  change (machine.endFrame recorded).1.context = _ at told
  rw [told] at printed
  exact ⟨follows, printed⟩

theorem Transcribes.putText (transcribes : Transcribes linePrefix decoder input)
    (stdout : String) (byte : UInt8) :
    Transcribes linePrefix (decoder.putText stdout byte) (input ++ [byte]) ∧
      (decoder.putText stdout byte).context.out = stdout ++
        unlines (commandPutDiagnostics input ++ (commandPutCalls input byte).map fun call =>
          TextLog.openingOf linePrefix ++ line call) := by
  unfold CommandDecoder.putText
  rw [transcribes.diagnostics.1, unlines_append, ← String.append_assoc]
  exact (transcribes.writingTo _).put byte

theorem Transcribes.endText (transcribes : Transcribes linePrefix decoder input)
    (stdout : String) :
    Transcribes linePrefix (decoder.endText stdout) [] ∧
      (decoder.endText stdout).context.out = stdout ++
        unlines (commandEndDiagnostics input ++ (commandEndCalls input).map fun call =>
          TextLog.openingOf linePrefix ++ line call) := by
  unfold CommandDecoder.endText
  rw [transcribes.diagnostics.2, unlines_append, ← String.append_assoc]
  exact (transcribes.writingTo _).endFrame

end CommandDecoder

/-! ### What stands on the standard output after a run -/

namespace CommandConsole

/-- The rest of a frame that was refused prints nothing and changes nothing. -/
def Dead (console : CommandConsole) : Prop :=
  console.decoder.state = .abort ∧
    (console.output = .stdout → console.decoder.context.out = console.stdout)

theorem put_dead {console : CommandConsole} (dead : console.Dead) (byte : UInt8) :
    (console.put byte).1 = console := by
  obtain ⟨stdout, output, decoder⟩ := console
  obtain ⟨aborted, printed⟩ := dead
  have silent : decoder.putDiagnostics = [] := by
    unfold CommandDecoder.putDiagnostics
    rw [aborted]
  unfold put call
  rw [silent, unlines_nil, String.append_empty]
  cases output with
  | stdout =>
      have shown : decoder.context.out = stdout := printed rfl
      have same : decoder.writingTo stdout = decoder := by
        rw [← shown]
        rfl
      dsimp only
      rw [same, CommandDecoder.put_abort aborted byte, shown]
  | file =>
      dsimp only
      rw [CommandDecoder.put_abort aborted byte]

theorem put_stops {console : CommandConsole} {byte : UInt8}
    (refused : (console.put byte).2 ≠ .ok) : (console.put byte).1.Dead := by
  obtain ⟨stdout, output, decoder⟩ := console
  cases output with
  | stdout => exact ⟨CommandDecoder.failStop.refused _ byte refused, fun _ => rfl⟩
  | file => exact ⟨CommandDecoder.failStop.refused _ byte refused, nofun⟩

theorem failStop : machine.FailStop Dead where
  refused := fun _ _ refused => put_stops refused
  inert := fun _ byte dead => put_dead dead byte

/-- A console whose decoder has heard this input of the frame at hand. -/
structure Follows (output : TextOutput) (linePrefix : Option String) (console : CommandConsole)
    (input : List UInt8) : Prop where
  output : console.output = output
  transcribes : console.decoder.Transcribes linePrefix input

/-- The letters that the lines of a print add to the standard output. -/
def letters (output : TextOutput) (linePrefix : Option String) (print : CommandPrint) :
    List Char :=
  (unlines (print.onStdout output (TextLog.openingOf linePrefix))).toList

theorem flatMap_letters (output : TextOutput) (linePrefix : Option String)
    (prints : List CommandPrint) :
    prints.flatMap (letters output linePrefix) = (unlines (prints.flatMap fun print =>
      print.onStdout output (TextLog.openingOf linePrefix))).toList := by
  induction prints with
  | nil => rfl
  | cons print rest ih =>
      rw [List.flatMap_cons, List.flatMap_cons, unlines_append, String.toList_append, ih]
      rfl

variable {output : TextOutput} {linePrefix : Option String}

theorem narrates (output : TextOutput) (linePrefix : Option String) :
    machine.Narrates (commandPrintScript.spell (letters output linePrefix))
      (fun console => console.stdout.toList) (Follows output linePrefix) where
  start := fun _ _ follows => ⟨⟨follows.output, follows.transcribes.start⟩, rfl⟩
  put := by
    rintro ⟨stdout, output, decoder⟩ input byte ⟨rfl, transcribes⟩
    change _ ∧ _ = _ ++ List.flatMap _ _
    rw [flatMap_letters, ← String.toList_append, String.toList_inj]
    cases output with
    | stdout =>
        obtain ⟨next, printed⟩ := transcribes.putText stdout byte
        refine ⟨⟨rfl, next⟩, printed.trans ?_⟩
        rw [← CommandPrint.together_stdout]
        rfl
    | file =>
        refine ⟨⟨rfl, (transcribes.put byte).1⟩, ?_⟩
        change stdout ++ unlines decoder.putDiagnostics = _
        rw [transcribes.diagnostics.1]
        congr 2
        exact (CommandPrint.together_file _ _ (commandPutCalls input byte)).symm
  endFrame := by
    rintro ⟨stdout, output, decoder⟩ input ⟨rfl, transcribes⟩
    change _ ∧ _ = _ ++ List.flatMap _ _
    rw [flatMap_letters, ← String.toList_append, String.toList_inj]
    cases output with
    | stdout =>
        obtain ⟨next, printed⟩ := transcribes.endText stdout
        refine ⟨⟨rfl, next⟩, printed.trans ?_⟩
        rw [← CommandPrint.together_stdout]
        rfl
    | file =>
        refine ⟨⟨rfl, transcribes.endFrame.1⟩, ?_⟩
        change stdout ++ unlines decoder.endDiagnostics = _
        rw [transcribes.diagnostics.2]
        congr 2
        exact (CommandPrint.together_file _ _ (commandEndCalls input)).symm

theorem run_stdout (memory : CommandDecoder CommandDecoderText) (stdout contents : String)
    (out : Option TextOutput) (linePrefix : Option String)
    (operations : List (Operation UInt8)) :
    (machine.run (init memory stdout contents out linePrefix) operations).stdout =
      stdout ++ unlines ((commandPrintScript.narrate [] operations).flatMap fun print =>
        print.onStdout (out.getD .stdout) (TextLog.openingOf linePrefix)) := by
  have follows : Follows (out.getD .stdout) linePrefix
      (init memory stdout contents out linePrefix) [] :=
    ⟨rfl, CommandDecoder.init_transcribes memory contents linePrefix⟩
  have told := ((narrates (out.getD .stdout) linePrefix).run failStop follows operations).2
  rw [Script.narrate_spell, flatMap_letters, ← String.toList_append, String.toList_inj] at told
  exact told

/-- A decoder that writes to a file runs as it does alone. -/
theorem lockstep_file : machine.Lockstep CommandDecoder.machine
    fun console decoder => console.output = .file ∧ console.decoder = decoder where
  accepted := rfl
  start := by
    rintro ⟨stdout, output, decoder⟩ _ ⟨rfl, rfl⟩
    exact ⟨rfl, rfl⟩
  put := by
    rintro ⟨stdout, output, decoder⟩ _ byte ⟨rfl, rfl⟩
    exact ⟨⟨rfl, rfl⟩, rfl⟩
  endFrame := by
    rintro ⟨stdout, output, decoder⟩ _ ⟨rfl, rfl⟩
    exact ⟨⟨rfl, rfl⟩, rfl⟩

theorem run_file (memory : CommandDecoder CommandDecoderText) (stdout contents : String)
    (linePrefix : Option String) (operations : List (Operation UInt8)) :
    (machine.run (init memory stdout contents (some .file) linePrefix) operations).decoder =
      CommandDecoder.machine.run (CommandDecoderText.init memory contents linePrefix)
        operations :=
  (lockstep_file.run ⟨rfl, rfl⟩ operations).2

end CommandConsole

/-! ### Reading the text back -/

namespace CommandPrint

/-- A diagnostic of the decoder, or a call that no callback refused. -/
def Proper : CommandPrint → Prop
  | .diagnostic line => Announcement line
  | .told call => CommandDecoderText.Accepted call

theorem script_proper : commandPrintScript.Tells Proper where
  put := by
    intro input byte print member
    rcases List.mem_append.mp member with own | told
    · obtain ⟨line, printed, rfl⟩ := List.mem_map.mp own
      exact announcement_put printed
    · obtain ⟨call, isTold, rfl⟩ := List.mem_map.mp told
      exact CommandDecoderText.script_accepted.put input byte call isTold
  endFrame := by
    intro input print member
    rcases List.mem_append.mp member with own | told
    · obtain ⟨line, printed, rfl⟩ := List.mem_map.mp own
      exact announcement_end printed
    · obtain ⟨call, isTold, rfl⟩ := List.mem_map.mp told
      exact CommandDecoderText.script_accepted.endFrame input call isTold

/-- A diagnostic is the line of no call. -/
theorem Proper.line_injective {first second : CommandPrint} (proper : first.Proper)
    (properToo : second.Proper) {opening : String}
    (same : first.line opening = second.line opening) : first = second := by
  have apart : ∀ (own : String) (call : CommandCall), Announcement own →
      own ≠ opening ++ CommandDecoderText.line call := by
    intro own call announcement same
    apply announcement.lacks_capital
    rw [same, String.toList_append]
    exact List.mem_append_right _ (CommandDecoderText.capital_line call)
  cases first with
  | diagnostic own =>
      cases second with
      | diagnostic other => exact congrArg diagnostic same
      | told call => exact absurd same (apart own call proper)
  | told call =>
      cases second with
      | diagnostic other => exact absurd same.symm (apart other call properToo)
      | told other =>
          have lines := (String.append_right_inj opening).mp same
          exact congrArg told (CommandDecoderText.line_injective proper properToo lines)

theorem Proper.oneLine {print : CommandPrint} (proper : print.Proper) {opening : String}
    (clean : OneLine opening) : OneLine (print.line opening) := by
  cases print with
  | diagnostic own => exact Announcement.oneLine proper
  | told call =>
      intro inside
      change _ ∈ (opening ++ CommandDecoderText.line call).toList at inside
      rw [String.toList_append, List.mem_append] at inside
      exact inside.elim clean (CommandDecoderText.oneLine_line call)

end CommandPrint

namespace CommandConsole

theorem getD_stdout {out : Option TextOutput} (shared : out ≠ some .file) :
    out.getD .stdout = .stdout := by
  cases out with
  | none => rfl
  | some output =>
      cases output with
      | stdout => rfl
      | file => exact absurd rfl shared

/-- What is printed on the standard output that a decoder shares. -/
theorem stdout_shared (memory : CommandDecoder CommandDecoderText) (stdout contents : String)
    {out : Option TextOutput} (shared : out ≠ some .file) (linePrefix : Option String)
    (operations : List (Operation UInt8)) :
    (machine.run (init memory stdout contents out linePrefix) operations).stdout =
      stdout ++ unlines ((commandPrintScript.narrate [] operations).map
        (CommandPrint.line (TextLog.openingOf linePrefix))) := by
  rw [run_stdout, getD_stdout shared, List.map_eq_flatMap]
  rfl

theorem stdout_file (memory : CommandDecoder CommandDecoderText) (stdout contents : String)
    (linePrefix : Option String) (operations : List (Operation UInt8)) :
    (machine.run (init memory stdout contents (some .file) linePrefix) operations).stdout =
      stdout ++ unlines ((commandPrintScript.narrate [] operations).filterMap
        CommandPrint.diagnostic?) := by
  rw [run_stdout, List.filterMap_eq_flatMap_toList]
  congr 3
  funext print
  cases print <;> rfl

theorem text_file (memory : CommandDecoder CommandDecoderText) (stdout contents : String)
    (linePrefix : Option String) (operations : List (Operation UInt8)) :
    (machine.run (init memory stdout contents (some .file) linePrefix)
        operations).decoder.context.out =
      contents ++ (TextLog.init contents linePrefix).printed CommandDecoderText.line
        (commandScript.narrate [] operations) := by
  rw [run_file, CommandDecoderText.run_text]

theorem stdout_shared_iff (memory other : CommandDecoder CommandDecoderText)
    (stdout contents : String) {out : Option TextOutput} (shared : out ≠ some .file)
    {linePrefix : Option String} (clean : OneLine (linePrefix.getD ""))
    (operations others : List (Operation UInt8)) :
    (machine.run (init other stdout contents out linePrefix) others).stdout =
        (machine.run (init memory stdout contents out linePrefix) operations).stdout ↔
      commandPrintScript.narrate [] others = commandPrintScript.narrate [] operations := by
  rw [stdout_shared _ _ _ shared, stdout_shared _ _ _ shared, String.append_right_inj]
  constructor
  · intro same
    have proper := CommandPrint.script_proper.narrate []
    apply TextLog.lines_injective (fun _ _ here there => here.line_injective there)
      (proper others) (proper operations)
    apply unlines_inj _ _ same
    · intro line member
      obtain ⟨print, isPrint, rfl⟩ := List.mem_map.mp member
      exact (proper others print isPrint).oneLine (TextLog.oneLine_opening clean)
    · intro line member
      obtain ⟨print, isPrint, rfl⟩ := List.mem_map.mp member
      exact (proper operations print isPrint).oneLine (TextLog.oneLine_opening clean)
  · intro same
    rw [same]

theorem text_file_iff (memory other : CommandDecoder CommandDecoderText)
    (stdout contents : String) (linePrefix : Option String)
    (operations others : List (Operation UInt8)) :
    (machine.run (init other stdout contents (some .file) linePrefix)
          others).decoder.context.out =
        (machine.run (init memory stdout contents (some .file) linePrefix)
          operations).decoder.context.out ↔
      commandScript.narrate [] others = commandScript.narrate [] operations := by
  rw [text_file, text_file, String.append_right_inj]
  have accepted := CommandDecoderText.script_accepted.narrate []
  constructor
  · exact TextLog.printed_injective CommandDecoderText.oneLine_line
      (fun _ _ => CommandDecoderText.line_injective) (accepted others) (accepted operations)
  · intro same
    rw [same]

/-- Where the text goes to a file it has one line for each call, and the diagnostics stand on the
standard output; else both stand there in the order they were made.  No run leaves the text of
another that was told other calls or diagnostics. -/
theorem transcript_told (memory : CommandDecoder CommandDecoderText) (stdout contents : String)
    (linePrefix : Option String) (clean : OneLine (linePrefix.getD ""))
    (operations : List (Operation UInt8)) :
    let console := fun memory out operations =>
      machine.run (init memory stdout contents out linePrefix) operations
    let calls := commandScript.narrate [] operations
    let prints := commandPrintScript.narrate [] operations
    let line := CommandPrint.line (TextLog.openingOf linePrefix)
    prints.filterMap CommandPrint.call? = calls ∧
      (console memory (some .file) operations).decoder.context.out =
        contents ++ unlines (calls.map fun call => line (.told call)) ∧
      (console memory (some .file) operations).stdout =
        stdout ++ unlines (prints.filterMap CommandPrint.diagnostic?) ∧
      (∀ out, out ≠ some .file →
        (console memory out operations).stdout = stdout ++ unlines (prints.map line)) ∧
      ∀ other others,
        ((console other (some .file) others).decoder.context.out =
            (console memory (some .file) operations).decoder.context.out ↔
          commandScript.narrate [] others = calls) ∧
        ∀ out, out ≠ some .file →
          ((console other out others).stdout = (console memory out operations).stdout ↔
            commandPrintScript.narrate [] others = prints) := by
  intro console calls prints line
  refine ⟨commandPrintScript_calls [] operations, ?_, stdout_file _ _ _ _ _, ?_, ?_⟩
  · refine (text_file memory stdout contents linePrefix operations).trans ?_
    unfold TextLog.printed
    rw [List.map_map]
    rfl
  · intro out shared
    exact stdout_shared _ _ _ shared _ _
  · intro other others
    refine ⟨text_file_iff _ _ _ _ _ _ _, ?_⟩
    intro out shared
    exact stdout_shared_iff _ _ _ _ shared clean _ _

/-- A READY command, and a command without its argument, under the label of the monitor. -/
theorem transcript_told_short :
    (machine.run (init (CommandDecoder.zeroed (TextLog.init "" none)) "" "" none (some "H->D"))
        [.start, .write [0x0F], .endFrame, .start, .put 0x06, .endFrame]).stdout =
      unlines ["H->D COMMAND READY", "-------------- fewer -- expected 1 bytes",
        "H->D COMMAND ERROR INVALID_LENGTH: interface=0 opcode=0x06 (RADIO_STATE) index=0 " ++
          "status=2"] := by
  obtain ⟨_, _, _, shared, _⟩ := transcript_told (CommandDecoder.zeroed (TextLog.init "" none))
    "" "" (some "H->D") (by decide) [.start, .write [0x0F], .endFrame, .start, .put 0x06, .endFrame]
  rw [shared none (by decide)]
  decide

end CommandConsole

end RNodeProtocol
