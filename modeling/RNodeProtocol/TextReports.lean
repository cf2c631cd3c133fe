/-
The names in the error lines of the text decoders.

A rejected frame prints one line, and the opcode in it is the nibble of the
header.  The command decoder looks its name up among constants that are nibbles
themselves, and finds it; the constants of the events have a high nibble of
their own, so the event decoder finds no name for any event it rejects.
-/

import RNodeProtocol.CommandDecoderText
import RNodeProtocol.EventDecoderFrames
import RNodeProtocol.EventDecoderText
import RNodeProtocol.Reencoding

namespace RNodeProtocol

open ByteNumerals FramedInput

/-! ### Rejected frames, recorded -/

namespace CommandDecoder

variable {answer : CommandAnswer} {decoder : CommandDecoder (List CommandCall)}

theorem dispatchCall_slot {interface opcode : UInt8} {value : UInt32} {call : CommandCall}
    (dispatched : dispatchCall interface opcode value = .ok call) : call.slot ≠ .error := by
  unfold dispatchCall at dispatched
  repeat' split at dispatched
  all_goals cases dispatched
  all_goals exact nofun

/-- The error callback is invoked for this frame. -/
def Rejects (decoder : CommandDecoder (List CommandCall)) (frame : List UInt8) : Prop :=
  ∃ call ∈ decoder.heard frame, call.slot = .error

theorem Rejects.mem {frame : List UInt8} (rejects : decoder.Rejects frame)
    {calls : List CommandCall}
    (told : (machine.fed decoder frame).context = decoder.context ++ calls) :
    ∃ call ∈ calls, call.slot = .error := by
  have heard : decoder.heard frame = calls := by
    change (machine.fed decoder frame).context.drop decoder.context.length = calls
    rw [told, List.drop_left]
  rw [← heard]
  exact rejects

/-- A known frame that is rejected is told as one error under its own header. -/
theorem Recorded.fed_rejected (recorded : Recorded (fun _ => true) answer decoder)
    (accepting : AcceptsAfter answer decoder.context) (header : UInt8) (payload : List UInt8)
    (known : rnodeProtoOpcodeLength (lowNibble header) ≠ -2)
    (rejects : decoder.Rejects (header :: payload)) :
    ∃ index status, (machine.fed decoder (header :: payload)).context =
      decoder.context ++ [.error (highNibble header) (lowNibble header) index status] := by
  have fed : machine.fed decoder (header :: payload) =
      (machine.putAll decoder.start (header :: payload)).endFrame.1 :=
    failStop.fed_eq decoder (header :: payload)
  cases opcodeClass (lowNibble_lt header) with
  | unknown length _ _ => exact absurd length known
  | streamed length _ =>
      have told := recorded.start.frame_streamed rfl accepting header payload length
      rw [← fed] at told
      obtain ⟨call, member, isError⟩ := rejects.mem told
      obtain ⟨query, rfl⟩ := mem_streamCalls member
      cases query <;> cases isError
  | fixed size short length _ _ _ _ =>
      by_cases sized : payload.length = size
      · subst sized
        have told := recorded.start.frame_fixed rfl header payload short length
        rw [← fed] at told
        cases dispatched : dispatchCall (highNibble header) (lowNibble header)
            (UInt32.ofNat (bigEndian payload)) with
        | ok reported =>
            rw [dispatched] at told
            obtain ⟨call, member, isError⟩ := rejects.mem told
            rw [List.mem_singleton.mp member] at isError
            exact absurd isError (dispatchCall_slot dispatched)
        | error status =>
            rw [dispatched] at told
            exact ⟨_, status, told⟩
      · have told := recorded.start.frame_fixed_length rfl header payload short length sized
        rw [← fed] at told
        exact ⟨_, .invalidLength, told⟩

end CommandDecoder

namespace EventDecoder

variable {answer : EventAnswer} {decoder : EventDecoder (List EventCall)}

theorem dispatchCall_slot {interface opcode : UInt8} {value : UInt32} {call : EventCall}
    (dispatched : dispatchCall interface opcode value = .ok call) : call.slot ≠ .error := by
  cases dispatched_of_ok dispatched <;> exact nofun

theorem mem_streamHeard {kind : StreamKind} {interface : UInt8} {first : Nat}
    {payload : List UInt8} {call : EventCall}
    (member : call ∈ streamHeard (fun _ => true) kind interface first payload) :
    ∃ query, call = .stream kind query .ok := by
  rcases List.mem_append.mp member with earlier | closing
  · rcases List.mem_append.mp earlier with opening | data
    · exact ⟨_, List.mem_singleton.mp opening⟩
    · exact mem_dataCalls data
  · exact ⟨_, List.mem_singleton.mp closing⟩

/-- The error callback is invoked for this frame. -/
def Rejects (decoder : EventDecoder (List EventCall)) (frame : List UInt8) : Prop :=
  ∃ call ∈ (machine.fed decoder frame).context.drop decoder.context.length, call.slot = .error

theorem Rejects.mem {frame : List UInt8} (rejects : decoder.Rejects frame)
    {calls : List EventCall}
    (told : (machine.fed decoder frame).context = decoder.context ++ calls) :
    ∃ call ∈ calls, call.slot = .error := by
  unfold Rejects at rejects
  rw [told, List.drop_left] at rejects
  exact rejects

/-- A fixed-length frame under this header, in progress or rejected for its length. -/
inductive ReadsFixed (header : UInt8) (base : List EventCall)
    (decoder : EventDecoder (List EventCall)) : Prop where
  | reading (reading : decoder.state = .readFixed)
      (interface : decoder.interface = highNibble header)
      (opcode : decoder.opcode = lowNibble header) (context : decoder.context = base)
  | rejected (aborted : decoder.state = .abort) (index : UInt32)
      (context : decoder.context =
        base ++ [.error (highNibble header) (lowNibble header) index .invalidLength])

theorem Recorded.put_readsFixed (recorded : Recorded (fun _ => true) answer decoder)
    {header : UInt8} {base : List EventCall} (reads : ReadsFixed header base decoder)
    (byte : UInt8) : ReadsFixed header base (decoder.put byte).1 := by
  cases reads with
  | reading reading interface opcode context =>
      by_cases room : decoder.payloadIndex < decoder.opcodeLength.toUInt32
      · rw [put_room reading byte room]
        exact .reading reading interface opcode context
      · rw [recorded.put_full reading byte room]
        refine .rejected rfl decoder.payloadIndex ?_
        dsimp only
        rw [interface, opcode, context]
        rfl
  | rejected aborted index context =>
      rw [put_abort aborted byte]
      exact .rejected aborted index context

theorem Recorded.putAll_readsFixed (recorded : Recorded (fun _ => true) answer decoder)
    {header : UInt8} {base : List EventCall} (reads : ReadsFixed header base decoder)
    (bytes : List UInt8) : ReadsFixed header base (machine.putAll decoder bytes) := by
  induction bytes generalizing decoder with
  | nil => exact reads
  | cons byte rest ih =>
      rw [EventDecoder.putAll_cons]
      exact ih (recorded.put byte) (recorded.put_readsFixed reads byte)

/-- A fixed-length frame ends in one call, of the error callback under its own header or of
another callback. -/
theorem Recorded.end_readsFixed (recorded : Recorded (fun _ => true) answer decoder)
    {header : UInt8} {base : List EventCall} (reads : ReadsFixed header base decoder) :
    ∃ call, decoder.endFrame.1.context = base ++ [call] ∧
      ((∃ index status, call = .error (highNibble header) (lowNibble header) index status) ∨
        call.slot ≠ .error) := by
  cases reads with
  | reading reading interface opcode context =>
      have step := recorded.end_step
      generalize decoder.endFrame = result at step ⊢
      rw [← interface, ← opcode, ← context]
      cases step with
      | event _ _ call dispatched => exact ⟨call, rfl, .inr (dispatchCall_slot dispatched)⟩
      | unknown _ _ _ _ => exact ⟨_, rfl, .inl ⟨_, _, rfl⟩⟩
      | short _ _ => exact ⟨_, rfl, .inl ⟨_, _, rfl⟩⟩
      | accepted streaming _ _ _ => exact absurd (reading.symm.trans streaming) (by decide)
      | refused streaming _ _ _ _ => exact absurd (reading.symm.trans streaming) (by decide)
      | idle idle =>
          rcases idle with waiting | aborted
          · exact absurd (reading.symm.trans waiting) (by decide)
          · exact absurd (reading.symm.trans aborted) (by decide)
  | rejected aborted index context =>
      rw [end_idle (.inr aborted)]
      exact ⟨_, context, .inl ⟨index, .invalidLength, rfl⟩⟩

/-- A known frame that is rejected is told as one error under its own header. -/
theorem Recorded.fed_rejected (recorded : Recorded (fun _ => true) answer decoder)
    (accepting : AcceptsAfter answer decoder.context) (header : UInt8) (payload : List UInt8)
    (known : rnodeEventOpcodeLength (lowNibble header) ≠ -2)
    (rejects : decoder.Rejects (header :: payload)) :
    ∃ index status, (machine.fed decoder (header :: payload)).context =
      decoder.context ++ [.error (highNibble header) (lowNibble header) index status] := by
  have fed : machine.fed decoder (header :: payload) =
      (machine.putAll decoder.start (header :: payload)).endFrame.1 :=
    failStop.fed_eq decoder (header :: payload)
  cases opcodeClass (lowNibble_lt header) with
  | unknown length => exact absurd length known
  | streamed kind nibble length =>
      have told :=
        (recorded.start.frame_streamed rfl accepting header payload nibble length).2.2
      rw [← fed] at told
      obtain ⟨call, member, isError⟩ := rejects.mem told
      obtain ⟨query, rfl⟩ := mem_streamHeard member
      cases query <;> cases isError
  | fixed size short length =>
      have waiting : decoder.start.state = .wait := rfl
      have headed := put_fixedHeader waiting header (by omega) (by omega)
      have kept := recorded.start.put header
      have reads : ReadsFixed header decoder.context (decoder.start.put header).1 := by
        rw [headed]
        exact .reading rfl rfl rfl rfl
      have collected := kept.putAll_readsFixed reads payload
      obtain ⟨reported, told, either⟩ :=
        (recorded_preserved.putAll _ payload kept).end_readsFixed collected
      rw [← EventDecoder.putAll_cons, ← fed] at told
      obtain ⟨call, member, isError⟩ := rejects.mem told
      rcases either with ⟨index, status, rfl⟩ | other
      · exact ⟨index, status, told⟩
      · rw [List.mem_singleton.mp member] at isError
        exact absurd isError other

end EventDecoder

/-! ### From the log to the text -/

/-- A frame that adds one call to the recorded log does to the user context what the callback
behind that call does. -/
theorem CommandSetup.fed_context {Ctx : Type} (setup : CommandSetup Ctx)
    (memory : CommandDecoder Ctx) (operations : List (Operation UInt8)) (frame : List UInt8)
    {call : CommandCall}
    (told : (CommandDecoder.machine.fed (setup.recording memory operations) frame).context =
      (setup.recording memory operations).context ++ [call]) :
    (CommandDecoder.machine.fed (setup.reached memory operations) frame).context =
      setup.effect (setup.reached memory operations).context call := by
  have images := setup.reached_images memory operations
  have fed := (setup.lockstep.run images [.start, .write frame, .endFrame]).image
  rw [Machine.run_fed, Machine.run_fed] at fed
  rw [fed, images.image]
  change setup.contextAfter _ = setup.effect (setup.contextAfter _) call
  unfold contextAfter
  rw [told, List.foldl_append]
  rfl

theorem EventSetup.fed_context {Ctx : Type} (setup : EventSetup Ctx)
    (memory : EventDecoder Ctx) (operations : List (Operation UInt8)) (frame : List UInt8)
    {call : EventCall}
    (told : (EventDecoder.machine.fed (setup.recording memory operations) frame).context =
      (setup.recording memory operations).context ++ [call]) :
    (EventDecoder.machine.fed (setup.reached memory operations) frame).context =
      setup.effect (setup.reached memory operations).context call := by
  have images := setup.reached_images memory operations
  obtain ⟨pointers, reached, _⟩ := images.image
  obtain ⟨next, fed, _⟩ := (setup.lockstep.run images [.start, .write frame, .endFrame]).image
  rw [Machine.run_fed, Machine.run_fed] at fed
  rw [fed, reached]
  change setup.contextAfter _ = setup.effect (setup.contextAfter _) call
  unfold contextAfter
  rw [told, List.foldl_append]
  rfl

/-! ### Names -/

/-- The command an opcode nibble stands for. -/
def commandName (nibble : UInt8) : Option String :=
  match nibble with
  | 0x00 => some "DATA"
  | 0x01 => some "FREQUENCY"
  | 0x02 => some "BANDWIDTH"
  | 0x03 => some "TXPOWER"
  | 0x04 => some "SF"
  | 0x05 => some "CR"
  | 0x06 => some "RADIO_STATE"
  | 0x07 => some "RADIO_LOCK"
  | 0x08 => some "DETECT"
  | 0x0A => some "LEAVE"
  | 0x0F => some "READY"
  | _ => none

/-- The event an opcode nibble stands for. -/
def eventName (nibble : UInt8) : Option String :=
  match nibble with
  | 0x00 => some "BLINK"
  | 0x01 => some "STAT_RX"
  | 0x02 => some "STAT_TX"
  | 0x03 => some "STAT_RSSI"
  | 0x04 => some "STAT_SNR"
  | 0x08 => some "PLATFORM"
  | 0x09 => some "MCU"
  | _ => none

theorem commandName_known {nibble : UInt8} (inRange : nibble.toNat < 16)
    (known : CommandDecoder.rnodeProtoOpcodeLength nibble ≠ -2) :
    commandName nibble = some (CommandDecoderText.textDecoderOpcodeName nibble) := by
  revert known
  rcases nibble_cases inRange with
    rfl | rfl | rfl | rfl | rfl | rfl | rfl | rfl | rfl | rfl | rfl | rfl | rfl | rfl | rfl |
      rfl <;>
    decide

/-- No constant of an event is a nibble. -/
theorem eventDecoderOpcodeName_nibble {nibble : UInt8} (inRange : nibble.toNat < 16) :
    EventDecoderText.eventDecoderOpcodeName nibble = "UNKNOWN" := by
  rcases nibble_cases inRange with
    rfl | rfl | rfl | rfl | rfl | rfl | rfl | rfl | rfl | rfl | rfl | rfl | rfl | rfl | rfl |
      rfl <;>
    rfl

/-- The name of an event begins with another letter than the name printed for it. -/
theorem eventName_letter {nibble : UInt8} {name : String} (named : eventName nibble = some name) :
    ∃ letter rest, name.toList = letter :: rest ∧ letter ≠ 'U' := by
  unfold eventName at named
  split at named
  all_goals
    cases named
    try exact ⟨_, _, rfl, by decide⟩

theorem unknown_append_ne {name : String} {letter : Char} {rest : List Char}
    (spelled : name.toList = letter :: rest) (other : letter ≠ 'U') (left right : String) :
    "UNKNOWN" ++ left ≠ name ++ right := by
  intro same
  have letters := congrArg String.toList same
  rw [String.toList_append, String.toList_append, spelled] at letters
  exact other (List.cons.inj letters).1.symm

/-! ### Frames fed to a text decoder -/

inductive TextDecoder where
  | command (memory : CommandDecoder CommandDecoderText)
  | event (memory : EventDecoder EventDecoderText)

/-- A text decoder just initialised, operations on it, and a frame it is fed then. -/
structure TextRun where
  decoder : TextDecoder
  out : String
  linePrefix : Option String
  operations : List (Operation UInt8)
  header : UInt8
  payload : List UInt8

namespace TextRun

/-- The opcode of the frame is in the length table of the decoder. -/
def Known (run : TextRun) : Prop :=
  match run.decoder with
  | .command _ => CommandDecoder.rnodeProtoOpcodeLength (lowNibble run.header) ≠ -2
  | .event _ => EventDecoder.rnodeEventOpcodeLength (lowNibble run.header) ≠ -2

/-- The decoder invokes its error callback for the frame. -/
def Rejected (run : TextRun) : Prop :=
  match run.decoder with
  | .command memory =>
      ((CommandDecoderText.setup run.out run.linePrefix).recording memory run.operations).Rejects
        (run.header :: run.payload)
  | .event memory =>
      ((EventDecoderText.setup run.out run.linePrefix).recording memory run.operations).Rejects
        (run.header :: run.payload)

/-- The text log when the frame begins. -/
def before (run : TextRun) : TextLog :=
  match run.decoder with
  | .command memory =>
      (CommandDecoder.machine.run (CommandDecoderText.init memory run.out run.linePrefix)
        run.operations).context
  | .event memory =>
      (EventDecoder.machine.run (EventDecoderText.init memory run.out run.linePrefix)
        run.operations).context

/-- The text log when the frame has ended. -/
def after (run : TextRun) : TextLog :=
  match run.decoder with
  | .command memory =>
      (CommandDecoder.machine.fed
        (CommandDecoder.machine.run (CommandDecoderText.init memory run.out run.linePrefix)
          run.operations) (run.header :: run.payload)).context
  | .event memory =>
      (EventDecoder.machine.fed
        (EventDecoder.machine.run (EventDecoderText.init memory run.out run.linePrefix)
          run.operations) (run.header :: run.payload)).context

/-- The message the opcode of the frame stands for. -/
def messageName (run : TextRun) : Option String :=
  match run.decoder with
  | .command _ => commandName (lowNibble run.header)
  | .event _ => eventName (lowNibble run.header)

/-- An error line about the frame with this name in it. -/
def errorLine (run : TextRun) (name : String) (index : UInt32) (status : DecoderStatus) :
    String :=
  match run.decoder with
  | .command _ =>
      CommandDecoderText.errorLine (highNibble run.header) (lowNibble run.header) name index status
  | .event _ =>
      EventDecoderText.errorLine (highNibble run.header) (lowNibble run.header) name index status

/-- What the frame prints is one error line with this name. -/
def Prints (run : TextRun) (name : String) : Prop :=
  ∃ index status, run.after = run.before.log (run.errorLine name index status)

/-- The line the frame prints names the message that was rejected. -/
def Named (run : TextRun) : Prop :=
  ∃ name, run.messageName = some name ∧ run.Prints name

variable {memory : CommandDecoder CommandDecoderText} {eventMemory : EventDecoder EventDecoderText}
  {out : String} {linePrefix : Option String} {operations : List (Operation UInt8)}
  {header : UInt8} {payload : List UInt8}

theorem command_prints
    (known : (TextRun.mk (.command memory) out linePrefix operations header payload).Known)
    (rejected : (TextRun.mk (.command memory) out linePrefix operations header payload).Rejected) :
    (TextRun.mk (.command memory) out linePrefix operations header payload).Prints
      (CommandDecoderText.textDecoderOpcodeName (lowNibble header)) := by
  have recorded :=
    ((CommandDecoderText.setup out linePrefix).reached_images memory operations).isRecorded
  rw [CommandDecoderText.setup_registers] at recorded
  obtain ⟨index, status, told⟩ := recorded.fed_rejected
    (fun log query _ => CommandDecoderText.setup_accepts out linePrefix log query)
    header payload known rejected
  exact ⟨index, status, CommandSetup.fed_context _ memory operations (header :: payload) told⟩

theorem event_prints
    (known : (TextRun.mk (.event eventMemory) out linePrefix operations header payload).Known)
    (rejected :
      (TextRun.mk (.event eventMemory) out linePrefix operations header payload).Rejected) :
    (TextRun.mk (.event eventMemory) out linePrefix operations header payload).Prints
      "UNKNOWN" := by
  have recorded :=
    ((EventDecoderText.setup out linePrefix).reached_images eventMemory operations).isRecorded
  rw [EventDecoderText.setup_registers] at recorded
  obtain ⟨index, status, told⟩ := recorded.fed_rejected
    (fun log query _ => EventDecoderText.setup_accepts out linePrefix log query)
    header payload known rejected
  have printed := EventSetup.fed_context _ eventMemory operations (header :: payload) told
  refine ⟨index, status, ?_⟩
  rw [← eventDecoderOpcodeName_nibble (lowNibble_lt header)]
  exact printed

/-- A line with an unknown name is not a line that names an event. -/
theorem event_unnamed
    (printed : (TextRun.mk (.event eventMemory) out linePrefix operations header payload).Prints
      "UNKNOWN") :
    ¬ (TextRun.mk (.event eventMemory) out linePrefix operations header payload).Named := by
  rintro ⟨name, named, index, status, printedName⟩
  obtain ⟨unknownIndex, unknownStatus, printedUnknown⟩ := printed
  obtain ⟨letter, rest, spelled, other⟩ := eventName_letter named
  have same := congrArg TextLog.out (printedUnknown.symm.trans printedName)
  unfold TextLog.log errorLine EventDecoderText.errorLine at same
  simp only [String.append_assoc, String.append_right_inj] at same
  exact unknown_append_ne spelled other _ _ same

/-- A rejected frame is named in the line it prints exactly by the command decoder. -/
theorem named_iff_command (run : TextRun) (known : run.Known) (rejected : run.Rejected) :
    run.Named ↔ ∃ memory, run.decoder = .command memory := by
  obtain ⟨decoder, out, linePrefix, operations, header, payload⟩ := run
  cases decoder with
  | command memory =>
      have name := commandName_known (lowNibble_lt header) known
      exact iff_of_true ⟨_, name, command_prints known rejected⟩ ⟨memory, rfl⟩
  | event memory =>
      refine iff_of_false (event_unnamed (event_prints known rejected)) ?_
      rintro ⟨other, same⟩
      cases same

/-- A radio state no radio has, after a stream that was not ended. -/
theorem named_iff_command_radioState :
    (TextRun.mk (.command (CommandDecoder.zeroed (TextLog.init "" none))) "log\n" (some "[radio]")
        [.start, .put 0x10, .put 0x55] 0x36 [0x02]).Named ↔
      ∃ memory, TextDecoder.command (CommandDecoder.zeroed (TextLog.init "" none)) =
        .command memory :=
  named_iff_command
    (TextRun.mk (.command (CommandDecoder.zeroed (TextLog.init "" none))) "log\n" (some "[radio]")
      [.start, .put 0x10, .put 0x55] 0x36 [0x02])
    (by change CommandDecoder.rnodeProtoOpcodeLength _ ≠ -2; decide)
    ⟨.error 3 6 1 .invalidArgument, by decide, rfl⟩

/-- A signal strength without its value is reported as an unknown opcode. -/
theorem statRssi_unnamed :
    (TextRun.mk (.event (EventDecoder.zeroed (TextLog.init "" none))) "" none [] 0x03 []).Known ∧
      (TextRun.mk (.event (EventDecoder.zeroed (TextLog.init "" none))) "" none [] 0x03
        []).Rejected ∧
      (TextRun.mk (.event (EventDecoder.zeroed (TextLog.init "" none))) "" none [] 0x03
        []).after.out = "EVENT ERROR interface=0 opcode=0x03 (UNKNOWN) index=0 status=2\n" ∧
      ¬ (TextRun.mk (.event (EventDecoder.zeroed (TextLog.init "" none))) "" none [] 0x03
        []).Named := by
  have known : (TextRun.mk (.event (EventDecoder.zeroed (TextLog.init "" none))) "" none [] 0x03
      []).Known := by
    change EventDecoder.rnodeEventOpcodeLength _ ≠ -2
    decide
  have rejected : (TextRun.mk (.event (EventDecoder.zeroed (TextLog.init "" none))) "" none []
      0x03 []).Rejected :=
    ⟨.error 0 3 0 .invalidLength, by decide, rfl⟩
  exact ⟨known, rejected, by decide, event_unnamed (event_prints known rejected)⟩

end TextRun

end RNodeProtocol
