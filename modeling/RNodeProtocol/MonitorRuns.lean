/-
The monitor follows its observers.

Between two callbacks a text decoder is the image of a recorded decoder whose
log is empty: what it has printed is in the standard output, and what it has
heard of the frame at hand is all its next lines depend on.  So handing the
standard output to it, feeding it and taking the output back adds the lines of
the script (for the command decoder see `CommandConsole`), and from there the
argument goes up: callbacks, bytes, chunks.
-/

import RNodeProtocol.MonitorObserver

namespace RNodeProtocol

open FramedInput SharedOutput TextLines

/-! ### The text decoders -/

namespace EventDecoder

open EventDecoderText (setup line)

/-- Where the output goes makes no difference to what is recorded. -/
theorem Recorded.moved {out : String} {linePrefix : Option String}
    {recorded : EventDecoder (List EventCall)}
    (isRecorded : Recorded (setup out linePrefix).registers (setup out linePrefix).answer recorded)
    (other : String) :
    Recorded (setup other linePrefix).registers (setup other linePrefix).answer recorded := by
  have answers : ∀ text, (setup text linePrefix).answer = fun _ _ => .ok := by
    intro text
    funext log query
    exact EventDecoderText.setup_accepts text linePrefix log query
  rw [EventDecoderText.setup_registers, answers] at isRecorded ⊢
  exact isRecorded

def Transcribes (linePrefix : Option String) (decoder : EventDecoder EventDecoderText)
    (input : List UInt8) : Prop :=
  ∃ out recorded, (setup out linePrefix).Images decoder recorded ∧
    Hears recorded input ∧ recorded.context = []

variable {linePrefix : Option String} {decoder : EventDecoder EventDecoderText} {input : List UInt8}

theorem Transcribes.writingTo (transcribes : Transcribes linePrefix decoder input)
    (stdout : String) :
    ∃ recorded, (setup stdout linePrefix).Images (decoder.writingTo stdout) recorded ∧
      Hears recorded input ∧ recorded.context = [] := by
  obtain ⟨out, recorded, ⟨isRecorded, pointers, rfl, points⟩, hears, silent⟩ := transcribes
  refine ⟨recorded, ⟨isRecorded.moved stdout, pointers, ?_, points⟩, hears, silent⟩
  unfold EventDecoder.writingTo EventSetup.image EventSetup.contextAfter
  rw [silent]
  rfl

theorem Hears.silenced {recorded : EventDecoder (List EventCall)} (hears : Hears recorded input) :
    Hears { recorded with context := [] } input := by
  cases hears with
  | waiting state => exact .waiting state
  | reading header payload size state interface opcode length stored counted fits holds =>
      exact .reading header payload size state interface opcode length stored counted fits holds
  | streaming header payload kind state selected interface nibble counted =>
      exact .streaming header payload kind state selected interface nibble counted
  | refused header payload state unknown => exact .refused header payload state unknown
  | overrun header payload size state length long =>
      exact .overrun header payload size state length long

theorem Transcribes.of_images {stdout : String} {recorded : EventDecoder (List EventCall)}
    (images : (setup stdout linePrefix).Images decoder recorded) (hears : Hears recorded input) :
    Transcribes linePrefix decoder input ∧
      decoder.context.out = stdout ++
        unlines (recorded.context.map fun call => TextLog.openingOf linePrefix ++ line call) := by
  obtain ⟨isRecorded, pointers, rfl, points⟩ := images
  have printed := TextLog.foldl_log (EventDecoderText.effect_line stdout linePrefix)
    recorded.context (TextLog.init stdout linePrefix)
  have moved := isRecorded.moved
    (stdout ++ (TextLog.init stdout linePrefix).printed line recorded.context)
  change (setup stdout linePrefix).contextAfter recorded.context = _ at printed
  constructor
  · refine ⟨stdout ++ (TextLog.init stdout linePrefix).printed line recorded.context,
      { recorded with context := [] },
      ⟨⟨moved.callbacks, moved.selected⟩, pointers, ?_, points⟩, hears.silenced, rfl⟩
    unfold EventSetup.image
    rw [printed]
    rfl
  · unfold EventSetup.image
    dsimp only
    rw [printed]
    unfold TextLog.printed
    rw [List.map_map]
    rfl

theorem Transcribes.start (transcribes : Transcribes linePrefix decoder input) :
    Transcribes linePrefix decoder.start [] := by
  obtain ⟨out, recorded, images, hears, silent⟩ := transcribes
  exact ⟨out, recorded.start, (setup out linePrefix).lockstep.start _ _ images,
    .waiting rfl, silent⟩

theorem Transcribes.putText (transcribes : Transcribes linePrefix decoder input)
    (stdout : String) (byte : UInt8) :
    Transcribes linePrefix (decoder.putText stdout byte) (input ++ [byte]) ∧
      (decoder.putText stdout byte).context.out = stdout ++
        unlines ((eventPutCalls input byte).map fun call =>
          TextLog.openingOf linePrefix ++ line call) := by
  obtain ⟨recorded, images, hears, silent⟩ := transcribes.writingTo stdout
  have isRecorded := images.isRecorded
  rw [EventDecoderText.setup_registers] at isRecorded
  obtain ⟨next, told⟩ := isRecorded.put_hears (EventDecoderText.setup_accepts _ _) hears byte
  have fed := (EventSetup.lockstep _).put _ _ byte images
  obtain ⟨follows, printed⟩ := Transcribes.of_images fed.1 next
  refine ⟨follows, printed.trans ?_⟩
  have logged : (machine.put recorded byte).1.context = eventPutCalls input byte := by
    rw [← List.nil_append (eventPutCalls input byte), ← silent]
    exact told
  rw [logged]

theorem Transcribes.endText (transcribes : Transcribes linePrefix decoder input)
    (stdout : String) :
    Transcribes linePrefix (decoder.endText stdout) [] ∧
      (decoder.endText stdout).context.out = stdout ++
        unlines ((eventEndCalls input).map fun call =>
          TextLog.openingOf linePrefix ++ line call) := by
  obtain ⟨recorded, images, hears, silent⟩ := transcribes.writingTo stdout
  have isRecorded := images.isRecorded
  rw [EventDecoderText.setup_registers] at isRecorded
  obtain ⟨next, told⟩ := isRecorded.end_hears (EventDecoderText.setup_accepts _ _) hears
  have fed := (EventSetup.lockstep _).endFrame _ _ images
  obtain ⟨follows, printed⟩ := Transcribes.of_images fed.1 next
  refine ⟨follows, printed.trans ?_⟩
  have logged : (machine.endFrame recorded).1.context = eventEndCalls input := by
    rw [← List.nil_append (eventEndCalls input), ← silent]
    exact told
  rw [logged]

end EventDecoder

/-- The decoder of this direction, which has heard this input of the frame at hand. -/
inductive RnodeDecoder.Transcribes : Direction → RnodeDecoder → List UInt8 → Prop where
  | command {decoder : CommandDecoder CommandDecoderText} {input : List UInt8}
      (transcribes : decoder.Transcribes (some Direction.hostToDevice.label) input) :
      Transcribes .hostToDevice (.command decoder) input
  | event {decoder : EventDecoder EventDecoderText} {input : List UInt8}
      (transcribes : decoder.Transcribes (some Direction.deviceToHost.label) input) :
      Transcribes .deviceToHost (.event decoder) input

namespace RnodeDecoder

variable {direction : Direction} {decoder : RnodeDecoder} {input : List UInt8}

theorem Transcribes.start (transcribes : Transcribes direction decoder input) :
    Transcribes direction decoder.start [] := by
  cases transcribes with
  | command transcribes => exact .command transcribes.start
  | event transcribes => exact .event transcribes.start

theorem Transcribes.put (transcribes : Transcribes direction decoder input) (stdout : String)
    (byte : UInt8) :
    Transcribes direction (decoder.put stdout byte).1 (input ++ [byte]) ∧
      (decoder.put stdout byte).2 = stdout ++ unlines (direction.script.put input byte) := by
  cases transcribes with
  | command transcribes =>
      obtain ⟨next, printed⟩ := transcribes.putText stdout byte
      exact ⟨.command next, printed⟩
  | event transcribes =>
      obtain ⟨next, printed⟩ := transcribes.putText stdout byte
      exact ⟨.event next, printed⟩

theorem Transcribes.endFrame (transcribes : Transcribes direction decoder input)
    (stdout : String) :
    Transcribes direction (decoder.endFrame stdout).1 [] ∧
      (decoder.endFrame stdout).2 = stdout ++ unlines (direction.script.endFrame input) := by
  cases transcribes with
  | command transcribes =>
      obtain ⟨next, printed⟩ := transcribes.endText stdout
      exact ⟨.command next, printed⟩
  | event transcribes =>
      obtain ⟨next, printed⟩ := transcribes.endText stdout
      exact ⟨.event next, printed⟩

end RnodeDecoder

/-! ### Frame buffers -/

namespace FrameBuffer

/-- The part of the buffer that is in use. -/
def held (buffer : FrameBuffer) : List UInt8 :=
  buffer.frame.toList.take buffer.frameLen

theorem held_length (buffer : FrameBuffer) : buffer.held.length = buffer.frameLen := by
  unfold held
  rw [List.length_take, Vector.length_toList]
  exact Nat.min_eq_left buffer.fits

theorem held_store {buffer : FrameBuffer} {captured : List UInt8}
    (holds : buffer.held = captured.take maxFrameBytes) (byte : UInt8) :
    (buffer.store byte).held = (captured ++ [byte]).take maxFrameBytes := by
  have counted : buffer.frameLen = min maxFrameBytes captured.length := by
    rw [← buffer.held_length, holds, List.length_take]
  unfold store
  split
  · rename_i room
    have short : captured.length < maxFrameBytes := by omega
    have used : buffer.frameLen = captured.length := by omega
    have whole : captured.take maxFrameBytes = captured :=
      List.take_of_length_le (Nat.le_of_lt short)
    rw [whole] at holds
    rw [List.take_of_length_le (by rw [List.length_append]; exact short)]
    unfold held at holds ⊢
    dsimp only
    have inside : buffer.frameLen < (buffer.frame.toList.set buffer.frameLen byte).length := by
      rw [List.length_set, Vector.length_toList]
      exact room
    rw [Vector.toList_set, ← List.take_append_getElem inside, List.getElem_set_self,
      List.take_set_of_le (Nat.le_refl _), holds]
  · rename_i full
    rw [List.take_append_of_le_length (by omega)]
    exact holds

end FrameBuffer

/-! ### Contexts -/

variable {KissDecoder KissStatus : Type} [DecidableEq KissStatus]

structure MonitorContext.Follows (direction : Direction) (context : MonitorContext)
    (capture : Capture) : Prop where
  labelled : context.direction = direction.label
  holds : context.frame.held = capture.captured.take maxFrameBytes
  transcribes : context.rnodeDecoder.Transcribes direction capture.pending

namespace MonitorContext

variable {direction : Direction} {context : MonitorContext} {capture : Capture}

theorem spelled_frameError (stdout label status len : String) :
    stdout ++ label ++ " [error=" ++ status ++ ", len=" ++ len ++ "]\n" =
      stdout ++ unlines [label ++ " " ++ ("[error=" ++ status ++ ", len=" ++ len ++ "]")] := by
  simp [← String.toList_inj]

theorem spelled_decodeError (stdout label status index : String) :
    stdout ++ label ++ " decode error: " ++ status ++ " at byte index " ++ index ++ "\n" =
      stdout ++ unlines [label ++ " " ++
        ("decode error: " ++ status ++ " at byte index " ++ index)] := by
  simp [← String.toList_inj]

theorem Follows.handle (follows : context.Follows direction capture)
    (kiss : KissLibrary KissDecoder KissStatus) (stdout : String)
    (callback : KissCallback KissStatus) :
    (context.handle kiss stdout callback).1.Follows direction
        (hear kiss direction capture callback).1 ∧
      (context.handle kiss stdout callback).2 =
        stdout ++ unlines (hear kiss direction capture callback).2 := by
  cases callback with
  | start =>
      exact ⟨⟨follows.labelled, rfl, follows.transcribes.start⟩, (String.append_empty).symm⟩
  | data byte byteIndex =>
      obtain ⟨next, printed⟩ := follows.transcribes.put stdout byte
      exact ⟨⟨follows.labelled, FrameBuffer.held_store follows.holds byte, next⟩, printed⟩
  | endFrame info =>
      unfold MonitorContext.handle decoderEnd hear
      dsimp only
      by_cases complete : info.status = kiss.frameComplete
      · rw [if_pos complete, if_pos complete]
        obtain ⟨next, printed⟩ := follows.transcribes.endFrame stdout
        exact ⟨⟨follows.labelled, follows.holds, next⟩, printed⟩
      · rw [if_neg complete, if_neg complete]
        refine ⟨follows, ?_⟩
        dsimp only
        rw [follows.labelled]
        exact spelled_frameError _ _ _ _
  | error status index =>
      refine ⟨follows, ?_⟩
      unfold MonitorContext.handle decoderError hear
      dsimp only
      rw [follows.labelled]
      exact spelled_decodeError _ _ _ _

theorem Follows.handleAll (follows : context.Follows direction capture)
    (kiss : KissLibrary KissDecoder KissStatus) (stdout : String)
    (callbacks : List (KissCallback KissStatus)) :
    (context.handleAll kiss stdout callbacks).1.Follows direction
        (stateAlone (hear kiss) direction capture callbacks) ∧
      (context.handleAll kiss stdout callbacks).2 =
        stdout ++ unlines (outputAlone (hear kiss) direction capture callbacks) := by
  induction callbacks generalizing context capture stdout with
  | nil => exact ⟨follows, (String.append_empty).symm⟩
  | cons callback rest ih =>
      obtain ⟨next, printed⟩ := follows.handle kiss stdout callback
      obtain ⟨final, later⟩ := ih next (context.handle kiss stdout callback).2
      refine ⟨final, later.trans ?_⟩
      rw [printed, outputAlone_cons, unlines_append, String.append_assoc]

end MonitorContext

/-! ### Channels -/

structure Channel.Follows (direction : Direction) (channel : Channel KissDecoder)
    (seen : Seen KissDecoder) : Prop where
  kissDecoder : channel.kissDecoder = seen.kissDecoder
  context : channel.context.Follows direction seen.capture

theorem Channel.Follows.put {direction : Direction} {channel : Channel KissDecoder}
    {seen : Seen KissDecoder} (follows : channel.Follows direction seen)
    (kiss : KissLibrary KissDecoder KissStatus) (stdout : String) (byte : UInt8) :
    (channel.put kiss stdout byte).1.Follows direction (observe kiss direction seen byte).1 ∧
      (channel.put kiss stdout byte).2 =
        stdout ++ unlines (observe kiss direction seen byte).2 := by
  unfold Channel.put observe
  rw [follows.kissDecoder]
  obtain ⟨next, printed⟩ := follows.context.handleAll kiss stdout
    (kiss.put seen.kissDecoder byte).2
  exact ⟨⟨rfl, next⟩, printed⟩

/-! ### Both directions -/

namespace Monitor

def channel (monitor : Monitor KissDecoder) : Direction → Channel KissDecoder
  | .hostToDevice => monitor.outgoing
  | .deviceToHost => monitor.incoming

/-- Every direction follows its observer. -/
def Follows (monitor : Monitor KissDecoder) (seen : Direction → Seen KissDecoder) : Prop :=
  ∀ direction, (monitor.channel direction).Follows direction (seen direction)

omit [DecidableEq KissStatus] in
theorem init_follows (kiss : KissLibrary KissDecoder KissStatus) (stdout : String) :
    (init kiss stdout).Follows fun _ => unseen kiss := by
  intro direction
  cases direction with
  | hostToDevice =>
      refine ⟨rfl, rfl, rfl, .command ⟨stdout, _, CommandSetup.fresh_images _ _, ?_, rfl⟩⟩
      exact .waiting rfl
  | deviceToHost =>
      refine ⟨rfl, rfl, rfl, .event ⟨stdout, _, EventSetup.fresh_images _ _, ?_, rfl⟩⟩
      exact .waiting rfl

/-- The lines of these bytes, the directions told apart. -/
def transcript (kiss : KissLibrary KissDecoder KissStatus)
    (seen : Direction → Seen KissDecoder) (bytes : List (Direction × UInt8)) :
    List (Direction × String) :=
  outputOf (observe kiss) seen bytes

theorem Follows.put {monitor : Monitor KissDecoder} {seen : Direction → Seen KissDecoder}
    (follows : monitor.Follows seen) (kiss : KissLibrary KissDecoder KissStatus)
    (direction : Direction) (byte : UInt8) :
    (monitor.decode kiss direction [byte]).Follows
        (Function.update seen direction (observe kiss direction (seen direction) byte).1) ∧
      (monitor.decode kiss direction [byte]).stdout =
        monitor.stdout ++ unlines (observe kiss direction (seen direction) byte).2 := by
  obtain ⟨next, printed⟩ := (follows direction).put kiss monitor.stdout byte
  constructor
  · intro other
    by_cases own : other = direction
    · subst own
      rw [Function.update_self]
      cases other <;> exact next
    · rw [Function.update_of_ne own]
      have kept := follows other
      cases direction <;> cases other <;> first | exact absurd rfl own | exact kept
  · cases direction <;> exact printed

theorem decode_cons (kiss : KissLibrary KissDecoder KissStatus) (monitor : Monitor KissDecoder)
    (direction : Direction) (byte : UInt8) (rest : List UInt8) :
    monitor.decode kiss direction (byte :: rest) =
      (monitor.decode kiss direction [byte]).decode kiss direction rest := by
  cases direction <;> rfl

theorem decode_eq (kiss : KissLibrary KissDecoder KissStatus) (monitor : Monitor KissDecoder)
    (direction : Direction) (bytes : List UInt8) :
    monitor.decode kiss direction bytes =
      (bytes.map (Prod.mk direction)).foldl
        (fun current event => current.decode kiss event.1 [event.2]) monitor := by
  induction bytes generalizing monitor with
  | nil => cases direction <;> rfl
  | cons byte rest ih =>
      rw [decode_cons, ih]
      rfl

theorem decodeAll_eq (kiss : KissLibrary KissDecoder KissStatus) (monitor : Monitor KissDecoder)
    (chunks : List (Direction × List UInt8)) :
    monitor.decodeAll kiss chunks =
      (tagged chunks).foldl (fun current event => current.decode kiss event.1 [event.2])
        monitor := by
  induction chunks generalizing monitor with
  | nil => rfl
  | cons chunk rest ih =>
      rw [tagged_cons, List.foldl_append, ← decode_eq]
      exact ih _

theorem Follows.run {monitor : Monitor KissDecoder} {seen : Direction → Seen KissDecoder}
    (follows : monitor.Follows seen) (kiss : KissLibrary KissDecoder KissStatus)
    (events : List (Direction × UInt8)) :
    (events.foldl (fun current event => current.decode kiss event.1 [event.2])
        monitor).Follows (statesAfter (observe kiss) seen events) ∧
      (events.foldl (fun current event => current.decode kiss event.1 [event.2])
        monitor).stdout =
        monitor.stdout ++ unlines ((transcript kiss seen events).map Prod.snd) := by
  induction events generalizing monitor seen with
  | nil => exact ⟨follows, (String.append_empty).symm⟩
  | cons event rest ih =>
      obtain ⟨next, printed⟩ := follows.put kiss event.1 event.2
      obtain ⟨final, later⟩ := ih next
      refine ⟨final, later.trans ?_⟩
      have told : (transcript kiss seen (event :: rest)).map Prod.snd =
          (observe kiss event.1 (seen event.1) event.2).2 ++
            (transcript kiss (Function.update seen event.1
              (observe kiss event.1 (seen event.1) event.2).1) rest).map Prod.snd := by
        unfold transcript
        rw [outputOf_cons, List.map_append, List.map_map]
        exact congrArg (· ++ _) (List.map_id _)
      rw [told, printed, unlines_append, String.append_assoc]

/-- A run over any chunks leaves the channels where their observers are, and the lines of the
observers on the standard output. -/
theorem Follows.decodeAll {monitor : Monitor KissDecoder} {seen : Direction → Seen KissDecoder}
    (follows : monitor.Follows seen) (kiss : KissLibrary KissDecoder KissStatus)
    (chunks : List (Direction × List UInt8)) :
    (monitor.decodeAll kiss chunks).Follows (statesAfter (observe kiss) seen (tagged chunks)) ∧
      (monitor.decodeAll kiss chunks).stdout =
        monitor.stdout ++ unlines ((transcript kiss seen (tagged chunks)).map Prod.snd) := by
  rw [decodeAll_eq]
  exact follows.run kiss (tagged chunks)

end Monitor

end RNodeProtocol
