/-
What a decoder does to the context of its user.

Whoever registers callbacks that never refuse a stream sees a run of frames only
through what they do to the context.  Messages that are spelled in whole frames
run the callbacks of their calls, in order, however the frames are cut and
whatever was received before; the callbacks that are missing are passed over.
-/

import RNodeProtocol.CommandNarration
import RNodeProtocol.EventChannel
import RNodeProtocol.EventTranscript

namespace RNodeProtocol

open ByteNumerals FramedInput

/-! ### Commands -/

namespace CommandDecoder

/-- The script of a frame is what the grammar says of it. -/
theorem script_reported (frame : List UInt8) :
    (parseCommand frame).ReportedBy (commandScript.frame frame) := by
  have accepts : ∀ (log : List CommandCall) (query : StreamCall),
      (fun _ _ => .ok : CommandAnswer) log query = .ok := fun _ _ => rfl
  have recorded := fresh_recorded (zeroed []) (fun _ => true) (fun _ _ => .ok)
  obtain ⟨calls, reported, logged⟩ := recorded.frame rfl (fun _ _ _ => rfl) frame
  obtain ⟨heard, told⟩ := (narrates accepts).putAll ⟨recorded, .waiting rfl⟩ frame
  have ended := ((narrates accepts).endFrame _ _ heard).2
  rw [told, List.append_assoc] at ended
  have same := List.append_cancel_left (logged.symm.trans ended)
  rw [same] at reported
  exact reported

theorem script_accepted {frame : List UInt8} {command : Command}
    (accepted : parseCommand frame = .accepted command) :
    commandScript.frame frame = command.calls := by
  have reported := script_reported frame
  rw [accepted] at reported
  exact reported

end CommandDecoder

/-- Commands run their callbacks on the context that was left before them. -/
theorem CommandSetup.commands_handled {Ctx : Type} (setup : CommandSetup Ctx)
    (accepting : setup.Accepting) (memory : CommandDecoder Ctx)
    (before : List (Operation UInt8)) {frames : List (List (List UInt8))}
    {commands : List Command}
    (spelled : List.Forall₂ (fun chunks command => parseCommand chunks.flatten = .accepted command)
      frames commands) :
    (setup.reached memory (before ++ frames.flatMap chunked)).context =
      (commands.flatMap Command.calls).foldl setup.effect
        (setup.reached memory before).context := by
  have told : ∀ frame command, parseCommand frame = .accepted command →
      commandScript.frame frame = command.calls := fun _ _ => CommandDecoder.script_accepted
  rw [setup.reached_context_narrated accepting, setup.reached_context_narrated accepting,
    Script.narrate_append, List.foldl_append, commandScript.narrate_messages told spelled]

/-- A user that counts READY commands and registers nothing else. -/
def CommandSetup.countingReady : CommandSetup Nat :=
  { context := 0
    callbacks :=
      { detectCb := none
        setFrequencyCb := none
        setBandwidthCb := none
        setTxpowerCb := none
        setSpreadingFactorCb := none
        setCodingRateCb := none
        setRadioStateCb := none
        readyCb := some fun count => count + 1
        lockCb := none
        leaveCb := none
        errorCb := none }
    tx :=
      { startCb := none
        dataCb := none
        endCb := none } }

theorem CommandSetup.commands_handled_ready :
    (CommandSetup.countingReady.reached (CommandDecoder.zeroed 0)
        ([.put 0x01] ++ [[[0x0F]], [[0x00, 0x55], [], [0x0F]], [[0x0F], []]].flatMap
          chunked)).context = 2 :=
  have accepting : CommandSetup.countingReady.Accepting := fun _ call => by cases call <;> rfl
  have spelled : List.Forall₂
      (fun (chunks : List (List UInt8)) command => parseCommand chunks.flatten = .accepted command)
      [[[0x0F]], [[0x00, 0x55], [], [0x0F]], [[0x0F], []]]
      [.ready, .transmit (Interface.ofHeader 0x00) [0x55, 0x0F], .ready] :=
    .cons rfl (.cons rfl (.cons rfl .nil))
  CommandSetup.countingReady.commands_handled accepting (CommandDecoder.zeroed 0) [.put 0x01]
    spelled

/-! ### Events -/

namespace EventDecoder

theorem script_accepted {frame : List UInt8} {event : Event}
    (accepted : parseEvent frame = .accepted event) : eventScript.frame frame = event.calls := by
  have accepts : ∀ (log : List EventCall) (query : StreamKind × StreamCall),
      (fun _ _ => .ok : EventAnswer) log query = .ok := fun _ _ => rfl
  have recorded := fresh_recorded (zeroed []) (fun _ => true) (fun _ _ => .ok)
  obtain ⟨_, _, logged⟩ := recorded.frame_accepted rfl (fun _ _ _ => rfl) accepted
  obtain ⟨heard, told⟩ := (narrates accepts).putAll ⟨recorded, .waiting rfl⟩ frame
  have ended := ((narrates accepts).endFrame _ _ heard).2
  rw [told, List.append_assoc] at ended
  have same := List.append_cancel_left (logged.symm.trans ended)
  rw [heard_registered] at same
  exact same.symm

end EventDecoder

/-- Events run their callbacks on the context that was left before them. -/
theorem EventSetup.events_handled {Ctx : Type} (setup : EventSetup Ctx)
    (complete : setup.registers = fun _ => true) (accepting : setup.Accepting)
    (memory : EventDecoder Ctx) (before : List (Operation UInt8))
    {frames : List (List (List UInt8))} {events : List Event}
    (spelled : List.Forall₂ (fun chunks event => parseEvent chunks.flatten = .accepted event)
      frames events) :
    (setup.reached memory (before ++ frames.flatMap chunked)).context =
      (events.flatMap Event.calls).foldl setup.effect (setup.reached memory before).context := by
  have told : ∀ frame event, parseEvent frame = .accepted event →
      eventScript.frame frame = event.calls := fun _ _ => EventDecoder.script_accepted
  rw [setup.reached_context_scripted complete accepting,
    setup.reached_context_scripted complete accepting, Script.narrate_append, List.foldl_append,
    eventScript.narrate_messages told spelled]

theorem EventSetup.events_handled_blink :
    ((EventDecoderText.setup "" (some "H<-D")).reached
        (EventDecoder.zeroed (TextLog.init "" none))
        ([.put 0x03] ++ [[[0x00]]].flatMap chunked)).context.out = "H<-D EVENT BLINK\n" :=
  have spelled : List.Forall₂
      (fun (chunks : List (List UInt8)) event => parseEvent chunks.flatten = .accepted event)
      [[[0x00]]] [.blink (Interface.ofHeader 0x00)] := .cons rfl .nil
  congrArg TextLog.out ((EventDecoderText.setup "" (some "H<-D")).events_handled
    (EventDecoderText.setup_registers "" _) (EventDecoderText.accepting "" _)
    (EventDecoder.zeroed (TextLog.init "" none)) [.put 0x03] spelled)

end RNodeProtocol
