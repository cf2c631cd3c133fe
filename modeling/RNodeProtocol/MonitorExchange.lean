/-
An exchange under the monitor.

A host makes requests of its command encoder and a device emits events; both put
their frames on a cable, which keeps the operations a decoder at its end goes
through.  Where the KISS decoders of the monitor hand over what was put on the
two cables, the monitor reports the granted requests of the host and what a
decoder makes of the emissions of the device: from one end of the system to the
other nothing is lost, added or reordered within a direction.
-/

import RNodeProtocol.CommandChannel
import RNodeProtocol.EmissionReports
import RNodeProtocol.MonitorTap

namespace RNodeProtocol

open ByteNumerals FramedInput RequestLog SharedOutput TextLines

/-! ### Cables -/

abbrev Cable := List (Operation UInt8)

/-- The receiver at the end of a cable keeps what it is handed. -/
def cable : Machine Cable UInt8 DecoderStatus :=
  { accepted := .ok
    start := fun operations => operations ++ [.start]
    put := fun operations byte => (operations ++ [.put byte], .ok)
    endFrame := fun operations => (operations ++ [.endFrame], .ok) }

theorem cable_putAll (operations : Cable) (bytes : List UInt8) :
    cable.putAll operations bytes = operations ++ bytes.map .put := by
  induction bytes generalizing operations with
  | nil => exact (List.append_nil _).symm
  | cons byte rest ih =>
      rw [Machine.putAll_cons, ih]
      exact List.append_assoc _ _ _

theorem cable_run (operations : Cable) (frames : List (List UInt8)) :
    cable.run operations (frames.flatMap singly) = operations ++ frames.flatMap singly := by
  induction frames generalizing operations with
  | nil => exact (List.append_nil _).symm
  | cons bytes rest ih =>
      have first : cable.run operations (singly bytes) = operations ++ singly bytes := by
        rw [run_singly, cable_putAll]
        exact (congrArg (· ++ _) (List.append_assoc _ _ _)).trans (List.append_assoc _ _ _)
      rw [List.flatMap_cons, Machine.run_append, first, ih, List.append_assoc]

section Mirrored

variable {Receiver : Type} {machine : Machine Receiver UInt8 DecoderStatus} {fresh : Receiver}

/-- An encoder on a cable, and one linked to a machine that went through what is on the cable. -/
structure Mirrored (machine : Machine Receiver UInt8 DecoderStatus) (fresh : Receiver)
    (encoder : Encoder (Link Cable)) (linked : Encoder (Link Receiver)) : Prop where
  wired : Link.Wired cable encoder.frame
  linkedCabled : Link.Wired machine linked.frame
  state : encoder.state = linked.state
  received : linked.context.receiver = machine.run fresh encoder.context.receiver

variable {encoder : Encoder (Link Cable)} {linked : Encoder (Link Receiver)}

theorem Mirrored.opened (mirrored : Mirrored machine fresh encoder linked) :
    (linked.frame.opened linked.context).receiver =
      machine.run fresh (encoder.frame.opened encoder.context).receiver := by
  have onCable : (encoder.frame.opened encoder.context).receiver =
      encoder.context.receiver ++ [.start] := congrArg Link.receiver (mirrored.wired.opened _)
  rw [mirrored.linkedCabled.opened, onCable, Machine.run_concat, ← mirrored.received]
  rfl

theorem Mirrored.deliver (mirrored : Mirrored machine fresh encoder linked)
    (bytes : List UInt8) :
    (linked.frame.deliver linked.context bytes).receiver =
      machine.run fresh (encoder.frame.deliver encoder.context bytes).receiver := by
  have onCable : (encoder.frame.deliver encoder.context bytes).receiver =
      (encoder.context.receiver ++ [.start] ++ bytes.map .put) ++ [.endFrame] := by
    rw [mirrored.wired.deliver_receiver, cable_putAll]
    rfl
  have put : machine.run fresh (encoder.context.receiver ++ [.start] ++ bytes.map .put) =
      machine.putAll (machine.start linked.context.receiver) bytes := by
    rw [Machine.run_append, Machine.run_concat, ← mirrored.received, Machine.run_puts]
    rfl
  rw [mirrored.linkedCabled.deliver_receiver, onCable, Machine.run_concat, put]
  rfl

theorem Mirrored.send (mirrored : Mirrored machine fresh encoder linked) (interface : UInt8)
    (opcode : RnodeOpcode) (bytes : List UInt8) :
    Mirrored machine fresh (encoder.sendCommandAndBytes interface opcode bytes).1
        (linked.sendCommandAndBytes interface opcode bytes).1 ∧
      (encoder.sendCommandAndBytes interface opcode bytes).2 =
        (linked.sendCommandAndBytes interface opcode bytes).2 := by
  cases state : linked.state with
  | transmitting =>
      rw [Encoder.sendCommandAndBytes_busy state,
        Encoder.sendCommandAndBytes_busy (mirrored.state.trans state)]
      exact ⟨mirrored, rfl⟩
  | idle =>
      have returned := Encoder.sendCommandAndBytes_accepted mirrored.wired.accepts
        (mirrored.state.trans state) interface opcode bytes
      have linkedReturned := Encoder.sendCommandAndBytes_accepted mirrored.linkedCabled.accepts
        state interface opcode bytes
      rw [(Encoder.sendCommandAndBytes_ok returned).2,
        (Encoder.sendCommandAndBytes_ok linkedReturned).2, returned, linkedReturned]
      exact ⟨⟨⟨mirrored.wired.start, mirrored.wired.put, mirrored.wired.endFrame⟩,
        ⟨mirrored.linkedCabled.start, mirrored.linkedCabled.put, mirrored.linkedCabled.endFrame⟩,
        rfl, mirrored.deliver _⟩, rfl⟩

theorem Mirrored.start (mirrored : Mirrored machine fresh encoder linked) (interface : UInt8) :
    Mirrored machine fresh (encoder.start interface).1 (linked.start interface).1 ∧
      (encoder.start interface).2 = (linked.start interface).2 := by
  cases state : linked.state with
  | transmitting =>
      rw [Encoder.start_busy state, Encoder.start_busy (mirrored.state.trans state)]
      exact ⟨mirrored, rfl⟩
  | idle =>
      have returned := Encoder.start_accepted mirrored.wired.accepts
        (mirrored.state.trans state) interface
      have linkedReturned := Encoder.start_accepted mirrored.linkedCabled.accepts state interface
      rw [(Encoder.start_ok returned).2, (Encoder.start_ok linkedReturned).2, returned,
        linkedReturned]
      refine ⟨⟨⟨mirrored.wired.start, mirrored.wired.put, mirrored.wired.endFrame⟩,
        ⟨mirrored.linkedCabled.start, mirrored.linkedCabled.put, mirrored.linkedCabled.endFrame⟩,
        rfl, ?_⟩, rfl⟩
      dsimp only
      rw [mirrored.linkedCabled.sent, mirrored.wired.sent]
      change _ = machine.run fresh ((encoder.frame.opened encoder.context).receiver ++ [.put _])
      rw [Machine.run_concat, ← mirrored.opened]
      rfl

theorem Mirrored.data (mirrored : Mirrored machine fresh encoder linked) (byte : UInt8) :
    Mirrored machine fresh (encoder.data byte).1 (linked.data byte).1 ∧
      (encoder.data byte).2 = (linked.data byte).2 := by
  cases state : linked.state with
  | idle =>
      rw [Encoder.data_idle state, Encoder.data_idle (mirrored.state.trans state)]
      exact ⟨mirrored, rfl⟩
  | transmitting =>
      rw [Encoder.data_transmitting state,
        Encoder.data_transmitting (mirrored.state.trans state), mirrored.wired.accepts.put,
        mirrored.linkedCabled.accepts.put]
      refine ⟨⟨⟨mirrored.wired.start, mirrored.wired.put, mirrored.wired.endFrame⟩,
        ⟨mirrored.linkedCabled.start, mirrored.linkedCabled.put, mirrored.linkedCabled.endFrame⟩,
        mirrored.state, ?_⟩, rfl⟩
      dsimp only
      rw [mirrored.linkedCabled.sent, mirrored.wired.sent]
      change _ = machine.run fresh (encoder.context.receiver ++ [.put byte])
      rw [Machine.run_concat, ← mirrored.received]
      rfl

theorem Mirrored.endFrame (mirrored : Mirrored machine fresh encoder linked) :
    Mirrored machine fresh encoder.endFrame.1 linked.endFrame.1 ∧
      encoder.endFrame.2 = linked.endFrame.2 := by
  cases state : linked.state with
  | idle =>
      rw [Encoder.endFrame_idle state, Encoder.endFrame_idle (mirrored.state.trans state)]
      exact ⟨mirrored, rfl⟩
  | transmitting =>
      rw [Encoder.endFrame_transmitting state,
        Encoder.endFrame_transmitting (mirrored.state.trans state),
        mirrored.wired.accepts.endFrame, mirrored.linkedCabled.accepts.endFrame]
      refine ⟨⟨⟨mirrored.wired.start, mirrored.wired.put, mirrored.wired.endFrame⟩,
        ⟨mirrored.linkedCabled.start, mirrored.linkedCabled.put, mirrored.linkedCabled.endFrame⟩,
        rfl, ?_⟩, rfl⟩
      dsimp only
      rw [mirrored.linkedCabled.closed, mirrored.wired.closed]
      change _ = machine.run fresh (encoder.context.receiver ++ [.endFrame])
      rw [Machine.run_concat, ← mirrored.received]
      rfl

end Mirrored

/-! ### Both ends of an exchange -/

/-- The fresh encoder of a host. -/
def hostEncoder : CommandEncoder (Link Cable) :=
  CommandEncoder.init { receiver := [], statuses := [] } (some (Link.startCb cable))
    (some (Link.putCb cable)) (some (Link.endCb cable))

/-- The fresh encoder of a device. -/
def deviceEncoder : EventEncoder (Link Cable) :=
  EventEncoder.init { receiver := [], statuses := [] } (some (Link.startCb cable))
    (some (Link.putCb cable)) (some (Link.endCb cable))

theorem commands_mirrored (memory : CommandReceiver) :
    commandServer.Lockstep commandServer
      (Mirrored CommandDecoder.machine memory.accepting) where
  perform := by
    intro encoder linked request mirrored
    change Mirrored _ _ (request.perform encoder).1 (request.perform linked).1 ∧
      (request.perform encoder).2 = (request.perform linked).2
    rcases request.sends_or_streams with
      ⟨command, interface, opcode, bytes, sends⟩ | ⟨interface, rfl⟩ | ⟨byte, rfl⟩ | rfl
    · rw [sends.performs, sends.performs]
      exact mirrored.send interface opcode bytes
    · exact mirrored.start interface.value
    · exact mirrored.data byte
    · exact mirrored.endFrame

/-- What the host puts on the cable is told as the meaning of the granted requests. -/
theorem host_narrated (requests : List CommandRequest) :
    commandScript.narrate [] (commandServer.run hostEncoder requests).context.receiver =
      commandMeaning.transcript none
        (commandServer.granted (fun status => status = .frameError) hostEncoder requests) := by
  have memory : CommandReceiver := CommandDecoder.zeroed []
  have start : Mirrored CommandDecoder.machine memory.accepting hostEncoder
      (commandChannel memory) := ⟨⟨rfl, rfl, rfl⟩, ⟨rfl, rfl, rfl⟩, rfl, rfl⟩
  have ran := (commands_mirrored memory).run start requests
  have logged := commandServer_implements.log_run (commandChannel_synced memory) requests
  have told := CommandDecoder.reached_narrated memory
    (commandServer.run hostEncoder requests).context.receiver
  rw [(commands_mirrored memory).granted start requests]
  have received : commandLog (commandServer.run (commandChannel memory) requests) = _ :=
    congrArg CommandDecoder.context ran.received
  rw [received] at logged
  exact told.symm.trans logged

/-- What the device puts on the cable is told as what a decoder makes of its emissions. -/
theorem device_narrated (emissions : List EventEmission) :
    eventScript.narrate [] (emitAll deviceEncoder emissions).context.receiver =
      emissions.flatMap EventEmission.told := by
  have emits : Emits cable deviceEncoder := ⟨⟨rfl, rfl, rfl⟩, rfl⟩
  rw [emits.emitAll, cable_run]
  exact narrate_emissions emissions

/-- Where the KISS decoders hand over what the two encoders put on their cables, the reports of
either direction are those of the granted requests and of the emissions. -/
theorem Monitor.shows_exchange {KissDecoder KissStatus : Type} [DecidableEq KissStatus]
    {kiss : KissLibrary KissDecoder KissStatus}
    (clean : ∀ status, OneLine (kiss.statusToString status)) (requests : List CommandRequest)
    (emissions : List EventEmission) (chunks : List (Direction × List UInt8))
    (fromHost : tapped kiss (kissCallbacks kiss kiss.init (select .hostToDevice chunks).flatten) =
      (commandServer.run hostEncoder requests).context.receiver)
    (fromDevice : tapped kiss
        (kissCallbacks kiss kiss.init (select .deviceToHost chunks).flatten) =
      (emitAll deviceEncoder emissions).context.receiver) :
    (under "H->D" ((init kiss "").decodeAll kiss chunks).stdout).filter reported =
        (commandMeaning.transcript none (commandServer.granted (fun status => status = .frameError)
          hostEncoder requests)).map (fun call => "H->D " ++ CommandDecoderText.line call) ∧
      (under "H<-D" ((init kiss "").decodeAll kiss chunks).stdout).filter reported =
        (emissions.flatMap EventEmission.told).map
          (fun call => "H<-D " ++ EventDecoderText.line call) := by
  constructor
  · rw [← host_narrated, ← fromHost]
    refine (reports_tale clean chunks .hostToDevice).trans ?_
    rw [Direction.tale, Script.narrate_map]
    rfl
  · rw [← device_narrated, ← fromDevice]
    refine (reports_tale clean chunks .deviceToHost).trans ?_
    rw [Direction.tale, Script.narrate_map]
    rfl

/-- The byte is refused, as no stream is open. -/
theorem Monitor.shows_ready :
    (under "H->D" ((init .delimited "").decodeAll .delimited readyAndBlink).stdout).filter
          reported = ["H->D COMMAND READY"] ∧
      (under "H<-D" ((init .delimited "").decodeAll .delimited readyAndBlink).stdout).filter
          reported = ["H<-D EVENT BLINK"] :=
  shows_exchange (by decide) [.data 0x55, .ready] [.blink (Interface.ofHeader 0x00)] readyAndBlink
    (by decide) (by decide)

end RNodeProtocol
