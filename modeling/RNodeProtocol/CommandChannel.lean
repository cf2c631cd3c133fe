/-
The command channel, end to end.

A command encoder is wired to a command decoder that records its callbacks.
Whatever requests are made of the encoder, in whatever order, the decoder
reports exactly what the granted ones mean: the simulation relates the two
states of the encoder to the streaming and non-streaming states of the decoder.
-/

import RNodeProtocol.CommandDecoderFrames
import RNodeProtocol.CommandEncoder
import RNodeProtocol.Link
import RNodeProtocol.Library.RequestLog

namespace RNodeProtocol

open ByteNumerals FramedInput RequestLog

/-! ### Requests and their meaning -/

inductive CommandRequest where
  | setFrequency (interface : Interface) (hz : UInt32)
  | setBandwidth (interface : Interface) (bandwidth : UInt32)
  | setTxpower (interface : Interface) (dbm : Int8)
  | setSpreadingFactor (interface : Interface) (sf : UInt8)
  | setCodingRate (interface : Interface) (cr : UInt8)
  | setRadioState (interface : Interface) (state : RadioState)
  | setRadioLock (interface : Interface) (lockState : UInt8)
  | detect
  | ready
  | leave
  | start (interface : Interface)
  | data (byte : UInt8)
  | endFrame
  deriving DecidableEq

def CommandRequest.perform {Ctx : Type} (encoder : CommandEncoder Ctx) :
    CommandRequest → CommandEncoder Ctx × EncoderStatus
  | .setFrequency interface hz => CommandEncoder.setFrequency encoder interface.value hz
  | .setBandwidth interface bandwidth =>
      CommandEncoder.setBandwidth encoder interface.value bandwidth
  | .setTxpower interface dbm => CommandEncoder.setTxpower encoder interface.value dbm
  | .setSpreadingFactor interface sf =>
      CommandEncoder.setSpreadingFactor encoder interface.value sf
  | .setCodingRate interface cr => CommandEncoder.setCodingRate encoder interface.value cr
  | .setRadioState interface state => CommandEncoder.setRadioState encoder interface.value state
  | .setRadioLock interface lockState =>
      CommandEncoder.setRadioLock encoder interface.value lockState
  | .detect => CommandEncoder.detect encoder
  | .ready => CommandEncoder.ready encoder
  | .leave => CommandEncoder.leave encoder
  | .start interface => CommandEncoder.start encoder interface.value
  | .data byte => CommandEncoder.data encoder byte
  | .endFrame => CommandEncoder.endFrame encoder

def commandServer {Ctx : Type} : Server (CommandEncoder Ctx) CommandRequest EncoderStatus :=
  { perform := CommandRequest.perform }

/-- The stream a peer has open: its interface and the bytes it has carried so far. -/
structure OpenStream where
  interface : Interface
  count : Nat

/-- The callbacks a request stands for, given the stream that is open. -/
def CommandRequest.calls : Option OpenStream → CommandRequest → List CommandCall
  | _, .setFrequency interface hz => [.setFrequency interface.value hz]
  | _, .setBandwidth interface bandwidth => [.setBandwidth interface.value bandwidth]
  | _, .setTxpower interface dbm => [.setTxpower interface.value dbm]
  | _, .setSpreadingFactor interface sf => [.setSpreadingFactor interface.value sf]
  | _, .setCodingRate interface cr => [.setCodingRate interface.value cr]
  | _, .setRadioState interface state => [.setRadioState interface.value state]
  | _, .setRadioLock interface lockState => [.lock interface.value lockState]
  | _, .detect => [.detect]
  | _, .ready => [.ready]
  | _, .leave => [.leave]
  | _, .start interface => [.tx (.start interface.value) .ok]
  | some stream, .data byte =>
      [.tx (.data stream.interface.value byte (UInt32.ofNat stream.count)) .ok]
  | some stream, .endFrame =>
      [.tx (.endStream stream.interface.value (UInt32.ofNat stream.count)) .ok]
  | none, .data _ => []
  | none, .endFrame => []

def CommandRequest.next : Option OpenStream → CommandRequest → Option OpenStream
  | _, .start interface => some { interface := interface, count := 0 }
  | some stream, .data _ => some { stream with count := stream.count + 1 }
  | _, .endFrame => none
  | stream, _ => stream

def commandMeaning : Meaning (Option OpenStream) CommandRequest CommandCall :=
  { calls := CommandRequest.calls
    next := CommandRequest.next }

/-! ### The wired encoder -/

abbrev CommandReceiver := CommandDecoder (List CommandCall)

def CommandReceiver.accepting (memory : CommandReceiver) : CommandReceiver :=
  CommandDecoder.fresh memory (fun _ => true) (fun _ _ => .ok)

/-- A fresh encoder whose frames go to a fresh decoder with every callback registered. -/
def commandChannel (memory : CommandReceiver) : CommandEncoder (Link CommandReceiver) :=
  CommandEncoder.init { receiver := memory.accepting, statuses := [] }
    (some (Link.startCb CommandDecoder.machine)) (some (Link.putCb CommandDecoder.machine))
    (some (Link.endCb CommandDecoder.machine))

def commandLog (encoder : CommandEncoder (Link CommandReceiver)) : List CommandCall :=
  encoder.context.receiver.context

/-- The decoder is streaming exactly while the encoder is, with the same counter. -/
inductive CommandMode (encoder : CommandEncoder (Link CommandReceiver)) :
    Option OpenStream → Prop where
  | idle (idle : encoder.state = .idle) : CommandMode encoder none
  | streaming (stream : OpenStream) (transmitting : encoder.state = .transmitting)
      (state : encoder.context.receiver.state = .streamData)
      (interface : encoder.context.receiver.interface = stream.interface.value)
      (counted : encoder.context.receiver.txStream.byteIndex = UInt32.ofNat stream.count) :
      CommandMode encoder (some stream)

structure CommandSynced (encoder : CommandEncoder (Link CommandReceiver))
    (stream : Option OpenStream) : Prop where
  wired : Link.Wired CommandDecoder.machine encoder.frame
  recorded : CommandDecoder.Recorded (fun _ => true) (fun _ _ => .ok) encoder.context.receiver
  mode : CommandMode encoder stream

theorem commandChannel_synced (memory : CommandReceiver) :
    CommandSynced (commandChannel memory) none :=
  { wired := ⟨rfl, rfl, rfl⟩
    recorded := CommandDecoder.fresh_recorded memory _ _
    mode := .idle rfl }

/-! ### One-shot requests -/

/-- The request is a one-shot send of one command frame, in every state of the encoder. -/
structure CommandRequest.Sends (request : CommandRequest) (command : Command)
    (interface : UInt8) (opcode : RnodeOpcode) (bytes : List UInt8) : Prop where
  performs : ∀ {Ctx : Type} (encoder : CommandEncoder Ctx),
    request.perform encoder = encoder.sendCommandAndBytes interface opcode bytes
  frame : command.frame = packNibbles interface opcode.value :: bytes
  calls : ∀ stream, CommandRequest.calls stream request = command.calls
  next : ∀ stream, CommandRequest.next stream request = stream

variable {encoder : CommandEncoder (Link CommandReceiver)} {stream : Option OpenStream}

theorem CommandSynced.deliver (synced : CommandSynced encoder stream) (command : Command) :
    (encoder.frame.deliver encoder.context command.frame).receiver.context =
      commandLog encoder ++ command.calls := by
  have recorded := synced.recorded.start
  obtain ⟨calls, reported, added⟩ :=
    recorded.frame rfl (fun _ _ _ => rfl) command.frame
  rw [parseCommand_frame command] at reported
  have same : calls = command.calls := reported
  rw [synced.wired.deliver_receiver, ← same]
  exact added

theorem CommandSynced.send (synced : CommandSynced encoder stream) {request : CommandRequest}
    {command : Command} {interface : UInt8} {opcode : RnodeOpcode} {bytes : List UInt8}
    (sends : request.Sends command interface opcode bytes) :
    request.perform encoder = (encoder, .frameError) ∨
      (request.perform encoder).2 = .ok ∧
        CommandSynced (request.perform encoder).1 (CommandRequest.next stream request) ∧
        commandLog (request.perform encoder).1 =
          commandLog encoder ++ CommandRequest.calls stream request := by
  rw [sends.performs, sends.calls, sends.next]
  cases synced.mode with
  | streaming _ transmitting _ _ _ =>
      exact .inl (Encoder.sendCommandAndBytes_busy transmitting interface opcode bytes)
  | idle idle =>
      have returned := Encoder.sendCommandAndBytes_accepted synced.wired.accepts idle
        interface opcode bytes
      have sent := (Encoder.sendCommandAndBytes_ok returned).2
      rw [← sends.frame] at sent
      refine .inr ⟨returned, ?_, ?_⟩
      · rw [sent]
        refine ⟨⟨synced.wired.start, synced.wired.put, synced.wired.endFrame⟩, ?_, .idle rfl⟩
        change CommandDecoder.Recorded _ _
          (encoder.frame.deliver encoder.context command.frame).receiver
        rw [synced.wired.deliver_receiver]
        exact (CommandDecoder.recorded_preserved.putAll _ _ synced.recorded.start).endFrame
      · rw [sent]
        exact synced.deliver command

/-! ### Streaming requests -/

theorem CommandSynced.start (synced : CommandSynced encoder none) (interface : Interface) :
    (CommandEncoder.start encoder interface.value).2 = .ok ∧
      CommandSynced (CommandEncoder.start encoder interface.value).1
        (some { interface := interface, count := 0 }) ∧
      commandLog (CommandEncoder.start encoder interface.value).1 =
        commandLog encoder ++ [.tx (.start interface.value) .ok] := by
  cases synced.mode with
  | idle idle =>
      have returned := Encoder.start_accepted synced.wired.accepts idle interface.value
      have opened := (Encoder.start_ok returned).2
      have recorded := synced.recorded.start
      have streamed : CommandDecoder.rnodeProtoOpcodeLength
          (lowNibble (interface.header .data)) = -1 := by
        rw [interface.lowNibble_header]
        rfl
      have headed := recorded.put_streamHeader rfl (interface.header .data) streamed
      have source := congrArg Interface.value (interface.ofHeader_header .data)
      change highNibble (interface.header .data) = interface.value at source
      rw [source] at headed
      have receiver : (CommandEncoder.start encoder interface.value).1.context.receiver =
          (encoder.context.receiver.start.put (interface.header .data)).1 := by
        change (Encoder.start encoder interface.value).1.context.receiver = _
        rw [opened]
        change (encoder.frame.sent (encoder.frame.opened encoder.context) _).receiver = _
        rw [synced.wired.sent, synced.wired.opened]
        rfl
      have state : (CommandEncoder.start encoder interface.value).1.state = .transmitting := by
        change (Encoder.start encoder interface.value).1.state = _
        rw [opened]
      refine ⟨returned, ⟨?_, ?_, .streaming _ state ?_ ?_ ?_⟩, ?_⟩
      · change Link.Wired _ (Encoder.start encoder interface.value).1.frame
        rw [opened]
        exact ⟨synced.wired.start, synced.wired.put, synced.wired.endFrame⟩
      · rw [receiver]
        exact recorded.put _
      · rw [receiver, headed]
      · rw [receiver, headed]
      · rw [receiver, headed]
        rfl
      · unfold commandLog
        rw [receiver, headed]
        rfl

theorem CommandSynced.data {source : OpenStream} (synced : CommandSynced encoder (some source))
    (byte : UInt8) :
    (CommandEncoder.data encoder byte).2 = .ok ∧
      CommandSynced (CommandEncoder.data encoder byte).1
        (some { source with count := source.count + 1 }) ∧
      commandLog (CommandEncoder.data encoder byte).1 = commandLog encoder ++
        [.tx (.data source.interface.value byte (UInt32.ofNat source.count)) .ok] := by
  cases synced.mode with
  | streaming _ transmitting state interface counted =>
      have received := synced.recorded.put_accepted state byte rfl
      rw [interface, counted, counter_succ] at received
      have passed := Encoder.data_transmitting transmitting byte
      rw [synced.wired.accepts.put, synced.wired.sent] at passed
      change CommandEncoder.data encoder byte = _ at passed
      have next : (CommandDecoder.machine.put encoder.context.receiver byte).1 =
          (encoder.context.receiver.put byte).1 := rfl
      rw [next, received] at passed
      rw [passed]
      refine ⟨rfl, ⟨⟨synced.wired.start, synced.wired.put, synced.wired.endFrame⟩,
        ⟨synced.recorded.callbacks, synced.recorded.tx⟩,
        .streaming _ transmitting state rfl rfl⟩, rfl⟩

theorem CommandSynced.endFrame {source : OpenStream}
    (synced : CommandSynced encoder (some source)) :
    (CommandEncoder.endFrame encoder).2 = .ok ∧
      CommandSynced (CommandEncoder.endFrame encoder).1 none ∧
      commandLog (CommandEncoder.endFrame encoder).1 = commandLog encoder ++
        [.tx (.endStream source.interface.value (UInt32.ofNat source.count)) .ok] := by
  cases synced.mode with
  | streaming _ transmitting state interface counted =>
      have ended := synced.recorded.end_accepted state rfl
      rw [interface, counted] at ended
      have passed := Encoder.endFrame_transmitting transmitting
      rw [synced.wired.accepts.endFrame, synced.wired.closed] at passed
      change CommandEncoder.endFrame encoder = _ at passed
      have next : (CommandDecoder.machine.endFrame encoder.context.receiver).1 =
          encoder.context.receiver.endFrame.1 := rfl
      rw [next, ended] at passed
      rw [passed]
      exact ⟨rfl, ⟨⟨synced.wired.start, synced.wired.put, synced.wired.endFrame⟩,
        ⟨synced.recorded.callbacks, synced.recorded.tx⟩, .idle rfl⟩, rfl⟩

/-! ### Every request -/

theorem CommandRequest.sends_or_streams (request : CommandRequest) :
    (∃ command interface opcode bytes, request.Sends command interface opcode bytes) ∨
      (∃ interface, request = .start interface) ∨ (∃ byte, request = .data byte) ∨
        request = .endFrame := by
  cases request with
  | setFrequency interface hz =>
      exact .inl ⟨.setFrequency interface hz, _, _, _,
        fun _ => rfl, rfl, fun _ => rfl, fun _ => rfl⟩
  | setBandwidth interface bandwidth =>
      exact .inl ⟨.setBandwidth interface bandwidth, _, _, _,
        fun _ => rfl, rfl, fun _ => rfl, fun _ => rfl⟩
  | setTxpower interface dbm =>
      exact .inl ⟨.setTxpower interface dbm, _, _, _,
        fun _ => rfl, rfl, fun _ => rfl, fun _ => rfl⟩
  | setSpreadingFactor interface sf =>
      exact .inl ⟨.setSpreadingFactor interface sf, _, _, _,
        fun _ => rfl, rfl, fun _ => rfl, fun _ => rfl⟩
  | setCodingRate interface cr =>
      exact .inl ⟨.setCodingRate interface cr, _, _, _,
        fun _ => rfl, rfl, fun _ => rfl, fun _ => rfl⟩
  | setRadioState interface state =>
      exact .inl ⟨.setRadioState interface state, _, _, _,
        fun _ => rfl, rfl, fun _ => rfl, fun _ => rfl⟩
  | setRadioLock interface lockState =>
      exact .inl ⟨.setRadioLock interface lockState, _, _, _,
        fun _ => rfl, rfl, fun _ => rfl, fun _ => rfl⟩
  | detect => exact .inl ⟨.detect, _, _, _, fun _ => rfl, rfl, fun _ => rfl, fun _ => rfl⟩
  | ready => exact .inl ⟨.ready, _, _, _, fun _ => rfl, rfl, fun _ => rfl, fun _ => rfl⟩
  | leave => exact .inl ⟨.leave, _, _, _, fun _ => rfl, rfl, fun _ => rfl, fun _ => rfl⟩
  | start interface => exact .inr (.inl ⟨interface, rfl⟩)
  | data byte => exact .inr (.inr (.inl ⟨byte, rfl⟩))
  | endFrame => exact .inr (.inr (.inr rfl))

theorem CommandSynced.perform (synced : CommandSynced encoder stream)
    (request : CommandRequest) :
    request.perform encoder = (encoder, .frameError) ∨
      (request.perform encoder).2 = .ok ∧
        CommandSynced (request.perform encoder).1 (CommandRequest.next stream request) ∧
        commandLog (request.perform encoder).1 =
          commandLog encoder ++ CommandRequest.calls stream request := by
  rcases request.sends_or_streams with
    ⟨command, interface, opcode, bytes, sends⟩ | ⟨interface, rfl⟩ | ⟨byte, rfl⟩ | rfl
  · exact synced.send sends
  · cases stream with
    | none => exact .inr (synced.start interface)
    | some source =>
        cases synced.mode with
        | streaming _ transmitting _ _ _ =>
            exact .inl (Encoder.start_busy transmitting interface.value)
  · cases stream with
    | none =>
        cases synced.mode with
        | idle idle => exact .inl (Encoder.data_idle idle byte)
    | some source => exact .inr (synced.data byte)
  · cases stream with
    | none =>
        cases synced.mode with
        | idle idle => exact .inl (Encoder.endFrame_idle idle)
    | some source => exact .inr synced.endFrame

theorem commandServer_implements :
    commandServer.Implements (fun status => status = .frameError) commandMeaning commandLog
      CommandSynced where
  rejects := by
    intro encoder stream request synced rejected
    change (request.perform encoder).2 = .frameError at rejected
    rcases synced.perform request with refused | ⟨accepted, _⟩
    · change CommandSynced (request.perform encoder).1 _ ∧
        commandLog (request.perform encoder).1 = _
      rw [refused]
      exact ⟨synced, rfl⟩
    · rw [rejected] at accepted
      cases accepted
  grants := by
    intro encoder stream request synced granted
    rcases synced.perform request with refused | ⟨_, kept, added⟩
    · exact absurd (congrArg Prod.snd refused) granted
    · exact ⟨kept, added⟩

/-- The decoder reports the granted requests in order, and nothing else. -/
theorem commandChannel_faithful (memory : CommandReceiver) (requests : List CommandRequest) :
    commandLog (commandServer.run (commandChannel memory) requests) =
        commandMeaning.transcript none (commandServer.granted
          (fun status => status = .frameError) (commandChannel memory) requests) ∧
      ∀ status ∈ commandServer.answers (commandChannel memory) requests,
        status = .ok ∨ status = .frameError := by
  have synced := commandChannel_synced memory
  constructor
  · have logged := commandServer_implements.log_run synced requests
    exact logged
  · refine commandServer_implements.answers synced ?_ requests
    intro encoder stream request related
    rcases related.perform request with refused | ⟨accepted, _⟩
    · exact .inr (congrArg Prod.snd refused)
    · exact .inl accepted

end RNodeProtocol
