/-
Encoders on a transport that refuses.

Any callback of the transport may answer ABORT, and what it refused may have
reached the receiver or not.  Each request then hands over a first part of the
operations of its frame, the whole of them where it succeeds.  So a command
that was sent successfully is reported exactly once, one that was refused is
reported once at most and never in part, and refusals leave no trace in what is
reported of other requests; an event that was refused is reported up to where
its frame was broken off.
-/

import RNodeProtocol.CommandChannel
import RNodeProtocol.EncoderScripts
import RNodeProtocol.Handlers

namespace RNodeProtocol

open ByteNumerals FramedInput RequestLog

/-! ### What reaches the receiver -/

def FrameRequest.operation : FrameRequest → Operation UInt8
  | .start => .start
  | .put byte => .put byte
  | .endFrame => .endFrame

/-- Every accepted callback reaches the receiver, and a refused one if it leaks at its place. -/
def delivered (leaks : Nat → Bool) (log : List FrameCall) : List (Operation UInt8) :=
  (log.zipIdx.filter fun placed => decide (placed.1.answer = .ok) || leaks placed.2).map
    fun placed => placed.1.request.operation

theorem delivered_concat (leaks : Nat → Bool) (log : List FrameCall) (call : FrameCall) :
    delivered leaks (log ++ [call]) =
      delivered leaks log ++
        if call.answer = .ok ∨ leaks log.length = true then [call.request.operation] else [] := by
  unfold delivered
  rw [List.zipIdx_append, List.filter_append, List.map_append, Nat.zero_add,
    List.zipIdx_singleton, List.filter_singleton]
  congr 1
  by_cases reaches : call.answer = .ok ∨ leaks log.length = true
  · have kept : (decide (call.answer = .ok) || leaks log.length) = true := by simpa using reaches
    rw [if_pos reaches, kept]
    rfl
  · have lost : (decide (call.answer = .ok) || leaks log.length) = false := by simpa using reaches
    rw [if_neg reaches, lost]
    rfl

section Parts

variable {answer : FrameAnswer} {encoder : Encoder (List FrameCall)}

theorem Frame.Recording.ask (recording : encoder.frame.Recording answer)
    (request : FrameRequest) :
    ((encoder.ask request).1.context, (encoder.ask request).2) =
      answer.record encoder.context request := by
  cases request with
  | start => exact recording.start_eq encoder.context
  | put byte => exact recording.putByte_eq encoder.context byte
  | endFrame => exact recording.endFrame_eq encoder.context

theorem Frame.Recording.asked (recording : encoder.frame.Recording answer)
    (request : FrameRequest) : (encoder.ask request).1.frame.Recording answer := by
  cases request with
  | start => exact ⟨recording.start, recording.put, recording.endFrame⟩
  | put byte => exact ⟨recording.start, recording.put, recording.endFrame⟩
  | endFrame => exact recording

/-- A result that handed over this part of a script. -/
structure Handed (leaks : Nat → Bool) (encoder : Encoder (List FrameCall))
    (script : List FrameRequest) (result : Encoder (List FrameCall) × FrameCbStatus)
    (part : List (Operation UInt8)) : Prop where
  begins : part <+: script.map FrameRequest.operation
  context : delivered leaks result.1.context = delivered leaks encoder.context ++ part
  whole : result.2 = .ok → part = script.map FrameRequest.operation
  tight : (∀ place, leaks place = false) → part = script.map FrameRequest.operation →
    result.2 = .ok

theorem Encoder.attempt_handed (leaks : Nat → Bool) (recording : encoder.frame.Recording answer)
    (script : List FrameRequest) :
    ∃ part, Handed leaks encoder script (encoder.attempt script) part := by
  induction script generalizing encoder with
  | nil =>
      exact ⟨[], List.prefix_rfl, (List.append_nil _).symm, fun _ => rfl, fun _ _ => rfl⟩
  | cons request rest ih =>
      have asked := recording.ask request
      have logged : (encoder.ask request).1.context =
          encoder.context ++ [answer.call encoder.context request] := congrArg Prod.fst asked
      have answered : (encoder.ask request).2 = answer encoder.context request :=
        congrArg Prod.snd asked
      have reached := delivered_concat leaks encoder.context
        (answer.call encoder.context request)
      rw [← logged] at reached
      by_cases accepted : (encoder.ask request).2 = .ok
      · obtain ⟨part, handed⟩ := ih (recording.asked request)
        have here : (answer.call encoder.context request).answer = .ok :=
          answered.symm.trans accepted
        rw [if_pos (.inl here)] at reached
        rw [Encoder.attempt_accepted accepted]
        refine ⟨request.operation :: part, ?_, ?_, ?_, ?_⟩
        · exact (List.prefix_cons_inj request.operation).mpr handed.begins
        · rw [handed.context, reached, List.append_assoc]
          rfl
        · intro ok
          rw [handed.whole ok]
          rfl
        · intro tight same
          exact handed.tight tight (List.cons.inj same).2
      · have refused : (answer.call encoder.context request).answer ≠ .ok :=
          fun ok => accepted (answered.trans ok)
        rw [Encoder.attempt_refused accepted]
        refine ⟨_, ?_, reached, fun ok => absurd ok accepted, ?_⟩
        · split
          · exact (List.prefix_cons_inj request.operation).mpr List.nil_prefix
          · exact List.nil_prefix
        · intro tight same
          have stays : leaks encoder.context.length ≠ true := by
            rw [tight]
            exact Bool.false_ne_true
          rw [if_neg (not_or.mpr ⟨refused, stays⟩)] at same
          cases same

theorem EncoderRequest.perform_handed (leaks : Nat → Bool)
    (recording : encoder.frame.Recording answer) {request : EncoderRequest}
    (inOrder : ¬ request.OutOfOrder encoder.state) :
    ∃ part status,
      Handed leaks encoder request.script ((request.perform encoder).1, status) part ∧
      (request.perform encoder).2 = translateFrameCbStatus status ∧
      (request.perform encoder).1.state = request.leaves status := by
  obtain ⟨part, handed⟩ := Encoder.attempt_handed leaks recording request.script
  have performed := EncoderRequest.perform_inOrder inOrder
  refine ⟨part, (encoder.attempt request.script).2, ?_, ?_, ?_⟩
  · rw [performed]
    exact ⟨handed.begins, handed.context, handed.whole, handed.tight⟩
  · rw [performed]
    rfl
  · rw [performed]
    rfl

theorem operations_send (interface : UInt8) (opcode : RnodeOpcode) (bytes : List UInt8) :
    (EncoderRequest.send interface opcode bytes).script.map FrameRequest.operation =
      singly (packNibbles interface opcode.value :: bytes) := by
  change ([_, _] ++ bytes.map FrameRequest.put ++ [_]).map FrameRequest.operation = _
  rw [List.map_append, List.map_append, List.map_map]
  rfl

end Parts

/-! ### Commands -/

namespace CommandDecoder

theorem puts_collected {header : UInt8} {size : Nat}
    (length : rnodeProtoOpcodeLength (lowNibble header) = size) {payload : List UInt8}
    (later : List UInt8) (short : payload.length + later.length ≤ 4) :
    commandScript.puts (header :: payload) later = [] := by
  induction later generalizing payload with
  | nil => rfl
  | cons byte rest ih =>
      rw [List.length_cons] at short
      have here : commandScript.put (header :: payload) byte = [] :=
        putCalls_collected length (by omega) byte
      have longer : (payload ++ [byte]).length + rest.length ≤ 4 := by
        rw [List.length_append, List.length_singleton]
        omega
      have next : commandScript.puts (header :: payload ++ [byte]) rest = [] := ih longer
      rw [Script.puts_cons, here, next]
      rfl

/-- A frame of fixed length tells nothing before its end. -/
theorem puts_fixed (interface : Interface) (opcode : RnodeOpcode) (size : Nat)
    (length : rnodeProtoOpcodeLength (lowNibble opcode.value) = size) (payload : List UInt8)
    (short : payload.length ≤ 4) :
    commandScript.puts [] (interface.header opcode :: payload) = [] := by
  have read : rnodeProtoOpcodeLength (lowNibble (interface.header opcode)) = size := by
    rw [interface.lowNibble_header]
    exact length
  have opened : commandScript.put [] (interface.header opcode) = [] := putCalls_fixed read
  have collected : commandScript.puts [interface.header opcode] payload = [] :=
    puts_collected read payload (by rw [List.length_nil]; omega)
  rw [Script.puts_cons, opened, List.nil_append, List.nil_append, collected]

end CommandDecoder

theorem CommandRequest.calls_short (request : CommandRequest) :
    (request.calls none).length ≤ 1 := by
  cases request <;> first | exact Nat.le_refl 1 | exact Nat.zero_le 1

theorem CommandRequest.Sends.silent {request : CommandRequest} {command : Command}
    {interface : UInt8} {opcode : RnodeOpcode} {bytes : List UInt8}
    (sends : request.Sends command interface opcode bytes) :
    commandScript.puts [] command.frame = [] := by
  have single : 1 ≤ 4 := by decide
  cases command with
  | setFrequency interface _ =>
      exact CommandDecoder.puts_fixed interface .frequency 4 rfl _ (Nat.le_refl 4)
  | setBandwidth interface _ =>
      exact CommandDecoder.puts_fixed interface .bandwidth 4 rfl _ (Nat.le_refl 4)
  | setTxpower interface _ => exact CommandDecoder.puts_fixed interface .txpower 1 rfl _ single
  | setSpreadingFactor interface _ => exact CommandDecoder.puts_fixed interface .sf 1 rfl _ single
  | setCodingRate interface _ => exact CommandDecoder.puts_fixed interface .cr 1 rfl _ single
  | setRadioState interface _ =>
      exact CommandDecoder.puts_fixed interface .radioState 1 rfl _ single
  | setRadioLock interface _ =>
      exact CommandDecoder.puts_fixed interface .radioLock 1 rfl _ single
  | detect => exact CommandDecoder.puts_fixed Interface.global .detect 1 rfl _ single
  | ready => exact CommandDecoder.puts_fixed Interface.global .ready 0 rfl _ (Nat.zero_le 4)
  | leave => exact CommandDecoder.puts_fixed Interface.global .leave 1 rfl _ single
  | transmit interface payload =>
      have short := request.calls_short
      rw [sends.calls none] at short
      change (streamCalls _ _ _).length ≤ 1 at short
      unfold streamCalls at short
      rw [List.length_append, List.length_cons, List.length_singleton] at short
      omega

section Conveyed

variable {answer : FrameAnswer} {leaks : Nat → Bool} {encoder : CommandEncoder (List FrameCall)}
  {stream : Option OpenStream}

/-- The input of a receiver while a stream is open; between frames it may be anything. -/
inductive Receiving (encoder : CommandEncoder (List FrameCall)) (input : List UInt8) :
    Option OpenStream → Prop where
  | idle {stream : Option OpenStream} (idle : encoder.state = .idle) :
      Receiving encoder input stream
  | streaming {stream : OpenStream} {payload : List UInt8}
      (transmitting : encoder.state = .transmitting)
      (pending : input = stream.interface.header .data :: payload)
      (counted : payload.length = stream.count) : Receiving encoder input (some stream)

structure Conveying (answer : FrameAnswer) (leaks : Nat → Bool)
    (encoder : CommandEncoder (List FrameCall)) (stream : Option OpenStream) : Prop where
  recording : encoder.frame.Recording answer
  receiving : Receiving encoder (pendingInput (delivered leaks encoder.context)) stream

/-- What a decoder with every callback registered makes of what it was handed. -/
def conveyed (leaks : Nat → Bool) (encoder : CommandEncoder (List FrameCall)) :
    List CommandCall :=
  commandScript.narrate [] (delivered leaks encoder.context)

/-- A request in order serves the whole of its script, or it is refused and tells nothing. -/
theorem Conveying.handed (conveying : Conveying answer leaks encoder stream)
    {request : EncoderRequest} (inOrder : ¬ request.OutOfOrder encoder.state)
    {front : List (Operation UInt8)} {last : Operation UInt8}
    (operations : request.script.map FrameRequest.operation = front ++ [last])
    (silent : commandScript.narrate (pendingInput (delivered leaks encoder.context)) front = []) :
    ∃ part status, (request.perform encoder).1.state = request.leaves status ∧
      (request.perform encoder).1.frame.Recording answer ∧
      pendingInput (delivered leaks (request.perform encoder).1.context) =
        part.foldl Operation.carry (pendingInput (delivered leaks encoder.context)) ∧
      (part = front ++ [last] ∧
          conveyed leaks (request.perform encoder).1 = conveyed leaks encoder ++
            commandScript.narrate (pendingInput (delivered leaks encoder.context))
              (front ++ [last]) ∧
          ((∀ place, leaks place = false) → (request.perform encoder).2 = .ok) ∨
        part <+: front ∧ status ≠ .ok ∧ (request.perform encoder).2 ≠ .ok ∧
          conveyed leaks (request.perform encoder).1 = conveyed leaks encoder) := by
  obtain ⟨part, status, handed, answered, left⟩ :=
    EncoderRequest.perform_handed leaks conveying.recording inOrder
  have told : conveyed leaks (request.perform encoder).1 = conveyed leaks encoder ++
      commandScript.narrate (pendingInput (delivered leaks encoder.context)) part := by
    unfold conveyed
    rw [handed.context, Script.narrate_append]
    rfl
  have begins := handed.begins
  have whole := handed.whole
  have tight := handed.tight
  rw [operations] at begins whole tight
  refine ⟨part, status, left, recording_perform conveying.recording request, ?_, ?_⟩
  · rw [handed.context]
    exact List.foldl_append
  · by_cases full : part = front ++ [last]
    · refine .inl ⟨full, full ▸ told, ?_⟩
      intro closed
      exact answered.trans (translateFrameCbStatus_ok.mpr (tight closed full))
    · have cut := (List.prefix_concat_iff.mp begins).resolve_left full
      have refused : status ≠ .ok := fun ok => full (whole ok)
      have nothing := commandScript.narrate_prefix
        (pendingInput (delivered leaks encoder.context)) cut
      rw [silent] at nothing
      rw [List.prefix_nil.mp nothing, List.append_nil] at told
      refine .inr ⟨cut, refused, ?_, told⟩
      intro ok
      exact refused (translateFrameCbStatus_ok.mp (answered.symm.trans ok))

/-- The request was served as it is meant, or it was refused and not served. -/
def Settled (answer : FrameAnswer) (leaks : Nat → Bool)
    (encoder : CommandEncoder (List FrameCall)) (stream : Option OpenStream)
    (request : CommandRequest) : Prop :=
  (Conveying answer leaks (request.perform encoder).1 (CommandRequest.next stream request) ∧
      conveyed leaks (request.perform encoder).1 =
        conveyed leaks encoder ++ CommandRequest.calls stream request ∧
      ((∀ place, leaks place = false) → (request.perform encoder).2 = .ok)) ∨
    (request.perform encoder).2 ≠ .ok ∧
      Conveying answer leaks (request.perform encoder).1 stream ∧
        conveyed leaks (request.perform encoder).1 = conveyed leaks encoder

theorem Conveying.rejected (conveying : Conveying answer leaks encoder stream)
    {request : CommandRequest} (rejected : request.perform encoder = (encoder, .frameError)) :
    Settled answer leaks encoder stream request := by
  have failed : EncoderStatus.frameError ≠ .ok := by decide
  unfold Settled
  rw [rejected]
  exact .inr ⟨failed, conveying, rfl⟩

theorem Conveying.send (conveying : Conveying answer leaks encoder stream)
    {request : CommandRequest} {command : Command} {interface : UInt8} {opcode : RnodeOpcode}
    {bytes : List UInt8} (sends : request.Sends command interface opcode bytes) :
    Settled answer leaks encoder stream request := by
  cases state : encoder.state with
  | transmitting =>
      apply conveying.rejected
      rw [sends.performs]
      exact Encoder.sendCommandAndBytes_busy state interface opcode bytes
  | idle =>
      have inOrder : ¬ (EncoderRequest.send interface opcode bytes).OutOfOrder encoder.state := by
        intro busy
        cases state.symm.trans busy
      have silent := sends.silent
      rw [sends.frame, ← commandScript.narrate_unended] at silent
      obtain ⟨part, status, left, recording, _, outcome⟩ :=
        conveying.handed inOrder (operations_send interface opcode bytes) silent
      unfold Settled
      rw [sends.performs, sends.calls, sends.next]
      rcases outcome with ⟨_, told, tight⟩ | ⟨_, _, refused, same⟩
      · have whole := commandScript.narrate_whole
          (pendingInput (delivered leaks encoder.context))
          (packNibbles interface opcode.value :: bytes)
        rw [← sends.frame, CommandDecoder.script_accepted (parseCommand_frame command),
          sends.frame] at whole
        refine .inl ⟨⟨recording, .idle left⟩, ?_, tight⟩
        rw [← whole]
        exact told
      · exact .inr ⟨refused, ⟨recording, .idle left⟩, same⟩

theorem streamed_header (interface : Interface) :
    CommandDecoder.rnodeProtoOpcodeLength (lowNibble (interface.header .data)) = -1 := by
  rw [interface.lowNibble_header]
  rfl

theorem Conveying.start (conveying : Conveying answer leaks encoder stream)
    (interface : Interface) : Settled answer leaks encoder stream (.start interface) := by
  cases state : encoder.state with
  | transmitting => exact conveying.rejected (Encoder.start_busy state interface.value)
  | idle =>
      have inOrder : ¬ (EncoderRequest.start interface.value).OutOfOrder encoder.state := by
        intro busy
        cases state.symm.trans busy
      have operations : (EncoderRequest.start interface.value).script.map
          FrameRequest.operation = [.start] ++ [.put (interface.header .data)] := rfl
      obtain ⟨part, status, left, recording, pending, outcome⟩ :=
        conveying.handed inOrder operations rfl
      rcases outcome with ⟨rfl, told, tight⟩ | ⟨_, refused, failed, same⟩
      · have headed := CommandDecoder.putCalls_streamed (streamed_header interface)
        rw [interface.highNibble_header] at headed
        refine .inl ⟨⟨recording, ?_⟩, ?_, tight⟩
        · cases status with
          | ok => exact .streaming left pending rfl
          | abort => exact .idle left
        · refine told.trans (congrArg (conveyed leaks encoder ++ ·) ?_)
          change [] ++ (commandPutCalls [] (interface.header .data) ++ []) = _
          rw [headed]
          rfl
      · exact .inr ⟨failed, ⟨recording, .idle (left.trans (if_neg refused))⟩, same⟩

theorem Conveying.data (conveying : Conveying answer leaks encoder stream) (byte : UInt8) :
    Settled answer leaks encoder stream (.data byte) := by
  cases conveying.receiving with
  | idle idle => exact conveying.rejected (Encoder.data_idle idle byte)
  | @streaming source payload transmitting input counted =>
      have inOrder : ¬ (EncoderRequest.data byte).OutOfOrder encoder.state := by
        intro idle
        cases transmitting.symm.trans idle
      have operations : (EncoderRequest.data byte).script.map FrameRequest.operation =
          [] ++ [.put byte] := rfl
      obtain ⟨part, status, left, recording, pending, outcome⟩ :=
        conveying.handed inOrder operations rfl
      rw [input] at pending outcome
      rcases outcome with ⟨rfl, told, tight⟩ | ⟨begins, _, failed, same⟩
      · have received := CommandDecoder.putCalls_data (streamed_header source.interface)
          payload byte
        rw [source.interface.highNibble_header, counted] at received
        have longer : (payload ++ [byte]).length = source.count + 1 :=
          List.length_append.trans (congrArg (· + 1) counted)
        refine .inl ⟨⟨recording, .streaming left pending longer⟩, ?_, tight⟩
        refine told.trans (congrArg (conveyed leaks encoder ++ ·) ?_)
        change commandPutCalls (source.interface.header .data :: payload) byte ++ [] = _
        rw [received]
        rfl
      · rw [List.prefix_nil.mp begins] at pending
        exact .inr ⟨failed, ⟨recording, .streaming left pending counted⟩, same⟩

theorem Conveying.endFrame (conveying : Conveying answer leaks encoder stream) :
    Settled answer leaks encoder stream .endFrame := by
  cases conveying.receiving with
  | idle idle => exact conveying.rejected (Encoder.endFrame_idle idle)
  | @streaming source payload transmitting input counted =>
      have inOrder : ¬ EncoderRequest.endFrame.OutOfOrder encoder.state := by
        intro idle
        cases transmitting.symm.trans idle
      have operations : EncoderRequest.endFrame.script.map FrameRequest.operation =
          [] ++ [.endFrame] := rfl
      obtain ⟨part, status, left, recording, _, outcome⟩ :=
        conveying.handed inOrder operations rfl
      rw [input] at outcome
      rcases outcome with ⟨_, told, tight⟩ | ⟨_, _, failed, same⟩
      · have ended := CommandDecoder.endCalls_streamed (streamed_header source.interface) payload
        rw [source.interface.highNibble_header, counted] at ended
        refine .inl ⟨⟨recording, .idle left⟩, ?_, tight⟩
        refine told.trans (congrArg (conveyed leaks encoder ++ ·) ?_)
        change commandEndCalls (source.interface.header .data :: payload) ++ [] = _
        rw [ended]
        rfl
      · exact .inr ⟨failed, ⟨recording, .idle left⟩, same⟩

theorem Conveying.perform (conveying : Conveying answer leaks encoder stream)
    (request : CommandRequest) : Settled answer leaks encoder stream request := by
  rcases request.sends_or_streams with
    ⟨command, interface, opcode, bytes, sends⟩ | ⟨interface, rfl⟩ | ⟨byte, rfl⟩ | rfl
  · exact conveying.send sends
  · exact conveying.start interface
  · exact conveying.data byte
  · exact conveying.endFrame

end Conveyed

theorem commands_served (answer : FrameAnswer) (leaks : Nat → Bool) :
    commandServer.Serves (fun status => status ≠ .ok) commandMeaning (conveyed leaks)
      (Conveying answer leaks) where
  step := by
    intro encoder stream request conveying
    rcases conveying.perform request with ⟨next, told, _⟩ | refused
    · exact .inl ⟨next, told⟩
    · exact .inr refused

theorem commands_implemented (answer : FrameAnswer) {leaks : Nat → Bool}
    (tight : ∀ place, leaks place = false) :
    commandServer.Implements (fun status => status ≠ .ok) commandMeaning (conveyed leaks)
      (Conveying answer leaks) where
  rejects := by
    intro encoder stream request conveying refused
    rcases conveying.perform request with ⟨_, _, succeeds⟩ | ⟨_, kept, same⟩
    · exact absurd (succeeds tight) refused
    · exact ⟨kept, same⟩
  grants := by
    intro encoder stream request conveying granted
    rcases conveying.perform request with ⟨next, told, _⟩ | ⟨refused, _⟩
    · exact ⟨next, told⟩
    · exact absurd refused granted

theorem recordingEncoder_conveying (answer : FrameAnswer) (leaks : Nat → Bool) :
    Conveying answer leaks (recordingEncoder answer) none :=
  ⟨recordingEncoder_recording answer, .idle rfl⟩

/-- Where nothing that is refused reaches the decoder, it reports what the requests that succeeded
mean, as if the others had never been made. -/
theorem commands_delivered (answer : FrameAnswer) (memory : CommandReceiver)
    (requests : List CommandRequest) :
    (CommandDecoder.reached memory (fun _ => true) (fun _ _ => .ok)
        (delivered (fun _ => false)
          (commandServer.run (recordingEncoder answer) requests).context)).context =
      commandMeaning.transcript none (commandServer.granted (fun status => status ≠ .ok)
        (recordingEncoder answer) requests) := by
  rw [CommandDecoder.reached_narrated]
  exact (commands_implemented answer fun _ => rfl).log_run
    (recordingEncoder_conveying answer _) requests

/-- Whatever leaks, the decoder reports some of the requests, each of them once and in full, in
their order, and all that succeeded. -/
theorem commands_leaked (answer : FrameAnswer) (leaks : Nat → Bool) (memory : CommandReceiver)
    (requests : List CommandRequest) :
    ∃ served, (commandServer.granted (fun status => status ≠ .ok)
        (recordingEncoder answer) requests).Sublist served ∧
      served.Sublist requests ∧
      (CommandDecoder.reached memory (fun _ => true) (fun _ _ => .ok)
          (delivered leaks
            (commandServer.run (recordingEncoder answer) requests).context)).context =
        commandMeaning.transcript none served := by
  rw [CommandDecoder.reached_narrated]
  exact (commands_served answer leaks).log_run (recordingEncoder_conveying answer leaks) requests

/-! ### Events -/

theorem EventDecoder.endCalls_event (event : Event) : eventEndCalls event.frame ≠ [] := by
  have fixed : ∀ (interface : Interface) (opcode : RnodeOpcode) (payload : List UInt8),
      rnodeEventOpcodeLength (lowNibble opcode.value) = payload.length →
        eventEndCalls (interface.header opcode :: payload) ≠ [] := by
    intro interface opcode payload length
    rw [← interface.lowNibble_header] at length
    obtain ⟨call, ended, _⟩ := endCalls_dispatched length
    rw [ended]
    exact List.cons_ne_nil _ _
  have streamed : ∀ (interface : Interface) (opcode : RnodeOpcode) (kind : StreamKind)
      (payload : List UInt8), lowNibble opcode.value = kind.nibble →
        eventEndCalls (interface.header opcode :: payload) ≠ [] := by
    intro interface opcode kind payload nibble
    rw [← interface.lowNibble_header] at nibble
    rw [endCalls_streamed nibble]
    exact List.cons_ne_nil _ _
  cases event with
  | rssi interface value => exact fixed interface .statRssi [value.toUInt8] rfl
  | snr interface value => exact fixed interface .statSnr [value.toUInt8] rfl
  | blink interface => exact fixed interface .blink [] rfl
  | platform interface id => exact fixed interface .platform [id] rfl
  | mcu interface id => exact fixed interface .mcu [id] rfl
  | stat kind interface payload =>
      cases kind with
      | statRx => exact streamed interface .statRx .statRx payload rfl
      | statTx => exact streamed interface .statTx .statTx payload rfl

/-- The calls an event adds begin those it has, and are all of them if it succeeds and, where
nothing leaks, only then. -/
def Event.Begun (leaks : Nat → Bool) (event : Event) (status : EncoderStatus)
    (calls : List EventCall) : Prop :=
  calls <+: event.calls ∧ (status = .ok → calls = event.calls) ∧
    ((∀ place, leaks place = false) → calls = event.calls → status = .ok)

/-- A part of the frame of an event, the whole of it where it is accepted. -/
theorem Event.begun_part {leaks : Nat → Bool} (event : Event) (input : List UInt8)
    {part : List (Operation UInt8)} {status : FrameCbStatus}
    (begins : part <+: singly event.frame) (whole : status = .ok → part = singly event.frame)
    (tight : (∀ place, leaks place = false) → part = singly event.frame → status = .ok) :
    event.Begun leaks (translateFrameCbStatus status) (eventScript.narrate input part) := by
  have calls : eventScript.narrate input (singly event.frame) = event.calls := by
    rw [eventScript.narrate_whole]
    exact EventDecoder.script_accepted (parseEvent_frame event)
  refine ⟨?_, ?_, ?_⟩
  · rw [← calls]
    exact eventScript.narrate_prefix input begins
  · intro ok
    rw [whole (translateFrameCbStatus_ok.mp ok), calls]
  · intro closed same
    by_cases full : part = singly event.frame
    · exact translateFrameCbStatus_ok.mpr (tight closed full)
    · have cut := (eventScript.narrate_cut input begins full).length_le
      have ended := List.length_pos_of_ne_nil (EventDecoder.endCalls_event event)
      rw [same, ← calls, eventScript.narrate_whole] at cut
      unfold Script.frame at cut
      rw [List.length_append] at cut
      change _ + (eventEndCalls event.frame).length ≤ _ at cut
      omega

theorem events_begun (answer : FrameAnswer) (leaks : Nat → Bool) :
    eventServer.Adds (fun encoder => eventScript.narrate [] (delivered leaks encoder.context))
      (fun encoder => encoder.frame.Recording answer ∧ encoder.state = .idle)
      (Event.Begun leaks) where
  step := by
    intro encoder event holds
    obtain ⟨interface, opcode, bytes, performs, frame⟩ := event.sends
    have inOrder : ¬ (EncoderRequest.send interface opcode bytes).OutOfOrder encoder.state := by
      intro busy
      cases holds.2.symm.trans busy
    obtain ⟨part, status, handed, answered, left⟩ :=
      EncoderRequest.perform_handed leaks holds.1 inOrder
    have recording := recording_perform holds.1 (.send interface opcode bytes)
    have sent : event.perform encoder =
        (EncoderRequest.send interface opcode bytes).perform encoder := performs encoder
    have begins := handed.begins
    have whole := handed.whole
    have tight := handed.tight
    rw [operations_send, ← frame] at begins whole tight
    rw [← sent] at recording answered left
    refine ⟨⟨recording, left⟩,
      eventScript.narrate (pendingInput (delivered leaks encoder.context)) part, ?_, ?_⟩
    · change Event.Begun leaks event (event.perform encoder).2
        (eventScript.narrate (pendingInput (delivered leaks encoder.context)) part)
      rw [answered]
      exact event.begun_part _ begins whole tight
    · change eventScript.narrate [] (delivered leaks (event.perform encoder).1.context) = _
      rw [sent, handed.context, Script.narrate_append]
      rfl

/-- A refused event is reported up to where its frame was broken off, and nothing of it is mixed
with what is reported of the others. -/
theorem events_delivered (answer : FrameAnswer) (leaks : Nat → Bool) (memory : EventReceiver)
    (events : List Event) :
    ∃ parts, List.Forall₂ (fun sent part => Event.Begun leaks sent.1 sent.2 part)
        (events.zip (eventServer.answers (recordingEncoder answer) events)) parts ∧
      (EventDecoder.reached memory (fun _ => true) (fun _ _ => .ok)
          (delivered leaks (eventServer.run (recordingEncoder answer) events).context)).context =
        parts.flatten := by
  rw [EventDecoder.reached_narrated]
  exact (events_begun answer leaks).log_run ⟨recordingEncoder_recording answer, rfl⟩ events

end RNodeProtocol
