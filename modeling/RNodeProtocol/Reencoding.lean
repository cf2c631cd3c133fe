/-
Encoding a decoded command again.

The callbacks a command decoder invokes for a frame name the encoder calls that
send the command.  Made on an idle encoder they give the frame back, except for
the three commands that address the whole device: the decoder drops part of
their frames, and the encoder fills in fixed bytes.
-/

import RNodeProtocol.CommandDecoderFrames
import RNodeProtocol.CommandEncoder
import RNodeProtocol.Transport

namespace RNodeProtocol

open ByteNumerals FramedInput

/-! ### Canonical frames -/

/-- A frame with the parts of it that its decoder drops filled in as its encoder does. -/
def canonicalFrame : List UInt8 → List UInt8
  | [] => []
  | header :: payload =>
      if lowNibble header = RnodeOpcode.detect.value then [0x08, 0x73]
      else if lowNibble header = RnodeOpcode.leave.value then [0x0A, 0x00]
      else if lowNibble header = RnodeOpcode.ready.value then [0x0F]
      else header :: payload

theorem canonicalFrame_low {header nibble : UInt8} (low : lowNibble header = nibble)
    (payload : List UInt8) :
    canonicalFrame (header :: payload) =
      if nibble = RnodeOpcode.detect.value then [0x08, 0x73]
      else if nibble = RnodeOpcode.leave.value then [0x0A, 0x00]
      else if nibble = RnodeOpcode.ready.value then [0x0F]
      else header :: payload := by
  rw [← low]
  rfl

/-- What an accepted frame of a fixed-length opcode says about its bytes. -/
theorem parsePayload_accepted (opcode : RnodeOpcode) {header : UInt8} {payload : List UInt8}
    {length : Nat} {build : Interface → Nat → Option Command} {command : Command}
    (low : lowNibble header = lowNibble opcode.value)
    (notData : (lowNibble opcode.value).toNat ≠ 0x00)
    (table : fixedCommand (lowNibble opcode.value).toNat = some (length, build))
    (parsed : parsePayload header payload (lowNibble opcode.value).toNat = .accepted command) :
    payload.length = length ∧ ∃ interface : Interface, interface.header opcode = header ∧
      build interface (bigEndian payload) = some command := by
  unfold parsePayload at parsed
  rw [if_neg notData, table] at parsed
  change parseFixed header length payload build = _ at parsed
  unfold parseFixed at parsed
  split at parsed
  · rename_i sized
    refine ⟨sized, Interface.ofHeader header, Interface.header_ofHeader low, ?_⟩
    split at parsed
    · rename_i built
      rw [built, ParsedCommand.accepted.inj parsed]
    · cases parsed
  · cases parsed

/-- The same for a payload of one byte. -/
theorem parseByte_accepted (opcode : RnodeOpcode) {header : UInt8} {payload : List UInt8}
    {build : Interface → Nat → Option Command} {command : Command}
    (low : lowNibble header = lowNibble opcode.value)
    (notData : (lowNibble opcode.value).toNat ≠ 0x00)
    (table : fixedCommand (lowNibble opcode.value).toNat = some (1, build))
    (parsed : parsePayload header payload (lowNibble opcode.value).toNat = .accepted command) :
    ∃ (interface : Interface) (byte : UInt8), [interface.header opcode, byte] = header :: payload ∧
      build interface byte.toNat = some command := by
  obtain ⟨sized, interface, head, built⟩ :=
    parsePayload_accepted opcode low notData table parsed
  obtain ⟨byte, rfl⟩ := List.length_eq_one_iff.mp sized
  rw [bigEndian_singleton] at built
  exact ⟨interface, byte, by rw [head], built⟩

theorem parseRadioState_some {byte : UInt8} {state : RadioState}
    (parsed : parseRadioState byte.toNat = some state) : state.value = byte := by
  unfold parseRadioState at parsed
  split at parsed
  · rename_i zero
    cases parsed
    exact UInt8.toNat_inj.mp zero.symm
  · rename_i one
    cases parsed
    exact UInt8.toNat_inj.mp one.symm
  · rename_i ask
    cases parsed
    exact UInt8.toNat_inj.mp ask.symm
  · cases parsed

/-- The grammar accepts no frame that its writer does not write, up to canonical form. -/
theorem Command.frame_of_parse {frame : List UInt8} {command : Command}
    (parsed : parseCommand frame = .accepted command) :
    command.frame = canonicalFrame frame := by
  cases frame with
  | nil => cases parsed
  | cons header payload =>
      change parsePayload header payload (lowNibble header).toNat = _ at parsed
      rcases nibble_cases (lowNibble_lt header) with
        low | low | low | low | low | low | low | low | low | low | low | low | low | low | low |
          low <;>
        rw [low] at parsed <;>
        rw [canonicalFrame_low low]
      · change command.frame = header :: payload
        have read : Command.transmit (Interface.ofHeader header) payload = command :=
          ParsedCommand.accepted.inj parsed
        rw [← read]
        change (Interface.ofHeader header).header .data :: payload = _
        rw [Interface.header_ofHeader low]
      · change command.frame = header :: payload
        obtain ⟨sized, interface, head, built⟩ :=
          parsePayload_accepted .frequency low (by decide) rfl parsed
        cases built
        change interface.header .frequency :: wordBytes (UInt32.ofNat (bigEndian payload)) = _
        rw [head, wordBytes_bigEndian sized]
      · change command.frame = header :: payload
        obtain ⟨sized, interface, head, built⟩ :=
          parsePayload_accepted .bandwidth low (by decide) rfl parsed
        cases built
        change interface.header .bandwidth :: wordBytes (UInt32.ofNat (bigEndian payload)) = _
        rw [head, wordBytes_bigEndian sized]
      · change command.frame = header :: payload
        obtain ⟨interface, byte, same, built⟩ :=
          parseByte_accepted .txpower low (by decide) rfl parsed
        rw [← same]
        cases built
        change [interface.header .txpower, (UInt8.ofNat byte.toNat).toInt8.toUInt8] = _
        rw [UInt8.toUInt8_toInt8, UInt8.ofNat_toNat]
      · change command.frame = header :: payload
        obtain ⟨interface, byte, same, built⟩ :=
          parseByte_accepted .sf low (by decide) rfl parsed
        rw [← same]
        cases built
        exact congrArg (fun value => [interface.header .sf, value]) UInt8.ofNat_toNat
      · change command.frame = header :: payload
        obtain ⟨interface, byte, same, built⟩ :=
          parseByte_accepted .cr low (by decide) rfl parsed
        rw [← same]
        cases built
        exact congrArg (fun value => [interface.header .cr, value]) UInt8.ofNat_toNat
      · change command.frame = header :: payload
        obtain ⟨interface, byte, same, built⟩ :=
          parseByte_accepted .radioState low (by decide) rfl parsed
        obtain ⟨state, read, rfl⟩ := Option.map_eq_some_iff.mp built
        rw [← same]
        exact congrArg (fun value => [interface.header .radioState, value])
          (parseRadioState_some read)
      · change command.frame = header :: payload
        obtain ⟨interface, byte, same, built⟩ :=
          parseByte_accepted .radioLock low (by decide) rfl parsed
        rw [← same]
        cases built
        exact congrArg (fun value => [interface.header .radioLock, value]) UInt8.ofNat_toNat
      · change command.frame = [0x08, 0x73]
        obtain ⟨interface, byte, _, built⟩ :=
          parseByte_accepted .detect low (by decide) rfl parsed
        by_cases request : byte.toNat = 0x73
        · have read : some Command.detect = some command := (if_pos request).symm.trans built
          cases read
          rfl
        · cases (if_neg request).symm.trans built
      · cases (parsed : ParsedCommand.rejected _ _ _ = _)
      · obtain ⟨_, _, _, built⟩ := parsePayload_accepted .leave low (by decide) rfl parsed
        cases built
        rfl
      · cases (parsed : ParsedCommand.rejected _ _ _ = _)
      · cases (parsed : ParsedCommand.rejected _ _ _ = _)
      · cases (parsed : ParsedCommand.rejected _ _ _ = _)
      · cases (parsed : ParsedCommand.rejected _ _ _ = _)
      · obtain ⟨_, _, _, built⟩ := parsePayload_accepted .ready low (by decide) rfl parsed
        cases built
        rfl

/-! ### Replaying callbacks -/

/-- The encoder call a callback of the decoder corresponds to; an error report has none. -/
def CommandCall.replay {Ctx : Type} (encoder : CommandEncoder Ctx) :
    CommandCall → CommandEncoder Ctx × EncoderStatus
  | .detect => encoder.detect
  | .setFrequency interface hz => encoder.setFrequency interface hz
  | .setBandwidth interface bandwidth => encoder.setBandwidth interface bandwidth
  | .setTxpower interface dbm => encoder.setTxpower interface dbm
  | .setSpreadingFactor interface sf => encoder.setSpreadingFactor interface sf
  | .setCodingRate interface cr => encoder.setCodingRate interface cr
  | .setRadioState interface state => encoder.setRadioState interface state
  | .ready => encoder.ready
  | .lock interface lockState => encoder.setRadioLock interface lockState
  | .leave => encoder.leave
  | .tx (.start interface) _ => CommandEncoder.start encoder interface
  | .tx (.data _ byte _) _ => CommandEncoder.data encoder byte
  | .tx (.endStream _ _) _ => CommandEncoder.endFrame encoder
  | .error _ _ _ _ => (encoder, .ok)

def replayAll {Ctx : Type} (encoder : CommandEncoder Ctx) (calls : List CommandCall) :
    CommandEncoder Ctx :=
  calls.foldl (fun current call => (call.replay current).1) encoder

section Replay

variable {Ctx : Type} {encoder : CommandEncoder Ctx}

theorem replayAll_send (accepts : encoder.frame.Accepts) (idle : encoder.state = .idle)
    {call : CommandCall} {interface : UInt8} {opcode : RnodeOpcode} {bytes : List UInt8}
    (performs : call.replay encoder = encoder.sendCommandAndBytes interface opcode bytes) :
    (replayAll encoder [call]).context =
      encoder.frame.deliver encoder.context (packNibbles interface opcode.value :: bytes) := by
  have returned := Encoder.sendCommandAndBytes_accepted accepts idle interface opcode bytes
  have sent := (Encoder.sendCommandAndBytes_ok returned).2
  change (call.replay encoder).1.context = _
  rw [performs, sent]

theorem replayAll_data (interface : UInt8) (first : Nat) (payload : List UInt8) :
    replayAll encoder (dataCalls .tx interface first payload) =
      payload.foldl (fun current byte => (Encoder.data current byte).1) encoder := by
  induction payload generalizing encoder first with
  | nil => rfl
  | cons byte rest ih =>
      rw [dataCalls_cons]
      exact ih (first + 1)

theorem replayAll_stream (accepts : encoder.frame.Accepts) (idle : encoder.state = .idle)
    (interface : UInt8) (payload : List UInt8) :
    (replayAll encoder (streamCalls .tx interface payload)).context =
      encoder.frame.deliver encoder.context
        (packNibbles interface RnodeOpcode.data.value :: payload) := by
  have returned := Encoder.start_accepted accepts idle interface
  have split : replayAll encoder (streamCalls .tx interface payload) =
      (Encoder.endFrame (replayAll (Encoder.start encoder interface).1
        (dataCalls .tx interface 0 payload))).1 := by
    unfold replayAll streamCalls
    rw [List.foldl_append]
    rfl
  rw [split, replayAll_data]
  exact Encoder.stream_delivers returned payload

/-- Replaying the callbacks of a command on an idle encoder sends its frame. -/
theorem Command.replay_calls (accepts : encoder.frame.Accepts) (idle : encoder.state = .idle)
    (command : Command) :
    (replayAll encoder command.calls).context =
      encoder.frame.deliver encoder.context command.frame := by
  cases command with
  | transmit interface payload => exact replayAll_stream accepts idle interface.value payload
  | _ => exact replayAll_send accepts idle rfl

end Replay

/-- The callbacks of a complete frame on a transport that accepts everything. -/
def frameCalls (bytes : List UInt8) : List FrameCall :=
  { request := .start, answer := .ok } ::
    bytes.map (fun byte => { request := .put byte, answer := .ok }) ++
      [{ request := .endFrame, answer := .ok }]

theorem Frame.Recording.deliver_accepting {frame : Frame (List FrameCall)}
    (recording : frame.Recording fun _ _ => .ok) (log : List FrameCall) (bytes : List UInt8) :
    frame.deliver log bytes = log ++ frameCalls bytes := by
  have fed : ∀ log, bytes.foldl frame.sent log = log ++
      bytes.map (fun byte => { request := .put byte, answer := .ok }) := by
    induction bytes with
    | nil => exact fun log => (List.append_nil log).symm
    | cons byte rest ih =>
        intro log
        rw [List.foldl_cons, ih, recording.sent, List.append_assoc]
        rfl
  unfold Frame.deliver frameCalls
  rw [recording.closed, fed, recording.opened, List.append_assoc, List.append_assoc]
  rfl

theorem Frame.Recording.accepts {frame : Frame (List FrameCall)}
    (recording : frame.Recording fun _ _ => .ok) : frame.Accepts :=
  ⟨fun log => congrArg Prod.snd (recording.start_eq log),
    fun log byte => congrArg Prod.snd (recording.putByte_eq log byte),
    fun log => congrArg Prod.snd (recording.endFrame_eq log)⟩

/-! ### Decoding, replaying and decoding again -/

/-- The callbacks a started decoder invokes for a frame that is written and ended. -/
def CommandDecoder.heard (decoder : CommandDecoder (List CommandCall)) (frame : List UInt8) :
    List CommandCall :=
  ((machine.write decoder.start frame).1.endFrame.1.context).drop decoder.context.length

theorem CommandDecoder.heard_of_context {decoder : CommandDecoder (List CommandCall)}
    {frame : List UInt8} {calls : List CommandCall}
    (added : (machine.putAll decoder.start frame).endFrame.1.context = decoder.context ++ calls) :
    decoder.heard frame = calls := by
  unfold CommandDecoder.heard
  rw [CommandDecoder.failStop.write_fst, added]
  exact List.drop_left

theorem CommandDecoder.Recorded.heard_reported {answer : CommandAnswer}
    {decoder : CommandDecoder (List CommandCall)}
    (recorded : CommandDecoder.Recorded (fun _ => true) answer decoder)
    (accepting : AcceptsAfter answer decoder.context) (frame : List UInt8) :
    (parseCommand frame).ReportedBy (decoder.heard frame) := by
  obtain ⟨calls, reported, added⟩ := recorded.start.frame rfl accepting frame
  rw [CommandDecoder.heard_of_context added]
  exact reported

/-- A frame reported without an error is one that the grammar accepts. -/
theorem ParsedCommand.ReportedBy.accepted {parsed : ParsedCommand} {calls : List CommandCall}
    (reported : parsed.ReportedBy calls) (fired : calls ≠ [])
    (faultless : ∀ call ∈ calls, call.slot ≠ .error) :
    ∃ command, parsed = .accepted command ∧ calls = command.calls := by
  cases parsed with
  | empty => exact absurd reported fired
  | accepted command => exact ⟨command, rfl, reported⟩
  | rejected interface opcode status =>
      obtain ⟨index, rfl⟩ := reported
      exact absurd rfl (faultless _ List.mem_cons_self)

/-- Replaying what a decoder reported of a frame sends the frame in canonical form, which the
decoder reports in the same way. -/
theorem replay_canonical (memory : CommandDecoder (List CommandCall)) (answer : CommandAnswer)
    (operations : List (Operation UInt8)) (frame : List UInt8)
    (encoder : CommandEncoder (List FrameCall))
    (accepting : AcceptsAfter answer
      (CommandDecoder.reached memory (fun _ => true) answer operations).context)
    (recording : encoder.frame.Recording fun _ _ => .ok) (idle : encoder.state = .idle)
    (fired : (CommandDecoder.reached memory (fun _ => true) answer operations).heard frame ≠ [])
    (faultless : ∀ call ∈
      (CommandDecoder.reached memory (fun _ => true) answer operations).heard frame,
      call.slot ≠ .error) :
    (replayAll encoder
        ((CommandDecoder.reached memory (fun _ => true) answer operations).heard frame)).context =
        encoder.context ++ frameCalls (canonicalFrame frame) ∧
      (CommandDecoder.reached memory (fun _ => true) answer operations).heard
          (canonicalFrame frame) =
        (CommandDecoder.reached memory (fun _ => true) answer operations).heard frame := by
  have recorded := CommandDecoder.reached_recorded memory (fun _ => true) answer operations
  have reported := recorded.heard_reported accepting frame
  obtain ⟨command, parsed, calls⟩ := reported.accepted fired faultless
  have canonical := Command.frame_of_parse parsed
  have again := recorded.heard_reported accepting (canonicalFrame frame)
  rw [← canonical, parseCommand_frame] at again
  constructor
  · rw [calls, Command.replay_calls recording.accepts idle, recording.deliver_accepting, canonical]
  · rw [← canonical, calls]
    exact again

/-- A detection request on interface 3, after an abandoned stream, is sent again on interface 0. -/
theorem replay_canonical_detect :
    (replayAll (recordingEncoder fun _ _ => .ok) ((CommandDecoder.reached
        (CommandDecoder.zeroed []) (fun _ => true) (fun _ _ => .ok) [.start, .put 0x10]).heard
          [0x38, 0x73])).context = frameCalls [0x08, 0x73] ∧
      (CommandDecoder.reached (CommandDecoder.zeroed []) (fun _ => true) (fun _ _ => .ok)
          [.start, .put 0x10]).heard [0x08, 0x73] =
        (CommandDecoder.reached (CommandDecoder.zeroed []) (fun _ => true) (fun _ _ => .ok)
          [.start, .put 0x10]).heard [0x38, 0x73] :=
  replay_canonical _ _ [.start, .put 0x10] [0x38, 0x73] (recordingEncoder fun _ _ => .ok)
    (fun _ _ _ => rfl) (recordingEncoder_recording _) rfl (by decide) (by decide)

end RNodeProtocol
