/-
Encoder requests as scripts.

A request that is in order asks its frame for a fixed list of things and stops
at the first refusal.  The scripts say which, for every request at once: the two
ways of sending a frame, written separately in the source, differ in how their
scripts are cut into requests and in the state they leave after a refusal.
-/

import RNodeProtocol.Transport

namespace RNodeProtocol

open ByteNumerals

variable {Ctx : Type}

def Encoder.ask (encoder : Encoder Ctx) : FrameRequest → Encoder Ctx × FrameCbStatus
  | .start => encoder.startFrame
  | .put byte => encoder.sendByte byte
  | .endFrame => encoder.finishFrame

/-- Go through a script as far as it is accepted. -/
def Encoder.attempt (encoder : Encoder Ctx) : List FrameRequest → Encoder Ctx × FrameCbStatus
  | [] => (encoder, .ok)
  | request :: rest =>
      if (encoder.ask request).2 ≠ .ok then encoder.ask request
      else (encoder.ask request).1.attempt rest

/-- Leave another state behind a result. -/
def Encoder.settle {Status : Type} (result : Encoder Ctx × Status) (state : EncoderState) :
    Encoder Ctx × Status :=
  ({ result.1 with state := state }, result.2)

@[simp] theorem Encoder.settle_snd {Status : Type} (result : Encoder Ctx × Status)
    (state : EncoderState) : (Encoder.settle result state).2 = result.2 := rfl

theorem Encoder.attempt_refused {encoder : Encoder Ctx} {request : FrameRequest}
    (refused : (encoder.ask request).2 ≠ .ok) (rest : List FrameRequest) :
    encoder.attempt (request :: rest) = encoder.ask request :=
  if_pos refused

theorem Encoder.attempt_accepted {encoder : Encoder Ctx} {request : FrameRequest}
    (accepted : (encoder.ask request).2 = .ok) (rest : List FrameRequest) :
    encoder.attempt (request :: rest) = (encoder.ask request).1.attempt rest :=
  if_neg (not_not_intro accepted)

theorem Encoder.attempt_singleton (encoder : Encoder Ctx) (request : FrameRequest) :
    encoder.attempt [request] = encoder.ask request := by
  by_cases accepted : (encoder.ask request).2 = .ok
  · rw [Encoder.attempt_accepted accepted]
    exact Prod.ext rfl accepted.symm
  · exact Encoder.attempt_refused accepted []

/-- A script in two parts: the second is gone through if the first is accepted. -/
theorem Encoder.attempt_append (encoder : Encoder Ctx) (first second : List FrameRequest) :
    encoder.attempt (first ++ second) =
      if (encoder.attempt first).2 ≠ .ok then encoder.attempt first
      else (encoder.attempt first).1.attempt second := by
  induction first generalizing encoder with
  | nil => rfl
  | cons request rest ih =>
      rw [List.cons_append]
      by_cases accepted : (encoder.ask request).2 = .ok
      · rw [Encoder.attempt_accepted accepted, Encoder.attempt_accepted accepted]
        exact ih _
      · rw [Encoder.attempt_refused accepted, Encoder.attempt_refused accepted,
          if_pos accepted]

theorem Encoder.ask_settle (encoder : Encoder Ctx) (state : EncoderState)
    (request : FrameRequest) :
    Encoder.ask { encoder with state := state } request =
      Encoder.settle (encoder.ask request) state := by
  cases request <;> rfl

/-- A script never looks at the state. -/
theorem Encoder.attempt_settle (encoder : Encoder Ctx) (state : EncoderState)
    (script : List FrameRequest) :
    Encoder.attempt { encoder with state := state } script =
      Encoder.settle (encoder.attempt script) state := by
  induction script generalizing encoder with
  | nil => rfl
  | cons request rest ih =>
      have asked := encoder.ask_settle state request
      by_cases accepted : (encoder.ask request).2 = .ok
      · rw [Encoder.attempt_accepted accepted, Encoder.attempt_accepted (by rw [asked]; exact accepted),
          asked]
        exact ih _
      · rw [Encoder.attempt_refused accepted, Encoder.attempt_refused (by rw [asked]; exact accepted),
          asked]

theorem Encoder.sendPayload_eq_attempt (encoder : Encoder Ctx) (bytes : List UInt8) :
    encoder.sendPayload bytes = encoder.attempt (bytes.map .put) := by
  induction bytes generalizing encoder with
  | nil => rfl
  | cons byte rest ih =>
      unfold Encoder.sendPayload
      dsimp only
      rw [ih]
      rfl

/-! ### What each request asks for -/

def EncoderRequest.script : EncoderRequest → List FrameRequest
  | .start interface => [.start, .put (packNibbles interface RnodeOpcode.data.value)]
  | .data byte => [.put byte]
  | .endFrame => [.endFrame]
  | .send interface opcode bytes =>
      [.start, .put (packNibbles interface opcode.value)] ++ bytes.map .put ++ [.endFrame]

/-- A new frame while one is open, or more of a frame while none is. -/
def EncoderRequest.OutOfOrder (state : EncoderState) : EncoderRequest → Prop
  | .start _ => state = .transmitting
  | .data _ => state = .idle
  | .endFrame => state = .idle
  | .send _ _ _ => state = .transmitting

/-- The state after a request in order, by how its script ended. -/
def EncoderRequest.leaves (status : FrameCbStatus) : EncoderRequest → EncoderState
  | .start _ => if status = .ok then .transmitting else .idle
  | .data _ => .transmitting
  | .endFrame => .idle
  | .send _ _ _ => .idle

theorem EncoderRequest.perform_outOfOrder {encoder : Encoder Ctx} {request : EncoderRequest}
    (outOfOrder : request.OutOfOrder encoder.state) :
    request.perform encoder = (encoder, .frameError) := by
  cases request with
  | start interface => exact Encoder.start_busy outOfOrder interface
  | data byte => exact Encoder.data_idle outOfOrder byte
  | endFrame => exact Encoder.endFrame_idle outOfOrder
  | send interface opcode bytes =>
      exact Encoder.sendCommandAndBytes_busy outOfOrder interface opcode bytes

/-- The start of a frame and its header, with the state set between them. -/
theorem Encoder.attempt_opening (encoder : Encoder Ctx) (interface : UInt8)
    (opcode : RnodeOpcode) (rest : List FrameRequest)
    (started : encoder.startFrame.2 = .ok) :
    encoder.attempt ([.start, .put (packNibbles interface opcode.value)] ++ rest) =
      if (encoder.startFrame.1.sendHeader interface opcode).2 ≠ .ok then
        encoder.startFrame.1.sendHeader interface opcode
      else (encoder.startFrame.1.sendHeader interface opcode).1.attempt rest := by
  have accepted : (encoder.ask .start).2 = .ok := started
  exact Encoder.attempt_accepted accepted _

/-- A frame that is refused at once, before any byte. -/
theorem Encoder.attempt_unopened (encoder : Encoder Ctx) (rest : List FrameRequest)
    (refused : encoder.startFrame.2 ≠ .ok) :
    encoder.attempt (.start :: rest) = encoder.startFrame := by
  have asked : (encoder.ask .start).2 ≠ .ok := refused
  exact Encoder.attempt_refused asked rest

theorem Encoder.start_attempt {encoder : Encoder Ctx} (idle : encoder.state = .idle)
    (interface : UInt8) :
    encoder.start interface =
      Encoder.settle
        ((encoder.attempt (EncoderRequest.start interface).script).1,
          translateFrameCbStatus (encoder.attempt (EncoderRequest.start interface).script).2)
        ((EncoderRequest.start interface).leaves
          (encoder.attempt (EncoderRequest.start interface).script).2) := by
  unfold Encoder.start
  rw [if_neg (by rw [idle]; decide)]
  dsimp only
  by_cases started : encoder.startFrame.2 = .ok
  · have opening := encoder.attempt_opening interface .data [] started
    have headed := encoder.startFrame.1.ask_settle .transmitting
      (.put (packNibbles interface RnodeOpcode.data.value))
    change Encoder.sendHeader { encoder.startFrame.1 with state := .transmitting } interface .data =
      Encoder.settle (encoder.startFrame.1.sendHeader interface .data) .transmitting at headed
    rw [List.append_nil] at opening
    change encoder.attempt (EncoderRequest.start interface).script = _ at opening
    rw [if_neg (not_not_intro started), headed, opening, Encoder.settle_snd]
    by_cases accepted : (encoder.startFrame.1.sendHeader interface .data).2 = .ok
    · rw [if_neg (not_not_intro accepted), if_neg (not_not_intro accepted)]
      rfl
    · have left : (EncoderRequest.start interface).leaves
          (encoder.startFrame.1.sendHeader interface .data).2 = .idle := if_neg accepted
      rw [if_pos accepted, if_pos accepted, left]
      rfl
  · have unopened := encoder.attempt_unopened
      [.put (packNibbles interface RnodeOpcode.data.value)] started
    have left : (EncoderRequest.start interface).leaves encoder.startFrame.2 = .idle :=
      if_neg started
    change encoder.attempt (EncoderRequest.start interface).script = _ at unopened
    rw [if_pos started, unopened, left, ← idle]
    rfl

theorem Encoder.sendCommandAndBytes_attempt {encoder : Encoder Ctx}
    (idle : encoder.state = .idle) (interface : UInt8) (opcode : RnodeOpcode)
    (bytes : List UInt8) :
    encoder.sendCommandAndBytes interface opcode bytes =
      Encoder.settle
        ((encoder.attempt (EncoderRequest.send interface opcode bytes).script).1,
          translateFrameCbStatus
            (encoder.attempt (EncoderRequest.send interface opcode bytes).script).2) .idle := by
  unfold Encoder.sendCommandAndBytes
  rw [if_neg (by rw [idle]; decide)]
  dsimp only
  by_cases started : encoder.startFrame.2 = .ok
  · have opening := encoder.attempt_opening interface opcode (bytes.map .put ++ [.endFrame]) started
    rw [← List.append_assoc] at opening
    change encoder.attempt (EncoderRequest.send interface opcode bytes).script = _ at opening
    have headed := encoder.startFrame.1.ask_settle .transmitting
      (.put (packNibbles interface opcode.value))
    change Encoder.sendHeader { encoder.startFrame.1 with state := .transmitting } interface
      opcode = Encoder.settle (encoder.startFrame.1.sendHeader interface opcode) .transmitting
      at headed
    rw [if_neg (not_not_intro started), headed, opening, Encoder.settle_snd]
    by_cases accepted : (encoder.startFrame.1.sendHeader interface opcode).2 = .ok
    · let sent := (encoder.startFrame.1.sendHeader interface opcode).1.attempt (bytes.map .put)
      have payload : Encoder.sendPayload (Encoder.settle
          (encoder.startFrame.1.sendHeader interface opcode) .transmitting).1 bytes =
            Encoder.settle sent .transmitting := by
        rw [Encoder.sendPayload_eq_attempt]
        exact Encoder.attempt_settle _ _ _
      have closing := sent.1.ask_settle .transmitting .endFrame
      change Encoder.finishFrame { sent.1 with state := .transmitting } =
        Encoder.settle sent.1.finishFrame .transmitting at closing
      rw [if_neg (not_not_intro accepted), if_neg (not_not_intro accepted), payload,
        Encoder.attempt_append, Encoder.attempt_singleton]
      change (if sent.2 ≠ .ok then _ else _) = Encoder.settle
        ((if sent.2 ≠ .ok then sent else sent.1.finishFrame).1, translateFrameCbStatus
          (if sent.2 ≠ .ok then sent else sent.1.finishFrame).2) .idle
      by_cases carried : sent.2 = .ok
      · rw [if_neg (not_not_intro carried), if_neg (not_not_intro carried)]
        change (if (Encoder.finishFrame { sent.1 with state := .transmitting }).2 ≠ .ok then _
          else _) = _
        rw [closing, Encoder.settle_snd]
        by_cases closed : sent.1.finishFrame.2 = .ok
        · rw [if_neg (not_not_intro closed), closed]
          rfl
        · rw [if_pos closed]
          rfl
      · rw [if_pos carried, if_pos carried]
        rfl
    · rw [if_pos accepted, if_pos accepted]
      rfl
  · have unopened := encoder.attempt_unopened
      (.put (packNibbles interface opcode.value) :: bytes.map .put ++ [.endFrame]) started
    change encoder.attempt (EncoderRequest.send interface opcode bytes).script = _ at unopened
    rw [if_pos started, unopened, ← idle]
    rfl

/-- A request in order goes through its script and leaves the state its outcome calls for. -/
theorem EncoderRequest.perform_inOrder {encoder : Encoder Ctx} {request : EncoderRequest}
    (inOrder : ¬ request.OutOfOrder encoder.state) :
    request.perform encoder =
      Encoder.settle
        ((encoder.attempt request.script).1,
          translateFrameCbStatus (encoder.attempt request.script).2)
        (request.leaves (encoder.attempt request.script).2) := by
  cases request with
  | start interface =>
      cases state : encoder.state with
      | idle => exact Encoder.start_attempt state interface
      | transmitting => exact absurd state inOrder
  | data byte =>
      cases state : encoder.state with
      | idle => exact absurd state inOrder
      | transmitting =>
          change encoder.data byte = _
          unfold Encoder.data EncoderRequest.script
          rw [if_neg (not_not_intro state), Encoder.attempt_singleton]
          change _ = Encoder.settle _ EncoderState.transmitting
          rw [← state]
          rfl
  | endFrame =>
      cases state : encoder.state with
      | idle => exact absurd state inOrder
      | transmitting =>
          change encoder.endFrame = _
          unfold Encoder.endFrame EncoderRequest.script
          rw [if_neg (not_not_intro state), Encoder.attempt_singleton]
          rfl
  | send interface opcode bytes =>
      cases state : encoder.state with
      | idle => exact Encoder.sendCommandAndBytes_attempt state interface opcode bytes
      | transmitting => exact absurd state inOrder

end RNodeProtocol
