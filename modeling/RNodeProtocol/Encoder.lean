/-
The protocol encoder.

Every operation drives the frame callbacks of the encoder.  Sending a complete
frame and streaming one byte by byte are written separately in the source, and
stay separate here: a refused byte closes the frame on the first path and
leaves it open on the second.
-/

import RNodeProtocol.Frame
import RNodeProtocol.Library.ByteNumerals

namespace RNodeProtocol

structure Encoder (Ctx : Type) where
  context : Ctx
  state : EncoderState
  frame : Frame Ctx

variable {Ctx : Type}

def Encoder.init (context : Ctx) (startCb : Option (Ctx → Ctx × FrameCbStatus))
    (putCb : Option (Ctx → UInt8 → Ctx × FrameCbStatus))
    (endCb : Option (Ctx → Ctx × FrameCbStatus)) : Encoder Ctx :=
  { context := context
    state := .idle
    frame := Frame.init startCb putCb endCb }

def translateFrameCbStatus : FrameCbStatus → EncoderStatus
  | .ok => .ok
  | .abort => .aborted

/-- `pico_rnode_proto_frame_start` on the encoder's own frame and context. -/
def Encoder.startFrame (encoder : Encoder Ctx) : Encoder Ctx × FrameCbStatus :=
  let started := encoder.frame.start encoder.context
  ({ encoder with frame := started.1, context := started.2.1 }, started.2.2)

def Encoder.sendByte (encoder : Encoder Ctx) (byte : UInt8) : Encoder Ctx × FrameCbStatus :=
  let sent := encoder.frame.putByte encoder.context byte
  ({ encoder with frame := sent.1, context := sent.2.1 }, sent.2.2)

/-- `pico_rnode_proto_frame_end` on the encoder's own frame and context. -/
def Encoder.finishFrame (encoder : Encoder Ctx) : Encoder Ctx × FrameCbStatus :=
  let ended := encoder.frame.endFrame encoder.context
  ({ encoder with context := ended.1 }, ended.2)

def Encoder.sendHeader (encoder : Encoder Ctx) (interface : UInt8) (opcode : RnodeOpcode) :
    Encoder Ctx × FrameCbStatus :=
  encoder.sendByte ((interface <<< 4) ||| (opcode.value &&& 0x0F))

def Encoder.start (encoder : Encoder Ctx) (interface : UInt8) : Encoder Ctx × EncoderStatus :=
  if encoder.state = .transmitting then (encoder, .frameError)
  else
    let started := encoder.startFrame
    if started.2 ≠ .ok then (started.1, translateFrameCbStatus started.2)
    else
      let opened : Encoder Ctx := { started.1 with state := .transmitting }
      let headed := opened.sendHeader interface .data
      if headed.2 ≠ .ok then
        ({ headed.1 with state := .idle }, translateFrameCbStatus headed.2)
      else (headed.1, .ok)

def Encoder.data (encoder : Encoder Ctx) (byte : UInt8) : Encoder Ctx × EncoderStatus :=
  if encoder.state ≠ .transmitting then (encoder, .frameError)
  else
    let sent := encoder.sendByte byte
    (sent.1, translateFrameCbStatus sent.2)

def Encoder.endFrame (encoder : Encoder Ctx) : Encoder Ctx × EncoderStatus :=
  if encoder.state ≠ .transmitting then (encoder, .frameError)
  else
    let closed : Encoder Ctx := { encoder with state := .idle }
    let ended := closed.finishFrame
    (ended.1, translateFrameCbStatus ended.2)

/-- The payload loop of a one-shot send; it stops at the first refused byte. -/
def Encoder.sendPayload (encoder : Encoder Ctx) : List UInt8 → Encoder Ctx × FrameCbStatus
  | [] => (encoder, .ok)
  | byte :: rest =>
      let sent := encoder.sendByte byte
      if sent.2 ≠ .ok then sent else sent.1.sendPayload rest

def Encoder.sendCommandAndBytes (encoder : Encoder Ctx) (interface : UInt8)
    (opcode : RnodeOpcode) (bytes : List UInt8) : Encoder Ctx × EncoderStatus :=
  if encoder.state = .transmitting then (encoder, .frameError)
  else
    let started := encoder.startFrame
    if started.2 ≠ .ok then (started.1, translateFrameCbStatus started.2)
    else
      let opened : Encoder Ctx := { started.1 with state := .transmitting }
      let headed := opened.sendHeader interface opcode
      if headed.2 ≠ .ok then
        ({ headed.1 with state := .idle }, translateFrameCbStatus headed.2)
      else
        let sent := headed.1.sendPayload bytes
        if sent.2 ≠ .ok then
          ({ sent.1 with state := .idle }, translateFrameCbStatus sent.2)
        else
          let ended := sent.1.finishFrame
          if ended.2 ≠ .ok then
            ({ ended.1 with state := .idle }, translateFrameCbStatus ended.2)
          else ({ ended.1 with state := .idle }, .ok)

def Encoder.sendCommandAndWord (encoder : Encoder Ctx) (interface : UInt8)
    (opcode : RnodeOpcode) (word : UInt32) : Encoder Ctx × EncoderStatus :=
  encoder.sendCommandAndBytes interface opcode
    [((word >>> 24) &&& 0xFF).toUInt8, ((word >>> 16) &&& 0xFF).toUInt8,
      ((word >>> 8) &&& 0xFF).toUInt8, (word &&& 0xFF).toUInt8]

def Encoder.sendCommandAndByte (encoder : Encoder Ctx) (interface : UInt8)
    (opcode : RnodeOpcode) (value : UInt8) : Encoder Ctx × EncoderStatus :=
  encoder.sendCommandAndBytes interface opcode [value]

end RNodeProtocol
