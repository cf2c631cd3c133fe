/-
Outgoing frames.

A frame wraps the three transport callbacks of an encoder.  The user context a
callback receives by pointer is modelled by the value it points to: a callback
takes the context and gives back what it leaves there, with its status.  A NULL
callback is `none` and counts as accepting.
-/

import RNodeProtocol.Consts

namespace RNodeProtocol

structure Frame (Ctx : Type) where
  byteIndex : UInt32
  startCb : Option (Ctx → Ctx × FrameCbStatus)
  putCb : Option (Ctx → UInt8 → Ctx × FrameCbStatus)
  endCb : Option (Ctx → Ctx × FrameCbStatus)

variable {Ctx : Type}

def Frame.init (startCb : Option (Ctx → Ctx × FrameCbStatus))
    (putCb : Option (Ctx → UInt8 → Ctx × FrameCbStatus))
    (endCb : Option (Ctx → Ctx × FrameCbStatus)) : Frame Ctx :=
  { byteIndex := 0
    startCb := startCb
    putCb := putCb
    endCb := endCb }

def Frame.start (frame : Frame Ctx) (context : Ctx) : Frame Ctx × Ctx × FrameCbStatus :=
  ({ frame with byteIndex := 0 },
    match frame.startCb with
    | some startCb => startCb context
    | none => (context, .ok))

def Frame.putByte (frame : Frame Ctx) (context : Ctx) (byte : UInt8) :
    Frame Ctx × Ctx × FrameCbStatus :=
  ({ frame with byteIndex := frame.byteIndex + 1 },
    match frame.putCb with
    | some putCb => putCb context byte
    | none => (context, .ok))

def Frame.endFrame (frame : Frame Ctx) (context : Ctx) : Ctx × FrameCbStatus :=
  match frame.endCb with
  | some endCb => endCb context
  | none => (context, .ok)

end RNodeProtocol
