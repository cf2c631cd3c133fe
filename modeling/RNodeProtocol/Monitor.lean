/-
The monitor.

Bytes forwarded in either direction go to the KISS decoder of that direction,
whose callbacks drive a text decoder.  Both text decoders, the command decoder
itself and the handlers below write to one standard output, which is handed
from each to the next.

The KISS decoder is library code and a parameter: what a byte leaves of it, and
which callbacks it makes.  A data callback always answers OK, so which
callbacks are made does not depend on the monitor.
-/

import RNodeProtocol.CommandConsole
import RNodeProtocol.EventDecoderText

namespace RNodeProtocol

open TextLines

def maxFrameBytes : Nat := 2048

/-! ### The KISS decoder -/

structure KissFrameInfo (KissStatus : Type) where
  status : KissStatus
  len : UInt32
  deriving Repr, DecidableEq

inductive KissCallback (KissStatus : Type) where
  | start
  | data (byte : UInt8) (byteIndex : UInt32)
  | endFrame (info : KissFrameInfo KissStatus)
  | error (status : KissStatus) (index : UInt32)
  deriving Repr, DecidableEq

structure KissLibrary (KissDecoder KissStatus : Type) where
  init : KissDecoder
  put : KissDecoder → UInt8 → KissDecoder × List (KissCallback KissStatus)
  frameComplete : KissStatus
  statusToString : KissStatus → String

/-! ### Decoders that write to the standard output -/

namespace EventDecoder

def writingTo (decoder : EventDecoder EventDecoderText) (stdout : String) :
    EventDecoder EventDecoderText :=
  { decoder with context := { decoder.context with out := stdout } }

def putText (decoder : EventDecoder EventDecoderText) (stdout : String) (byte : UInt8) :
    EventDecoder EventDecoderText :=
  ((decoder.writingTo stdout).put byte).1

def endText (decoder : EventDecoder EventDecoderText) (stdout : String) :
    EventDecoder EventDecoderText :=
  (decoder.writingTo stdout).endFrame.1

end EventDecoder

/-- The decoder behind a context, with the flag that says which it is. -/
inductive RnodeDecoder where
  | command (decoder : CommandDecoder CommandDecoderText)
  | event (decoder : EventDecoder EventDecoderText)

namespace RnodeDecoder

def start : RnodeDecoder → RnodeDecoder
  | .command decoder => .command decoder.start
  | .event decoder => .event decoder.start

def put (stdout : String) (byte : UInt8) : RnodeDecoder → RnodeDecoder × String
  | .command decoder =>
      let decoder := decoder.putText stdout byte
      (.command decoder, decoder.context.out)
  | .event decoder =>
      let decoder := decoder.putText stdout byte
      (.event decoder, decoder.context.out)

def endFrame (stdout : String) : RnodeDecoder → RnodeDecoder × String
  | .command decoder =>
      let decoder := decoder.endText stdout
      (.command decoder, decoder.context.out)
  | .event decoder =>
      let decoder := decoder.endText stdout
      (.event decoder, decoder.context.out)

end RnodeDecoder

/-! ### Contexts -/

/-- The bytes of a frame, as far as there is room for them. -/
structure FrameBuffer where
  frame : Vector UInt8 maxFrameBytes
  frameLen : Nat
  fits : frameLen ≤ maxFrameBytes

namespace FrameBuffer

def zeroed : FrameBuffer :=
  { frame := Vector.replicate maxFrameBytes 0
    frameLen := 0
    fits := Nat.zero_le _ }

def clear (buffer : FrameBuffer) : FrameBuffer :=
  { buffer with
    frameLen := 0
    fits := Nat.zero_le _ }

def store (buffer : FrameBuffer) (byte : UInt8) : FrameBuffer :=
  if room : buffer.frameLen < maxFrameBytes then
    { frame := buffer.frame.set buffer.frameLen byte
      frameLen := buffer.frameLen + 1
      fits := room }
  else buffer

end FrameBuffer

structure MonitorContext where
  direction : String
  frame : FrameBuffer
  rnodeDecoder : RnodeDecoder

namespace MonitorContext

variable {KissDecoder KissStatus : Type} [DecidableEq KissStatus]

def decoderStart (context : MonitorContext) : MonitorContext :=
  { context with
    frame := context.frame.clear
    rnodeDecoder := context.rnodeDecoder.start }

def decoderData (context : MonitorContext) (stdout : String) (byte : UInt8) :
    MonitorContext × String :=
  let put := context.rnodeDecoder.put stdout byte
  ({ context with
      frame := context.frame.store byte
      rnodeDecoder := put.1 }, put.2)

def decoderEnd (kiss : KissLibrary KissDecoder KissStatus) (context : MonitorContext)
    (stdout : String) (info : KissFrameInfo KissStatus) : MonitorContext × String :=
  if info.status = kiss.frameComplete then
    let ended := context.rnodeDecoder.endFrame stdout
    ({ context with rnodeDecoder := ended.1 }, ended.2)
  else
    (context, stdout ++ context.direction ++ " [error=" ++ kiss.statusToString info.status ++
      ", len=" ++ unsigned info.len.toNat ++ "]\n")

omit [DecidableEq KissStatus] in
def decoderError (kiss : KissLibrary KissDecoder KissStatus) (context : MonitorContext)
    (stdout : String) (status : KissStatus) (index : UInt32) : String :=
  stdout ++ context.direction ++ " decode error: " ++ kiss.statusToString status ++
    " at byte index " ++ unsigned index.toNat ++ "\n"

/-- The handler of a callback; the index of a data callback is not used. -/
def handle (kiss : KissLibrary KissDecoder KissStatus) (context : MonitorContext)
    (stdout : String) : KissCallback KissStatus → MonitorContext × String
  | .start => (context.decoderStart, stdout)
  | .data byte _ => context.decoderData stdout byte
  | .endFrame info => context.decoderEnd kiss stdout info
  | .error status index => (context, context.decoderError kiss stdout status index)

/-- The handlers of the callbacks of one byte, in turn. -/
def handleAll (kiss : KissLibrary KissDecoder KissStatus) :
    MonitorContext → String → List (KissCallback KissStatus) → MonitorContext × String
  | context, stdout, [] => (context, stdout)
  | context, stdout, callback :: rest =>
      let handled := context.handle kiss stdout callback
      handleAll kiss handled.1 handled.2 rest

end MonitorContext

/-! ### Channels -/

inductive Direction where
  | hostToDevice
  | deviceToHost
  deriving Repr, DecidableEq

/-- A KISS decoder and the context its handlers are given. -/
structure Channel (KissDecoder : Type) where
  kissDecoder : KissDecoder
  context : MonitorContext

namespace Channel

variable {KissDecoder KissStatus : Type} [DecidableEq KissStatus]

def put (kiss : KissLibrary KissDecoder KissStatus) (channel : Channel KissDecoder)
    (stdout : String) (byte : UInt8) : Channel KissDecoder × String :=
  let decoded := kiss.put channel.kissDecoder byte
  let handled := channel.context.handleAll kiss stdout decoded.2
  ({ kissDecoder := decoded.1
     context := handled.1 }, handled.2)

def putAll (kiss : KissLibrary KissDecoder KissStatus) :
    Channel KissDecoder → String → List UInt8 → Channel KissDecoder × String
  | channel, stdout, [] => (channel, stdout)
  | channel, stdout, byte :: rest =>
      let fed := channel.put kiss stdout byte
      putAll kiss fed.1 fed.2 rest

end Channel

/-- The decoders of both directions, and what was printed. -/
structure Monitor (KissDecoder : Type) where
  stdout : String
  outgoing : Channel KissDecoder
  incoming : Channel KissDecoder

namespace Monitor

variable {KissDecoder KissStatus : Type}

/-- The set-up of the decoders, in statically allocated memory. -/
def init (kiss : KissLibrary KissDecoder KissStatus) (stdout : String) : Monitor KissDecoder :=
  { stdout := stdout
    outgoing :=
      { kissDecoder := kiss.init
        context :=
          { direction := "H->D"
            frame := FrameBuffer.zeroed
            rnodeDecoder := .command (CommandDecoderText.init
              (CommandDecoder.zeroed (TextLog.init "" none)) stdout (some "H->D")) } }
    incoming :=
      { kissDecoder := kiss.init
        context :=
          { direction := "H<-D"
            frame := FrameBuffer.zeroed
            rnodeDecoder := .event (EventDecoderText.init
              (EventDecoder.zeroed (TextLog.init "" none)) stdout (some "H<-D")) } } }

variable [DecidableEq KissStatus]

/-- Bytes of one direction, handed to its decoder one by one. -/
def decode (kiss : KissLibrary KissDecoder KissStatus) (monitor : Monitor KissDecoder)
    (direction : Direction) (bytes : List UInt8) : Monitor KissDecoder :=
  match direction with
  | .hostToDevice =>
      let fed := monitor.outgoing.putAll kiss monitor.stdout bytes
      { monitor with
        stdout := fed.2
        outgoing := fed.1 }
  | .deviceToHost =>
      let fed := monitor.incoming.putAll kiss monitor.stdout bytes
      { monitor with
        stdout := fed.2
        incoming := fed.1 }

def decodeAll (kiss : KissLibrary KissDecoder KissStatus) (monitor : Monitor KissDecoder)
    (chunks : List (Direction × List UInt8)) : Monitor KissDecoder :=
  chunks.foldl (fun current chunk => current.decode kiss chunk.1 chunk.2) monitor

end Monitor

end RNodeProtocol
