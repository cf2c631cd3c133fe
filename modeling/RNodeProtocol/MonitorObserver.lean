/-
What the monitor is for.

An observer of one direction keeps the KISS decoder of that direction and the
bytes of the frame at hand, and writes down what its script says of them.  The
two directions share nothing but the order in which their lines appear.
-/

import RNodeProtocol.CommandTranscript
import RNodeProtocol.EventTranscript
import RNodeProtocol.Monitor
import RNodeProtocol.Library.SharedOutput

namespace RNodeProtocol

open FramedInput SharedOutput TextLines

namespace Direction

def label : Direction → String
  | .hostToDevice => "H->D"
  | .deviceToHost => "H<-D"

/-- A line under the label of a direction. -/
def report (direction : Direction) (line : String) : String :=
  direction.label ++ " " ++ line

/-- The lines printed for the bytes of a frame. -/
def script : Direction → Script UInt8 String
  | .hostToDevice =>
      { put := fun input byte => commandPutDiagnostics input ++
          (commandPutCalls input byte).map fun call =>
            hostToDevice.report (CommandDecoderText.line call)
        endFrame := fun input => commandEndDiagnostics input ++
          (commandEndCalls input).map fun call =>
            hostToDevice.report (CommandDecoderText.line call) }
  | .deviceToHost =>
      { put := fun input byte => (eventPutCalls input byte).map fun call =>
          deviceToHost.report (EventDecoderText.line call)
        endFrame := fun input => (eventEndCalls input).map fun call =>
          deviceToHost.report (EventDecoderText.line call) }

end Direction

/-- The bytes since the last start, and those of them the RNode decoder has before it. -/
structure Capture where
  captured : List UInt8
  pending : List UInt8
  deriving Repr, DecidableEq

variable {KissDecoder KissStatus : Type} [DecidableEq KissStatus]

def frameErrorLine (kiss : KissLibrary KissDecoder KissStatus) (info : KissFrameInfo KissStatus) :
    String :=
  "[error=" ++ kiss.statusToString info.status ++ ", len=" ++ unsigned info.len.toNat ++ "]"

def decodeErrorLine (kiss : KissLibrary KissDecoder KissStatus) (status : KissStatus)
    (index : UInt32) : String :=
  "decode error: " ++ kiss.statusToString status ++ " at byte index " ++ unsigned index.toNat

/-- What is made of one callback of the KISS decoder. -/
def hear (kiss : KissLibrary KissDecoder KissStatus) :
    Station Direction Capture (KissCallback KissStatus) String :=
  fun direction capture callback =>
    match callback with
    | .start =>
        ({ captured := []
           pending := [] }, [])
    | .data byte _ =>
        ({ captured := capture.captured ++ [byte]
           pending := capture.pending ++ [byte] },
          direction.script.put capture.pending byte)
    | .endFrame info =>
        if info.status = kiss.frameComplete then
          ({ capture with pending := [] }, direction.script.endFrame capture.pending)
        else (capture, [direction.report (frameErrorLine kiss info)])
    | .error status index => (capture, [direction.report (decodeErrorLine kiss status index)])

structure Seen (KissDecoder : Type) where
  kissDecoder : KissDecoder
  capture : Capture

/-- What is made of one byte. -/
def observe (kiss : KissLibrary KissDecoder KissStatus) :
    Station Direction (Seen KissDecoder) UInt8 String :=
  fun direction seen byte =>
    let decoded := kiss.put seen.kissDecoder byte
    ({ kissDecoder := decoded.1
       capture := stateAlone (hear kiss) direction seen.capture decoded.2 },
      outputAlone (hear kiss) direction seen.capture decoded.2)

omit [DecidableEq KissStatus] in
/-- Before the first byte. -/
def unseen (kiss : KissLibrary KissDecoder KissStatus) : Seen KissDecoder :=
  { kissDecoder := kiss.init
    capture :=
      { captured := []
        pending := [] } }

end RNodeProtocol
