/-
The command encoder: one function for each command of the protocol table.

The source wraps the protocol encoder in a record of its own with no further
field; here the wrapper is the protocol encoder itself.
-/

import RNodeProtocol.Encoder

namespace RNodeProtocol

abbrev CommandEncoder (Ctx : Type) := Encoder Ctx

namespace CommandEncoder

variable {Ctx : Type}

def init (context : Ctx) (startCb : Option (Ctx → Ctx × FrameCbStatus))
    (putCb : Option (Ctx → UInt8 → Ctx × FrameCbStatus))
    (endCb : Option (Ctx → Ctx × FrameCbStatus)) : CommandEncoder Ctx :=
  Encoder.init context startCb putCb endCb

def setFrequency (encoder : CommandEncoder Ctx) (interface : UInt8) (hz : UInt32) :
    CommandEncoder Ctx × EncoderStatus :=
  encoder.sendCommandAndWord interface .frequency hz

def setBandwidth (encoder : CommandEncoder Ctx) (interface : UInt8) (bandwidth : UInt32) :
    CommandEncoder Ctx × EncoderStatus :=
  encoder.sendCommandAndWord interface .bandwidth bandwidth

def setTxpower (encoder : CommandEncoder Ctx) (interface : UInt8) (dbm : Int8) :
    CommandEncoder Ctx × EncoderStatus :=
  encoder.sendCommandAndByte interface .txpower dbm.toUInt8

def setSpreadingFactor (encoder : CommandEncoder Ctx) (interface sf : UInt8) :
    CommandEncoder Ctx × EncoderStatus :=
  encoder.sendCommandAndByte interface .sf sf

def setCodingRate (encoder : CommandEncoder Ctx) (interface cr : UInt8) :
    CommandEncoder Ctx × EncoderStatus :=
  encoder.sendCommandAndByte interface .cr cr

def setRadioState (encoder : CommandEncoder Ctx) (interface : UInt8) (state : RadioState) :
    CommandEncoder Ctx × EncoderStatus :=
  encoder.sendCommandAndByte interface .radioState state.value

def setRadioLock (encoder : CommandEncoder Ctx) (interface lockState : UInt8) :
    CommandEncoder Ctx × EncoderStatus :=
  encoder.sendCommandAndByte interface .radioLock lockState

def detect (encoder : CommandEncoder Ctx) : CommandEncoder Ctx × EncoderStatus :=
  encoder.sendCommandAndByte 0 .detect detectReq

def ready (encoder : CommandEncoder Ctx) : CommandEncoder Ctx × EncoderStatus :=
  encoder.sendCommandAndBytes 0 .ready []

def leave (encoder : CommandEncoder Ctx) : CommandEncoder Ctx × EncoderStatus :=
  encoder.sendCommandAndByte 0 .leave 0

def start (encoder : CommandEncoder Ctx) (interface : UInt8) :
    CommandEncoder Ctx × EncoderStatus :=
  Encoder.start encoder interface

def data (encoder : CommandEncoder Ctx) (byte : UInt8) : CommandEncoder Ctx × EncoderStatus :=
  Encoder.data encoder byte

def endFrame (encoder : CommandEncoder Ctx) : CommandEncoder Ctx × EncoderStatus :=
  Encoder.endFrame encoder

end CommandEncoder

end RNodeProtocol
