/-
The event encoder: one function for each event of the protocol table, and a
byte-by-byte stream for received data.
-/

import RNodeProtocol.Encoder

namespace RNodeProtocol

abbrev EventEncoder (Ctx : Type) := Encoder Ctx

namespace EventEncoder

variable {Ctx : Type}

def init (context : Ctx) (startCb : Option (Ctx → Ctx × FrameCbStatus))
    (putCb : Option (Ctx → UInt8 → Ctx × FrameCbStatus))
    (endCb : Option (Ctx → Ctx × FrameCbStatus)) : EventEncoder Ctx :=
  { context := context
    state := .idle
    frame := Frame.init startCb putCb endCb }

def error (encoder : EventEncoder Ctx) (interface errorCode : UInt8) :
    EventEncoder Ctx × EncoderStatus :=
  encoder.sendCommandAndByte interface .error errorCode

def statRx (encoder : EventEncoder Ctx) (interface : UInt8) (payload : List UInt8) :
    EventEncoder Ctx × EncoderStatus :=
  encoder.sendCommandAndBytes interface .statRx payload

def statTx (encoder : EventEncoder Ctx) (interface : UInt8) (payload : List UInt8) :
    EventEncoder Ctx × EncoderStatus :=
  encoder.sendCommandAndBytes interface .statTx payload

def rssi (encoder : EventEncoder Ctx) (interface : UInt8) (rssi : Int8) :
    EventEncoder Ctx × EncoderStatus :=
  encoder.sendCommandAndByte interface .statRssi rssi.toUInt8

def snr (encoder : EventEncoder Ctx) (interface : UInt8) (snr : Int8) :
    EventEncoder Ctx × EncoderStatus :=
  encoder.sendCommandAndByte interface .statSnr snr.toUInt8

def blink (encoder : EventEncoder Ctx) (interface : UInt8) : EventEncoder Ctx × EncoderStatus :=
  encoder.sendCommandAndBytes interface .blink []

def random (encoder : EventEncoder Ctx) (interface randomValue : UInt8) :
    EventEncoder Ctx × EncoderStatus :=
  encoder.sendCommandAndByte interface .random randomValue

def platform (encoder : EventEncoder Ctx) (interface platformId : UInt8) :
    EventEncoder Ctx × EncoderStatus :=
  encoder.sendCommandAndByte interface .platform platformId

def mcu (encoder : EventEncoder Ctx) (interface mcuId : UInt8) :
    EventEncoder Ctx × EncoderStatus :=
  encoder.sendCommandAndByte interface .mcu mcuId

def fwVersion (encoder : EventEncoder Ctx) (interface : UInt8) (version : UInt16) :
    EventEncoder Ctx × EncoderStatus :=
  encoder.sendCommandAndBytes interface .fwVersion
    [((version >>> 8) &&& 0xFF).toUInt8, (version &&& 0xFF).toUInt8]

def romRead (encoder : EventEncoder Ctx) (interface : UInt8) (payload : List UInt8) :
    EventEncoder Ctx × EncoderStatus :=
  encoder.sendCommandAndBytes interface .romRead payload

def reset (encoder : EventEncoder Ctx) (interface : UInt8) (payload : List UInt8) :
    EventEncoder Ctx × EncoderStatus :=
  encoder.sendCommandAndBytes interface .reset payload

def interfaces (encoder : EventEncoder Ctx) (interface : UInt8) (payload : List UInt8) :
    EventEncoder Ctx × EncoderStatus :=
  encoder.sendCommandAndBytes interface .interfaces payload

def start (encoder : EventEncoder Ctx) (interface : UInt8) : EventEncoder Ctx × EncoderStatus :=
  Encoder.start encoder interface

def data (encoder : EventEncoder Ctx) (byte : UInt8) : EventEncoder Ctx × EncoderStatus :=
  Encoder.data encoder byte

def endFrame (encoder : EventEncoder Ctx) : EventEncoder Ctx × EncoderStatus :=
  Encoder.endFrame encoder

end EventEncoder

end RNodeProtocol
