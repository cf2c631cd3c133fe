/-
Incoming streams.

A stream wraps the start, data and end callbacks of a variable-length payload
and counts its bytes.  The counter is a 32-bit word: it is reset by a start and
advanced by every byte, whether or not the callbacks are NULL.
-/

import RNodeProtocol.Consts

namespace RNodeProtocol

structure StreamCallbacks (Ctx : Type) where
  startCb : Option (Ctx → UInt8 → Ctx × StreamCbStatus)
  dataCb : Option (Ctx → UInt8 → UInt8 → UInt32 → Ctx × StreamCbStatus)
  endCb : Option (Ctx → UInt8 → UInt32 → Ctx × StreamCbStatus)

structure Stream (Ctx : Type) extends StreamCallbacks Ctx where
  byteIndex : UInt32

variable {Ctx : Type}

def Stream.init (startCb : Option (Ctx → UInt8 → Ctx × StreamCbStatus))
    (dataCb : Option (Ctx → UInt8 → UInt8 → UInt32 → Ctx × StreamCbStatus))
    (endCb : Option (Ctx → UInt8 → UInt32 → Ctx × StreamCbStatus)) : Stream Ctx :=
  { byteIndex := 0
    startCb := startCb
    dataCb := dataCb
    endCb := endCb }

def Stream.start (stream : Stream Ctx) (context : Ctx) (interface : UInt8) :
    Stream Ctx × Ctx × StreamCbStatus :=
  ({ stream with byteIndex := 0 },
    match stream.startCb with
    | some startCb => startCb context interface
    | none => (context, .ok))

def Stream.data (stream : Stream Ctx) (context : Ctx) (interface byte : UInt8) :
    Stream Ctx × Ctx × StreamCbStatus :=
  ({ stream with byteIndex := stream.byteIndex + 1 },
    match stream.dataCb with
    | some dataCb => dataCb context interface byte stream.byteIndex
    | none => (context, .ok))

def Stream.endStream (stream : Stream Ctx) (context : Ctx) (interface : UInt8) :
    Ctx × StreamCbStatus :=
  match stream.endCb with
  | some endCb => endCb context interface stream.byteIndex
  | none => (context, .ok)

end RNodeProtocol
