/-
The event decoder.

It follows the command decoder with tables of its own: opcodes are written as
header nibbles, one stream record serves both stream kinds with the callbacks
selected at each header, and the stream helper is only entered when the
callback it would invoke is not NULL.
-/

import RNodeProtocol.Callback
import RNodeProtocol.ScratchBuffer
import RNodeProtocol.Stream
import RNodeProtocol.Library.FramedInput

namespace RNodeProtocol

open FramedInput

structure EventCallbacks (Ctx : Type) where
  rssiCb : Option (Ctx → UInt8 → Int8 → Ctx)
  snrCb : Option (Ctx → UInt8 → Int8 → Ctx)
  blinkCb : Option (Ctx → Ctx)
  randomCb : Option (Ctx → UInt8 → UInt8 → Ctx)
  platformCb : Option (Ctx → UInt8 → UInt8 → Ctx)
  mcuCb : Option (Ctx → UInt8 → UInt8 → Ctx)
  fwVersionCb : Option (Ctx → UInt8 → UInt16 → Ctx)
  statRxStartCb : Option (Ctx → UInt8 → Ctx × StreamCbStatus)
  statRxDataCb : Option (Ctx → UInt8 → UInt8 → UInt32 → Ctx × StreamCbStatus)
  statRxEndCb : Option (Ctx → UInt8 → UInt32 → Ctx × StreamCbStatus)
  statTxStartCb : Option (Ctx → UInt8 → Ctx × StreamCbStatus)
  statTxDataCb : Option (Ctx → UInt8 → UInt8 → UInt32 → Ctx × StreamCbStatus)
  statTxEndCb : Option (Ctx → UInt8 → UInt32 → Ctx × StreamCbStatus)
  errorCb : Option (Ctx → UInt8 → UInt8 → UInt32 → DecoderStatus → Ctx)

structure EventDecoder (Ctx : Type) extends EventCallbacks Ctx where
  context : Ctx
  payloadIndex : UInt32
  smallbuf : ScratchBuffer
  interface : UInt8
  opcode : UInt8
  opcodeLength : UInt8
  state : DecoderState
  stream : Stream Ctx

namespace EventDecoder

variable {Ctx : Type}

/-- A decoder in statically allocated memory, before it is initialised. -/
def zeroed (context : Ctx) : EventDecoder Ctx :=
  { rssiCb := none
    snrCb := none
    blinkCb := none
    randomCb := none
    platformCb := none
    mcuCb := none
    fwVersionCb := none
    statRxStartCb := none
    statRxDataCb := none
    statRxEndCb := none
    statTxStartCb := none
    statTxDataCb := none
    statTxEndCb := none
    errorCb := none
    context := context
    payloadIndex := 0
    smallbuf := Vector.replicate 4 0
    interface := 0
    opcode := 0
    opcodeLength := 0
    state := .wait
    stream := Stream.init none none none }

def init (decoder : EventDecoder Ctx) (context : Ctx) (callbacks : EventCallbacks Ctx) :
    EventDecoder Ctx :=
  { decoder with
    toEventCallbacks := callbacks
    context := context
    payloadIndex := 0
    opcodeLength := 0
    state := .wait
    stream := Stream.init none none none }

def notify (decoder : EventDecoder Ctx) (callback : Option (Ctx → Ctx)) : EventDecoder Ctx :=
  { decoder with context := invoke callback decoder.context }

def reportError (decoder : EventDecoder Ctx) (status : DecoderStatus) : EventDecoder Ctx :=
  decoder.notify (decoder.errorCb.map fun errorCb context =>
    errorCb context decoder.interface decoder.opcode decoder.payloadIndex status)

def rnodeEventOpcodeLength (opcode : UInt8) : Int :=
  match opcode with
  | 0x01 => -1
  | 0x02 => -1
  | 0x03 => 1
  | 0x04 => 1
  | 0x08 => 1
  | 0x09 => 1
  | 0x00 => 0
  | _ => -2

/-- The opcode switch of the fixed-length dispatch, before errors are reported. -/
def dispatchEvent (decoder : EventDecoder Ctx) (value : UInt32) :
    EventDecoder Ctx × DecoderStatus :=
  match decoder.opcode with
  | 0x03 =>
      (decoder.notify (decoder.rssiCb.map fun rssiCb context =>
        rssiCb context decoder.interface value.toUInt8.toInt8), .ok)
  | 0x04 =>
      (decoder.notify (decoder.snrCb.map fun snrCb context =>
        snrCb context decoder.interface value.toUInt8.toInt8), .ok)
  | 0x00 => (decoder.notify decoder.blinkCb, .ok)
  | 0x08 =>
      (decoder.notify (decoder.platformCb.map fun platformCb context =>
        platformCb context decoder.interface value.toUInt8), .ok)
  | 0x09 =>
      (decoder.notify (decoder.mcuCb.map fun mcuCb context =>
        mcuCb context decoder.interface value.toUInt8), .ok)
  | _ => (decoder, .unknownOpcode)

def fixedLengthEvent (decoder : EventDecoder Ctx) : EventDecoder Ctx × DecoderStatus :=
  let dispatched := decoder.dispatchEvent (decoder.smallbuf.value decoder.opcodeLength)
  if dispatched.2 ≠ .ok then (dispatched.1.reportError dispatched.2, dispatched.2)
  else dispatched

def selectStreamCallbacks (decoder : EventDecoder Ctx) : EventDecoder Ctx :=
  match decoder.opcode with
  | 0x01 =>
      { decoder with
        stream := { decoder.stream with
          startCb := decoder.statRxStartCb
          dataCb := decoder.statRxDataCb
          endCb := decoder.statRxEndCb } }
  | 0x02 =>
      { decoder with
        stream := { decoder.stream with
          startCb := decoder.statTxStartCb
          dataCb := decoder.statTxDataCb
          endCb := decoder.statTxEndCb } }
  | _ =>
      { decoder with
        stream := { decoder.stream with
          startCb := none
          dataCb := none
          endCb := none } }

def start (decoder : EventDecoder Ctx) : EventDecoder Ctx :=
  { decoder with
    state := .wait
    payloadIndex := 0 }

def put (decoder : EventDecoder Ctx) (byte : UInt8) : EventDecoder Ctx × DecoderStatus :=
  match decoder.state with
  | .wait =>
      let decoder : EventDecoder Ctx :=
        { decoder with
          interface := (byte >>> 4) &&& 0x0F
          opcode := byte &&& 0x0F
          payloadIndex := 0 }
      let opcodeLength := rnodeEventOpcodeLength decoder.opcode
      if opcodeLength = -2 then
        (reportError { decoder with state := .abort } .unknownOpcode, .unknownOpcode)
      else if opcodeLength = -1 then
        let decoder : EventDecoder Ctx :=
          selectStreamCallbacks { decoder with
            opcodeLength := 0
            state := .streamData }
        if decoder.stream.startCb.isSome then
          let started := decoder.stream.start decoder.context decoder.interface
          ({ decoder with
              stream := started.1
              context := started.2.1 }, .ok)
        else (decoder, .ok)
      else
        ({ decoder with
            opcodeLength := UInt8.ofInt opcodeLength
            state := .readFixed }, .ok)
  | .readFixed =>
      if decoder.payloadIndex < decoder.opcodeLength.toUInt32 then
        ({ decoder with
            smallbuf := decoder.smallbuf.store decoder.payloadIndex byte
            payloadIndex := decoder.payloadIndex + 1 }, .ok)
      else
        (reportError { decoder with state := .abort } .invalidLength, .invalidLength)
  | .streamData =>
      if decoder.stream.dataCb.isSome then
        let received := decoder.stream.data decoder.context decoder.interface byte
        let decoder : EventDecoder Ctx :=
          { decoder with
            stream := received.1
            context := received.2.1 }
        if received.2.2 ≠ .ok then
          (reportError { decoder with state := .abort } .aborted, .aborted)
        else
          ({ decoder with payloadIndex := decoder.payloadIndex + 1 }, .ok)
      else
        ({ decoder with payloadIndex := decoder.payloadIndex + 1 }, .ok)
  | .abort => (decoder, .aborted)

def endFrame (decoder : EventDecoder Ctx) : EventDecoder Ctx × DecoderStatus :=
  match decoder.state with
  | .readFixed =>
      if decoder.payloadIndex = decoder.opcodeLength.toUInt32 then
        (decoder.fixedLengthEvent.1.start, decoder.fixedLengthEvent.2)
      else
        ((decoder.reportError .invalidLength).start, .invalidLength)
  | .streamData =>
      if decoder.stream.endCb.isSome then
        let ended := decoder.stream.endStream decoder.context decoder.interface
        let decoder : EventDecoder Ctx := { decoder with context := ended.1 }
        if ended.2 ≠ .ok then
          (reportError { decoder with state := .abort } .aborted, .aborted)
        else (decoder.start, .ok)
      else (decoder.start, .ok)
  | .wait => (decoder.start, .aborted)
  | .abort => (decoder.start, .aborted)

/-- The decoder as a machine that takes its input frame by frame. -/
def machine : Machine (EventDecoder Ctx) UInt8 DecoderStatus :=
  { accepted := .ok
    start := start
    put := put
    endFrame := endFrame }

theorem putAll_cons (decoder : EventDecoder Ctx) (byte : UInt8) (rest : List UInt8) :
    machine.putAll decoder (byte :: rest) = machine.putAll (decoder.put byte).1 rest := rfl

def write (decoder : EventDecoder Ctx) (bytes : List UInt8) :
    EventDecoder Ctx × DecoderStatus :=
  machine.write decoder bytes

end EventDecoder

end RNodeProtocol
