/-
The command decoder.

The decoder is a record of the source's fields; callbacks are functions on the
user context, `none` standing for NULL.  The start of a stream discards the
status its callback returns, and the end of a frame returns early when the end
callback of a stream refuses.  The diagnostics printed for payloads of a wrong
length change no field and stand beside the decoder in `CommandDiagnostics`.
-/

import RNodeProtocol.Callback
import RNodeProtocol.ScratchBuffer
import RNodeProtocol.Stream
import RNodeProtocol.Library.FramedInput

namespace RNodeProtocol

open FramedInput

structure CommandCallbacks (Ctx : Type) where
  detectCb : Option (Ctx → Ctx)
  setFrequencyCb : Option (Ctx → UInt8 → UInt32 → Ctx)
  setBandwidthCb : Option (Ctx → UInt8 → UInt32 → Ctx)
  setTxpowerCb : Option (Ctx → UInt8 → Int8 → Ctx)
  setSpreadingFactorCb : Option (Ctx → UInt8 → UInt8 → Ctx)
  setCodingRateCb : Option (Ctx → UInt8 → UInt8 → Ctx)
  setRadioStateCb : Option (Ctx → UInt8 → RadioState → Ctx)
  readyCb : Option (Ctx → Ctx)
  lockCb : Option (Ctx → UInt8 → UInt8 → Ctx)
  leaveCb : Option (Ctx → Ctx)
  errorCb : Option (Ctx → UInt8 → UInt8 → UInt32 → DecoderStatus → Ctx)

structure CommandDecoder (Ctx : Type) extends CommandCallbacks Ctx where
  context : Ctx
  payloadIndex : UInt32
  smallbuf : ScratchBuffer
  interface : UInt8
  opcode : UInt8
  opcodeLength : UInt8
  state : DecoderState
  txStream : Stream Ctx

namespace CommandDecoder

variable {Ctx : Type}

/-- A decoder in statically allocated memory, before it is initialised. -/
def zeroed (context : Ctx) : CommandDecoder Ctx :=
  { detectCb := none
    setFrequencyCb := none
    setBandwidthCb := none
    setTxpowerCb := none
    setSpreadingFactorCb := none
    setCodingRateCb := none
    setRadioStateCb := none
    readyCb := none
    lockCb := none
    leaveCb := none
    errorCb := none
    context := context
    payloadIndex := 0
    smallbuf := Vector.replicate 4 0
    interface := 0
    opcode := 0
    opcodeLength := 0
    state := .wait
    txStream := Stream.init none none none }

/-- Initialisation writes some fields of whatever memory it is given and leaves
the buffer, the interface and the opcode as they were. -/
def init (decoder : CommandDecoder Ctx) (context : Ctx) (callbacks : CommandCallbacks Ctx)
    (tx : StreamCallbacks Ctx) : CommandDecoder Ctx :=
  { decoder with
    toCommandCallbacks := callbacks
    context := context
    payloadIndex := 0
    opcodeLength := 0
    state := .wait
    txStream := Stream.init tx.startCb tx.dataCb tx.endCb }

def notify (decoder : CommandDecoder Ctx) (callback : Option (Ctx → Ctx)) : CommandDecoder Ctx :=
  { decoder with context := invoke callback decoder.context }

def reportError (decoder : CommandDecoder Ctx) (status : DecoderStatus) : CommandDecoder Ctx :=
  decoder.notify (decoder.errorCb.map fun errorCb context =>
    errorCb context decoder.interface decoder.opcode decoder.payloadIndex status)

/-- `-1` stands for a streamed payload, `-2` for an unknown opcode. -/
def rnodeProtoOpcodeLength (opcode : UInt8) : Int :=
  match RnodeOpcode.ofValue? opcode with
  | some .data => -1
  | some .frequency => 4
  | some .bandwidth => 4
  | some .txpower => 1
  | some .sf => 1
  | some .cr => 1
  | some .radioState => 1
  | some .detect => 1
  | some .leave => 1
  | some .radioLock => 1
  | some .ready => 0
  | _ => -2

/-- The opcode switch of the fixed-length dispatch, before errors are reported. -/
def dispatchCommand (decoder : CommandDecoder Ctx) (value : UInt32) :
    CommandDecoder Ctx × DecoderStatus :=
  match RnodeOpcode.ofValue? decoder.opcode with
  | some .frequency =>
      (decoder.notify (decoder.setFrequencyCb.map fun setFrequencyCb context =>
        setFrequencyCb context decoder.interface value), .ok)
  | some .bandwidth =>
      (decoder.notify (decoder.setBandwidthCb.map fun setBandwidthCb context =>
        setBandwidthCb context decoder.interface value), .ok)
  | some .txpower =>
      (decoder.notify (decoder.setTxpowerCb.map fun setTxpowerCb context =>
        setTxpowerCb context decoder.interface value.toUInt8.toInt8), .ok)
  | some .sf =>
      (decoder.notify (decoder.setSpreadingFactorCb.map fun setSpreadingFactorCb context =>
        setSpreadingFactorCb context decoder.interface value.toUInt8), .ok)
  | some .cr =>
      (decoder.notify (decoder.setCodingRateCb.map fun setCodingRateCb context =>
        setCodingRateCb context decoder.interface value.toUInt8), .ok)
  | some .radioState =>
      match RadioState.ofValue? value with
      | some state =>
          (decoder.notify (decoder.setRadioStateCb.map fun setRadioStateCb context =>
            setRadioStateCb context decoder.interface state), .ok)
      | none => (decoder, .invalidArgument)
  | some .detect =>
      if value = detectReq.toUInt32 then (decoder.notify decoder.detectCb, .ok)
      else (decoder, .invalidArgument)
  | some .leave => (decoder.notify decoder.leaveCb, .ok)
  | some .ready => (decoder.notify decoder.readyCb, .ok)
  | some .radioLock =>
      (decoder.notify (decoder.lockCb.map fun lockCb context =>
        lockCb context decoder.interface value.toUInt8), .ok)
  | _ => (decoder, .unknownOpcode)

def fixedLengthCommand (decoder : CommandDecoder Ctx) : CommandDecoder Ctx × DecoderStatus :=
  let dispatched := decoder.dispatchCommand (decoder.smallbuf.value decoder.opcodeLength)
  if dispatched.2 ≠ .ok then (dispatched.1.reportError dispatched.2, dispatched.2)
  else dispatched

def put (decoder : CommandDecoder Ctx) (byte : UInt8) : CommandDecoder Ctx × DecoderStatus :=
  match decoder.state with
  | .wait =>
      let decoder : CommandDecoder Ctx :=
        { decoder with
          interface := (byte >>> 4) &&& 0x0F
          opcode := byte &&& 0x0F
          payloadIndex := 0 }
      let opcodeLength := rnodeProtoOpcodeLength decoder.opcode
      if opcodeLength = -2 then
        (reportError { decoder with state := .abort } .unknownOpcode, .unknownOpcode)
      else if opcodeLength = -1 then
        let started := decoder.txStream.start decoder.context decoder.interface
        ({ decoder with
            state := .streamData
            txStream := started.1
            context := started.2.1 }, .ok)
      else
        ({ decoder with
            opcodeLength := UInt8.ofInt opcodeLength
            state := .readFixed }, .ok)
  | .readFixed =>
      if decoder.payloadIndex < 4 then
        ({ decoder with
            smallbuf := decoder.smallbuf.store decoder.payloadIndex byte
            payloadIndex := decoder.payloadIndex + 1 }, .ok)
      else
        (reportError { decoder with state := .abort } .invalidLength, .invalidLength)
  | .streamData =>
      let received := decoder.txStream.data decoder.context decoder.interface byte
      let decoder : CommandDecoder Ctx :=
        { decoder with
          txStream := received.1
          context := received.2.1 }
      if received.2.2 ≠ .ok then
        (reportError { decoder with state := .abort } .aborted, .aborted)
      else
        ({ decoder with payloadIndex := decoder.payloadIndex + 1 }, .ok)
  | .abort => (decoder, .ok)

def start (decoder : CommandDecoder Ctx) : CommandDecoder Ctx :=
  { decoder with
    state := .wait
    payloadIndex := 0 }

def endFrame (decoder : CommandDecoder Ctx) : CommandDecoder Ctx × DecoderStatus :=
  match decoder.state with
  | .readFixed =>
      if decoder.payloadIndex = decoder.opcodeLength.toUInt32 then
        (decoder.fixedLengthCommand.1.start, .ok)
      else
        ((decoder.reportError .invalidLength).start, .invalidLength)
  | .streamData =>
      let ended := decoder.txStream.endStream decoder.context decoder.interface
      let decoder : CommandDecoder Ctx := { decoder with context := ended.1 }
      if ended.2 ≠ .ok then
        (reportError { decoder with state := .abort } .aborted, .aborted)
      else (decoder.start, .ok)
  | .wait => (decoder.start, .aborted)
  | .abort => (decoder.start, .aborted)

/-- The decoder as a machine that takes its input frame by frame. -/
def machine : Machine (CommandDecoder Ctx) UInt8 DecoderStatus :=
  { accepted := .ok
    start := start
    put := put
    endFrame := endFrame }

theorem putAll_cons (decoder : CommandDecoder Ctx) (byte : UInt8) (rest : List UInt8) :
    machine.putAll decoder (byte :: rest) = machine.putAll (decoder.put byte).1 rest := rfl

def write (decoder : CommandDecoder Ctx) (bytes : List UInt8) :
    CommandDecoder Ctx × DecoderStatus :=
  machine.write decoder bytes

end CommandDecoder

end RNodeProtocol
