/-
The command decoder in text mode: every callback logs one line.

The log is the text of an output of its own.  Where the output is the standard
output, the decoder's diagnostics stand among the lines: see `CommandConsole`.
-/

import RNodeProtocol.CommandContexts
import RNodeProtocol.TextLog

namespace RNodeProtocol

abbrev CommandDecoderText := TextLog

namespace CommandDecoderText

def textDecoderLog (context : CommandDecoderText) (line : String) : CommandDecoderText :=
  context.log line

def textDecoderRadioStateName : RadioState → String
  | .off => "OFF"
  | .on => "ON"
  | .ask => "ASK"

def textDecoderOpcodeName (opcode : UInt8) : String :=
  match RnodeOpcode.ofValue? opcode with
  | some .data => "DATA"
  | some .frequency => "FREQUENCY"
  | some .bandwidth => "BANDWIDTH"
  | some .txpower => "TXPOWER"
  | some .sf => "SF"
  | some .cr => "CR"
  | some .radioState => "RADIO_STATE"
  | some .detect => "DETECT"
  | some .leave => "LEAVE"
  | some .ready => "READY"
  | some .radioLock => "RADIO_LOCK"
  | _ => "UNKNOWN"

def textDecoderErrorName : DecoderStatus → String
  | .ok => "OK"
  | .aborted => "ABORTED"
  | .invalidLength => "INVALID_LENGTH"
  | .unknownOpcode => "UNKNOWN_OPCODE"
  | .invalidArgument => "INVALID_ARGUMENT"

def textDecoderTxStartCb (context : CommandDecoderText) (interface : UInt8) :
    CommandDecoderText × StreamCbStatus :=
  (textDecoderLog context ("COMMAND TX START interface=" ++ unsigned interface.toNat), .ok)

def textDecoderTxDataCb (context : CommandDecoderText) (interface byte : UInt8)
    (byteIndex : UInt32) : CommandDecoderText × StreamCbStatus :=
  (textDecoderLog context ("COMMAND TX DATA interface=" ++ unsigned interface.toNat ++
    " index=" ++ unsigned byteIndex.toNat ++ " byte=0x" ++ hex 2 byte.toNat), .ok)

def textDecoderTxEndCb (context : CommandDecoderText) (interface : UInt8) (length : UInt32) :
    CommandDecoderText × StreamCbStatus :=
  (textDecoderLog context ("COMMAND TX END interface=" ++ unsigned interface.toNat ++
    " length=" ++ unsigned length.toNat), .ok)

def textDecoderDetectCb (context : CommandDecoderText) : CommandDecoderText :=
  textDecoderLog context "DETECT"

def textDecoderSetFrequencyCb (context : CommandDecoderText) (interface : UInt8) (hz : UInt32) :
    CommandDecoderText :=
  textDecoderLog context ("COMMAND FREQUENCY interface=" ++ unsigned interface.toNat ++
    " hz=" ++ unsigned hz.toNat)

def textDecoderSetBandwidthCb (context : CommandDecoderText) (interface : UInt8)
    (bandwidth : UInt32) : CommandDecoderText :=
  textDecoderLog context ("COMMAND BANDWIDTH interface=" ++ unsigned interface.toNat ++
    " bandwidth=" ++ unsigned bandwidth.toNat)

def textDecoderSetTxpowerCb (context : CommandDecoderText) (interface : UInt8) (dbm : Int8) :
    CommandDecoderText :=
  textDecoderLog context ("COMMAND TXPOWER interface=" ++ unsigned interface.toNat ++
    " dbm=" ++ signed dbm.toInt)

def textDecoderSetSpreadingFactorCb (context : CommandDecoderText) (interface sf : UInt8) :
    CommandDecoderText :=
  textDecoderLog context ("COMMAND SF interface=" ++ unsigned interface.toNat ++
    " sf=" ++ unsigned sf.toNat)

def textDecoderSetCodingRateCb (context : CommandDecoderText) (interface cr : UInt8) :
    CommandDecoderText :=
  textDecoderLog context ("COMMAND CR interface=" ++ unsigned interface.toNat ++
    " cr=" ++ unsigned cr.toNat)

def textDecoderSetRadioStateCb (context : CommandDecoderText) (interface : UInt8)
    (state : RadioState) : CommandDecoderText :=
  textDecoderLog context ("COMMAND RADIO_STATE interface=" ++ unsigned interface.toNat ++
    " state=" ++ textDecoderRadioStateName state)

def textDecoderReadyCb (context : CommandDecoderText) : CommandDecoderText :=
  textDecoderLog context "COMMAND READY"

def textDecoderLockCb (context : CommandDecoderText) (interface lockState : UInt8) :
    CommandDecoderText :=
  textDecoderLog context ("COMMAND LOCK interface=" ++ unsigned interface.toNat ++
    " state=" ++ unsigned lockState.toNat)

def textDecoderLeaveCb (context : CommandDecoderText) : CommandDecoderText :=
  textDecoderLog context "COMMAND LEAVE"

/-- An error line with this opcode name. -/
def errorLine (interface opcode : UInt8) (name : String) (index : UInt32)
    (status : DecoderStatus) : String :=
  "COMMAND ERROR " ++ textDecoderErrorName status ++ ": interface=" ++
    unsigned interface.toNat ++ " opcode=0x" ++ hex 2 opcode.toNat ++ " (" ++ name ++
    ") index=" ++ unsigned index.toNat ++ " status=" ++ unsigned status.value

def textDecoderErrorCb (context : CommandDecoderText) (interface opcode : UInt8)
    (index : UInt32) (status : DecoderStatus) : CommandDecoderText :=
  textDecoderLog context
    (errorLine interface opcode (textDecoderOpcodeName opcode) index status)

/-- What a text initialisation gives to the initialisation of its decoder. -/
def setup (out : String) (linePrefix : Option String) : CommandSetup CommandDecoderText :=
  { context := TextLog.init out linePrefix
    callbacks :=
      { detectCb := some textDecoderDetectCb
        setFrequencyCb := some textDecoderSetFrequencyCb
        setBandwidthCb := some textDecoderSetBandwidthCb
        setTxpowerCb := some textDecoderSetTxpowerCb
        setSpreadingFactorCb := some textDecoderSetSpreadingFactorCb
        setCodingRateCb := some textDecoderSetCodingRateCb
        setRadioStateCb := some textDecoderSetRadioStateCb
        readyCb := some textDecoderReadyCb
        lockCb := some textDecoderLockCb
        leaveCb := some textDecoderLeaveCb
        errorCb := some textDecoderErrorCb }
    tx :=
      { startCb := some textDecoderTxStartCb
        dataCb := some textDecoderTxDataCb
        endCb := some textDecoderTxEndCb } }

def init (decoder : CommandDecoder CommandDecoderText) (out : String)
    (linePrefix : Option String) : CommandDecoder CommandDecoderText :=
  (setup out linePrefix).fresh decoder

/-! ### Recorded runs behind a text decoder -/

theorem setup_registers (out : String) (linePrefix : Option String) :
    (setup out linePrefix).registers = fun _ => true := by
  funext slot
  cases slot with
  | tx slot => cases slot <;> rfl
  | _ => rfl

theorem setup_accepts (out : String) (linePrefix : Option String) (log : List CommandCall)
    (query : StreamCall) : (setup out linePrefix).answer log query = .ok := by
  cases query <;> rfl

end CommandDecoderText

end RNodeProtocol
