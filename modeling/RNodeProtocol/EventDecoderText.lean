/-
The event decoder in text mode: every callback logs one line.

The opcode names are looked up under the full constants of the protocol table,
while a decoder reports the nibble of the header.
-/

import RNodeProtocol.EventContexts
import RNodeProtocol.TextLog

namespace RNodeProtocol

abbrev EventDecoderText := TextLog

namespace EventDecoderText

def eventDecoderLog (context : EventDecoderText) (line : String) : EventDecoderText :=
  context.log line

def eventDecoderOpcodeName (opcode : UInt8) : String :=
  match RnodeOpcode.ofValue? opcode with
  | some .statRx => "STAT_RX"
  | some .statTx => "STAT_TX"
  | some .statRssi => "STAT_RSSI"
  | some .statSnr => "STAT_SNR"
  | some .blink => "BLINK"
  | some .random => "RANDOM"
  | some .platform => "PLATFORM"
  | some .mcu => "MCU"
  | some .fwVersion => "FW_VERSION"
  | _ => "UNKNOWN"

def eventDecoderRssiCb (context : EventDecoderText) (interface : UInt8) (rssi : Int8) :
    EventDecoderText :=
  eventDecoderLog context ("EVENT RSSI interface=" ++ unsigned interface.toNat ++
    " rssi=" ++ signed rssi.toInt)

def eventDecoderSnrCb (context : EventDecoderText) (interface : UInt8) (snr : Int8) :
    EventDecoderText :=
  eventDecoderLog context ("EVENT SNR interface=" ++ unsigned interface.toNat ++
    " snr=" ++ signed snr.toInt)

def eventDecoderBlinkCb (context : EventDecoderText) : EventDecoderText :=
  eventDecoderLog context "EVENT BLINK"

def eventDecoderRandomCb (context : EventDecoderText) (interface randomValue : UInt8) :
    EventDecoderText :=
  eventDecoderLog context ("EVENT RANDOM interface=" ++ unsigned interface.toNat ++
    " value=0x" ++ hex 2 randomValue.toNat)

def eventDecoderPlatformCb (context : EventDecoderText) (interface platformId : UInt8) :
    EventDecoderText :=
  eventDecoderLog context ("EVENT PLATFORM interface=" ++ unsigned interface.toNat ++
    " id=0x" ++ hex 2 platformId.toNat)

def eventDecoderMcuCb (context : EventDecoderText) (interface mcuId : UInt8) :
    EventDecoderText :=
  eventDecoderLog context ("EVENT MCU interface=" ++ unsigned interface.toNat ++
    " id=0x" ++ hex 2 mcuId.toNat)

def eventDecoderFwVersionCb (context : EventDecoderText) (interface : UInt8)
    (version : UInt16) : EventDecoderText :=
  eventDecoderLog context ("EVENT FW_VERSION interface=" ++ unsigned interface.toNat ++
    " version=0x" ++ hex 4 version.toNat)

/-- The start callback of a kind of stream; the two differ in its name. -/
def streamStartCb (kind : String) (context : EventDecoderText) (interface : UInt8) :
    EventDecoderText × StreamCbStatus :=
  (eventDecoderLog context ("EVENT " ++ kind ++ " START interface=" ++
    unsigned interface.toNat), .ok)

def streamDataCb (kind : String) (context : EventDecoderText) (interface byte : UInt8)
    (byteIndex : UInt32) : EventDecoderText × StreamCbStatus :=
  (eventDecoderLog context ("EVENT " ++ kind ++ " interface=" ++ unsigned interface.toNat ++
    " index=" ++ unsigned byteIndex.toNat ++ " byte=0x" ++ hex 2 byte.toNat), .ok)

def streamEndCb (kind : String) (context : EventDecoderText) (interface : UInt8)
    (length : UInt32) : EventDecoderText × StreamCbStatus :=
  (eventDecoderLog context ("EVENT " ++ kind ++ " END interface=" ++
    unsigned interface.toNat ++ " length=" ++ unsigned length.toNat), .ok)

def eventDecoderStatRxStartCb := streamStartCb "STAT_RX"

def eventDecoderStatRxDataCb := streamDataCb "STAT_RX"

def eventDecoderStatRxEndCb := streamEndCb "STAT_RX"

def eventDecoderStatTxStartCb := streamStartCb "STAT_TX"

def eventDecoderStatTxDataCb := streamDataCb "STAT_TX"

def eventDecoderStatTxEndCb := streamEndCb "STAT_TX"

/-- An error line with this opcode name. -/
def errorLine (interface opcode : UInt8) (name : String) (index : UInt32)
    (status : DecoderStatus) : String :=
  "EVENT ERROR interface=" ++ unsigned interface.toNat ++ " opcode=0x" ++
    hex 2 opcode.toNat ++ " (" ++ name ++ ") index=" ++ unsigned index.toNat ++
    " status=" ++ unsigned status.value

def eventDecoderErrorCb (context : EventDecoderText) (interface opcode : UInt8)
    (index : UInt32) (status : DecoderStatus) : EventDecoderText :=
  eventDecoderLog context
    (errorLine interface opcode (eventDecoderOpcodeName opcode) index status)

/-- What a text initialisation gives to the initialisation of its decoder. -/
def setup (out : String) (linePrefix : Option String) : EventSetup EventDecoderText :=
  { context := TextLog.init out linePrefix
    callbacks :=
      { rssiCb := some eventDecoderRssiCb
        snrCb := some eventDecoderSnrCb
        blinkCb := some eventDecoderBlinkCb
        randomCb := some eventDecoderRandomCb
        platformCb := some eventDecoderPlatformCb
        mcuCb := some eventDecoderMcuCb
        fwVersionCb := some eventDecoderFwVersionCb
        statRxStartCb := some eventDecoderStatRxStartCb
        statRxDataCb := some eventDecoderStatRxDataCb
        statRxEndCb := some eventDecoderStatRxEndCb
        statTxStartCb := some eventDecoderStatTxStartCb
        statTxDataCb := some eventDecoderStatTxDataCb
        statTxEndCb := some eventDecoderStatTxEndCb
        errorCb := some eventDecoderErrorCb } }

def init (decoder : EventDecoder EventDecoderText) (out : String)
    (linePrefix : Option String) : EventDecoder EventDecoderText :=
  (setup out linePrefix).fresh decoder

/-! ### Recorded runs behind a text decoder -/

theorem setup_registers (out : String) (linePrefix : Option String) :
    (setup out linePrefix).registers = fun _ => true := by
  funext slot
  cases slot with
  | stream kind slot => cases kind <;> cases slot <;> rfl
  | _ => rfl

theorem setup_accepts (out : String) (linePrefix : Option String) (log : List EventCall)
    (query : StreamKind × StreamCall) : (setup out linePrefix).answer log query = .ok := by
  obtain ⟨kind, call⟩ := query
  cases kind <;> cases call <;> rfl

end EventDecoderText

end RNodeProtocol
