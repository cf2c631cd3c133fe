import RNodeProtocol.CommandEncoder
import RNodeProtocol.EventEncoder
import RNodeProtocol.CommandDecoder
import RNodeProtocol.EventChannel
import RNodeProtocol.EventAcceptance
import RNodeProtocol.StreamCounters
import RNodeProtocol.EncoderDiscipline
import RNodeProtocol.ErrorReports
import RNodeProtocol.Rearming
import RNodeProtocol.StreamRefusals
import RNodeProtocol.CommandChannel
import RNodeProtocol.Link
import RNodeProtocol.Library.RequestLog
import RNodeProtocol.Verdicts
import RNodeProtocol.FrameIsolation
import RNodeProtocol.EventGrammar
import RNodeProtocol.EncoderHistory
import RNodeProtocol.Feeders
import RNodeProtocol.SurplusBytes
import RNodeProtocol.StreamedSends
import RNodeProtocol.Reencoding
import RNodeProtocol.MutedCallbacks
import RNodeProtocol.CommandContexts
import RNodeProtocol.EventContexts
import RNodeProtocol.ScratchContents
import RNodeProtocol.Addressing
import RNodeProtocol.CommandDecoderText
import RNodeProtocol.EventDecoderText
import RNodeProtocol.TextReports
import RNodeProtocol.Library.TextLines
import RNodeProtocol.Library.Numerals
import RNodeProtocol.Library.SharedOutput
import RNodeProtocol.Library.Narration
import RNodeProtocol.CommandNarration
import RNodeProtocol.EventNarration
import RNodeProtocol.TextLogLines
import RNodeProtocol.CommandTranscript
import RNodeProtocol.EventTranscript
import RNodeProtocol.CommandDiagnostics
import RNodeProtocol.CommandConsole
import RNodeProtocol.Handlers
import RNodeProtocol.Deliveries
import RNodeProtocol.EmissionReports
import RNodeProtocol.Monitor
import RNodeProtocol.MonitorObserver
import RNodeProtocol.MonitorRuns
import RNodeProtocol.MonitorReports
import RNodeProtocol.MonitorFrames
import RNodeProtocol.MonitorMessages
import RNodeProtocol.MonitorTap
import RNodeProtocol.MonitorDiagnostics
import RNodeProtocol.MonitorExchange
import RNodeProtocol.MonitorSession
import RNodeProtocol.MonitorArguments
import RNodeProtocol.MonitorReplay
import RNodeProtocol.MonitorRecording
