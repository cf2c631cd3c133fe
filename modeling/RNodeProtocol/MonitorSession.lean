/-
The monitor program.

The arguments choose between a replay, which decodes the entries of a recording,
and a live session, in which a serial proxy hands over what it forwards.  The
recording and the proxy are library code: what their calls return, and which
callbacks the proxy makes, is given by the world the program runs in.  A reader
hands over finitely many entries before a call that returns no entry.  Of a
recording that is written the program knows the calls it made and what they
returned, and no more is kept here.
-/

import RNodeProtocol.Monitor

namespace RNodeProtocol

/-! ### Arguments -/

structure Options where
  realTtyPath : Option String
  baudRate : Int32
  recordPath : Option String
  replayPath : Option String
  deriving Repr, DecidableEq

def Options.initial : Options :=
  { realTtyPath := none
    baudRate := 0
    recordPath := none
    replayPath := none }

/-- The greatest `long`. -/
def longMax : Nat := 2 ^ 63 - 1

/-- The leading digits as a `long`, and what an `int` keeps of it; nothing but digits is looked at,
since an argument is only converted where it starts with one. -/
def atoi (arg : String) : Int32 :=
  Int32.ofNat (min (Nat.ofDigitChars 10 (arg.toList.takeWhile Char.isDigit) 0) longMax)

def startsWithDash (arg : String) : Bool :=
  arg.toList.head? == some '-'

def startsWithDigit (arg : String) : Bool :=
  arg.toList.head?.any Char.isDigit

/-- The argument loop; an error is the text written to the error output. -/
def parseArguments (options : Options) : List String → Except String Options
  | [] => .ok options
  | arg :: rest =>
      if arg = "--record" then
        match rest with
        | [] => .error "Missing path for --record\n"
        | path :: rest => parseArguments { options with recordPath := some path } rest
      else if arg = "--replay" then
        match rest with
        | [] => .error "Missing path for --replay\n"
        | path :: rest => parseArguments { options with replayPath := some path } rest
      else if options.realTtyPath = none ∧ startsWithDash arg = false then
        parseArguments { options with realTtyPath := some arg } rest
      else if startsWithDigit arg then
        parseArguments { options with baudRate := atoi arg } rest
      else .error ("Unknown argument: " ++ arg ++ "\n")

/-! ### The world of a run -/

abbrev Entry := Direction × List UInt8

/-- What the reads of a recording return: its entries, then something else than an entry. -/
structure ReplayFile where
  entries : List Entry
  replayRc : Int
  ended : replayRc ≠ 0

inductive ProxyEvent where
  | started
  | error
  | stopped
  deriving Repr, DecidableEq

inductive Signal where
  | sigint
  | sigterm
  | sighup
  deriving Repr, DecidableEq

/-- What happens to the program while the proxy is at work. -/
inductive ProxyCallback where
  | data (direction : Direction) (bytes : List UInt8)
  | lifecycle (event : ProxyEvent) (message : Option String)
  | signal (signum : Signal)
  deriving Repr, DecidableEq

/-- A failed initialisation carries the text of its error. -/
structure ProxyRun where
  duringInit : List ProxyCallback
  initialised : Except String Unit
  duringRun : List ProxyCallback

/-- A call of the writer of a recording, with what it returned. -/
inductive WriterCall where
  | write (entry : Entry) (rc : Int)
  | close (rc : Int)
  deriving Repr, DecidableEq

/-- Errors are given by their texts.  What a call of a writer returns may depend on the path, on
all calls before it and on the entry. -/
structure World where
  readerOpen : String → Except String ReplayFile
  writerOpen : String → Except String Unit
  writerWrite : String → List WriterCall → Entry → Int
  writerClose : String → List WriterCall → Int
  proxy : String → Int32 → ProxyRun

/-! ### Sessions -/

/-- The calls made of the writer of an open recording. -/
structure Recording where
  path : String
  calls : List WriterCall
  deriving Repr, DecidableEq

structure Session (KissDecoder : Type) where
  monitor : Monitor KissDecoder
  stderr : String
  recording : Option Recording

variable {KissDecoder KissStatus : Type}

namespace Session

def print (session : Session KissDecoder) (text : String) : Session KissDecoder :=
  { session with
    monitor := { session.monitor with stdout := session.monitor.stdout ++ text } }

def complain (session : Session KissDecoder) (text : String) : Session KissDecoder :=
  { session with stderr := session.stderr ++ text }

def record (world : World) (session : Session KissDecoder) (entry : Entry) :
    Session KissDecoder :=
  match session.recording with
  | none => session
  | some recording =>
      let rc := world.writerWrite recording.path recording.calls entry
      let session := { session with
        recording := some { recording with calls := recording.calls ++ [.write entry rc] } }
      if rc ≠ 0 then session.complain "Failed to write recording entry\n" else session

def proxyDataCb [DecidableEq KissStatus] (kiss : KissLibrary KissDecoder KissStatus)
    (world : World) (session : Session KissDecoder) (direction : Direction)
    (bytes : List UInt8) : Session KissDecoder :=
  let session := session.record world (direction, bytes)
  { session with monitor := session.monitor.decode kiss direction bytes }

def proxyLifecycleCb (session : Session KissDecoder) (event : ProxyEvent)
    (message : Option String) : Session KissDecoder :=
  match event with
  | .started =>
      session.print ("[proxy] started, virt_tty=" ++ message.getD "(unknown)" ++ "\n")
  | .error => session.print ("[proxy] error: " ++ message.getD "(no message)" ++ "\n")
  | .stopped => session.print ("[proxy] stopped: " ++ message.getD "" ++ "\n")

def proxySignalHandler (session : Session KissDecoder) (signum : Signal) :
    Session KissDecoder :=
  let signalName :=
    match signum with
    | .sigint => "SIGINT"
    | .sigterm => "SIGTERM"
    | .sighup => "SIGHUP"
  session.complain ("Received " ++ signalName ++ ", shutting down proxy...\n")

def handle [DecidableEq KissStatus] (kiss : KissLibrary KissDecoder KissStatus) (world : World)
    (session : Session KissDecoder) : ProxyCallback → Session KissDecoder
  | .data direction bytes => session.proxyDataCb kiss world direction bytes
  | .lifecycle event message => session.proxyLifecycleCb event message
  | .signal signum => session.proxySignalHandler signum

def handleAll [DecidableEq KissStatus] (kiss : KissLibrary KissDecoder KissStatus)
    (world : World) (session : Session KissDecoder) (callbacks : List ProxyCallback) :
    Session KissDecoder :=
  callbacks.foldl (handle kiss world) session

/-- What the close returns is discarded. -/
def close (world : World) (session : Session KissDecoder) : Session KissDecoder :=
  match session.recording with
  | none => session
  | some recording =>
      let rc := world.writerClose recording.path recording.calls
      { session with
        recording := some { recording with calls := recording.calls ++ [.close rc] } }

end Session

/-! ### The program -/

/-- What a run leaves behind; `device` is what the proxy was initialised with. -/
structure Outcome where
  stdout : String
  stderr : String
  exitCode : Nat
  recording : Option Recording
  device : Option (String × Int32)
  deriving Repr, DecidableEq

def Outcome.refused (stdout stderr : String) (exitCode : Nat) : Outcome :=
  { stdout := stdout
    stderr := stderr
    exitCode := exitCode
    recording := none
    device := none }

def printHelp (prog : String) : String :=
  "Usage: " ++ prog ++
    " [<real_tty_device>] [baud_rate] [--record <file>] [--replay <file>]\n" ++
    "\nProxy a real serial device to a virtual PTY, record traffic, or replay a saved " ++
    "recording.\n" ++
    "\nOptions:\n" ++
    "  --record <file>  Write captured traffic to a recording file\n" ++
    "  --replay <file>  Replay a saved recording through the decoder\n" ++
    "  --help           Show this help text\n"

variable [DecidableEq KissStatus]

def replay (kiss : KissLibrary KissDecoder KissStatus) (world : World) (replayPath : String) :
    Outcome :=
  match world.readerOpen replayPath with
  | .error text => .refused "" ("Error opening replay file: " ++ text ++ "\n") 1
  | .ok file =>
      let monitor := Monitor.init kiss ("[replay] reading from " ++ replayPath ++ "\n")
      let decoded := monitor.decodeAll kiss file.entries
      if file.replayRc < 0 then
        .refused decoded.stdout "Failed while replaying recording\n" 1
      else .refused decoded.stdout "" 0

def openRecording (world : World) (recordPath : Option String) :
    Except String (Option Recording × String) :=
  match recordPath with
  | none => .ok (none, "")
  | some path =>
      match world.writerOpen path with
      | .error text => .error ("Error opening recording file: " ++ text ++ "\n")
      | .ok _ =>
          .ok (some { path := path, calls := [] },
            "[recording] writing to " ++ path ++ "\n")

def live (kiss : KissLibrary KissDecoder KissStatus) (world : World) (options : Options)
    (realTtyPath : String) : Outcome :=
  match openRecording world options.recordPath with
  | .error text => .refused "" text 1
  | .ok (recording, stdout) =>
      let session : Session KissDecoder :=
        { monitor := Monitor.init kiss stdout
          stderr := ""
          recording := recording }
      let proxy := world.proxy realTtyPath options.baudRate
      let session := session.handleAll kiss world proxy.duringInit
      match proxy.initialised with
      | .error text =>
          { stdout := session.monitor.stdout
            stderr := session.stderr ++ "Error initializing serial proxy: " ++ text ++ "\n"
            exitCode := 1
            recording := session.recording
            device := some (realTtyPath, options.baudRate) }
      | .ok _ =>
          let session := (session.handleAll kiss world proxy.duringRun).close world
          { stdout := session.monitor.stdout
            stderr := session.stderr
            exitCode := 0
            recording := session.recording
            device := some (realTtyPath, options.baudRate) }

def main (kiss : KissLibrary KissDecoder KissStatus) (world : World) (prog : String)
    (args : List String) : Outcome :=
  match args with
  | [] => .refused (printHelp prog) "" 1
  | first :: _ =>
      if first = "--help" ∨ first = "-h" then .refused (printHelp prog) "" 0
      else
        match parseArguments Options.initial args with
        | .error text => .refused "" text 1
        | .ok options =>
            match options.replayPath, options.realTtyPath with
            | some _, some _ =>
                .refused "" "--replay cannot be combined with a real serial device path\n" 1
            | none, none =>
                .refused "" "Either a serial device path or --replay <file> is required\n" 1
            | some replayPath, none => replay kiss world replayPath
            | none, some realTtyPath => live kiss world options realTtyPath

end RNodeProtocol
