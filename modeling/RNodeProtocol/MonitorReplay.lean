/-
Live sessions and their replays.

In a live session the decoded lines share the standard output with what the
program says of the recording and the proxy; none of that is under the label of
a direction.  So a session reports the bytes the proxy forwarded, and a replay
of its recording, however the reader cuts the entries, reports the same lines.
-/

import RNodeProtocol.MonitorReports
import RNodeProtocol.MonitorSession

namespace RNodeProtocol

open SharedOutput TextLines

/-- The chunk a callback of the proxy hands over. -/
def ProxyCallback.chunk? : ProxyCallback → Option Entry
  | .data direction bytes => some (direction, bytes)
  | _ => none

/-- A message, if there is one, is one line of text. -/
def ProxyCallback.Clean : ProxyCallback → Prop
  | .lifecycle _ (some message) => OneLine message
  | _ => True

def forwarded (callbacks : List ProxyCallback) : List Entry :=
  callbacks.filterMap ProxyCallback.chunk?

/-- The callbacks of a proxy that runs only where it could be initialised. -/
def ProxyRun.callbacks (proxy : ProxyRun) : List ProxyCallback :=
  match proxy.initialised with
  | .ok _ => proxy.duringInit ++ proxy.duringRun
  | .error _ => proxy.duringInit

/-- The calls of a writer after these entries were offered to it, one after the other. -/
def World.writeAll (world : World) (path : String) (calls : List WriterCall)
    (entries : List Entry) : List WriterCall :=
  entries.foldl
    (fun calls entry => calls ++ [.write entry (world.writerWrite path calls entry)]) calls

/-- The entry a call offered to the writer. -/
def WriterCall.offered? : WriterCall → Option Entry
  | .write entry _ => some entry
  | .close _ => none

/-- A write that did not return zero. -/
def WriterCall.failed : WriterCall → Bool
  | .write _ rc => rc ≠ 0
  | .close _ => false

/-- The entries that were written, as far as the writer said. -/
def Recording.entries (recording : Recording) : List Entry :=
  (recording.calls.filter fun call => !call.failed).filterMap WriterCall.offered?

variable {KissDecoder KissStatus : Type} [DecidableEq KissStatus]

/-! ### What a session prints -/

/-- After these bytes the labelled lines of the output are those of the observers. -/
structure Session.Follows (kiss : KissLibrary KissDecoder KissStatus)
    (session : Session KissDecoder) (bytes : List (Direction × UInt8)) : Prop where
  monitor : session.monitor.Follows (statesAfter (observe kiss) (fun _ => unseen kiss) bytes)
  printed : ∃ lines, session.monitor.stdout = unlines lines ∧ (∀ line ∈ lines, OneLine line) ∧
    ∀ direction : Direction, lines.filter (labelled direction.label) =
      (outputAlone (observe kiss) direction (unseen kiss) (select direction bytes)).filter
        (labelled direction.label)

namespace Session

variable {kiss : KissLibrary KissDecoder KissStatus} {session : Session KissDecoder}
  {bytes : List (Direction × UInt8)}

theorem Follows.under (follows : session.Follows kiss bytes) (direction : Direction) :
    under direction.label session.monitor.stdout =
      (outputAlone (observe kiss) direction (unseen kiss) (select direction bytes)).filter
        (labelled direction.label) := by
  obtain ⟨lines, text, oneLine, told⟩ := follows.printed
  rw [text, under_unlines oneLine, told]

theorem Follows.print (follows : session.Follows kiss bytes) {line : String}
    (oneLine : OneLine line) (unlabelled : ∀ direction : Direction,
      labelled direction.label line = false) :
    (session.print (line ++ "\n")).Follows kiss bytes := by
  obtain ⟨lines, text, clean, told⟩ := follows.printed
  refine ⟨follows.monitor, lines ++ [line], ?_, ?_, ?_⟩
  · change session.monitor.stdout ++ (line ++ "\n") = _
    rw [text, unlines_append, unlines_cons, unlines_nil, String.append_empty]
  · intro other member
    rcases List.mem_append.mp member with before | last
    · exact clean other before
    · rw [List.mem_singleton.mp last]
      exact oneLine
  · intro direction
    rw [List.filter_append, List.filter_singleton, unlabelled, told]
    exact List.append_nil _

theorem Follows.decode (follows : session.Follows kiss bytes)
    (clean : ∀ status, OneLine (kiss.statusToString status)) (direction : Direction)
    (chunk : List UInt8) :
    ({ session with monitor := session.monitor.decode kiss direction chunk }).Follows kiss
      (bytes ++ chunk.map (Prod.mk direction)) := by
  obtain ⟨lines, text, oneLine, told⟩ := follows.printed
  obtain ⟨next, printed⟩ := follows.monitor.run kiss (chunk.map (Prod.mk direction))
  rw [← Monitor.decode_eq] at next printed
  refine ⟨?_, lines ++ (Monitor.transcript kiss
    (statesAfter (observe kiss) (fun _ => unseen kiss) bytes)
    (chunk.map (Prod.mk direction))).map Prod.snd, ?_, ?_, ?_⟩
  · unfold statesAfter at next ⊢
    rw [List.foldl_append]
    exact next
  · rw [printed, text, unlines_append]
  · intro line member
    rcases List.mem_append.mp member with before | last
    · exact oneLine line before
    · exact Monitor.transcript_oneLine clean _ _ line last
  · intro other
    have apart : ∀ line ∈ Monitor.transcript kiss
        (statesAfter (observe kiss) (fun _ => unseen kiss) bytes)
        (chunk.map (Prod.mk direction)), ∀ tag : Direction,
        labelled tag.label line.2 = true → tag = line.1 := by
      intro line member
      exact ((observe_prints clean).together _ _ line member).2
    rw [List.filter_append, told, filter_labelled apart other]
    unfold Monitor.transcript
    rw [select_outputOf, statesAfter_apply, select_append, outputAlone_append,
      List.filter_append]

theorem Follows.decodeAll (follows : session.Follows kiss bytes)
    (clean : ∀ status, OneLine (kiss.statusToString status)) (chunks : List Entry) :
    ({ session with monitor := session.monitor.decodeAll kiss chunks }).Follows kiss
      (bytes ++ tagged chunks) := by
  induction chunks generalizing session bytes with
  | nil =>
      rw [show tagged [] = ([] : List (Direction × UInt8)) from rfl, List.append_nil]
      exact follows
  | cons chunk rest ih =>
      rw [tagged_cons, ← List.append_assoc]
      exact ih (follows.decode clean chunk.1 chunk.2)

/-- What the program says of itself opens with a bracket. -/
theorem bracketed {opening text : String} {letters : List Char}
    (spelled : opening.toList = '[' :: letters) (direction : Direction) :
    labelled direction.label (opening ++ text) = false := by
  have bracket : (opening ++ text).toList = '[' :: (letters ++ text.toList) := by
    rw [String.toList_append, spelled]
    rfl
  exact direction.unlabelled bracket (by decide)

theorem Follows.say (follows : session.Follows kiss bytes) {opening text : String}
    {letters : List Char} (spelled : opening.toList = '[' :: letters) (clean : OneLine opening)
    (oneLine : OneLine text) : (session.print (opening ++ text ++ "\n")).Follows kiss bytes := by
  apply follows.print
  · unfold OneLine
    rw [String.toList_append, List.mem_append]
    exact not_or.mpr ⟨clean, oneLine⟩
  · exact bracketed spelled

theorem clean_getD {event : ProxyEvent} {message : Option String}
    (clean : (ProxyCallback.lifecycle event message).Clean) {default : String}
    (cleanDefault : OneLine default) : OneLine (message.getD default) := by
  cases message with
  | none => exact cleanDefault
  | some text => exact clean

/-- No callback of the proxy changes what is under a label, but for the bytes it hands over. -/
theorem Follows.handle (follows : session.Follows kiss bytes)
    (clean : ∀ status, OneLine (kiss.statusToString status)) (world : World)
    {callback : ProxyCallback} (cleanCallback : callback.Clean) :
    (session.handle kiss world callback).Follows kiss (bytes ++ tagged (forwarded [callback])) := by
  cases callback with
  | data direction chunk =>
      have kept : (session.record world (direction, chunk)).Follows kiss bytes := by
        unfold record
        split
        · exact follows
        · dsimp only
          split
          · exact ⟨follows.monitor, follows.printed⟩
          · exact ⟨follows.monitor, follows.printed⟩
      have handed : tagged (forwarded [.data direction chunk]) =
          chunk.map (Prod.mk direction) := List.flatMap_singleton _ _
      rw [handed]
      exact kept.decode clean direction chunk
  | lifecycle event message =>
      have nothing : tagged (forwarded [.lifecycle event message]) = [] := rfl
      rw [nothing, List.append_nil]
      cases event with
      | started => exact follows.say rfl (by decide) (clean_getD cleanCallback (by decide))
      | error => exact follows.say rfl (by decide) (clean_getD cleanCallback (by decide))
      | stopped => exact follows.say rfl (by decide) (clean_getD cleanCallback (by decide))
  | signal signum =>
      have nothing : tagged (forwarded [.signal signum]) = [] := rfl
      rw [nothing, List.append_nil]
      exact ⟨follows.monitor, follows.printed⟩

theorem Follows.handleAll (follows : session.Follows kiss bytes)
    (clean : ∀ status, OneLine (kiss.statusToString status)) (world : World)
    {callbacks : List ProxyCallback} (cleanCallbacks : ∀ callback ∈ callbacks, callback.Clean) :
    (session.handleAll kiss world callbacks).Follows kiss
      (bytes ++ tagged (forwarded callbacks)) := by
  induction callbacks generalizing session bytes with
  | nil =>
      have nothing : tagged (forwarded []) = ([] : List (Direction × UInt8)) := rfl
      rw [nothing, List.append_nil]
      exact follows
  | cons callback rest ih =>
      have stepped := follows.handle clean world (cleanCallbacks callback List.mem_cons_self)
      have later := ih stepped fun other member =>
        cleanCallbacks other (List.mem_cons_of_mem callback member)
      have cut : tagged (forwarded (callback :: rest)) =
          tagged (forwarded [callback]) ++ tagged (forwarded rest) := by
        unfold tagged forwarded
        rw [← List.singleton_append, List.filterMap_append, List.flatMap_append]
      rw [cut, ← List.append_assoc]
      exact later

/-- Every chunk that is forwarded is offered to the writer. -/
theorem handleAll_recorded (kiss : KissLibrary KissDecoder KissStatus) (world : World)
    {recording : Recording} (recorded : session.recording = some recording)
    (callbacks : List ProxyCallback) :
    (session.handleAll kiss world callbacks).recording =
      some { recording with
        calls := world.writeAll recording.path recording.calls (forwarded callbacks) } := by
  induction callbacks generalizing session recording with
  | nil => exact recorded
  | cons callback rest ih =>
      cases callback with
      | data direction chunk =>
          have stepped : (session.handle kiss world (.data direction chunk)).recording =
              some { recording with
                calls := world.writeAll recording.path recording.calls [(direction, chunk)] } := by
            unfold handle proxyDataCb record
            rw [recorded]
            dsimp only
            split <;> rfl
          exact ih stepped
      | lifecycle event message =>
          have stepped : (session.handle kiss world (.lifecycle event message)).recording =
              some recording := by
            rw [← recorded]
            cases event <;> rfl
          exact ih stepped
      | signal signum => exact ih recorded

theorem handleAll_unrecorded (kiss : KissLibrary KissDecoder KissStatus) (world : World)
    (unrecorded : session.recording = none) (callbacks : List ProxyCallback) :
    (session.handleAll kiss world callbacks).recording = none := by
  induction callbacks generalizing session with
  | nil => exact unrecorded
  | cons callback rest ih =>
      have stepped : (session.handle kiss world callback).recording = none := by
        cases callback with
        | data direction chunk =>
            unfold handle proxyDataCb record
            rw [unrecorded]
            exact unrecorded
        | lifecycle event message =>
            rw [← unrecorded]
            cases event <;> rfl
        | signal signum => exact unrecorded
      exact ih stepped

theorem handleAll_append (world : World)
    (first second : List ProxyCallback) :
    session.handleAll kiss world (first ++ second) =
      (session.handleAll kiss world first).handleAll kiss world second :=
  List.foldl_append

theorem close_monitor (world : World) (session : Session KissDecoder) :
    (session.close world).monitor = session.monitor := by
  unfold close
  split <;> rfl

theorem close_stderr (world : World) (session : Session KissDecoder) :
    (session.close world).stderr = session.stderr := by
  unfold close
  split <;> rfl

/-- A session that starts with nothing, or with one line of its own. -/
theorem init_follows {recording : Option Recording} {stderr : String} :
    ({ monitor := Monitor.init kiss "", stderr := stderr, recording := recording } :
      Session KissDecoder).Follows kiss [] :=
  ⟨Monitor.init_follows kiss "", [], rfl, fun _ member => absurd member List.not_mem_nil,
    fun _ => rfl⟩

theorem init_says {opening text : String} {letters : List Char}
    (spelled : opening.toList = '[' :: letters) (clean : OneLine opening)
    (oneLine : OneLine text) {recording : Option Recording} {stderr : String} :
    ({ monitor := Monitor.init kiss (opening ++ text ++ "\n"), stderr := stderr,
       recording := recording } : Session KissDecoder).Follows kiss [] := by
  have silent : ({ monitor := Monitor.init kiss "", stderr := stderr, recording := recording } :
      Session KissDecoder).Follows kiss [] := init_follows
  obtain ⟨_, lines, printed, told⟩ := silent.say spelled clean oneLine
  refine ⟨Monitor.init_follows kiss _, lines, ?_, told⟩
  rw [← printed]
  exact (String.empty_append).symm

end Session

/-! ### Live sessions -/

variable {kiss : KissLibrary KissDecoder KissStatus} {world : World}

theorem openRecording_follows {recordPath : Option String} {recording : Option Recording}
    {stdout : String} (opened : openRecording world recordPath = .ok (recording, stdout))
    (cleanPath : ∀ path, recordPath = some path → OneLine path) :
    ({ monitor := Monitor.init kiss stdout, stderr := "", recording := recording } :
      Session KissDecoder).Follows kiss [] := by
  cases recordPath with
  | none =>
      cases opened
      exact Session.init_follows
  | some path =>
      unfold openRecording at opened
      dsimp only at opened
      split at opened
      · cases opened
      · cases opened
        exact Session.init_says rfl (by decide) (cleanPath path rfl)

theorem openRecording_starts {path : String} {recording : Option Recording} {stdout : String}
    (opened : openRecording world (some path) = .ok (recording, stdout)) :
    recording = some { path := path, calls := [] } := by
  unfold openRecording at opened
  dsimp only at opened
  split at opened
  · cases opened
  · cases opened
    rfl

/-- A session goes through the callbacks of the proxy, and closes its recording where the proxy
could be initialised. -/
theorem live_ran (kiss : KissLibrary KissDecoder KissStatus) {options : Options}
    {recording : Option Recording} {stdout : String}
    (isOpen : openRecording world options.recordPath = .ok (recording, stdout))
    (realTtyPath : String) :
    ∃ session : Session KissDecoder,
      session = ({ monitor := Monitor.init kiss stdout, stderr := "", recording := recording } :
        Session KissDecoder).handleAll kiss world
          (world.proxy realTtyPath options.baudRate).callbacks ∧
      (live kiss world options realTtyPath).stdout = session.monitor.stdout ∧
      (live kiss world options realTtyPath).device = some (realTtyPath, options.baudRate) ∧
      ((live kiss world options realTtyPath).exitCode = 0 ∧
          (live kiss world options realTtyPath).stderr = session.stderr ∧
          (live kiss world options realTtyPath).recording = (session.close world).recording ∨
        (live kiss world options realTtyPath).exitCode = 1 ∧
          (∃ text, (world.proxy realTtyPath options.baudRate).initialised = .error text ∧
            (live kiss world options realTtyPath).stderr =
              session.stderr ++ ("Error initializing serial proxy: " ++ text ++ "\n")) ∧
          (live kiss world options realTtyPath).recording = session.recording) := by
  refine ⟨_, rfl, ?_⟩
  unfold live ProxyRun.callbacks
  rw [isOpen]
  dsimp only
  cases (world.proxy realTtyPath options.baudRate).initialised with
  | error text =>
      refine ⟨rfl, rfl, .inr ⟨rfl, ⟨text, rfl, ?_⟩, rfl⟩⟩
      simp only [String.append_assoc]
  | ok done =>
      dsimp only
      rw [Session.handleAll_append]
      refine ⟨?_, rfl, .inl ⟨rfl, ?_, rfl⟩⟩
      · exact congrArg Monitor.stdout (Session.close_monitor world _)
      · exact Session.close_stderr world _

theorem live_open {options : Options} {realTtyPath : String}
    (ran : (live kiss world options realTtyPath).recording ≠ none ∨
      (live kiss world options realTtyPath).device ≠ none) :
    ∃ recording stdout, openRecording world options.recordPath = .ok (recording, stdout) := by
  unfold live at ran
  cases isOpen : openRecording world options.recordPath with
  | error text =>
      rw [isOpen] at ran
      rcases ran with recorded | opened
      · exact absurd rfl recorded
      · exact absurd rfl opened
  | ok found => exact ⟨found.1, found.2, rfl⟩

/-- The lines of a live session under a label are those of the bytes that were forwarded. -/
theorem live_under (clean : ∀ status, OneLine (kiss.statusToString status))
    {options : Options} (cleanPath : ∀ path, options.recordPath = some path → OneLine path)
    {realTtyPath : String}
    (cleanMessages : ∀ callback ∈ (world.proxy realTtyPath options.baudRate).callbacks,
      callback.Clean)
    (ran : (live kiss world options realTtyPath).recording ≠ none ∨
      (live kiss world options realTtyPath).device ≠ none) (direction : Direction) :
    under direction.label (live kiss world options realTtyPath).stdout =
      (outputAlone (observe kiss) direction (unseen kiss)
        (select direction
          (tagged (forwarded (world.proxy realTtyPath options.baudRate).callbacks)))).filter
            (labelled direction.label) := by
  obtain ⟨recording, stdout, isOpen⟩ := live_open ran
  obtain ⟨session, rfl, printed, _⟩ := live_ran kiss isOpen realTtyPath
  have follows : Session.Follows kiss _ [] := openRecording_follows isOpen cleanPath
  rw [printed]
  exact (follows.handleAll clean world cleanMessages).under direction

/-- A session that has a recording or a device has opened the one it was asked for. -/
theorem live_opened {options : Options} {realTtyPath : String}
    (ran : (live kiss world options realTtyPath).recording ≠ none ∨
      (live kiss world options realTtyPath).device ≠ none) :
    (live kiss world options realTtyPath).device = some (realTtyPath, options.baudRate) := by
  obtain ⟨recording, stdout, isOpen⟩ := live_open ran
  obtain ⟨session, _, _, device, _⟩ := live_ran kiss isOpen realTtyPath
  exact device

theorem live_device {options : Options} {realTtyPath : String} {device : String × Int32}
    (opened : (live kiss world options realTtyPath).device = some device) :
    device = (realTtyPath, options.baudRate) := by
  have known := live_opened (.inr (Option.ne_none_iff_exists'.mpr ⟨_, opened⟩))
  exact Option.some.inj (opened.symm.trans known)

/-- A recording of these calls and, where the session went well, of a close. -/
def World.recordingOf (world : World) (path : String) (chunks : List Entry) (exitCode : Nat) :
    Recording :=
  let calls := world.writeAll path [] chunks
  { path := path
    calls := if exitCode = 0 then calls ++ [.close (world.writerClose path calls)] else calls }

/-- The writer is offered the chunks that were forwarded, and is then closed if all went well. -/
theorem live_recording {options : Options} {path : String}
    (wanted : options.recordPath = some path) {realTtyPath : String}
    (opened : (live kiss world options realTtyPath).device ≠ none) :
    (live kiss world options realTtyPath).recording = some (world.recordingOf path
      (forwarded (world.proxy realTtyPath options.baudRate).callbacks)
      (live kiss world options realTtyPath).exitCode) := by
  obtain ⟨start, stdout, isOpen⟩ := live_open (.inr opened)
  obtain ⟨session, same, _, _, ends⟩ := live_ran kiss isOpen realTtyPath
  have started := openRecording_starts (wanted ▸ isOpen)
  have held : session.recording = _ := same ▸ Session.handleAll_recorded kiss world started
    (world.proxy realTtyPath options.baudRate).callbacks
  rcases ends with ⟨code, _, kept⟩ | ⟨code, _, kept⟩
  · unfold Session.close at kept
    rw [held] at kept
    rw [kept, code]
    rfl
  · rw [kept, held, code]
    rfl

theorem live_unrecorded {options : Options} (unwanted : options.recordPath = none)
    (realTtyPath : String) : (live kiss world options realTtyPath).recording = none := by
  have isOpen : openRecording world options.recordPath = .ok (none, "") := by
    rw [unwanted]
    rfl
  obtain ⟨session, same, _, _, ends⟩ := live_ran kiss isOpen realTtyPath
  have unrecorded : session.recording = none := by
    rw [same]
    exact Session.handleAll_unrecorded kiss world rfl _
  rcases ends with ⟨_, _, kept⟩ | ⟨_, _, kept⟩
  · unfold Session.close at kept
    rw [unrecorded] at kept
    rw [kept, unrecorded]
  · rw [kept, unrecorded]

/-- A session has a recording exactly where it gets as far as the proxy and was asked for one. -/
theorem live_recorded_iff {options : Options} {realTtyPath : String} {recording : Recording} :
    (live kiss world options realTtyPath).recording = some recording ↔
      (live kiss world options realTtyPath).device ≠ none ∧
        options.recordPath = some recording.path ∧
        recording = world.recordingOf recording.path
          (forwarded (world.proxy realTtyPath options.baudRate).callbacks)
          (live kiss world options realTtyPath).exitCode := by
  constructor
  · intro recorded
    have opened : (live kiss world options realTtyPath).device ≠ none := by
      rw [live_opened (.inl (Option.ne_none_iff_exists'.mpr ⟨_, recorded⟩))]
      exact Option.some_ne_none _
    cases wanted : options.recordPath with
    | none =>
        rw [live_unrecorded wanted] at recorded
        cases recorded
    | some path =>
        have kept := Option.some.inj (recorded.symm.trans (live_recording wanted opened))
        have named : recording.path = path := congrArg Recording.path kept
        rw [named]
        exact ⟨opened, rfl, kept⟩
  · rintro ⟨opened, wanted, kept⟩
    rw [live_recording wanted opened, ← kept]

theorem writeAll_offered (path : String) (calls : List WriterCall) (chunks : List Entry) :
    (world.writeAll path calls chunks).filterMap WriterCall.offered? =
      calls.filterMap WriterCall.offered? ++ chunks := by
  induction chunks generalizing calls with
  | nil => exact (List.append_nil _).symm
  | cons entry rest ih =>
      refine (ih (calls ++ [.write entry (world.writerWrite path calls entry)])).trans ?_
      rw [List.filterMap_append, List.append_assoc]
      rfl

/-- Every chunk is offered once, in the order they were forwarded. -/
theorem recordingOf_offered (path : String) (chunks : List Entry) (exitCode : Nat) :
    (world.recordingOf path chunks exitCode).calls.filterMap WriterCall.offered? = chunks := by
  have offered : (world.writeAll path [] chunks).filterMap WriterCall.offered? = chunks :=
    writeAll_offered path [] chunks
  unfold World.recordingOf
  dsimp only
  split
  · rw [List.filterMap_append, offered]
    exact List.append_nil chunks
  · exact offered

theorem Recording.entries_offered {recording : Recording}
    (written : ∀ call ∈ recording.calls, call.failed = false) :
    recording.entries = recording.calls.filterMap WriterCall.offered? := by
  unfold Recording.entries
  rw [List.filter_eq_self.mpr]
  intro call member
  rw [written call member]
  rfl

/-! ### Replays -/

/-- The lines of a replay under a label are those of the entries it reads. -/
theorem replay_under (clean : ∀ status, OneLine (kiss.statusToString status))
    {replayPath : String} (cleanPath : OneLine replayPath) {file : ReplayFile}
    (read : world.readerOpen replayPath = .ok file) (direction : Direction) :
    under direction.label (replay kiss world replayPath).stdout =
      (outputAlone (observe kiss) direction (unseen kiss)
        (select direction (tagged file.entries))).filter (labelled direction.label) := by
  have follows : ({
      monitor := Monitor.init kiss ("[replay] reading from " ++ replayPath ++ "\n")
      stderr := ""
      recording := none } : Session KissDecoder).Follows kiss [] :=
    Session.init_says rfl (by decide) cleanPath
  have decoded := (follows.decodeAll clean file.entries).under direction
  unfold replay
  rw [read]
  dsimp only
  split <;> exact decoded

theorem replay_leaves (kiss : KissLibrary KissDecoder KissStatus) (world : World)
    (replayPath : String) :
    (replay kiss world replayPath).recording = none ∧
      (replay kiss world replayPath).device = none := by
  unfold replay
  split
  · exact ⟨rfl, rfl⟩
  · dsimp only
    split <;> exact ⟨rfl, rfl⟩

/-- A run is a live session, or it neither records anything nor opens a device. -/
theorem main_live (kiss : KissLibrary KissDecoder KissStatus) (world : World) (prog : String)
    (args : List String) :
    (∃ options path, parseArguments Options.initial args = .ok options ∧
      main kiss world prog args = live kiss world options path) ∨
    (main kiss world prog args).recording = none ∧ (main kiss world prog args).device = none := by
  unfold main
  cases args with
  | nil => exact .inr ⟨rfl, rfl⟩
  | cons first rest =>
      dsimp only
      split
      · exact .inr ⟨rfl, rfl⟩
      · cases parsed : parseArguments Options.initial (first :: rest) with
        | error text => exact .inr ⟨rfl, rfl⟩
        | ok options =>
            dsimp only
            cases options.replayPath with
            | none =>
                cases options.realTtyPath with
                | none => exact .inr ⟨rfl, rfl⟩
                | some path => exact .inl ⟨options, path, rfl, rfl⟩
            | some replayPath =>
                cases options.realTtyPath with
                | none => exact .inr (replay_leaves kiss world replayPath)
                | some path => exact .inr ⟨rfl, rfl⟩

theorem main_recorded {prog : String} {args : List String} {recording : Recording}
    (recorded : (main kiss world prog args).recording = some recording) :
    ∃ options path, main kiss world prog args = live kiss world options path := by
  rcases main_live kiss world prog args with ⟨options, path, _, ran⟩ | ⟨unrecorded, _⟩
  · exact ⟨options, path, ran⟩
  · rw [unrecorded] at recorded
    cases recorded

/-- A later replay of the recording of a live session, cut into entries in any way, reports under
each label what the session reported, where all its writes were done. -/
theorem replay_reproduces (clean : ∀ status, OneLine (kiss.statusToString status))
    {prog : String} {args : List String} {device : String × Int32} {recording : Recording}
    (opened : (main kiss world prog args).device = some device)
    (cleanMessages : ∀ callback ∈ (world.proxy device.1 device.2).callbacks, callback.Clean)
    (recorded : (main kiss world prog args).recording = some recording)
    (cleanPath : OneLine recording.path)
    (written : ∀ call ∈ recording.calls, call.failed = false)
    {later : World} {file : ReplayFile} (read : later.readerOpen recording.path = .ok file)
    (same : tagged file.entries = tagged recording.entries) (direction : Direction) :
    under direction.label (main kiss later prog ["--replay", recording.path]).stdout =
      under direction.label (main kiss world prog args).stdout := by
  have replayed : main kiss later prog ["--replay", recording.path] =
      replay kiss later recording.path := rfl
  obtain ⟨options, path, ran⟩ := main_recorded recorded
  rw [ran] at opened recorded ⊢
  obtain ⟨_, wanted, calls⟩ := live_recorded_iff.mp recorded
  have named := live_device opened
  rw [named] at cleanMessages
  have entries : recording.entries = forwarded (world.proxy path options.baudRate).callbacks := by
    rw [Recording.entries_offered written]
    exact (congrArg (fun kept => kept.calls.filterMap WriterCall.offered?) calls).trans
      (recordingOf_offered _ _ _)
  have cleanWanted : ∀ other, options.recordPath = some other → OneLine other := by
    intro other found
    rw [wanted] at found
    rw [← Option.some.inj found]
    exact cleanPath
  have isRecorded : (live kiss world options path).recording ≠ none :=
    Option.ne_none_iff_exists'.mpr ⟨_, recorded⟩
  rw [replayed, replay_under clean cleanPath read, same, entries,
    live_under clean cleanWanted cleanMessages (.inl isRecorded)]

/-- A world whose proxy forwards a READY command and is then stopped.  All calls of a writer
succeed but for the close, and a recording is read back in one entry. -/
def World.forwardingReady : World :=
  { readerOpen := fun _ => .ok
      { entries := [(.hostToDevice, [0xC0, 0x0F, 0xC0])]
        replayRc := 1
        ended := by decide }
    writerOpen := fun _ => .ok ()
    writerWrite := fun _ _ _ => 0
    writerClose := fun _ _ => -1
    proxy := fun _ _ =>
      { duringInit := [.lifecycle .started (some "/dev/pts/3")]
        initialised := .ok ()
        duringRun := [.data .hostToDevice [0xC0, 0x0F], .data .hostToDevice [0xC0],
          .signal .sigint, .lifecycle .stopped none] } }

theorem World.forwardingReady_clean (path : String) (baudRate : Int32) :
    ∀ callback ∈ (World.forwardingReady.proxy path baudRate).callbacks, callback.Clean := by
  have started : OneLine "/dev/pts/3" := by decide
  change ∀ callback ∈ [_, _, _, _, _], ProxyCallback.Clean callback
  simp only [List.forall_mem_cons]
  exact ⟨started, trivial, trivial, trivial, trivial, List.forall_mem_nil _⟩

theorem replay_reproduces_ready :
    under Direction.hostToDevice.label
        (main .delimited .forwardingReady "monitor" ["--replay", "log"]).stdout =
      under Direction.hostToDevice.label
        (main .delimited .forwardingReady "monitor" ["/dev/ttyUSB0", "--record", "log"]).stdout :=
  have opened : (main .delimited .forwardingReady "monitor"
      ["/dev/ttyUSB0", "--record", "log"]).device = some ("/dev/ttyUSB0", 0) := rfl
  have recorded : (main .delimited .forwardingReady "monitor"
      ["/dev/ttyUSB0", "--record", "log"]).recording = some
        { path := "log"
          calls := [.write (.hostToDevice, [0xC0, 0x0F]) 0, .write (.hostToDevice, [0xC0]) 0,
            .close (-1)] } := rfl
  replay_reproduces (by decide) opened (World.forwardingReady_clean _ _) recorded (by decide)
    (by decide) rfl rfl .hostToDevice

/-! ### Sessions told by their device -/

theorem parseArguments_recordPath {options parsed : Options} {args : List String}
    (accepted : parseArguments options args = .ok parsed) {path : String}
    (wanted : parsed.recordPath = some path) : options.recordPath = some path ∨ path ∈ args := by
  fun_induction parseArguments options args with
  | case1 options =>
      cases accepted
      exact .inl wanted
  | case2 => cases accepted
  | case3 options recordPath rest ih =>
      rcases ih accepted with here | later
      · cases here
        exact .inr (List.mem_cons_of_mem _ List.mem_cons_self)
      · exact .inr (List.mem_cons_of_mem _ (List.mem_cons_of_mem _ later))
  | case4 => cases accepted
  | case5 options _ replayPath rest ih =>
      rcases ih accepted with here | later
      · exact .inl here
      · exact .inr (List.mem_cons_of_mem _ (List.mem_cons_of_mem _ later))
  | case6 options arg rest _ _ _ ih => exact (ih accepted).imp_right (List.mem_cons_of_mem _)
  | case7 options arg rest _ _ _ _ ih => exact (ih accepted).imp_right (List.mem_cons_of_mem _)
  | case8 => cases accepted

/-- Whatever else a session says, the lines under a label are those a monitor prints that is handed
the bytes the proxy forwarded in that direction and nothing else. -/
theorem session_demultiplexed (clean : ∀ status, OneLine (kiss.statusToString status))
    {prog : String} {args : List String} (cleanArgs : ∀ arg ∈ args, OneLine arg)
    {device : String × Int32} (opened : (main kiss world prog args).device = some device)
    (cleanMessages : ∀ callback ∈ (world.proxy device.1 device.2).callbacks, callback.Clean)
    (direction : Direction) :
    under direction.label (main kiss world prog args).stdout =
      under direction.label ((Monitor.init kiss "").decode kiss direction
        (select direction
          (forwarded (world.proxy device.1 device.2).callbacks)).flatten).stdout := by
  rcases main_live kiss world prog args with ⟨options, path, parsed, ran⟩ | ⟨_, unopened⟩
  · rw [ran] at opened ⊢
    have named := live_device opened
    rw [named] at cleanMessages ⊢
    have cleanPath : ∀ other, options.recordPath = some other → OneLine other := by
      intro other wanted
      rcases parseArguments_recordPath parsed wanted with initial | given
      · cases initial
      · exact cleanArgs other given
    have ran : (live kiss world options path).device ≠ none :=
      Option.ne_none_iff_exists'.mpr ⟨_, opened⟩
    rw [live_under clean cleanPath cleanMessages (.inr ran), Monitor.under_decode clean,
      select_tagged]
  · rw [unopened] at opened
    cases opened

theorem session_demultiplexed_ready :
    under Direction.hostToDevice.label
        (main .delimited .forwardingReady "monitor" ["/dev/ttyUSB0", "--record", "log"]).stdout =
      under Direction.hostToDevice.label ((Monitor.init .delimited "").decode .delimited
        .hostToDevice [0xC0, 0x0F, 0xC0]).stdout :=
  have opened : (main .delimited .forwardingReady "monitor"
      ["/dev/ttyUSB0", "--record", "log"]).device = some ("/dev/ttyUSB0", 0) := rfl
  session_demultiplexed (by decide) (by decide) opened (World.forwardingReady_clean _ _)
    .hostToDevice

end RNodeProtocol
