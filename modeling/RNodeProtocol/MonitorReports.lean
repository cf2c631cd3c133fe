/-
What can be read off the standard output of a monitor.

Every line is one line of text, and all but the diagnostics of the command
decoder open with the label of their direction.  So the lines of a direction
can be picked out of a run over both, and they are what the bytes of that
direction alone would have printed.
-/

import RNodeProtocol.MonitorRuns

namespace RNodeProtocol

open FramedInput SharedOutput TextLines

/-! ### Lines -/

namespace Direction

theorem plain_label (direction : Direction) : Plain direction.label := by
  cases direction <;> decide

/-- One line of text, and under no label but that of this direction. -/
def Prints (direction : Direction) (line : String) : Prop :=
  OneLine line ∧ ∀ other : Direction, labelled other.label line = true → other = direction

theorem labelled_report (direction : Direction) (line : String) :
    labelled direction.label (direction.report line) = true :=
  labelled_open direction.label line

theorem prints_report (direction : Direction) {line : String} (oneLine : OneLine line) :
    direction.Prints (direction.report line) := by
  constructor
  · unfold OneLine report
    rw [String.toList_append, String.toList_append, List.mem_append, List.mem_append]
    rintro ((inLabel | isBlank) | inLine)
    · exact direction.plain_label.2 inLabel
    · exact absurd isBlank (by decide)
    · exact oneLine inLine
  · intro other opened
    have same := labelled_unique other.plain_label.1 direction.plain_label.1 opened
      (direction.labelled_report line)
    cases other <;> cases direction <;> first | rfl | exact absurd same (by decide)

/-- The labels open with one letter, and a line that does not is under none of them. -/
theorem unlabelled (direction : Direction) {line : String} {letter : Char} {letters : List Char}
    (spelled : line.toList = letter :: letters) (other : letter ≠ 'H') :
    labelled direction.label line = false := by
  rw [Bool.eq_false_iff]
  intro opened
  unfold labelled at opened
  rw [List.isPrefixOf_iff_prefix, spelled] at opened
  obtain ⟨rest, same⟩ := opened
  cases direction <;> exact other (List.cons.inj same).1.symm

theorem unlabelled_diagnostic (direction : Direction) {opening : String} {letters : List Char}
    (spelled : opening.toList = '-' :: letters) (expected : Nat) :
    labelled direction.label (opening ++ unsigned expected ++ " bytes") = false := by
  have dashed : (opening ++ unsigned expected ++ " bytes").toList =
      '-' :: (letters ++ (unsigned expected).toList ++ " bytes".toList) := by
    rw [String.toList_append, String.toList_append, spelled]
    rfl
  exact direction.unlabelled dashed (by decide)

theorem unlabelled_announcement (direction : Direction) {line : String}
    (announcement : Announcement line) : labelled direction.label line = false := by
  cases announcement with
  | tooMany expected =>
      unfold tooManyLine
      exact direction.unlabelled_diagnostic rfl expected
  | fewer expected =>
      unfold fewerLine
      exact direction.unlabelled_diagnostic rfl expected

theorem prints_announcement (direction : Direction) {line : String}
    (announcement : Announcement line) : direction.Prints line := by
  refine ⟨announcement.oneLine, ?_⟩
  intro other opened
  rw [other.unlabelled_announcement announcement] at opened
  cases opened

/-- The lines a direction is spoken of in: diagnostics without a label, and calls under its own. -/
inductive Speaks : Direction → String → Prop where
  | announced {direction : Direction} {line : String} (announcement : Announcement line) :
      Speaks direction line
  | command (call : CommandCall) :
      Speaks .hostToDevice (hostToDevice.report (CommandDecoderText.line call))
  | event (call : EventCall) :
      Speaks .deviceToHost (deviceToHost.report (EventDecoderText.line call))

theorem script_speaks (direction : Direction) : direction.script.Tells direction.Speaks := by
  cases direction with
  | hostToDevice =>
      constructor
      · intro input byte line member
        rcases List.mem_append.mp member with announced | told
        · exact .announced (announcement_put announced)
        · obtain ⟨call, _, rfl⟩ := List.mem_map.mp told
          exact .command call
      · intro input line member
        rcases List.mem_append.mp member with announced | told
        · exact .announced (announcement_end announced)
        · obtain ⟨call, _, rfl⟩ := List.mem_map.mp told
          exact .command call
  | deviceToHost =>
      constructor
      · intro input byte line member
        obtain ⟨call, _, rfl⟩ := List.mem_map.mp member
        exact .event call
      · intro input line member
        obtain ⟨call, _, rfl⟩ := List.mem_map.mp member
        exact .event call

theorem script_prints (direction : Direction) : direction.script.Tells direction.Prints := by
  apply direction.script_speaks.imp
  intro line speaks
  cases speaks with
  | announced announcement => exact prints_announcement _ announcement
  | command call => exact prints_report _ (CommandDecoderText.oneLine_line call)
  | event call => exact prints_report _ (EventDecoderText.oneLine_line call)

end Direction

variable {KissDecoder KissStatus : Type} [DecidableEq KissStatus]
  {kiss : KissLibrary KissDecoder KissStatus}

theorem hear_prints (clean : ∀ status, OneLine (kiss.statusToString status)) :
    (hear kiss).Prints Direction.Prints := by
  have plainAround : ∀ {first last : String} {status : KissStatus} {number : Nat},
      OneLine first → OneLine last →
      OneLine (first ++ kiss.statusToString status ++ last ++ unsigned number) := by
    intro first last status number firstClean lastClean inside
    rw [String.toList_append, String.toList_append, String.toList_append, List.mem_append,
      List.mem_append, List.mem_append] at inside
    rcases inside with ((inFirst | inStatus) | inLast) | inNumber
    · exact firstClean inFirst
    · exact clean status inStatus
    · exact lastClean inLast
    · exact (plain_unsigned number).2 inNumber
  intro direction capture callback line member
  unfold hear at member
  cases callback with
  | start => exact absurd member List.not_mem_nil
  | data byte byteIndex => exact direction.script_prints.put _ _ line member
  | endFrame info =>
      dsimp only at member
      split at member
      · exact direction.script_prints.endFrame _ line member
      · rw [List.mem_singleton.mp member]
        apply direction.prints_report
        unfold frameErrorLine
        intro inside
        rw [String.toList_append, List.mem_append] at inside
        rcases inside with inBody | inEnd
        · exact plainAround (by decide) (by decide) inBody
        · exact absurd inEnd (by decide)
  | error status index =>
      rw [List.mem_singleton.mp member]
      exact direction.prints_report (plainAround (by decide) (by decide))

theorem observe_prints (clean : ∀ status, OneLine (kiss.statusToString status)) :
    (observe kiss).Prints Direction.Prints :=
  fun direction _ _ => (hear_prints clean).alone direction _ _

/-! ### A KISS decoder without escapes -/

/-- Frames stand between delimiters; the state is the index of the next byte of a frame. -/
def KissLibrary.delimited : KissLibrary (Option UInt32) Bool :=
  { init := none
    put := fun index byte =>
      match index with
      | none => if byte = 0xC0 then (some 0, [.start]) else (none, [])
      | some index =>
          if byte = 0xC0 then
            (none, [.endFrame
              { status := true
                len := index }])
          else (some (index + 1), [.data byte index])
    frameComplete := true
    statusToString := fun status => if status then "FRAME_COMPLETE" else "FRAME_INCOMPLETE" }

/-- A READY command in two chunks and a BLINK event between them. -/
def readyAndBlink : List (Direction × List UInt8) :=
  [(.hostToDevice, [0xC0, 0x0F]), (.deviceToHost, [0xC0, 0x00, 0xC0]), (.hostToDevice, [0xC0])]

/-! ### Both directions on one output -/

namespace Monitor

theorem transcript_oneLine (clean : ∀ status, OneLine (kiss.statusToString status))
    (seen : Direction → Seen KissDecoder) (bytes : List (Direction × UInt8)) :
    ∀ line ∈ (transcript kiss seen bytes).map Prod.snd, OneLine line := by
  intro line member
  obtain ⟨tagged, isTagged, rfl⟩ := List.mem_map.mp member
  exact ((observe_prints clean).together seen bytes tagged isTagged).1

/-- The lines under the label of a direction are those of its own bytes. -/
theorem under_transcript (clean : ∀ status, OneLine (kiss.statusToString status))
    (seen : Direction → Seen KissDecoder) (bytes : List (Direction × UInt8))
    (direction : Direction) :
    under direction.label (unlines ((transcript kiss seen bytes).map Prod.snd)) =
      (outputAlone (observe kiss) direction (seen direction) (select direction bytes)).filter
        (labelled direction.label) := by
  have apart : ∀ line ∈ transcript kiss seen bytes, ∀ other : Direction,
      labelled other.label line.2 = true → other = line.1 := by
    intro line member
    exact ((observe_prints clean).together seen bytes line member).2
  rw [under_unlines (transcript_oneLine clean seen bytes),
    filter_labelled apart direction]
  unfold transcript
  rw [select_outputOf]

/-- The standard output of a monitor that is handed the bytes of one direction only. -/
theorem stdout_decode (kiss : KissLibrary KissDecoder KissStatus) (direction : Direction)
    (bytes : List UInt8) :
    ((init kiss "").decode kiss direction bytes).stdout =
      unlines (outputAlone (observe kiss) direction (unseen kiss) bytes) := by
  have printed := ((init_follows kiss "").decodeAll kiss [(direction, bytes)]).2
  change ((init kiss "").decode kiss direction bytes).stdout = _ at printed
  have nothing : (init kiss "").stdout = "" := rfl
  have own : tagged [(direction, bytes)] = bytes.map (Prod.mk direction) := List.append_nil _
  rw [printed, nothing, String.empty_append, own]
  unfold transcript
  rw [outputOf_own, List.map_map]
  exact congrArg unlines (List.map_id _)

theorem under_decode (clean : ∀ status, OneLine (kiss.statusToString status))
    (direction : Direction) (bytes : List UInt8) :
    under direction.label ((init kiss "").decode kiss direction bytes).stdout =
      (outputAlone (observe kiss) direction (unseen kiss) bytes).filter
        (labelled direction.label) := by
  rw [stdout_decode, under_unlines]
  exact fun line member => ((observe_prints clean).alone direction _ bytes line member).1

/-- However the chunks of the two directions are interleaved and cut, the lines under a label are
those a monitor prints that is handed the bytes of that direction alone. -/
theorem demultiplexed (clean : ∀ status, OneLine (kiss.statusToString status))
    (chunks : List (Direction × List UInt8)) (direction : Direction) :
    under direction.label ((init kiss "").decodeAll kiss chunks).stdout =
      under direction.label
        ((init kiss "").decode kiss direction (select direction chunks).flatten).stdout := by
  have mixed := ((init_follows kiss "").decodeAll kiss chunks).2
  have nothing : (init kiss "").stdout = "" := rfl
  rw [mixed, nothing, String.empty_append, under_transcript clean, select_tagged,
    under_decode clean]

theorem demultiplexed_ready :
    under Direction.hostToDevice.label
        ((init .delimited "").decodeAll .delimited readyAndBlink).stdout =
      under Direction.hostToDevice.label
        ((init .delimited "").decode .delimited .hostToDevice [0xC0, 0x0F, 0xC0]).stdout :=
  demultiplexed (by decide) readyAndBlink .hostToDevice

end Monitor

end RNodeProtocol
