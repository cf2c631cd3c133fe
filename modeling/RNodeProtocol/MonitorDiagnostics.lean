/-
Diagnostics on the standard output of a monitor.

The command decoder says that a payload has the wrong length in a line without
a label, between the labelled lines of both directions.  The line after it is
the error of that payload, so it can be told what a diagnostic is about, and no
error of this kind comes without one.
-/

import RNodeProtocol.MonitorTap

namespace RNodeProtocol

open ByteNumerals FramedInput SharedOutput TextLines

/-- The line of an error about the length of a payload. -/
def lengthErrorLine (interface opcode : UInt8) (index : UInt32) : String :=
  Direction.hostToDevice.report
    (CommandDecoderText.line (.error interface opcode index .invalidLength))

/-- A diagnostic and its error, or a labelled line that is no such error; the length that was
expected is that of the opcode in the error. -/
inductive Group : List String → Prop where
  | refused {diagnostic : String} {expected : Nat} {opcode : UInt8}
      (said : diagnostic = tooManyLine expected ∨ diagnostic = fewerLine expected)
      (table : (fixedCommand opcode.toNat).map Prod.fst = some expected) (interface : UInt8)
      (index : UInt32) : Group [diagnostic, lengthErrorLine interface opcode index]
  | single {line : String} (direction : Direction)
      (isLabelled : labelled direction.label line = true)
      (different : ∀ interface opcode index, line ≠ lengthErrorLine interface opcode index) :
      Group [line]

def Grouped (lines : List String) : Prop :=
  ∃ groups : List (List String), lines = groups.flatten ∧ ∀ group ∈ groups, Group group

theorem grouped_nil : Grouped [] :=
  ⟨[], rfl, fun _ member => absurd member List.not_mem_nil⟩

theorem Group.grouped {lines : List String} (group : Group lines) : Grouped lines := by
  refine ⟨[lines], (List.flatten_singleton).symm, ?_⟩
  intro other member
  rw [List.mem_singleton.mp member]
  exact group

theorem grouped_append (first second : List String) (before : Grouped first)
    (after : Grouped second) : Grouped (first ++ second) := by
  obtain ⟨groups, rfl, grouped⟩ := before
  obtain ⟨others, rfl, othersGrouped⟩ := after
  refine ⟨groups ++ others, (List.flatten_append).symm, ?_⟩
  intro group member
  rcases List.mem_append.mp member with here | there
  · exact grouped group here
  · exact othersGrouped group there

/-! ### Single lines -/

theorem lengthError_reported (interface opcode : UInt8) (index : UInt32) :
    reported (lengthErrorLine interface opcode index) = true :=
  Direction.reported_command _

theorem Group.unreported {direction : Direction} {line : String}
    (silent : reported (direction.report line) = false) : Group [direction.report line] := by
  refine .single direction (direction.labelled_report line) ?_
  intro interface opcode index same
  rw [same, lengthError_reported] at silent
  cases silent

/-- A call is told apart from the errors about lengths by its status, if it is an error at all. -/
def CommandCall.Other : CommandCall → Prop
  | .error _ _ _ status => status ≠ .invalidLength
  | _ => True

theorem Group.command {call : CommandCall} (accepted : CommandDecoderText.Accepted call)
    (other : call.Other) :
    Group [Direction.hostToDevice.report (CommandDecoderText.line call)] := by
  refine .single .hostToDevice (Direction.labelled_report _ _) ?_
  intro interface opcode index same
  have lines := (String.append_right_inj _).mp same
  have acceptedToo : CommandDecoderText.Accepted
      (.error interface opcode index .invalidLength) := trivial
  have calls := CommandDecoderText.line_injective accepted acceptedToo lines
  rw [calls] at other
  exact other rfl

theorem Group.event (call : EventCall) :
    Group [Direction.deviceToHost.report (EventDecoderText.line call)] := by
  refine .single .deviceToHost (Direction.labelled_report _ _) ?_
  intro interface opcode index same
  have opened := Direction.labelled_report .deviceToHost (EventDecoderText.line call)
  rw [same] at opened
  have labels := labelled_unique Direction.deviceToHost.plain_label.1
    Direction.hostToDevice.plain_label.1 opened (Direction.labelled_report .hostToDevice _)
  exact absurd labels (by decide)

theorem grouped_events (calls : List EventCall) :
    Grouped (calls.map fun call => Direction.deviceToHost.report (EventDecoderText.line call)) := by
  induction calls with
  | nil => exact grouped_nil
  | cons call rest ih => exact grouped_append [_] _ (Group.event call).grouped ih

theorem grouped_commands {calls : List CommandCall}
    (accepted : ∀ call ∈ calls, CommandDecoderText.Accepted call)
    (other : ∀ call ∈ calls, call.Other) :
    Grouped (calls.map fun call =>
      Direction.hostToDevice.report (CommandDecoderText.line call)) := by
  induction calls with
  | nil => exact grouped_nil
  | cons call rest ih =>
      have here := Group.command (accepted call List.mem_cons_self) (other call List.mem_cons_self)
      exact grouped_append [_] _ here.grouped
        (ih (fun next member => accepted next (List.mem_cons_of_mem call member))
          (fun next member => other next (List.mem_cons_of_mem call member)))

/-! ### The command script -/

/-- A payload of fixed length is read by its entry in the table. -/
theorem fixed_reading {header : UInt8} {size : Nat}
    (reading : commandReading header = .fixed size) :
    (fixedCommand (lowNibble header).toNat).map Prod.fst = some size ∧
      ∀ payload, ∃ build,
        parseCommand (header :: payload) = parseFixed header size payload build := by
  unfold commandReading at reading
  split at reading
  · cases reading
  · rename_i notData
    split at reading
    · rename_i length build table
      cases reading
      rw [table]
      refine ⟨rfl, ?_⟩
      intro payload
      change ∃ build, parsePayload header payload (lowNibble header).toNat = _
      unfold parsePayload
      rw [if_neg notData, table]
      exact ⟨build, rfl⟩
    · cases reading

theorem grouped_put (input : List UInt8) (byte : UInt8) :
    Grouped (Direction.hostToDevice.script.put input byte) := by
  have accepted := CommandDecoderText.script_accepted.put input byte
  change ∀ call ∈ commandPutCalls input byte, _ at accepted
  change Grouped (commandPutDiagnostics input ++ (commandPutCalls input byte).map _)
  cases input with
  | nil =>
      apply grouped_commands accepted
      rw [commandPutCalls]
      split
      · intro call member
        rw [List.mem_singleton.mp member]
        change DecoderStatus.unknownOpcode ≠ .invalidLength
        decide
      · intro call member
        rw [List.mem_singleton.mp member]
        trivial
      · exact fun _ member => absurd member List.not_mem_nil
  | cons header payload =>
      rw [commandPutDiagnostics, commandPutCalls] at *
      cases reading : commandReading header with
      | unknown => exact grouped_nil
      | streamed =>
          rw [reading] at accepted
          apply grouped_commands accepted
          intro call member
          rw [List.mem_singleton.mp member]
          trivial
      | fixed size =>
          dsimp only
          by_cases full : payload.length = 4
          · rw [if_pos full, if_pos full]
            exact (Group.refused (.inl rfl) (fixed_reading reading).1 _ _).grouped
          · rw [if_neg full, if_neg full]
            exact grouped_nil

theorem other_calls (command : Command) : ∀ call ∈ command.calls, call.Other := by
  intro call member
  cases command with
  | transmit interface payload =>
      obtain ⟨query, rfl⟩ := mem_streamCalls member
      trivial
  | _ =>
      rw [List.mem_singleton.mp member]
      trivial

theorem grouped_end (input : List UInt8) :
    Grouped (Direction.hostToDevice.script.endFrame input) := by
  have accepted := CommandDecoderText.script_accepted.endFrame input
  change ∀ call ∈ commandEndCalls input, _ at accepted
  change Grouped (commandEndDiagnostics input ++ (commandEndCalls input).map _)
  cases input with
  | nil => exact grouped_nil
  | cons header payload =>
      rw [commandEndDiagnostics, commandEndCalls] at *
      cases reading : commandReading header with
      | unknown => exact grouped_nil
      | streamed =>
          rw [reading] at accepted
          apply grouped_commands accepted
          intro call member
          rw [List.mem_singleton.mp member]
          trivial
      | fixed size =>
          obtain ⟨table, parses⟩ := fixed_reading reading
          obtain ⟨build, parsed⟩ := parses payload
          rw [reading] at accepted
          dsimp only at accepted ⊢
          rw [parsed] at accepted ⊢
          unfold parseFixed at accepted ⊢
          by_cases sized : payload.length = size
          · rw [if_neg fun short => short.2 sized]
            rw [if_pos sized] at accepted ⊢
            cases built : build (Interface.ofHeader header) (bigEndian payload) with
            | some command =>
                rw [built] at accepted
                exact grouped_commands accepted (other_calls command)
            | none =>
                rw [built] at accepted
                apply grouped_commands accepted
                dsimp only
                split
                · intro call member
                  rw [List.mem_singleton.mp member]
                  change DecoderStatus.invalidArgument ≠ .invalidLength
                  decide
                · exact fun _ member => absurd member List.not_mem_nil
          · rw [if_neg sized]
            dsimp only
            by_cases short : payload.length ≤ 4
            · rw [if_pos ⟨short, sized⟩, if_pos short]
              exact (Group.refused (.inr rfl) table _ _).grouped
            · rw [if_neg fun both => short both.1, if_neg short]
              exact grouped_nil

/-! ### Runs -/

variable {KissDecoder KissStatus : Type} [DecidableEq KissStatus]

theorem grouped_hear (kiss : KissLibrary KissDecoder KissStatus) (direction : Direction)
    (capture : Capture) (callback : KissCallback KissStatus) :
    Grouped (hear kiss direction capture callback).2 := by
  cases callback with
  | start => exact grouped_nil
  | data byte byteIndex =>
      cases direction with
      | hostToDevice => exact grouped_put _ byte
      | deviceToHost => exact grouped_events _
  | endFrame info =>
      unfold hear
      dsimp only
      split
      · cases direction with
        | hostToDevice => exact grouped_end _
        | deviceToHost => exact grouped_events _
      · exact (Group.unreported (reported_frameError direction _ _)).grouped
  | error status index =>
      exact (Group.unreported (reported_decodeError direction _ _)).grouped

/-- Over any interleaving, the standard output is read back as lines of which every diagnostic has
the error it is about in the next line, and every such error its diagnostic in the line before. -/
theorem Monitor.diagnostics_attributed {kiss : KissLibrary KissDecoder KissStatus}
    (clean : ∀ status, OneLine (kiss.statusToString status))
    (chunks : List (Direction × List UInt8)) :
    ∃ lines, linesOf ((init kiss "").decodeAll kiss chunks).stdout = lines ++ [""] ∧
      Grouped lines := by
  have printed := (((init_follows kiss "").decodeAll kiss chunks).2).trans String.empty_append
  refine ⟨(transcript kiss (fun _ => unseen kiss) (tagged chunks)).map Prod.snd, ?_, ?_⟩
  · rw [printed, linesOf_unlines (transcript_oneLine clean _ _)]
  · apply outputOf_pieces grouped_nil grouped_append
    intro direction seen byte
    exact outputAlone_pieces grouped_nil grouped_append (grouped_hear kiss direction) _ _

/-- A command without its argument, with a BLINK event between its bytes and its end. -/
theorem Monitor.diagnostics_attributed_short :
    ∃ lines, linesOf ((init .delimited "").decodeAll .delimited
        [(.hostToDevice, [0xC0, 0x06]), (.deviceToHost, [0xC0, 0x00, 0xC0]),
          (.hostToDevice, [0xC0])]).stdout = lines ++ [""] ∧ Grouped lines :=
  Monitor.diagnostics_attributed (by decide) _

end RNodeProtocol
