/-
What the callbacks of a command decoder in text mode log.

Every call is logged as one line of words, and the line can be read back: the
words are told apart by blanks, the lines by newlines, and no field prints
either.  So the callbacks of a run log the lines of the calls the script tells.
-/

import RNodeProtocol.CommandDecoderText
import RNodeProtocol.CommandNarration
import RNodeProtocol.TextLogLines

namespace RNodeProtocol

open FramedInput TextLines

/-! ### Lines -/

namespace CommandDecoderText

/-- The words of the line a call is logged as. -/
def words : CommandCall → List String
  | .detect => ["DETECT"]
  | .setFrequency interface hz =>
      ["COMMAND", "FREQUENCY", "interface=" ++ unsigned interface.toNat,
        "hz=" ++ unsigned hz.toNat]
  | .setBandwidth interface bandwidth =>
      ["COMMAND", "BANDWIDTH", "interface=" ++ unsigned interface.toNat,
        "bandwidth=" ++ unsigned bandwidth.toNat]
  | .setTxpower interface dbm =>
      ["COMMAND", "TXPOWER", "interface=" ++ unsigned interface.toNat,
        "dbm=" ++ signed dbm.toInt]
  | .setSpreadingFactor interface sf =>
      ["COMMAND", "SF", "interface=" ++ unsigned interface.toNat, "sf=" ++ unsigned sf.toNat]
  | .setCodingRate interface cr =>
      ["COMMAND", "CR", "interface=" ++ unsigned interface.toNat, "cr=" ++ unsigned cr.toNat]
  | .setRadioState interface state =>
      ["COMMAND", "RADIO_STATE", "interface=" ++ unsigned interface.toNat,
        "state=" ++ textDecoderRadioStateName state]
  | .ready => ["COMMAND", "READY"]
  | .lock interface lockState =>
      ["COMMAND", "LOCK", "interface=" ++ unsigned interface.toNat,
        "state=" ++ unsigned lockState.toNat]
  | .leave => ["COMMAND", "LEAVE"]
  | .tx (.start interface) _ =>
      ["COMMAND", "TX", "START", "interface=" ++ unsigned interface.toNat]
  | .tx (.data interface byte byteIndex) _ =>
      ["COMMAND", "TX", "DATA", "interface=" ++ unsigned interface.toNat,
        "index=" ++ unsigned byteIndex.toNat, "byte=0x" ++ hex 2 byte.toNat]
  | .tx (.endStream interface length) _ =>
      ["COMMAND", "TX", "END", "interface=" ++ unsigned interface.toNat,
        "length=" ++ unsigned length.toNat]
  | .error interface opcode index status =>
      ["COMMAND", "ERROR", textDecoderErrorName status ++ ":",
        "interface=" ++ unsigned interface.toNat, "opcode=0x" ++ hex 2 opcode.toNat,
        "(" ++ textDecoderOpcodeName opcode ++ ")", "index=" ++ unsigned index.toNat,
        "status=" ++ unsigned status.value]

def line (call : CommandCall) : String :=
  spaced (words call)

theorem spelled_error (name interface opcode opcodeName index status : String) :
    "COMMAND ERROR " ++ name ++ ": interface=" ++ interface ++ " opcode=0x" ++ opcode ++ " (" ++
        opcodeName ++ ") index=" ++ index ++ " status=" ++ status =
      spaced ["COMMAND", "ERROR", name ++ ":", "interface=" ++ interface, "opcode=0x" ++ opcode,
        "(" ++ opcodeName ++ ")", "index=" ++ index, "status=" ++ status] := by
  simp [spaced, ← String.toList_inj]

/-- The callback behind a call logs the line of the call. -/
theorem effect_line (out : String) (linePrefix : Option String) (text : CommandDecoderText)
    (call : CommandCall) : (setup out linePrefix).effect text call = text.log (line call) := by
  have logged : ∀ {printed : String}, printed = line call →
      text.log printed = text.log (line call) := congrArg text.log
  cases call with
  | tx query answered =>
      cases query <;> exact logged (by simp [line, words, spaced, ← String.toList_inj])
  | error interface opcode index status =>
      exact logged (spelled_error _ _ _ _ _ _)
  | _ => exact logged (by simp [line, words, spaced, ← String.toList_inj])

theorem plain_errorName (status : DecoderStatus) : Plain (textDecoderErrorName status) := by
  cases status <;> decide

theorem plain_radioStateName (state : RadioState) : Plain (textDecoderRadioStateName state) := by
  cases state <;> decide

theorem plain_opcodeName (opcode : UInt8) : Plain (textDecoderOpcodeName opcode) := by
  unfold textDecoderOpcodeName
  split <;> decide

theorem plain_words (call : CommandCall) : ∀ word ∈ words call, Plain word := by
  cases call with
  | tx query answered =>
      cases query <;> simp [words] <;> decide
  | setRadioState interface state =>
      simp [words, plain_radioStateName]
      decide
  | error interface opcode index status =>
      simp [words, plain_errorName, plain_opcodeName]
      decide
  | _ =>
      simp [words]
      decide

theorem radioStateName_inj {first second : RadioState} :
    textDecoderRadioStateName first = textDecoderRadioStateName second ↔ first = second := by
  cases first <;> cases second <;> decide

/-- A stream call that was accepted, or a call that is asked for no answer. -/
def Accepted : CommandCall → Prop
  | .tx _ answered => answered = .ok
  | _ => True

theorem words_injective {first second : CommandCall} (accepted : Accepted first)
    (acceptedToo : Accepted second) (same : words first = words second) : first = second := by
  cases first with
  | tx query answered =>
      cases accepted
      cases second with
      | tx other otherAnswered =>
          cases acceptedToo
          cases query <;> cases other <;> simp_all [words, UInt8.toNat_inj, UInt32.toNat_inj]
      | _ => cases query <;> simp_all [words]
  | _ =>
      cases second with
      | tx other _ => cases other <;> simp_all [words]
      | _ =>
          simp_all [words, radioStateName_inj, UInt8.toNat_inj, UInt32.toNat_inj, Int8.toInt_inj]

theorem words_ne_nil (call : CommandCall) : words call ≠ [] := by
  cases call with
  | tx query answered => cases query <;> exact List.cons_ne_nil _ _
  | _ => exact List.cons_ne_nil _ _

theorem accepted_calls (command : Command) : ∀ call ∈ command.calls, Accepted call := by
  intro call member
  cases command with
  | transmit interface payload =>
      obtain ⟨query, rfl⟩ := mem_streamCalls member
      rfl
  | _ =>
      rw [List.mem_singleton.mp member]
      trivial

theorem line_injective {first second : CommandCall} (accepted : Accepted first)
    (acceptedToo : Accepted second) (same : line first = line second) : first = second := by
  apply words_injective accepted acceptedToo
  apply spaced_injective (plain_words first) (plain_words second) _ _ same
  · exact words_ne_nil first
  · exact words_ne_nil second

theorem oneLine_line (call : CommandCall) : OneLine (line call) :=
  oneLine_spaced (plain_words call)

/-- The first word of a line is a word of capitals. -/
theorem capital_line (call : CommandCall) : 'D' ∈ (line call).toList := by
  cases call with
  | tx query answered => cases query <;> simp [line, words, spaced]
  | _ => simp [line, words, spaced]

/-! ### The text of a run -/

theorem accepting (out : String) (linePrefix : Option String) :
    (setup out linePrefix).Accepting := by
  intro context call
  cases call <;> rfl

theorem script_accepted : commandScript.Tells Accepted where
  put := by
    intro input byte call member
    change call ∈ commandPutCalls input byte at member
    unfold commandPutCalls at member
    repeat' split at member
    all_goals first
      | exact absurd member List.not_mem_nil
      | rw [List.mem_singleton.mp member]; trivial
  endFrame := by
    intro input call member
    change call ∈ commandEndCalls input at member
    cases input with
    | nil => exact absurd member List.not_mem_nil
    | cons header payload =>
        rw [commandEndCalls] at member
        split at member
        · exact absurd member List.not_mem_nil
        · rw [List.mem_singleton.mp member]
          rfl
        · split at member
          · exact absurd member List.not_mem_nil
          · exact accepted_calls _ call member
          · split at member
            · rw [List.mem_singleton.mp member]
              trivial
            · exact absurd member List.not_mem_nil

/-- What the callbacks of a run add to the text of their log. -/
theorem run_text (memory : CommandDecoder CommandDecoderText) (out : String)
    (linePrefix : Option String) (operations : List (Operation UInt8)) :
    (CommandDecoder.machine.run (init memory out linePrefix) operations).context =
      { TextLog.init out linePrefix with
        out := out ++
          (TextLog.init out linePrefix).printed line (commandScript.narrate [] operations) } := by
  have played := (setup out linePrefix).reached_context_narrated (accepting out linePrefix) memory
    operations
  change (CommandDecoder.machine.run (init memory out linePrefix) operations).context = _ at played
  rw [played, TextLog.foldl_log (effect_line out linePrefix)]
  rfl

end CommandDecoderText

end RNodeProtocol
