/-
The transcript of an event decoder in text mode.

As for commands, a run logs one line for every call the script tells, and the
lines can be read back.  A data line of a stream has no word of its own for
being one; it is told apart by the field that follows the kind.
-/

import RNodeProtocol.EventDecoderText
import RNodeProtocol.EventNarration
import RNodeProtocol.TextLogLines

namespace RNodeProtocol

open FramedInput TextLines

namespace EventDecoderText

def kindName : StreamKind → String
  | .statRx => "STAT_RX"
  | .statTx => "STAT_TX"

/-- The words of the line a call is logged as. -/
def words : EventCall → List String
  | .rssi interface rssi =>
      ["EVENT", "RSSI", "interface=" ++ unsigned interface.toNat, "rssi=" ++ signed rssi.toInt]
  | .snr interface snr =>
      ["EVENT", "SNR", "interface=" ++ unsigned interface.toNat, "snr=" ++ signed snr.toInt]
  | .blink => ["EVENT", "BLINK"]
  | .random interface value =>
      ["EVENT", "RANDOM", "interface=" ++ unsigned interface.toNat,
        "value=0x" ++ hex 2 value.toNat]
  | .platform interface id =>
      ["EVENT", "PLATFORM", "interface=" ++ unsigned interface.toNat, "id=0x" ++ hex 2 id.toNat]
  | .mcu interface id =>
      ["EVENT", "MCU", "interface=" ++ unsigned interface.toNat, "id=0x" ++ hex 2 id.toNat]
  | .fwVersion interface version =>
      ["EVENT", "FW_VERSION", "interface=" ++ unsigned interface.toNat,
        "version=0x" ++ hex 4 version.toNat]
  | .stream kind (.start interface) _ =>
      ["EVENT", kindName kind, "START", "interface=" ++ unsigned interface.toNat]
  | .stream kind (.data interface byte byteIndex) _ =>
      ["EVENT", kindName kind, "interface=" ++ unsigned interface.toNat,
        "index=" ++ unsigned byteIndex.toNat, "byte=0x" ++ hex 2 byte.toNat]
  | .stream kind (.endStream interface length) _ =>
      ["EVENT", kindName kind, "END", "interface=" ++ unsigned interface.toNat,
        "length=" ++ unsigned length.toNat]
  | .error interface opcode index status =>
      ["EVENT", "ERROR", "interface=" ++ unsigned interface.toNat,
        "opcode=0x" ++ hex 2 opcode.toNat, "(" ++ eventDecoderOpcodeName opcode ++ ")",
        "index=" ++ unsigned index.toNat, "status=" ++ unsigned status.value]

def line (call : EventCall) : String :=
  spaced (words call)

theorem spelled_error (interface opcode opcodeName index status : String) :
    "EVENT ERROR interface=" ++ interface ++ " opcode=0x" ++ opcode ++ " (" ++ opcodeName ++
        ") index=" ++ index ++ " status=" ++ status =
      spaced ["EVENT", "ERROR", "interface=" ++ interface, "opcode=0x" ++ opcode,
        "(" ++ opcodeName ++ ")", "index=" ++ index, "status=" ++ status] := by
  simp [spaced, ← String.toList_inj]

theorem spelled_start (kind interface : String) :
    "EVENT " ++ kind ++ " START interface=" ++ interface =
      spaced ["EVENT", kind, "START", "interface=" ++ interface] := by
  simp [spaced, ← String.toList_inj]

theorem spelled_data (kind interface index byte : String) :
    "EVENT " ++ kind ++ " interface=" ++ interface ++ " index=" ++ index ++ " byte=0x" ++ byte =
      spaced ["EVENT", kind, "interface=" ++ interface, "index=" ++ index, "byte=0x" ++ byte] := by
  simp [spaced, ← String.toList_inj]

theorem spelled_end (kind interface length : String) :
    "EVENT " ++ kind ++ " END interface=" ++ interface ++ " length=" ++ length =
      spaced ["EVENT", kind, "END", "interface=" ++ interface, "length=" ++ length] := by
  simp [spaced, ← String.toList_inj]

/-- The callback behind a call logs the line of the call. -/
theorem effect_line (out : String) (linePrefix : Option String) (text : EventDecoderText)
    (call : EventCall) : (setup out linePrefix).effect text call = text.log (line call) := by
  have logged : ∀ {printed : String}, printed = line call →
      text.log printed = text.log (line call) := congrArg text.log
  cases call with
  | stream kind query answered =>
      cases kind with
      | statRx =>
          cases query with
          | start interface => exact logged (spelled_start _ _)
          | data interface byte index => exact logged (spelled_data _ _ _ _)
          | endStream interface length => exact logged (spelled_end _ _ _)
      | statTx =>
          cases query with
          | start interface => exact logged (spelled_start _ _)
          | data interface byte index => exact logged (spelled_data _ _ _ _)
          | endStream interface length => exact logged (spelled_end _ _ _)
  | error interface opcode index status => exact logged (spelled_error _ _ _ _ _)
  | _ => exact logged (by simp [line, words, spaced, ← String.toList_inj])

theorem plain_kindName (kind : StreamKind) : Plain (kindName kind) := by
  cases kind <;> decide

theorem plain_opcodeName (opcode : UInt8) : Plain (eventDecoderOpcodeName opcode) := by
  unfold eventDecoderOpcodeName
  split <;> decide

theorem plain_words (call : EventCall) : ∀ word ∈ words call, Plain word := by
  cases call with
  | stream kind query answered =>
      cases query <;> simp [words, plain_kindName] <;> decide
  | error interface opcode index status =>
      simp [words, plain_opcodeName]
      decide
  | _ =>
      simp [words]
      decide

theorem words_ne_nil (call : EventCall) : words call ≠ [] := by
  cases call with
  | stream kind query answered => cases query <;> exact List.cons_ne_nil _ _
  | _ => exact List.cons_ne_nil _ _

/-- A stream call that was accepted, or a call that is asked for no answer. -/
def Accepted : EventCall → Prop
  | .stream _ _ answered => answered = .ok
  | _ => True

theorem kindName_inj {first second : StreamKind} :
    kindName first = kindName second ↔ first = second := by
  cases first <;> cases second <;> decide

theorem field_ne_end (value : String) : "interface=" ++ value ≠ "END" := by
  intro same
  have letters := congrArg String.toList same
  rw [String.toList_append] at letters
  exact absurd (List.cons.inj letters).1 (by decide)

theorem words_injective {first second : EventCall} (accepted : Accepted first)
    (acceptedToo : Accepted second) (same : words first = words second) : first = second := by
  cases first with
  | stream kind query answered =>
      cases accepted
      cases second with
      | stream otherKind other otherAnswered =>
          cases acceptedToo
          cases query <;> cases other <;>
            simp_all [words, kindName_inj, field_ne_end, (field_ne_end _).symm, UInt8.toNat_inj,
              UInt32.toNat_inj]
      | _ => cases kind <;> cases query <;> simp_all [words, kindName]
  | _ =>
      cases second with
      | stream kind query _ => cases kind <;> cases query <;> simp_all [words, kindName]
      | _ =>
          simp_all [words, UInt8.toNat_inj, UInt16.toNat_inj, UInt32.toNat_inj, Int8.toInt_inj]

theorem line_injective {first second : EventCall} (accepted : Accepted first)
    (acceptedToo : Accepted second) (same : line first = line second) : first = second := by
  apply words_injective accepted acceptedToo
  apply spaced_injective (plain_words first) (plain_words second) _ _ same
  · exact words_ne_nil first
  · exact words_ne_nil second

theorem oneLine_line (call : EventCall) : OneLine (line call) :=
  oneLine_spaced (plain_words call)

/-! ### The text of a run -/

theorem accepting (out : String) (linePrefix : Option String) :
    (setup out linePrefix).Accepting := by
  intro kind context call
  cases kind <;> cases call <;> rfl

theorem accepted_calls (event : Event) : ∀ call ∈ event.calls, Accepted call := by
  intro call member
  cases event with
  | stat kind interface payload =>
      obtain ⟨query, rfl⟩ := mem_streamCalls member
      rfl
  | _ =>
      rw [List.mem_singleton.mp member]
      trivial

theorem script_accepted : eventScript.Tells Accepted where
  put := by
    intro input byte call member
    change call ∈ eventPutCalls input byte at member
    unfold eventPutCalls at member
    repeat' split at member
    all_goals first
      | exact absurd member List.not_mem_nil
      | rw [List.mem_singleton.mp member]; trivial
  endFrame := by
    intro input call member
    change call ∈ eventEndCalls input at member
    cases input with
    | nil => exact absurd member List.not_mem_nil
    | cons header payload =>
        rw [eventEndCalls] at member
        split at member
        · exact absurd member List.not_mem_nil
        · rw [List.mem_singleton.mp member]
          rfl
        · split at member
          · exact absurd member List.not_mem_nil
          · exact accepted_calls _ call member
          · split at member
            · rw [List.mem_singleton.mp member]
              trivial
            · exact absurd member List.not_mem_nil

theorem run_text (memory : EventDecoder EventDecoderText) (out : String)
    (linePrefix : Option String) (operations : List (Operation UInt8)) :
    (EventDecoder.machine.run (init memory out linePrefix) operations).context =
      { TextLog.init out linePrefix with
        out := out ++
          (TextLog.init out linePrefix).printed line (eventScript.narrate [] operations) } := by
  have played := (setup out linePrefix).reached_context_scripted (setup_registers out linePrefix)
    (accepting out linePrefix) memory operations
  change (EventDecoder.machine.run (init memory out linePrefix) operations).context = _ at played
  rw [played, TextLog.foldl_log (effect_line out linePrefix)]
  rfl

/-- A run logs one line for every call it is told, and leaves the text of another run only where
both were told the same calls. -/
theorem transcript_readable (memory : EventDecoder EventDecoderText) (out : String)
    (linePrefix : Option String) (operations : List (Operation UInt8)) :
    (EventDecoder.machine.run (init memory out linePrefix) operations).context.out =
        out ++ (TextLog.init out linePrefix).printed line (eventScript.narrate [] operations) ∧
      ∀ (other : EventDecoder EventDecoderText) (others : List (Operation UInt8)),
        (EventDecoder.machine.run (init other out linePrefix) others).context.out =
            (EventDecoder.machine.run (init memory out linePrefix) operations).context.out ↔
          eventScript.narrate [] others = eventScript.narrate [] operations := by
  constructor
  · rw [run_text]
  · intro other others
    rw [run_text, run_text]
    dsimp only
    rw [String.append_right_inj]
    constructor
    · exact TextLog.printed_injective oneLine_line (fun _ _ => line_injective)
        (script_accepted.narrate [] others) (script_accepted.narrate [] operations)
    · intro same
      rw [same]

end EventDecoderText

end RNodeProtocol
