/-
Lines of a text log, read back.

The fields of a line print no blank and no newline and determine what they were
printed from.  A log that is told one line a call holds these lines after what
it held before, and where the lines determine the calls, so does the text.
-/

import RNodeProtocol.TextLog
import RNodeProtocol.Library.Numerals

namespace RNodeProtocol

open Numerals TextLines

/-! ### Fields -/

theorem unsigned_injective {first second : Nat} (same : unsigned first = unsigned second) :
    first = second :=
  toString_nat_injective same

theorem signed_injective {first second : Int} (same : signed first = signed second) :
    first = second :=
  toString_int_injective same

theorem hex_injective {width first second : Nat} (same : hex width first = hex width second) :
    first = second :=
  hexDigits_injective (String.ofList_injective same)

@[simp] theorem unsigned_inj {first second : Nat} :
    unsigned first = unsigned second ↔ first = second :=
  ⟨unsigned_injective, congrArg unsigned⟩

@[simp] theorem signed_inj {first second : Int} :
    signed first = signed second ↔ first = second :=
  ⟨signed_injective, congrArg signed⟩

@[simp] theorem hex_inj {width first second : Nat} :
    hex width first = hex width second ↔ first = second :=
  ⟨hex_injective, congrArg (hex width)⟩

@[simp] theorem plain_unsigned (value : Nat) : Plain (unsigned value) :=
  plain_toString_nat value

@[simp] theorem plain_signed (value : Int) : Plain (signed value) :=
  plain_toString_int value

@[simp] theorem plain_hex (width value : Nat) : Plain (hex width value) :=
  plain_hexDigits width value

@[simp] theorem DecoderStatus.value_inj {first second : DecoderStatus} :
    first.value = second.value ↔ first = second := by
  cases first <;> cases second <;> decide

/-! ### Logs told one line a call -/

namespace TextLog

variable {Call : Type} {line : Call → String}

/-- What a log with this prefix opens every line with. -/
def openingOf (linePrefix : Option String) : String :=
  (init "" linePrefix).opening

theorem oneLine_opening {linePrefix : Option String} (clean : OneLine (linePrefix.getD "")) :
    OneLine (openingOf linePrefix) := by
  unfold openingOf opening init
  dsimp only
  split
  · intro inside
    rw [String.toList_append, List.mem_append] at inside
    exact inside.elim clean (by decide)
  · decide

/-- The lines of these calls, under what every line of the log opens with. -/
def printed (line : Call → String) (text : TextLog) (calls : List Call) : String :=
  unlines ((calls.map line).map (text.opening ++ ·))

theorem foldl_log {effect : TextLog → Call → TextLog}
    (logs : ∀ text call, effect text call = text.log (line call)) (calls : List Call)
    (text : TextLog) :
    calls.foldl effect text = { text with out := text.out ++ text.printed line calls } := by
  induction calls generalizing text with
  | nil =>
      unfold printed
      rw [List.map_nil, List.map_nil, unlines_nil, String.append_empty]
      rfl
  | cons call rest ih =>
      have opening : (text.log (line call)).opening = text.opening := rfl
      rw [List.foldl_cons, logs, ih]
      unfold printed
      rw [opening, List.map_cons, List.map_cons, unlines_cons]
      unfold log
      simp only [String.append_assoc]

theorem lines_injective {Accepted : Call → Prop}
    (injective : ∀ first second, Accepted first → Accepted second → line first = line second →
      first = second) {first second : List Call} (accepted : ∀ call ∈ first, Accepted call)
    (acceptedToo : ∀ call ∈ second, Accepted call) (same : first.map line = second.map line) :
    first = second := by
  induction first generalizing second with
  | nil => exact (List.map_eq_nil_iff.mp same.symm).symm
  | cons call rest ih =>
      cases second with
      | nil => cases same
      | cons other others =>
          obtain ⟨here, later⟩ := List.cons.inj same
          rw [injective call other (accepted call List.mem_cons_self)
            (acceptedToo other List.mem_cons_self) here]
          rw [ih (fun next member => accepted next (List.mem_cons_of_mem _ member))
            (fun next member => acceptedToo next (List.mem_cons_of_mem _ member)) later]

theorem printed_injective {Accepted : Call → Prop} (oneLine : ∀ call, OneLine (line call))
    (injective : ∀ first second, Accepted first → Accepted second → line first = line second →
      first = second) {text : TextLog} {first second : List Call}
    (accepted : ∀ call ∈ first, Accepted call) (acceptedToo : ∀ call ∈ second, Accepted call)
    (same : text.printed line first = text.printed line second) : first = second := by
  apply lines_injective injective accepted acceptedToo
  apply unlines_injective text.opening _ _ same
  · intro printed member
    obtain ⟨call, _, rfl⟩ := List.mem_map.mp member
    exact oneLine call
  · intro printed member
    obtain ⟨call, _, rfl⟩ := List.mem_map.mp member
    exact oneLine call

end TextLog

end RNodeProtocol
