/-
The arguments of the monitor.

An argument list is read in groups of words: an option and its path, the device,
or a baud rate after the device.  A list is accepted exactly when it is made of
such groups, the last of each kind counts, and an error names the first word at
which no group starts.  A baud rate is the numeral of a number, with zeros before
it and any text after it that does not go on with a digit.
-/

import Mathlib.Data.List.TakeWhile
import RNodeProtocol.MonitorSession

namespace RNodeProtocol

open Numerals

/-! ### Numbers -/

/-- A word that starts with a number. -/
def numeral (zeros number : Nat) (tail : String) : String :=
  String.ofList (padded zeros number) ++ tail

/-- What an `int` keeps of a number that was read as a `long`. -/
def intOf (number : Nat) : Int32 :=
  Int32.ofNat (min number longMax)

theorem toList_numeral (zeros number : Nat) (tail : String) :
    (numeral zeros number tail).toList = padded zeros number ++ tail.toList := by
  unfold numeral
  rw [String.toList_append, String.toList_ofList]

theorem startsWithDigit_numeral (zeros number : Nat) (tail : String) :
    startsWithDigit (numeral zeros number tail) = true := by
  unfold startsWithDigit
  rw [toList_numeral]
  cases digits : padded zeros number with
  | nil => exact absurd digits (padded_ne_nil zeros number)
  | cons first rest =>
      exact isDigit_padded (digits ▸ List.mem_cons_self)

theorem takeWhile_tail {tail : String} (ends : startsWithDigit tail = false) :
    tail.toList.takeWhile Char.isDigit = [] := by
  unfold startsWithDigit at ends
  cases letters : tail.toList with
  | nil => rfl
  | cons first rest =>
      rw [letters] at ends
      exact List.takeWhile_cons_of_neg (Bool.eq_false_iff.mp ends)

/-- The number a word starts with is what is converted, and an `int` is kept of it. -/
theorem atoi_numeral {tail : String} (ends : startsWithDigit tail = false)
    (zeros number : Nat) : atoi (numeral zeros number tail) = intOf number := by
  unfold atoi
  rw [toList_numeral, List.takeWhile_append_of_pos fun _ => isDigit_padded,
    takeWhile_tail ends, List.append_nil, ofDigitChars_padded]
  rfl

/-- A number that an `int` holds is the number that is converted. -/
theorem atoi_fits {tail : String} (ends : startsWithDigit tail = false) (zeros : Nat)
    {number : Nat} (fits : number < 2 ^ 31) :
    (atoi (numeral zeros number tail)).toInt = number := by
  rw [atoi_numeral ends]
  unfold intOf longMax
  rw [Nat.min_eq_left (by omega)]
  exact Int32.toInt_ofNat_of_lt fits

example : atoi "115200" = 115200 ∧ atoi "4294967296" = 0 ∧ atoi "0009600 baud" = 9600 := by
  decide

/-- A word with a digit in front starts with a number. -/
theorem numeral_of_digit {word : String} (digit : startsWithDigit word = true) :
    ∃ zeros number tail, startsWithDigit tail = false ∧ word = numeral zeros number tail := by
  have filled : word.toList.takeWhile Char.isDigit ≠ [] := by
    unfold startsWithDigit at digit
    cases letters : word.toList with
    | nil =>
        rw [letters] at digit
        cases digit
    | cons first rest =>
        rw [letters] at digit
        have isDigit : first.isDigit = true := digit
        rw [List.takeWhile_cons_of_pos isDigit]
        exact List.cons_ne_nil _ _
  obtain ⟨zeros, number, digits⟩ := padded_digits filled fun _ => List.mem_takeWhile_imp
  refine ⟨zeros, number, String.ofList (word.toList.dropWhile Char.isDigit), ?_, ?_⟩
  · have other := List.head?_dropWhile_not Char.isDigit word.toList
    unfold startsWithDigit
    rw [String.toList_ofList]
    cases next : (word.toList.dropWhile Char.isDigit).head? with
    | none => rfl
    | some letter =>
        rw [next] at other
        exact other
  · apply String.toList_inj.mp
    rw [toList_numeral, String.toList_ofList, ← digits, List.takeWhile_append_dropWhile]

/-! ### Groups of words -/

inductive Argument where
  | record (path : String)
  | replay (path : String)
  | device (path : String)
  | baud (zeros number : Nat) (tail : String)
  deriving Repr, DecidableEq

namespace Argument

def words : Argument → List String
  | .record path => ["--record", path]
  | .replay path => ["--replay", path]
  | .device path => [path]
  | .baud zeros number tail => [numeral zeros number tail]

def apply (options : Options) : Argument → Options
  | .record path => { options with recordPath := some path }
  | .replay path => { options with replayPath := some path }
  | .device path => { options with realTtyPath := some path }
  | .baud _ number _ => { options with baudRate := intOf number }

def recordPath? : Argument → Option String
  | .record path => some path
  | _ => none

def replayPath? : Argument → Option String
  | .replay path => some path
  | _ => none

def device? : Argument → Option String
  | .device path => some path
  | _ => none

def baudRate? : Argument → Option Int32
  | .baud _ number _ => some (intOf number)
  | _ => none

end Argument

/-- The words of the groups, one after the other. -/
def spelled (sentence : List Argument) : List String :=
  sentence.flatMap Argument.words

/-- `given` says whether a device came before; only one may come, and a baud rate after it. -/
inductive Grammatical : Bool → List Argument → Prop where
  | nil {given : Bool} : Grammatical given []
  | record {given : Bool} {path : String} {rest : List Argument}
      (later : Grammatical given rest) : Grammatical given (.record path :: rest)
  | replay {given : Bool} {path : String} {rest : List Argument}
      (later : Grammatical given rest) : Grammatical given (.replay path :: rest)
  | device {path : String} {rest : List Argument} (noDash : startsWithDash path = false)
      (later : Grammatical true rest) : Grammatical false (.device path :: rest)
  | baud {zeros number : Nat} {tail : String} {rest : List Argument}
      (ends : startsWithDigit tail = false) (later : Grammatical true rest) :
      Grammatical true (.baud zeros number tail :: rest)

/-- Words that no group starts with, and the error they lead to. -/
inductive Stuck (given : Bool) : List String → String → Prop where
  | record : Stuck given ["--record"] "Missing path for --record\n"
  | replay : Stuck given ["--replay"] "Missing path for --replay\n"
  | unknown {word : String} {rest : List String} (notRecord : word ≠ "--record")
      (notReplay : word ≠ "--replay") (notDevice : given = true ∨ startsWithDash word = true)
      (noDigit : startsWithDigit word = false) :
      Stuck given (word :: rest) ("Unknown argument: " ++ word ++ "\n")

/-- The last group of a kind. -/
def lastOf {Value : Type} (kind : Argument → Option Value) (sentence : List Argument) :
    Option Value :=
  (sentence.filterMap kind).getLast?

def summary (sentence : List Argument) : Options :=
  { realTtyPath := lastOf Argument.device? sentence
    baudRate := (lastOf Argument.baudRate? sentence).getD 0
    recordPath := lastOf Argument.recordPath? sentence
    replayPath := lastOf Argument.replayPath? sentence }

theorem lastOf_concat {Value : Type} (kind : Argument → Option Value)
    (sentence : List Argument) (last : Argument) :
    lastOf kind (sentence ++ [last]) = (kind last).or (lastOf kind sentence) := by
  unfold lastOf
  rw [List.filterMap_append]
  cases found : kind last with
  | none => simp [found]
  | some value => simp [found]

theorem foldl_apply (sentence : List Argument) :
    sentence.foldl Argument.apply Options.initial = summary sentence := by
  induction sentence using List.reverseRecOn with
  | nil => rfl
  | append_singleton sentence last ih =>
      rw [List.foldl_append, ih]
      unfold summary
      rw [lastOf_concat, lastOf_concat, lastOf_concat, lastOf_concat]
      cases last <;> rfl

/-! ### The loop -/

theorem undashed_ne {word : String} (noDash : startsWithDash word = false) :
    word ≠ "--record" ∧ word ≠ "--replay" := by
  constructor
  · rintro rfl
    exact absurd noDash (by decide)
  · rintro rfl
    exact absurd noDash (by decide)

theorem digit_undashed {word : String} (digit : startsWithDigit word = true) :
    startsWithDash word = false := by
  unfold startsWithDigit at digit
  unfold startsWithDash
  cases letters : word.toList with
  | nil => rfl
  | cons first rest =>
      rw [letters] at digit
      have isDigit : first.isDigit = true := digit
      rw [List.head?_cons, beq_eq_false_iff_ne]
      intro same
      rw [Option.some.inj same] at isDigit
      exact absurd isDigit (by decide)

theorem parseArguments_record (options : Options) (path : String) (rest : List String) :
    parseArguments options ("--record" :: path :: rest) =
      parseArguments { options with recordPath := some path } rest := by
  rw [parseArguments]
  exact if_pos rfl

theorem parseArguments_replay (options : Options) (path : String) (rest : List String) :
    parseArguments options ("--replay" :: path :: rest) =
      parseArguments { options with replayPath := some path } rest := by
  rw [parseArguments, if_neg (by decide)]
  exact if_pos rfl

/-- A word that is neither option is the device, a baud rate or unknown. -/
theorem parseArguments_word {word : String} (notRecord : word ≠ "--record")
    (notReplay : word ≠ "--replay") (options : Options) (rest : List String) :
    parseArguments options (word :: rest) =
      if options.realTtyPath = none ∧ startsWithDash word = false then
        parseArguments { options with realTtyPath := some word } rest
      else if startsWithDigit word then
        parseArguments { options with baudRate := atoi word } rest
      else .error ("Unknown argument: " ++ word ++ "\n") := by
  rw [RNodeProtocol.parseArguments.eq_def]
  dsimp only
  rw [if_neg notRecord, if_neg notReplay]

theorem parseArguments_device {options : Options} (missing : options.realTtyPath = none)
    {path : String} (noDash : startsWithDash path = false) (rest : List String) :
    parseArguments options (path :: rest) =
      parseArguments { options with realTtyPath := some path } rest := by
  obtain ⟨notRecord, notReplay⟩ := undashed_ne noDash
  rw [parseArguments_word notRecord notReplay]
  exact if_pos ⟨missing, noDash⟩

theorem parseArguments_baud {options : Options} (given : options.realTtyPath ≠ none)
    {tail : String} (ends : startsWithDigit tail = false) (zeros number : Nat)
    (rest : List String) :
    parseArguments options (numeral zeros number tail :: rest) =
      parseArguments { options with baudRate := intOf number } rest := by
  have digit := startsWithDigit_numeral zeros number tail
  obtain ⟨notRecord, notReplay⟩ := undashed_ne (digit_undashed digit)
  rw [parseArguments_word notRecord notReplay, if_neg fun missing => given missing.1,
    if_pos digit, atoi_numeral ends]

theorem Stuck.parseArguments {given : Bool} {words : List String} {text : String}
    (stuck : Stuck given words text) {options : Options}
    (before : options.realTtyPath.isSome = given) :
    parseArguments options words = .error text := by
  cases stuck with
  | record => rfl
  | replay => rfl
  | unknown notRecord notReplay notDevice noDigit =>
      rw [parseArguments_word notRecord notReplay, if_neg, if_neg]
      · rw [noDigit]
        decide
      · rintro ⟨missing, noDash⟩
        rw [missing] at before
        rcases notDevice with isGiven | dash
        · rw [isGiven] at before
          cases before
        · rw [dash] at noDash
          cases noDash

/-- The loop reads the groups of a well-formed list one by one. -/
theorem parseArguments_spelled {given : Bool} {sentence : List Argument}
    (grammatical : Grammatical given sentence) {options : Options}
    (before : options.realTtyPath.isSome = given) (rest : List String) :
    parseArguments options (spelled sentence ++ rest) =
      parseArguments (sentence.foldl Argument.apply options) rest := by
  induction grammatical generalizing options with
  | nil => rfl
  | record later ih => exact (parseArguments_record _ _ _).trans (ih before)
  | replay later ih => exact (parseArguments_replay _ _ _).trans (ih before)
  | device noDash later ih =>
      have missing : options.realTtyPath = none := by
        apply Option.not_isSome_iff_eq_none.mp
        rw [before]
        decide
      exact (parseArguments_device missing noDash _).trans (ih rfl)
  | baud ends later ih =>
      have given : options.realTtyPath ≠ none := by
        intro missing
        rw [missing] at before
        cases before
      exact (parseArguments_baud given ends _ _ _).trans (ih before)

theorem lastOf_cons {Value : Type} (kind : Argument → Option Value) (first : Argument)
    (rest : List Argument) :
    (lastOf kind (first :: rest)).isSome = ((kind first).isSome || (lastOf kind rest).isSome) := by
  unfold lastOf
  cases found : kind first with
  | none => simp [found]
  | some value => simp [found, List.getLast?_cons]

/-- The words start with groups, and stop where they end or are stuck. -/
def Reads (given : Bool) (args : List String) : Prop :=
  ∃ sentence rest, Grammatical given sentence ∧ args = spelled sentence ++ rest ∧
    (rest = [] ∨
      ∃ text, Stuck (given || (lastOf Argument.device? sentence).isSome) rest text)

/-- A group in front of words that are read. -/
theorem Reads.group {given before : Bool} {args : List String} (reads : Reads given args)
    (first : Argument)
    (joins : ∀ {rest}, Grammatical given rest → Grammatical before (first :: rest))
    (known : given = (before || first.device?.isSome)) : Reads before (first.words ++ args) := by
  obtain ⟨sentence, rest, grammatical, rfl, ends⟩ := reads
  refine ⟨first :: sentence, rest, joins grammatical, (List.append_assoc _ _ _).symm, ?_⟩
  rw [lastOf_cons, ← Bool.or_assoc, ← known]
  exact ends

theorem reads_word {word : String} (notRecord : word ≠ "--record")
    (notReplay : word ≠ "--replay") {rest : List String} (later : ∀ given, Reads given rest)
    (given : Bool) : Reads given (word :: rest) := by
  cases digit : startsWithDigit word with
  | false =>
      by_cases notDevice : given = true ∨ startsWithDash word = true
      · refine ⟨[], word :: rest, .nil, rfl, .inr ⟨_, .unknown notRecord notReplay ?_ digit⟩⟩
        rwa [show (given || (lastOf Argument.device? []).isSome) = given from Bool.or_false given]
      · rw [not_or, Bool.not_eq_true, Bool.not_eq_true] at notDevice
        obtain ⟨rfl, noDash⟩ := notDevice
        exact (later true).group (.device word) (.device noDash) rfl
  | true =>
      cases given with
      | false =>
          exact (later true).group (.device word) (.device (digit_undashed digit)) rfl
      | true =>
          obtain ⟨zeros, number, tail, ends, rfl⟩ := numeral_of_digit digit
          exact (later true).group (.baud zeros number tail) (.baud ends) rfl

theorem reads (given : Bool) (args : List String) : Reads given args := by
  induction args using List.twoStepInduction generalizing given with
  | nil => exact ⟨[], [], .nil, rfl, .inl rfl⟩
  | singleton word =>
      by_cases isRecord : word = "--record"
      · subst isRecord
        exact ⟨[], _, .nil, rfl, .inr ⟨_, .record⟩⟩
      · by_cases isReplay : word = "--replay"
        · subst isReplay
          exact ⟨[], _, .nil, rfl, .inr ⟨_, .replay⟩⟩
        · exact reads_word isRecord isReplay (fun _ => ⟨[], [], .nil, rfl, .inl rfl⟩) given
  | cons_cons word next rest later ih =>
      by_cases isRecord : word = "--record"
      · subst isRecord
        exact (later given).group (.record next) .record (Bool.or_false given).symm
      · by_cases isReplay : word = "--replay"
        · subst isReplay
          exact (later given).group (.replay next) .replay (Bool.or_false given).symm
        · exact reads_word isRecord isReplay (ih next) given

theorem parseArguments_accepted {sentence : List Argument}
    (grammatical : Grammatical false sentence) :
    parseArguments Options.initial (spelled sentence) = .ok (summary sentence) := by
  have read : parseArguments Options.initial (spelled sentence ++ []) = _ :=
    parseArguments_spelled grammatical rfl []
  rw [List.append_nil, foldl_apply] at read
  exact read

theorem parseArguments_refused {sentence : List Argument} {rest : List String} {text : String}
    (grammatical : Grammatical false sentence)
    (stuck : Stuck (lastOf Argument.device? sentence).isSome rest text) :
    parseArguments Options.initial (spelled sentence ++ rest) = .error text := by
  rw [parseArguments_spelled grammatical rfl, foldl_apply]
  exact stuck.parseArguments rfl

/-- A list of arguments is accepted exactly when it is made of groups, and refused exactly when
groups are followed by words that start none. -/
theorem parseArguments_iff (args : List String) :
    (∀ options, parseArguments Options.initial args = .ok options ↔
      ∃ sentence, Grammatical false sentence ∧ args = spelled sentence ∧
        options = summary sentence) ∧
    (∀ text, parseArguments Options.initial args = .error text ↔
      ∃ sentence rest, Grammatical false sentence ∧ args = spelled sentence ++ rest ∧
        Stuck (lastOf Argument.device? sentence).isSome rest text) := by
  obtain ⟨sentence, rest, grammatical, cut, ends⟩ := reads false args
  rw [Bool.false_or] at ends
  constructor
  · intro options
    constructor
    · intro accepted
      rcases ends with rfl | ⟨text, stuck⟩
      · rw [List.append_nil] at cut
        rw [cut, parseArguments_accepted grammatical] at accepted
        exact ⟨sentence, grammatical, cut, (Except.ok.inj accepted).symm⟩
      · rw [cut, parseArguments_refused grammatical stuck] at accepted
        cases accepted
    · rintro ⟨groups, formed, rfl, rfl⟩
      exact parseArguments_accepted formed
  · intro text
    constructor
    · intro refused
      rcases ends with rfl | ⟨found, stuck⟩
      · rw [cut, List.append_nil, parseArguments_accepted grammatical] at refused
        cases refused
      · rw [cut, parseArguments_refused grammatical stuck] at refused
        rw [← Except.error.inj refused]
        exact ⟨sentence, rest, grammatical, cut, stuck⟩
    · rintro ⟨groups, others, formed, rfl, stuck⟩
      exact parseArguments_refused formed stuck

/-! ### What a run opens -/

variable {KissDecoder KissStatus : Type} [DecidableEq KissStatus]

theorem help_unread {rest : List String} {sentence : List Argument}
    (grammatical : Grammatical false sentence) {word : String} (dashed : startsWithDash word = true)
    (notRecord : word ≠ "--record") (notReplay : word ≠ "--replay") :
    spelled sentence ≠ word :: rest := by
  intro same
  cases grammatical with
  | nil => cases same
  | record later => exact notRecord (List.cons.inj same).1.symm
  | replay later => exact notReplay (List.cons.inj same).1.symm
  | device noDash later =>
      rw [(List.cons.inj same).1, dashed] at noDash
      cases noDash

theorem main_accepted (kiss : KissLibrary KissDecoder KissStatus) (world : World)
    (prog : String) {sentence : List Argument} (grammatical : Grammatical false sentence)
    (filled : sentence ≠ []) :
    main kiss world prog (spelled sentence) =
      match lastOf Argument.replayPath? sentence, lastOf Argument.device? sentence with
      | some _, some _ =>
          .refused "" "--replay cannot be combined with a real serial device path\n" 1
      | none, none =>
          .refused "" "Either a serial device path or --replay <file> is required\n" 1
      | some replayPath, none => replay kiss world replayPath
      | none, some realTtyPath => live kiss world (summary sentence) realTtyPath := by
  have read := parseArguments_accepted grammatical
  have noHelp : ∀ {rest}, spelled sentence ≠ "--help" :: rest :=
    help_unread grammatical (by decide) (by decide) (by decide)
  have noShortHelp : ∀ {rest}, spelled sentence ≠ "-h" :: rest :=
    help_unread grammatical (by decide) (by decide) (by decide)
  cases words : spelled sentence with
  | nil =>
      cases sentence with
      | nil => exact absurd rfl filled
      | cons first rest => cases first <;> cases words
  | cons first rest =>
      rw [words] at read noHelp noShortHelp
      have notHelp : ¬ (first = "--help" ∨ first = "-h") := by
        rintro (rfl | rfl)
        · exact noHelp rfl
        · exact noShortHelp rfl
      unfold main
      dsimp only
      rw [if_neg notHelp, read]
      rfl

theorem main_refused (kiss : KissLibrary KissDecoder KissStatus) (world : World) (prog : String)
    {args : List String} {text : String}
    (refused : parseArguments Options.initial args = .error text) :
    (main kiss world prog args).device = none := by
  cases args with
  | nil => rfl
  | cons first rest =>
      unfold main
      dsimp only
      rw [refused]
      split <;> rfl

theorem replay_device (kiss : KissLibrary KissDecoder KissStatus) (world : World)
    (replayPath : String) : (replay kiss world replayPath).device = none := by
  unfold replay
  split
  · rfl
  · dsimp only
    split <;> rfl

theorem live_device_iff (kiss : KissLibrary KissDecoder KissStatus) (world : World)
    (options : Options) (realTtyPath path : String) (baudRate : Int32) :
    (live kiss world options realTtyPath).device = some (path, baudRate) ↔
      realTtyPath = path ∧ options.baudRate = baudRate ∧
        ∀ recordPath, options.recordPath = some recordPath →
          world.writerOpen recordPath = .ok () := by
  have opened : ∀ {found : Option Recording × String},
      openRecording world options.recordPath = .ok found →
      (live kiss world options realTtyPath).device = some (realTtyPath, options.baudRate) := by
    intro found isOpen
    unfold live
    rw [isOpen]
    dsimp only
    split <;> rfl
  cases wanted : options.recordPath with
  | none =>
      rw [opened (by rw [wanted]; rfl), Option.some.injEq, Prod.mk.injEq]
      constructor
      · rintro ⟨same, rate⟩
        exact ⟨same, rate, fun _ found => by cases found⟩
      · rintro ⟨same, rate, _⟩
        exact ⟨same, rate⟩
  | some recordPath =>
      cases answer : world.writerOpen recordPath with
      | ok done =>
          have isOpen : openRecording world options.recordPath =
              .ok (some { path := recordPath, calls := [] },
                "[recording] writing to " ++ recordPath ++ "\n") := by
            rw [wanted, openRecording, answer]
          rw [opened isOpen, Option.some.injEq, Prod.mk.injEq]
          constructor
          · rintro ⟨same, rate⟩
            refine ⟨same, rate, ?_⟩
            intro other found
            rw [← Option.some.inj found]
            exact answer
          · rintro ⟨same, rate, _⟩
            exact ⟨same, rate⟩
      | error text =>
          have failed : openRecording world options.recordPath =
              .error ("Error opening recording file: " ++ text ++ "\n") := by
            rw [wanted, openRecording, answer]
          constructor
          · intro device
            unfold live at device
            rw [failed] at device
            cases device
          · rintro ⟨_, _, opens⟩
            rw [opens recordPath rfl] at answer
            cases answer

/-- The device is opened exactly for argument lists that name one and no replay, at the last baud
rate, once the recording they ask for is open. -/
theorem main_device_iff (kiss : KissLibrary KissDecoder KissStatus) (world : World)
    (prog : String) (args : List String) (path : String) (baudRate : Int32) :
    (main kiss world prog args).device = some (path, baudRate) ↔
      ∃ sentence, Grammatical false sentence ∧ args = spelled sentence ∧
        lastOf Argument.device? sentence = some path ∧
        lastOf Argument.replayPath? sentence = none ∧
        (lastOf Argument.baudRate? sentence).getD 0 = baudRate ∧
        ∀ recordPath, lastOf Argument.recordPath? sentence = some recordPath →
          world.writerOpen recordPath = .ok () := by
  constructor
  · intro device
    obtain ⟨sentence, rest, grammatical, cut, ends⟩ := reads false args
    rw [Bool.false_or] at ends
    rcases ends with rfl | ⟨text, stuck⟩
    · rw [List.append_nil] at cut
      subst cut
      by_cases filled : sentence = []
      · subst filled
        cases device
      · rw [main_accepted kiss world prog grammatical filled] at device
        refine ⟨sentence, grammatical, rfl, ?_⟩
        cases replays : lastOf Argument.replayPath? sentence with
        | some replayPath =>
            cases named : lastOf Argument.device? sentence with
            | some realTtyPath =>
                rw [replays, named] at device
                cases device
            | none =>
                rw [replays, named] at device
                dsimp only at device
                rw [replay_device] at device
                cases device
        | none =>
            cases named : lastOf Argument.device? sentence with
            | some realTtyPath =>
                rw [replays, named] at device
                obtain ⟨rfl, rate, opens⟩ := (live_device_iff _ _ _ _ _ _).mp device
                exact ⟨rfl, rfl, rate, opens⟩
            | none =>
                rw [replays, named] at device
                cases device
    · subst cut
      rw [main_refused kiss world prog (parseArguments_refused grammatical stuck)] at device
      cases device
  · rintro ⟨sentence, grammatical, rfl, named, replays, rate, opens⟩
    have filled : sentence ≠ [] := by
      rintro rfl
      cases named
    rw [main_accepted kiss world prog grammatical filled, replays, named]
    exact (live_device_iff _ _ _ _ _ _).mpr ⟨rfl, rate, opens⟩

end RNodeProtocol
