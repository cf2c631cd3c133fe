/-
What the text decoders share: a stream with a line prefix, and the conversions
of their format strings.

Only the contents of the stream matter, so a stream is the text written to it.
An initialisation replaces missing pointers by the standard output and an empty
prefix, and a NULL prefix is therefore given as `none`.
-/

import RNodeProtocol.Consts

namespace RNodeProtocol

/-- `%u`. -/
def unsigned (value : Nat) : String := toString value

/-- `%d`. -/
def signed (value : Int) : String := toString value

/-- `%02X` and `%04X`. -/
def hex (width value : Nat) : String :=
  let digits := (Nat.toDigits 16 value).map Char.toUpper
  String.ofList (List.replicate (width - digits.length) '0' ++ digits)

def DecoderStatus.value : DecoderStatus → Nat
  | .ok => 0
  | .aborted => 1
  | .invalidLength => 2
  | .unknownOpcode => 3
  | .invalidArgument => 4

structure TextLog where
  out : String
  linePrefix : String
  deriving Repr, DecidableEq

namespace TextLog

def init (out : String) (linePrefix : Option String) : TextLog :=
  { out := out
    linePrefix := linePrefix.getD "" }

/-- What a line starts with. -/
def opening (text : TextLog) : String :=
  if text.linePrefix ≠ "" then text.linePrefix ++ " " else ""

def log (text : TextLog) (line : String) : TextLog :=
  { text with out := text.out ++ text.opening ++ line ++ "\n" }

end TextLog

end RNodeProtocol
