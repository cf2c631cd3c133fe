/-
Machines whose calls the input tells.

A script gives the calls of the next byte and of the end of a frame from the
bytes of the frame so far, and nothing else.  A machine that keeps to a script
makes the calls of the script in every run, whatever its own state is made of.
-/

import RNodeProtocol.Library.PendingInput

namespace FramedInput

variable {State Byte Status Call : Type}

structure Script (Byte Call : Type) where
  put : List Byte → Byte → List Call
  endFrame : List Byte → List Call

namespace Script

/-- The calls of bytes put one after the other. -/
def puts (script : Script Byte Call) : List Byte → List Byte → List Call
  | _, [] => []
  | input, byte :: rest => script.put input byte ++ script.puts (input ++ [byte]) rest

def tell (script : Script Byte Call) (input : List Byte) : Operation Byte → List Call
  | .start => []
  | .put byte => script.put input byte
  | .write bytes => script.puts input bytes
  | .endFrame => script.endFrame input

def narrate (script : Script Byte Call) : List Byte → List (Operation Byte) → List Call
  | _, [] => []
  | input, operation :: rest =>
      script.tell input operation ++ script.narrate (operation.carry input) rest

/-- The calls of a frame that is started, put and ended. -/
def frame (script : Script Byte Call) (input : List Byte) : List Call :=
  script.puts [] input ++ script.endFrame input

theorem puts_cons (script : Script Byte Call) (input : List Byte) (byte : Byte)
    (rest : List Byte) :
    script.puts input (byte :: rest) =
      script.put input byte ++ script.puts (input ++ [byte]) rest := rfl

theorem puts_append (script : Script Byte Call) (input first second : List Byte) :
    script.puts input (first ++ second) =
      script.puts input first ++ script.puts (input ++ first) second := by
  induction first generalizing input with
  | nil => rw [List.append_nil, List.nil_append]; rfl
  | cons byte rest ih =>
      rw [List.cons_append, puts_cons, puts_cons, ih, List.append_assoc, List.append_assoc,
        List.singleton_append]

theorem narrate_cons (script : Script Byte Call) (input : List Byte)
    (operation : Operation Byte) (rest : List (Operation Byte)) :
    script.narrate input (operation :: rest) =
      script.tell input operation ++ script.narrate (operation.carry input) rest := rfl

theorem narrate_append (script : Script Byte Call) (input : List Byte)
    (first second : List (Operation Byte)) :
    script.narrate input (first ++ second) =
      script.narrate input first ++ script.narrate (first.foldl Operation.carry input) second := by
  induction first generalizing input with
  | nil => rfl
  | cons operation rest ih =>
      rw [List.cons_append, narrate_cons, narrate_cons, ih, List.append_assoc]
      rfl

/-- The script that spells every call as several. -/
def spell {Other : Type} (script : Script Byte Call) (spelling : Call → List Other) :
    Script Byte Other :=
  { put := fun input byte => (script.put input byte).flatMap spelling
    endFrame := fun input => (script.endFrame input).flatMap spelling }

theorem puts_spell {Other : Type} (script : Script Byte Call) (spelling : Call → List Other)
    (input bytes : List Byte) :
    (script.spell spelling).puts input bytes = (script.puts input bytes).flatMap spelling := by
  induction bytes generalizing input with
  | nil => rfl
  | cons byte rest ih =>
      rw [puts_cons, puts_cons, ih, List.flatMap_append]
      rfl

theorem narrate_spell {Other : Type} (script : Script Byte Call) (spelling : Call → List Other)
    (input : List Byte) (operations : List (Operation Byte)) :
    (script.spell spelling).narrate input operations =
      (script.narrate input operations).flatMap spelling := by
  induction operations generalizing input with
  | nil => rfl
  | cons operation rest ih =>
      rw [narrate_cons, narrate_cons, ih, List.flatMap_append]
      congr 1
      cases operation with
      | write bytes => exact script.puts_spell spelling input bytes
      | _ => rfl

/-- The script that tells every call in another way. -/
def map {Other : Type} (script : Script Byte Call) (retell : Call → Other) : Script Byte Other :=
  { put := fun input byte => (script.put input byte).map retell
    endFrame := fun input => (script.endFrame input).map retell }

theorem map_eq_spell {Other : Type} (script : Script Byte Call) (retell : Call → Other) :
    script.map retell = script.spell fun call => [retell call] := by
  unfold map spell
  simp only [List.map_eq_flatMap]

theorem puts_map {Other : Type} (script : Script Byte Call) (retell : Call → Other)
    (input bytes : List Byte) :
    (script.map retell).puts input bytes = (script.puts input bytes).map retell := by
  rw [map_eq_spell, puts_spell, List.map_eq_flatMap]

theorem frame_map {Other : Type} (script : Script Byte Call) (retell : Call → Other)
    (input : List Byte) : (script.map retell).frame input = (script.frame input).map retell := by
  unfold frame
  rw [puts_map, List.map_append]
  rfl

theorem narrate_map {Other : Type} (script : Script Byte Call) (retell : Call → Other)
    (input : List Byte) (operations : List (Operation Byte)) :
    (script.map retell).narrate input operations =
      (script.narrate input operations).map retell := by
  rw [map_eq_spell, narrate_spell, List.map_eq_flatMap]

/-- Every call of the script has the property. -/
structure Tells (script : Script Byte Call) (property : Call → Prop) : Prop where
  put : ∀ input byte, ∀ call ∈ script.put input byte, property call
  endFrame : ∀ input, ∀ call ∈ script.endFrame input, property call

variable {script : Script Byte Call} {property : Call → Prop}

theorem Tells.imp {weaker : Call → Prop} (tells : script.Tells property)
    (weakens : ∀ call, property call → weaker call) : script.Tells weaker where
  put := fun input byte call member => weakens call (tells.put input byte call member)
  endFrame := fun input call member => weakens call (tells.endFrame input call member)

theorem Tells.puts (tells : script.Tells property) (input bytes : List Byte) :
    ∀ call ∈ script.puts input bytes, property call := by
  induction bytes generalizing input with
  | nil => exact fun _ member => absurd member List.not_mem_nil
  | cons byte rest ih =>
      intro call member
      rcases List.mem_append.mp member with here | later
      · exact tells.put input byte call here
      · exact ih (input ++ [byte]) call later

theorem Tells.narrate (tells : script.Tells property) (input : List Byte)
    (operations : List (Operation Byte)) :
    ∀ call ∈ script.narrate input operations, property call := by
  induction operations generalizing input with
  | nil => exact fun _ member => absurd member List.not_mem_nil
  | cons operation rest ih =>
      intro call member
      rcases List.mem_append.mp member with here | later
      · cases operation with
        | start => exact absurd here List.not_mem_nil
        | put byte => exact tells.put input byte call here
        | write bytes => exact tells.puts input bytes call here
        | endFrame => exact tells.endFrame input call here
      · exact ih _ call later

end Script

/-- Under the relation, each call of the machine logs what the script tells of the input. -/
structure Machine.Narrates (machine : Machine State Byte Status) (script : Script Byte Call)
    (log : State → List Call) (tracks : State → List Byte → Prop) : Prop where
  start : ∀ state input, tracks state input →
    tracks (machine.start state) [] ∧ log (machine.start state) = log state
  put : ∀ state input byte, tracks state input →
    tracks (machine.put state byte).1 (input ++ [byte]) ∧
      log (machine.put state byte).1 = log state ++ script.put input byte
  endFrame : ∀ state input, tracks state input →
    tracks (machine.endFrame state).1 [] ∧
      log (machine.endFrame state).1 = log state ++ script.endFrame input

variable {machine : Machine State Byte Status} {script : Script Byte Call}
  {log : State → List Call} {tracks : State → List Byte → Prop}

theorem Machine.Narrates.putAll (narrates : machine.Narrates script log tracks) {state : State}
    {input : List Byte} (tracked : tracks state input) (bytes : List Byte) :
    tracks (machine.putAll state bytes) (input ++ bytes) ∧
      log (machine.putAll state bytes) = log state ++ script.puts input bytes := by
  induction bytes generalizing state input with
  | nil =>
      rw [List.append_nil]
      exact ⟨tracked, (List.append_nil _).symm⟩
  | cons byte rest ih =>
      obtain ⟨next, told⟩ := narrates.put state input byte tracked
      obtain ⟨final, later⟩ := ih next
      rw [List.append_assoc, List.singleton_append] at final
      rw [Machine.putAll_cons, Script.puts_cons, later, told, List.append_assoc]
      exact ⟨final, rfl⟩

variable [DecidableEq Status] {dead : State → Prop}

theorem Machine.Narrates.step (narrates : machine.Narrates script log tracks)
    (failStop : machine.FailStop dead) {state : State} {input : List Byte}
    (tracked : tracks state input) (operation : Operation Byte) :
    tracks (machine.step state operation).1 (operation.carry input) ∧
      log (machine.step state operation).1 = log state ++ script.tell input operation := by
  cases operation with
  | start =>
      obtain ⟨next, same⟩ := narrates.start state input tracked
      exact ⟨next, same.trans (List.append_nil _).symm⟩
  | put byte => exact narrates.put state input byte tracked
  | write bytes =>
      have written : (machine.step state (.write bytes)).1 = machine.putAll state bytes :=
        failStop.write_fst state bytes
      rw [written]
      exact narrates.putAll tracked bytes
  | endFrame => exact narrates.endFrame state input tracked

theorem Machine.Narrates.run (narrates : machine.Narrates script log tracks)
    (failStop : machine.FailStop dead) {state : State} {input : List Byte}
    (tracked : tracks state input) (operations : List (Operation Byte)) :
    tracks (machine.run state operations) (operations.foldl Operation.carry input) ∧
      log (machine.run state operations) = log state ++ script.narrate input operations := by
  induction operations generalizing state input with
  | nil => exact ⟨tracked, (List.append_nil _).symm⟩
  | cons operation rest ih =>
      obtain ⟨next, told⟩ := narrates.step failStop tracked operation
      obtain ⟨final, later⟩ := ih next
      rw [told, List.append_assoc] at later
      exact ⟨final, later⟩

/-! ### Runs of whole frames -/

/-- A frame that is handed over in chunks. -/
def chunked (chunks : List (List Byte)) : List (Operation Byte) :=
  .start :: chunks.map .write ++ [.endFrame]

theorem Script.narrate_writes (script : Script Byte Call) (input : List Byte)
    (chunks : List (List Byte)) (rest : List (Operation Byte)) :
    script.narrate input (chunks.map .write ++ rest) =
      script.puts input chunks.flatten ++ script.narrate (input ++ chunks.flatten) rest := by
  induction chunks generalizing input with
  | nil =>
      rw [List.flatten_nil, List.append_nil]
      rfl
  | cons chunk later ih =>
      rw [List.map_cons, List.cons_append, narrate_cons, ih, List.flatten_cons, puts_append,
        List.append_assoc, ← List.append_assoc input]
      rfl

/-- However its frames are cut, a run of whole frames is told frame by frame. -/
theorem Script.narrate_frames (script : Script Byte Call) (input : List Byte)
    (frames : List (List (List Byte))) :
    script.narrate input (frames.flatMap chunked) =
      frames.flatMap fun chunks => script.frame chunks.flatten := by
  induction frames generalizing input with
  | nil => rfl
  | cons chunks later ih =>
      have first : script.narrate input (chunked chunks) = script.frame chunks.flatten := by
        have ended : script.narrate chunks.flatten [.endFrame] =
            script.endFrame chunks.flatten := List.append_nil _
        unfold chunked
        rw [List.cons_append, narrate_cons, narrate_writes]
        change script.puts [] chunks.flatten ++ script.narrate ([] ++ chunks.flatten) _ = _
        rw [List.nil_append, ended]
        rfl
      rw [List.flatMap_cons, List.flatMap_cons, narrate_append, first, ih]

/-- Messages whose frames are told as their calls are told one after the other. -/
theorem Script.narrate_messages {Message : Type} (script : Script Byte Call)
    {calls : Message → List Call} {spells : List Byte → Message → Prop}
    (told : ∀ frame message, spells frame message → script.frame frame = calls message)
    {frames : List (List (List Byte))} {messages : List Message}
    (spelled : List.Forall₂ (fun chunks message => spells chunks.flatten message) frames messages)
    (input : List Byte) :
    script.narrate input (frames.flatMap chunked) = messages.flatMap calls := by
  rw [narrate_frames]
  induction spelled with
  | nil => rfl
  | cons here _ ih => rw [List.flatMap_cons, List.flatMap_cons, told _ _ here, ih]

/-- A frame that is handed over byte by byte. -/
def singly (bytes : List Byte) : List (Operation Byte) :=
  .start :: bytes.map .put ++ [.endFrame]

theorem Script.narrate_puts (script : Script Byte Call) (input bytes : List Byte)
    (rest : List (Operation Byte)) :
    script.narrate input (bytes.map .put ++ rest) =
      script.puts input bytes ++ script.narrate (input ++ bytes) rest := by
  induction bytes generalizing input with
  | nil =>
      rw [List.append_nil]
      rfl
  | cons byte later ih =>
      have whole : input ++ byte :: later = input ++ [byte] ++ later := by
        rw [List.append_assoc, List.singleton_append]
      rw [List.map_cons, List.cons_append, narrate_cons, ih, puts_cons, List.append_assoc, whole]
      rfl

theorem Script.narrate_whole (script : Script Byte Call) (input bytes : List Byte) :
    script.narrate input (singly bytes) = script.frame bytes := by
  have ended : script.narrate bytes [.endFrame] = script.endFrame bytes := List.append_nil _
  unfold singly
  rw [List.cons_append, narrate_cons, narrate_puts]
  change script.puts [] bytes ++ script.narrate ([] ++ bytes) _ = _
  rw [List.nil_append, ended]
  rfl

theorem Script.narrate_singly (script : Script Byte Call) (input : List Byte)
    (frames : List (List Byte)) :
    script.narrate input (frames.flatMap singly) = frames.flatMap script.frame := by
  induction frames generalizing input with
  | nil => rfl
  | cons bytes later ih =>
      rw [List.flatMap_cons, List.flatMap_cons, narrate_append, narrate_whole, ih]

/-! ### Frames that are broken off -/

theorem Script.narrate_prefix (script : Script Byte Call) (input : List Byte)
    {first whole : List (Operation Byte)} (begins : first <+: whole) :
    script.narrate input first <+: script.narrate input whole := by
  obtain ⟨rest, rfl⟩ := begins
  rw [narrate_append]
  exact List.prefix_append _ _

/-- The bytes of a frame, before its end. -/
theorem Script.narrate_unended (script : Script Byte Call) (input bytes : List Byte) :
    script.narrate input (.start :: bytes.map .put) = script.puts [] bytes := by
  have told := script.narrate_puts [] bytes []
  rw [List.append_nil] at told
  exact told.trans (List.append_nil _)

/-- A part of a frame tells a part of what the bytes of the frame tell, and nothing of its end. -/
theorem Script.narrate_cut (script : Script Byte Call) (input : List Byte)
    {operations : List (Operation Byte)} {bytes : List Byte}
    (begins : operations <+: singly bytes) (cut : operations ≠ singly bytes) :
    script.narrate input operations <+: script.puts [] bytes := by
  rw [← script.narrate_unended input]
  exact script.narrate_prefix input ((List.prefix_concat_iff.mp begins).resolve_left cut)

/-! ### Runs in pieces -/

theorem Machine.run_append (machine : Machine State Byte Status) (state : State)
    (first second : List (Operation Byte)) :
    machine.run state (first ++ second) = machine.run (machine.run state first) second :=
  List.foldl_append

theorem Machine.run_concat (machine : Machine State Byte Status) (state : State)
    (operations : List (Operation Byte)) (operation : Operation Byte) :
    machine.run state (operations ++ [operation]) =
      (machine.step (machine.run state operations) operation).1 :=
  machine.run_append state operations [operation]

theorem Machine.run_puts (machine : Machine State Byte Status) (state : State)
    (bytes : List Byte) : machine.run state (bytes.map .put) = machine.putAll state bytes :=
  List.foldl_map

end FramedInput
