/-
Components that share one output.

Every event carries the tag of the component it is for and touches the state of
that component only; what it makes the component print goes to an output common
to all.  However the events are interleaved, a component is left in the state
its own events lead to, and its part of the output is what they print.
-/

import Mathlib.Logic.Function.Basic
import RNodeProtocol.Library.TextLines

namespace SharedOutput

variable {Tag Item State Event Out : Type} [DecidableEq Tag]

/-- The items under a tag, in order. -/
def select (tag : Tag) : List (Tag × Item) → List Item
  | [] => []
  | item :: rest => if item.1 = tag then item.2 :: select tag rest else select tag rest

theorem select_cons_own {tag : Tag} {item : Tag × Item} (own : item.1 = tag)
    (rest : List (Tag × Item)) : select tag (item :: rest) = item.2 :: select tag rest :=
  if_pos own

theorem select_cons_other {tag : Tag} {item : Tag × Item} (other : item.1 ≠ tag)
    (rest : List (Tag × Item)) : select tag (item :: rest) = select tag rest :=
  if_neg other

theorem select_append (tag : Tag) (first second : List (Tag × Item)) :
    select tag (first ++ second) = select tag first ++ select tag second := by
  induction first with
  | nil => rfl
  | cons item rest ih =>
      rw [List.cons_append]
      by_cases own : item.1 = tag
      · rw [select_cons_own own, select_cons_own own, ih, List.cons_append]
      · rw [select_cons_other own, select_cons_other own, ih]

theorem select_own (tag : Tag) (items : List Item) :
    select tag (items.map (Prod.mk tag)) = items := by
  induction items with
  | nil => rfl
  | cons item rest ih =>
      have own : (tag, item).1 = tag := rfl
      rw [List.map_cons, select_cons_own own, ih]

theorem select_other {tag other : Tag} (different : other ≠ tag) (items : List Item) :
    select tag (items.map (Prod.mk other)) = [] := by
  induction items with
  | nil => rfl
  | cons item rest ih => rw [List.map_cons, select_cons_other different, ih]

/-- What an event leaves of its component, and what it prints. -/
abbrev Station (Tag State Event Out : Type) : Type :=
  Tag → State → Event → State × List Out

/-! ### One component alone -/

def stateAlone (station : Station Tag State Event Out) (tag : Tag) (state : State)
    (events : List Event) : State :=
  events.foldl (fun current event => (station tag current event).1) state

def outputAlone (station : Station Tag State Event Out) (tag : Tag) :
    State → List Event → List Out
  | _, [] => []
  | state, event :: rest =>
      (station tag state event).2 ++ outputAlone station tag (station tag state event).1 rest

omit [DecidableEq Tag] in
theorem outputAlone_cons (station : Station Tag State Event Out) (tag : Tag) (state : State)
    (event : Event) (rest : List Event) :
    outputAlone station tag state (event :: rest) =
      (station tag state event).2 ++
        outputAlone station tag (station tag state event).1 rest := rfl

omit [DecidableEq Tag] in
theorem outputAlone_append (station : Station Tag State Event Out) (tag : Tag) (state : State)
    (first second : List Event) :
    outputAlone station tag state (first ++ second) =
      outputAlone station tag state first ++
        outputAlone station tag (stateAlone station tag state first) second := by
  induction first generalizing state with
  | nil => rfl
  | cons event rest ih =>
      rw [List.cons_append, outputAlone_cons, outputAlone_cons, ih, List.append_assoc]
      rfl

/-! ### All components together -/

def statesAfter (station : Station Tag State Event Out) (states : Tag → State)
    (events : List (Tag × Event)) : Tag → State :=
  events.foldl (fun current event =>
    Function.update current event.1 (station event.1 (current event.1) event.2).1) states

def outputOf (station : Station Tag State Event Out) :
    (Tag → State) → List (Tag × Event) → List (Tag × Out)
  | _, [] => []
  | states, event :: rest =>
      (station event.1 (states event.1) event.2).2.map (Prod.mk event.1) ++
        outputOf station
          (Function.update states event.1 (station event.1 (states event.1) event.2).1) rest

theorem outputOf_cons (station : Station Tag State Event Out) (states : Tag → State)
    (event : Tag × Event) (rest : List (Tag × Event)) :
    outputOf station states (event :: rest) =
      (station event.1 (states event.1) event.2).2.map (Prod.mk event.1) ++
        outputOf station
          (Function.update states event.1 (station event.1 (states event.1) event.2).1) rest := rfl

theorem statesAfter_apply (station : Station Tag State Event Out) (states : Tag → State)
    (events : List (Tag × Event)) (tag : Tag) :
    statesAfter station states events tag =
      stateAlone station tag (states tag) (select tag events) := by
  induction events generalizing states with
  | nil => rfl
  | cons event rest ih =>
      have later := ih
        (Function.update states event.1 (station event.1 (states event.1) event.2).1)
      change statesAfter station _ rest tag = _
      rw [later]
      by_cases own : event.1 = tag
      · subst own
        rw [select_cons_own rfl, Function.update_self]
        rfl
      · rw [select_cons_other own, Function.update_of_ne (Ne.symm own)]

theorem select_outputOf (station : Station Tag State Event Out) (states : Tag → State)
    (events : List (Tag × Event)) (tag : Tag) :
    select tag (outputOf station states events) =
      outputAlone station tag (states tag) (select tag events) := by
  induction events generalizing states with
  | nil => rfl
  | cons event rest ih =>
      rw [outputOf_cons, select_append, ih]
      by_cases own : event.1 = tag
      · subst own
        rw [select_cons_own rfl, Function.update_self, select_own, outputAlone_cons]
      · rw [select_cons_other own, Function.update_of_ne (Ne.symm own), select_other own,
          List.nil_append]

/-- A component whose events are the only ones prints what it prints alone. -/
theorem outputOf_own (station : Station Tag State Event Out) (states : Tag → State) (tag : Tag)
    (events : List Event) :
    outputOf station states (events.map (Prod.mk tag)) =
      (outputAlone station tag (states tag) events).map (Prod.mk tag) := by
  induction events generalizing states with
  | nil => rfl
  | cons event rest ih =>
      rw [List.map_cons, outputOf_cons, ih, Function.update_self, outputAlone_cons,
        List.map_append]

/-! ### What is printed -/

/-- Everything a component prints has the property. -/
def Station.Prints (station : Station Tag State Event Out) (property : Tag → Out → Prop) : Prop :=
  ∀ tag state event, ∀ out ∈ (station tag state event).2, property tag out

variable {station : Station Tag State Event Out} {property : Tag → Out → Prop}

omit [DecidableEq Tag] in
theorem Station.Prints.alone (prints : station.Prints property) (tag : Tag) (state : State)
    (events : List Event) : ∀ out ∈ outputAlone station tag state events, property tag out := by
  induction events generalizing state with
  | nil => exact fun _ member => absurd member List.not_mem_nil
  | cons event rest ih =>
      intro out member
      rcases List.mem_append.mp member with here | later
      · exact prints tag state event out here
      · exact ih _ out later

theorem Station.Prints.together (prints : station.Prints property) (states : Tag → State)
    (events : List (Tag × Event)) :
    ∀ out ∈ outputOf station states events, property out.1 out.2 := by
  induction events generalizing states with
  | nil => exact fun _ member => absurd member List.not_mem_nil
  | cons event rest ih =>
      intro out member
      rcases List.mem_append.mp member with here | later
      · obtain ⟨printed, isPrinted, rfl⟩ := List.mem_map.mp here
        exact prints event.1 _ event.2 printed isPrinted
      · exact ih _ out later

omit [DecidableEq Tag] in
/-- What every event prints in one piece is kept by appending the pieces. -/
theorem outputAlone_pieces {whole : List Out → Prop} (empty : whole [])
    (append : ∀ first second, whole first → whole second → whole (first ++ second)) {tag : Tag}
    (pieces : ∀ state event, whole (station tag state event).2) (state : State)
    (events : List Event) : whole (outputAlone station tag state events) := by
  induction events generalizing state with
  | nil => exact empty
  | cons event rest ih => exact append _ _ (pieces state event) (ih _)

theorem outputOf_pieces {whole : List Out → Prop} (empty : whole [])
    (append : ∀ first second, whole first → whole second → whole (first ++ second))
    (pieces : ∀ tag state event, whole (station tag state event).2) (states : Tag → State)
    (events : List (Tag × Event)) : whole ((outputOf station states events).map Prod.snd) := by
  induction events generalizing states with
  | nil => exact empty
  | cons event rest ih =>
      have own : ∀ printed : List Out, (printed.map (Prod.mk event.1)).map Prod.snd = printed := by
        intro printed
        rw [List.map_map]
        exact List.map_id printed
      rw [outputOf_cons, List.map_append, own]
      exact append _ _ (pieces _ _ _) (ih _)

/-! ### Events that come in chunks -/

/-- The events of the chunks, each under the tag of its chunk. -/
def tagged (chunks : List (Tag × List Event)) : List (Tag × Event) :=
  chunks.flatMap fun chunk => chunk.2.map (Prod.mk chunk.1)

omit [DecidableEq Tag] in
theorem tagged_cons (chunk : Tag × List Event) (rest : List (Tag × List Event)) :
    tagged (chunk :: rest) = chunk.2.map (Prod.mk chunk.1) ++ tagged rest :=
  List.flatMap_cons

theorem select_tagged (tag : Tag) (chunks : List (Tag × List Event)) :
    select tag (tagged chunks) = (select tag chunks).flatten := by
  induction chunks with
  | nil => rfl
  | cons chunk rest ih =>
      rw [tagged_cons, select_append, ih]
      by_cases own : chunk.1 = tag
      · rw [select_cons_own own, own, select_own, List.flatten_cons]
      · rw [select_cons_other own, select_other own, List.nil_append]

/-! ### Telling the components apart in a text -/

open TextLines

/-- Lines that open with no label but that of their component are told apart by the labels. -/
theorem filter_labelled {label : Tag → String} {lines : List (Tag × String)}
    (apart : ∀ line ∈ lines, ∀ tag, labelled (label tag) line.2 = true → tag = line.1)
    (tag : Tag) :
    (lines.map Prod.snd).filter (labelled (label tag)) =
      (select tag lines).filter (labelled (label tag)) := by
  induction lines with
  | nil => rfl
  | cons line rest ih =>
      have later := ih (fun other member => apart other (List.mem_cons_of_mem line member))
      rw [List.map_cons]
      by_cases own : line.1 = tag
      · rw [select_cons_own own, List.filter_cons, List.filter_cons, later]
      · have elsewhere : ¬ labelled (label tag) line.2 = true := by
          intro there
          exact own (apart line List.mem_cons_self tag there).symm
        rw [select_cons_other own, List.filter_cons_of_neg elsewhere, later]

end SharedOutput
