/-
Text that is written a line at a time.

A report is a list of lines, each written with a newline after it.  Where no
line has a newline of its own the report can be read back, and where every line
opens with the label of its source, so can the report of one source among many.

A line may be made of words with blanks between them; it determines its words.
-/

import Mathlib.Data.List.Basic

namespace TextLines

/-- Every line, followed by a newline. -/
def unlines (lines : List String) : String :=
  String.join (lines.map (· ++ "\n"))

@[simp] theorem unlines_nil : unlines [] = "" := String.join_nil

@[simp] theorem unlines_cons (line : String) (rest : List String) :
    unlines (line :: rest) = line ++ "\n" ++ unlines rest :=
  String.join_cons

theorem unlines_append (first second : List String) :
    unlines (first ++ second) = unlines first ++ unlines second := by
  unfold unlines
  rw [List.map_append, String.join_append]

/-- The text has no newline. -/
def OneLine (line : String) : Prop :=
  '\n' ∉ line.toList

instance (line : String) : Decidable (OneLine line) :=
  inferInstanceAs (Decidable (_ ∉ _))

/-- The pieces of a text between newlines, the one after the last newline included. -/
def linesOf (text : String) : List String :=
  (text.toList.splitOn '\n').map String.ofList

theorem linesOf_unlines {lines : List String} (clean : ∀ line ∈ lines, OneLine line) :
    linesOf (unlines lines) = lines ++ [""] := by
  unfold linesOf
  induction lines with
  | nil => rfl
  | cons line rest ih =>
      have here : '\n' ∉ line.toList := clean line List.mem_cons_self
      have later := ih (fun other member => clean other (List.mem_cons_of_mem line member))
      have text : (unlines (line :: rest)).toList =
          line.toList ++ '\n' :: (unlines rest).toList := by
        rw [unlines_cons, String.toList_append, String.toList_append, List.append_assoc]
        rfl
      rw [text, List.splitOn_append_cons_self_of_not_mem here, List.map_cons, later,
        String.ofList_toList]
      rfl

theorem unlines_inj {first second : List String} (clean : ∀ line ∈ first, OneLine line)
    (cleanToo : ∀ line ∈ second, OneLine line) (same : unlines first = unlines second) :
    first = second := by
  have pieces := congrArg linesOf same
  rw [linesOf_unlines clean, linesOf_unlines cleanToo] at pieces
  exact List.append_cancel_right pieces

/-- What every line opens with may be any text at all. -/
theorem unlines_injective (opening : String) {first second : List String}
    (clean : ∀ line ∈ first, OneLine line) (cleanToo : ∀ line ∈ second, OneLine line)
    (same : unlines (first.map (opening ++ ·)) = unlines (second.map (opening ++ ·))) :
    first = second := by
  have text : ∀ (line : String) (rest : List String),
      (unlines ((line :: rest).map (opening ++ ·))).toList =
        opening.toList ++ (line.toList ++ '\n' :: (unlines (rest.map (opening ++ ·))).toList) := by
    intro line rest
    rw [List.map_cons, unlines_cons, String.toList_append, String.toList_append,
      String.toList_append, List.append_assoc, List.append_assoc]
    rfl
  have letters := congrArg String.toList same
  induction first generalizing second with
  | nil =>
      cases second with
      | nil => rfl
      | cons line rest =>
          rw [text] at letters
          cases (List.append_eq_nil_iff.mp (List.append_eq_nil_iff.mp letters.symm).2).2
  | cons line rest ih =>
      cases second with
      | nil =>
          rw [text] at letters
          cases (List.append_eq_nil_iff.mp (List.append_eq_nil_iff.mp letters).2).2
      | cons other others =>
          rw [text, text] at letters
          have cut := congrArg (List.splitOn '\n') (List.append_cancel_left letters)
          have here := clean line List.mem_cons_self
          have there := cleanToo other List.mem_cons_self
          rw [List.splitOn_append_cons_self_of_not_mem here,
            List.splitOn_append_cons_self_of_not_mem there] at cut
          have lines := String.toList_inj.mp (List.cons.inj cut).1
          subst lines
          have remaining :=
            (List.cons.inj (List.append_cancel_left (List.append_cancel_left letters))).2
          rw [ih (fun next member => clean next (List.mem_cons_of_mem _ member))
            (fun next member => cleanToo next (List.mem_cons_of_mem _ member))
            (String.toList_inj.mp remaining) remaining]

/-! ### Labelled lines -/

/-- The line opens with the label and a blank. -/
def labelled (label line : String) : Bool :=
  (label.toList ++ [' ']).isPrefixOf line.toList

/-- The lines of a text under a label. -/
def under (label text : String) : List String :=
  (linesOf text).filter (labelled label)

theorem labelled_open (label rest : String) : labelled label (label ++ " " ++ rest) = true := by
  unfold labelled
  rw [List.isPrefixOf_iff_prefix, String.toList_append, String.toList_append]
  exact List.prefix_append _ _

/-- A blank ends a label, so a line opens with one label at most. -/
theorem labelled_unique {label other line : String} (plain : ' ' ∉ label.toList)
    (otherPlain : ' ' ∉ other.toList) (here : labelled label line = true)
    (there : labelled other line = true) : label = other := by
  unfold labelled at here there
  rw [List.isPrefixOf_iff_prefix] at here there
  obtain ⟨rest, first⟩ := here
  obtain ⟨otherRest, second⟩ := there
  rw [List.append_assoc, List.singleton_append] at first second
  have cut := congrArg (List.splitOn ' ') (first.trans second.symm)
  rw [List.splitOn_append_cons_self_of_not_mem plain,
    List.splitOn_append_cons_self_of_not_mem otherPlain] at cut
  exact String.toList_inj.mp (List.cons.inj cut).1

theorem labelled_empty (label : String) : labelled label "" = false := by
  unfold labelled
  cases label.toList <;> rfl

theorem under_unlines {lines : List String} (clean : ∀ line ∈ lines, OneLine line)
    (label : String) : under label (unlines lines) = lines.filter (labelled label) := by
  unfold under
  rw [linesOf_unlines clean, List.filter_append, List.filter_singleton, labelled_empty]
  exact List.append_nil _

/-! ### Words -/

/-- Neither a blank nor a newline in it. -/
def Plain (word : String) : Prop :=
  ' ' ∉ word.toList ∧ '\n' ∉ word.toList

instance (word : String) : Decidable (Plain word) :=
  inferInstanceAs (Decidable (_ ∧ _))

@[simp] theorem plain_append {first second : String} :
    Plain (first ++ second) ↔ Plain first ∧ Plain second := by
  unfold Plain
  rw [String.toList_append, List.mem_append, List.mem_append, not_or, not_or]
  exact and_and_and_comm

def spaced (words : List String) : String :=
  " ".intercalate words

/-- The pieces of a line between blanks. -/
def wordsOf (line : String) : List String :=
  (line.toList.splitOn ' ').map String.ofList

theorem wordsOf_spaced {words : List String} (plain : ∀ word ∈ words, Plain word)
    (filled : words ≠ []) : wordsOf (spaced words) = words := by
  unfold wordsOf spaced
  rw [String.toList_intercalate]
  have blank : (" " : String).toList = [' '] := rfl
  rw [blank, List.splitOn_intercalate, List.map_map]
  · have back : String.ofList ∘ String.toList = id := funext fun _ => String.ofList_toList
    rw [back, List.map_id]
  · intro word member
    obtain ⟨source, isSource, rfl⟩ := List.mem_map.mp member
    exact (plain source isSource).1
  · exact fun empty => filled (List.map_eq_nil_iff.mp empty)

theorem spaced_injective {first second : List String} (plain : ∀ word ∈ first, Plain word)
    (plainToo : ∀ word ∈ second, Plain word) (filled : first ≠ []) (filledToo : second ≠ [])
    (same : spaced first = spaced second) : first = second := by
  rw [← wordsOf_spaced plain filled, same, wordsOf_spaced plainToo filledToo]

theorem wordsOf_open {label : String} (plain : ' ' ∉ label.toList) (rest : String) :
    wordsOf (label ++ " " ++ rest) = label :: wordsOf rest := by
  unfold wordsOf
  have letters : (label ++ " " ++ rest).toList = label.toList ++ ' ' :: rest.toList := by
    rw [String.toList_append, String.toList_append, List.append_assoc]
    rfl
  rw [letters, List.splitOn_append_cons_self_of_not_mem plain, List.map_cons,
    String.ofList_toList]

/-- The first word of a line opens with the first letter of the line. -/
theorem wordsOf_letter {line : String} {letter : Char} {letters : List Char}
    (spelled : line.toList = letter :: letters) (notBlank : letter ≠ ' ') :
    ∃ word rest, wordsOf line = String.ofList (letter :: word) :: rest := by
  unfold wordsOf List.splitOn
  rw [spelled, List.splitOnP_cons_eq_if_modifyHead, if_neg (by simpa using notBlank)]
  cases pieces : letters.splitOnP (· == ' ') with
  | nil => exact absurd pieces (List.splitOnP_ne_nil _ _)
  | cons word rest => exact ⟨word, rest.map String.ofList, rfl⟩

theorem oneLine_spaced {words : List String} (plain : ∀ word ∈ words, Plain word) :
    OneLine (spaced words) := by
  unfold OneLine spaced
  rw [String.toList_intercalate]
  induction words with
  | nil => exact List.not_mem_nil
  | cons word rest ih =>
      have here := (plain word List.mem_cons_self).2
      have later := ih (fun other member => plain other (List.mem_cons_of_mem word member))
      cases rest with
      | nil =>
          rw [List.map_singleton, List.intercalate_singleton]
          exact here
      | cons next others =>
          rw [List.map_cons, List.map_cons, List.intercalate_cons_cons, List.mem_append,
            List.mem_append]
          rintro ((inWord | isBlank) | inRest)
          · exact here inWord
          · exact absurd (List.mem_singleton.mp isBlank) (by decide)
          · exact later inRest

end TextLines
