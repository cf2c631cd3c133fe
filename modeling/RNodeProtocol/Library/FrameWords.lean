/-
The language of well-formed frame transfers.

A transfer is refused at its start, or it is opened, carries some bytes, and is
either broken by a refused byte or closed.  Words are sequences of transfers.
A scanner with two phases decides which marks can begin a word.
-/

import Mathlib.Computability.Language

namespace FrameWords

open Computability

inductive Mark where
  | refused
  | opened
  | carried
  | broken
  | closed
  deriving Repr, DecidableEq

def transfer : Language Mark :=
  {[.refused]} + {[.opened]} * KStar.kstar {[.carried]} * ({[.broken]} + {[.closed]})

def words : Language Mark := KStar.kstar transfer

/-- Some continuation makes the marks a word. -/
def BeginsWord (marks : List Mark) : Prop := ∃ rest, marks ++ rest ∈ words

inductive Phase where
  | outside
  | inside
  deriving Repr, DecidableEq

def Phase.next : Phase → Mark → Option Phase
  | .outside, .refused => some .outside
  | .outside, .opened => some .inside
  | .inside, .carried => some .inside
  | .inside, .broken => some .outside
  | .inside, .closed => some .outside
  | _, _ => none

def scan (phase : Phase) : List Mark → Option Phase
  | [] => some phase
  | mark :: rest => (phase.next mark).bind fun next => scan next rest

theorem scan_append (phase : Phase) (first second : List Mark) :
    scan phase (first ++ second) = (scan phase first).bind fun next => scan next second := by
  induction first generalizing phase with
  | nil => rfl
  | cons mark rest ih =>
      change (phase.next mark).bind _ = ((phase.next mark).bind _).bind _
      cases phase.next mark with
      | none => rfl
      | some next => exact ih next

theorem scan_concat (phase : Phase) (marks : List Mark) (mark : Mark) :
    scan phase (marks ++ [mark]) = (scan phase marks).bind fun next => next.next mark := by
  rw [scan_append]
  congr 1
  funext next
  change (next.next mark).bind some = next.next mark
  cases next.next mark <;> rfl

/-! ### Words scan from outside to outside -/

theorem scan_carried {marks : List Mark}
    (carried : marks ∈ KStar.kstar ({[.carried]} : Language Mark)) :
    scan .inside marks = some .inside := by
  obtain ⟨pieces, rfl, each⟩ := Language.mem_kstar.mp carried
  clear carried
  induction pieces with
  | nil => rfl
  | cons piece rest ih =>
      have single : piece = [.carried] := each piece List.mem_cons_self
      rw [List.flatten_cons, scan_append, single]
      exact ih (fun other member => each other (List.mem_cons_of_mem _ member))

theorem scan_transfer {marks : List Mark} (member : marks ∈ transfer) :
    scan .outside marks = some .outside := by
  rcases member with refused | completed
  · have single : marks = [.refused] := refused
    rw [single]
    rfl
  · obtain ⟨front, opening, last, finish, rfl⟩ := Language.mem_mul.mp completed
    obtain ⟨first, opened, middle, carried, rfl⟩ := Language.mem_mul.mp opening
    have start : first = [.opened] := opened
    have payload := scan_carried carried
    rw [start, scan_append, scan_append]
    change ((scan .inside middle).bind _) = _
    rw [payload]
    rcases finish with broken | closed
    · have single : last = [.broken] := broken
      rw [single]
      rfl
    · have single : last = [.closed] := closed
      rw [single]
      rfl

theorem scan_word {marks : List Mark} (member : marks ∈ words) :
    scan .outside marks = some .outside := by
  obtain ⟨transfers, rfl, each⟩ := Language.mem_kstar.mp member
  clear member
  induction transfers with
  | nil => rfl
  | cons first rest ih =>
      rw [List.flatten_cons, scan_append, scan_transfer (each first List.mem_cons_self)]
      exact ih (fun other member => each other (List.mem_cons_of_mem _ member))

/-! ### What is scanned can be completed -/

/-- The rest of an opened transfer, and more transfers. -/
def inside : Language Mark :=
  KStar.kstar {[.carried]} * ({[.broken]} + {[.closed]}) * words

theorem append_mem_kstar {language : Language Mark} {first rest : List Mark}
    (head : first ∈ language) (tail : rest ∈ KStar.kstar language) :
    first ++ rest ∈ KStar.kstar language := by
  obtain ⟨pieces, rfl, each⟩ := Language.mem_kstar.mp tail
  exact Language.mem_kstar.mpr
    ⟨first :: pieces, List.flatten_cons.symm, List.forall_mem_cons.mpr ⟨head, each⟩⟩

theorem refused_cons {rest : List Mark} (member : rest ∈ words) : .refused :: rest ∈ words := by
  have single : [Mark.refused] ∈ transfer := Or.inl rfl
  exact append_mem_kstar single member

theorem opened_cons {rest : List Mark} (member : rest ∈ inside) : .opened :: rest ∈ words := by
  obtain ⟨front, transferred, more, later, rfl⟩ := Language.mem_mul.mp member
  obtain ⟨middle, carried, last, finish, rfl⟩ := Language.mem_mul.mp transferred
  have opening : [.opened] ++ middle ++ last ∈ transfer :=
    Or.inr (Language.append_mem_mul (Language.append_mem_mul rfl carried) finish)
  exact append_mem_kstar opening later

theorem carried_cons {rest : List Mark} (member : rest ∈ inside) :
    .carried :: rest ∈ inside := by
  obtain ⟨front, transferred, more, later, rfl⟩ := Language.mem_mul.mp member
  obtain ⟨middle, carried, last, finish, rfl⟩ := Language.mem_mul.mp transferred
  have single : [Mark.carried] ∈ ({[.carried]} : Language Mark) := rfl
  exact Language.append_mem_mul
    (Language.append_mem_mul (append_mem_kstar single carried) finish) later

theorem finish_cons {mark : Mark} {rest : List Mark} (last : mark = .broken ∨ mark = .closed)
    (member : rest ∈ words) : mark :: rest ∈ inside := by
  have finish : [mark] ∈ ({[.broken]} + {[.closed]} : Language Mark) := by
    rcases last with rfl | rfl
    · exact Or.inl rfl
    · exact Or.inr rfl
  exact Language.append_mem_mul
    (Language.append_mem_mul (Language.nil_mem_kstar {[.carried]}) finish) member

theorem scan_complete (marks : List Mark) :
    (scan .outside marks = some .outside → marks ∈ words) ∧
      (scan .inside marks = some .outside → marks ∈ inside) := by
  induction marks with
  | nil =>
      constructor
      · intro _
        exact Language.nil_mem_kstar transfer
      · intro scanned
        cases scanned
  | cons mark rest ih =>
      constructor
      · intro scanned
        cases mark with
        | refused => exact refused_cons (ih.1 scanned)
        | opened => exact opened_cons (ih.2 scanned)
        | carried => cases scanned
        | broken => cases scanned
        | closed => cases scanned
      · intro scanned
        cases mark with
        | refused => cases scanned
        | opened => cases scanned
        | carried => exact carried_cons (ih.2 scanned)
        | broken => exact finish_cons (.inl rfl) (ih.1 scanned)
        | closed => exact finish_cons (.inr rfl) (ih.1 scanned)

/-- The scanner gets through exactly the beginnings of words. -/
theorem beginsWord_iff (marks : List Mark) : BeginsWord marks ↔ scan .outside marks ≠ none := by
  constructor
  · rintro ⟨rest, member⟩ stuck
    have scanned := scan_word member
    rw [scan_append, stuck] at scanned
    cases scanned
  · intro passes
    cases reached : scan .outside marks with
    | none => exact absurd reached passes
    | some phase =>
        cases phase with
        | outside =>
            refine ⟨[], ?_⟩
            rw [List.append_nil]
            exact (scan_complete marks).1 reached
        | inside =>
            refine ⟨[.closed], (scan_complete _).1 ?_⟩
            rw [scan_concat, reached]
            rfl

end FrameWords
