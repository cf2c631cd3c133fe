/-
What a recording is given.

A session offers every chunk it is handed to the writer of its recording, once
and in order, complains of each write that does not succeed, and closes the
writer where the proxy could be initialised.  What the writer does with a chunk
is its own affair.
-/

import RNodeProtocol.MonitorReplay

namespace RNodeProtocol

open TextLines

variable {KissDecoder KissStatus : Type} [DecidableEq KissStatus]

def droppedLine : String := "Failed to write recording entry"

namespace Session

/-- The error output has one complaint for each write that failed. -/
def Accounts (session : Session KissDecoder) : Prop :=
  ∃ recording lines, session.recording = some recording ∧ session.stderr = unlines lines ∧
    (∀ line ∈ lines, OneLine line) ∧
    lines.count droppedLine = recording.calls.countP WriterCall.failed

variable {session : Session KissDecoder}

theorem Accounts.complain (accounts : session.Accounts) {line : String}
    (oneLine : OneLine line) (other : line ≠ droppedLine) :
    (session.complain (line ++ "\n")).Accounts := by
  obtain ⟨recording, lines, recorded, stderr, clean, counted⟩ := accounts
  refine ⟨recording, lines ++ [line], recorded, ?_, ?_, ?_⟩
  · change session.stderr ++ (line ++ "\n") = _
    rw [stderr, unlines_append, unlines_cons, unlines_nil, String.append_empty]
  · intro spoken member
    rcases List.mem_append.mp member with before | last
    · exact clean spoken before
    · rw [List.mem_singleton.mp last]
      exact oneLine
  · have unlike : [line].count droppedLine = 0 :=
      List.count_eq_zero.mpr fun member => other (List.mem_singleton.mp member).symm
    rw [List.count_append, unlike]
    exact counted

theorem Accounts.record (accounts : session.Accounts) (world : World) (entry : Entry) :
    (session.record world entry).Accounts := by
  obtain ⟨recording, lines, recorded, stderr, clean, counted⟩ := accounts
  unfold Session.record
  rw [recorded]
  dsimp only
  split
  · rename_i failed
    refine ⟨_, lines ++ [droppedLine], rfl, ?_, ?_, ?_⟩
    · change session.stderr ++ "Failed to write recording entry\n" = _
      rw [stderr, unlines_append]
      rfl
    · intro line member
      rcases List.mem_append.mp member with before | last
      · exact clean line before
      · rw [List.mem_singleton.mp last]
        decide
    · have isFailed : (WriterCall.write entry
          (world.writerWrite recording.path recording.calls entry)).failed = true :=
        decide_eq_true failed
      rw [List.count_append, List.count_singleton_self, List.countP_append, counted,
        List.countP_singleton, if_pos isFailed]
  · rename_i succeeded
    refine ⟨_, lines, rfl, stderr, clean, ?_⟩
    have notFailed : ¬ (WriterCall.write entry
        (world.writerWrite recording.path recording.calls entry)).failed = true :=
      fun failed => succeeded (of_decide_eq_true failed)
    rw [List.countP_append, counted, List.countP_singleton, if_neg notFailed, Nat.add_zero]

theorem Accounts.handle (accounts : session.Accounts)
    (kiss : KissLibrary KissDecoder KissStatus) (world : World) (callback : ProxyCallback) :
    (session.handle kiss world callback).Accounts := by
  cases callback with
  | data direction bytes => exact accounts.record world (direction, bytes)
  | lifecycle event message => cases event <;> exact accounts
  | signal signum =>
      have received : ∀ line, OneLine line → line ≠ droppedLine →
          session.proxySignalHandler signum = session.complain (line ++ "\n") →
          (session.proxySignalHandler signum).Accounts := by
        intro line oneLine other said
        rw [said]
        exact accounts.complain oneLine other
      cases signum with
      | sigint =>
          exact received "Received SIGINT, shutting down proxy..." (by decide) (by decide) rfl
      | sigterm =>
          exact received "Received SIGTERM, shutting down proxy..." (by decide) (by decide) rfl
      | sighup =>
          exact received "Received SIGHUP, shutting down proxy..." (by decide) (by decide) rfl

theorem Accounts.handleAll (accounts : session.Accounts)
    (kiss : KissLibrary KissDecoder KissStatus) (world : World)
    (callbacks : List ProxyCallback) : (session.handleAll kiss world callbacks).Accounts := by
  induction callbacks generalizing session with
  | nil => exact accounts
  | cons callback rest ih => exact ih (accounts.handle kiss world callback)

end Session

variable {kiss : KissLibrary KissDecoder KissStatus} {world : World}

end RNodeProtocol
