import LanguageClient.Proofs.Frame.Reader
import LanguageClient.ServerProcess.Basic

/-! Receiving from a program that has ended. All that it has written lies there, so successive calls
answer what a reader of it hands on, one item each and in order, and then that the process is gone.
-/

namespace LanguageClient.ServerProcess

open LanguageClient.Frame

/-- The program of a process has ended, and so much of what it wrote is left. -/
def Leaves (process : ServerProcess) (left : Bytes) : Prop :=
  ∃ session,
    process.session = some session
    ∧ (session.program session.given).ended = true
    ∧ (session.program session.given).out.drop session.taken = left

/-- What a call answers when a read of what is left answers this. -/
def said : Answer → Except ClientError (Option Bytes)
  | .ok none => .error .processNotRunning
  | .ok (some body) => .ok (some body)
  | .error error => .error error

/-- One call reads once, and leaves what the read leaves. -/
theorem receive_of_leaves {process : ServerProcess} {left rest : Bytes} {answer : Answer}
    (leaves : process.Leaves left)
    (call : read process.settings.messageLimit left = (answer, rest))
    : process.receive.2 = said answer
      ∧ process.receive.1.Leaves rest
      ∧ process.receive.1.settings = process.settings := by
  obtain ⟨session, here, ended, unread⟩ := leaves
  obtain ⟨taken, takes⟩ := exists_takes process.settings.messageLimit left
  rw [call] at takes
  have remains
      : (session.program session.given).out.drop
          ((session.program session.given).out.length - rest.length) = rest := by
    have suffix : rest <:+ (session.program session.given).out := by
      refine List.IsSuffix.trans ⟨taken, takes.split.symm⟩ ?_
      rw [← unread]
      exact List.drop_suffix session.taken _
    exact (List.suffix_iff_eq_drop.mp suffix).symm
  rw [receive, here]
  simp only [unread, call, ended, if_true]
  rcases answer with error | _ | body
  · cases error <;> exact ⟨rfl, ⟨_, rfl, ended, remains⟩, rfl⟩
  · exact ⟨rfl, ⟨_, rfl, ended, remains⟩, rfl⟩
  · exact ⟨rfl, ⟨_, rfl, ended, remains⟩, rfl⟩

/-- What so many calls answer, in order. -/
def received (process : ServerProcess) : Nat → List (Except ClientError (Option Bytes))
  | 0 => []
  | count + 1 => process.receive.2 :: process.receive.1.received count

/-- Of a process of which nothing is left, every call answers that it is gone. -/
theorem received_of_nothing {process : ServerProcess} (leaves : process.Leaves []) (count : Nat)
    : process.received count = List.replicate count (.error .processNotRunning) := by
  induction count generalizing process with
  | zero => rfl
  | succ count ih =>
      obtain ⟨answered, nothing, _⟩ := receive_of_leaves leaves (read_nil _)
      rw [received, answered, ih nothing]
      rfl

/-- The answers to calls, from the items that are there: these in order, and then that the process is
gone.
-/
def answers (items : List (Except ClientError Bytes)) (count : Nat)
    : List (Except ClientError (Option Bytes)) :=
  items.map (Except.map some)
    ++ List.replicate (count - items.length) (.error .processNotRunning)

/-- Calls answer what successive reads of what is left answer. Induction on the calls. -/
theorem received_eq {process : ServerProcess} {left : Bytes} (leaves : process.Leaves left)
    (count : Nat)
    : process.received count
      = answers ((readAll process.settings.messageLimit left count).filterMap itemOf?) count := by
  induction count generalizing process left with
  | zero => rfl
  | succ count ih =>
      obtain ⟨taken, takes⟩ := exists_takes process.settings.messageLimit left
      cases call : read process.settings.messageLimit left with
      | mk answer rest =>
          rw [call] at takes
          obtain ⟨answered, leaves, same⟩ := receive_of_leaves leaves call
          have further := ih leaves
          rw [same] at further
          rw [received, answered, readAll, call]
          rcases answer with error | _ | body
          · cases fatal : error.isFatal with
            | false => simp [further, answers, said, itemOf?, Except.map, fatal]
            | true =>
                obtain rfl := (takes.fatal error rfl fatal).2
                simp [received_of_nothing leaves, answers, said, itemOf?, Except.map, fatal]
          · obtain rfl := takes.rest_eq_nil rfl
            rw [received_of_nothing leaves]
            rfl
          · simp [further, answers, said, itemOf?, Except.map]

/-- Calls answer, in order, what a reader of what is left hands on in as many passes of its loop, and
then that the process is gone.
-/
theorem received_eq_sent {process : ServerProcess} {left : Bytes} (leaves : process.Leaves left)
    {listens : Nat → Bool} (listening : ∀ call, listens call = true) (count : Nat)
    : process.received count
      = answers (Reader.after process.settings.messageLimit listens left count).sent count := by
  have running : (Reader.ofStream left).running = true := rfl
  rw [received_eq leaves, Reader.after, Reader.sent_iterate listening count running]
  rfl

end LanguageClient.ServerProcess
