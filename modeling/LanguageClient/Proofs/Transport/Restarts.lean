import LanguageClient.Channel
import LanguageClient.Proofs.Transport.Mortal
import LanguageClient.Workspace.Operations

/-! A lost transport is started again until that succeeds or it says that too many restarts were
tried. This ends: a transport has only so many failing restarts left, and each attempt takes one of
them away.
-/

namespace LanguageClient

variable {τ : Type} [SupervisedTransport τ]

/-- A restart that fails is tried again, unless it failed because too many were tried. -/
def ClientError.AllowsRetry (error : ClientError) : Prop :=
  ∀ count, error ≠ .tooManyRestarts count

/-- Calls of `restart`, one after the other, until one succeeds or no more are allowed; how many they
are, and what comes of the last one.
-/
inductive Retried : τ → Nat → τ × Except ClientError Unit → Prop
  | started {transport last} (call : SupervisedTransport.restart transport = (last, .ok ()))
    : Retried transport 1 (last, .ok ())
  | refused {transport last count}
    (call : SupervisedTransport.restart transport = (last, .error (.tooManyRestarts count)))
    : Retried transport 1 (last, .error (.tooManyRestarts count))
  | again {transport failed error calls outcome}
    (call : SupervisedTransport.restart transport = (failed, .error error))
    (allowed : error.AllowsRetry) (later : Retried failed calls outcome)
    : Retried transport (calls + 1) outcome

/-- Transports that know how many restarts can be tried: a failing one leaves fewer. -/
class CountsRestarts (τ : Type) [SupervisedTransport τ] : Prop where
  attemptsLeft_pos (transport : τ) : 0 < SupervisedTransport.attemptsLeft transport
  attemptsLeft_lt {transport failed : τ} {error : ClientError}
    : SupervisedTransport.restart transport = (failed, .error error) → error.AllowsRetry →
        SupervisedTransport.attemptsLeft failed < SupervisedTransport.attemptsLeft transport

/-- Starting such a transport again comes to an end within the attempts that are left. Induction on
the attempts that are allowed.
-/
theorem retried_restartTransport [CountsRestarts τ] (transport : τ) {attempts : Nat}
    (enough : SupervisedTransport.attemptsLeft transport ≤ attempts)
    : ∃ calls ≤ SupervisedTransport.attemptsLeft transport,
        Retried transport calls (Workspace.restartTransport transport attempts) := by
  induction attempts generalizing transport with
  | zero =>
      have some := CountsRestarts.attemptsLeft_pos transport
      omega
  | succ attempts ih =>
      have some := CountsRestarts.attemptsLeft_pos transport
      unfold Workspace.restartTransport
      split
      · next call => exact ⟨1, some, .started call⟩
      · next call => exact ⟨1, some, .refused call⟩
      · next failed error other call =>
          have allowed : error.AllowsRetry := fun count same => other count same
          have fewer := CountsRestarts.attemptsLeft_lt call allowed
          obtain ⟨calls, bound, later⟩ := ih failed (by omega)
          exact ⟨calls + 1, by omega, .again call allowed later⟩

/-- The last call succeeds, or no more are allowed. Induction on the calls. -/
theorem Retried.of_error {transport last : τ} {calls : Nat} {error : ClientError}
    (retried : Retried transport calls (last, .error error))
    : ∃ count, error = .tooManyRestarts count := by
  generalize same : (last, Except.error (α := Unit) error) = outcome at retried
  induction retried with
  | started => cases same
  | refused =>
      cases same
      exact ⟨_, rfl⟩
  | again _ _ _ ih => exact ih same

-----------------------------------------------------------------------------------------
-- The transport in memory
-----------------------------------------------------------------------------------------

/-- A channel takes the errors with which its restarts fail from a list. -/
instance : CountsRestarts Channel where
  attemptsLeft_pos _ := Nat.succ_pos _
  attemptsLeft_lt {channel failed error} call allowed := by
    change channel.restart = _ at call
    unfold Channel.restart at call
    split at call
    · next listed =>
        obtain ⟨rfl, _⟩ := Prod.mk.inj call
        simp [SupervisedTransport.attemptsLeft, listed]
    · split at call
      · cases call
      · cases call
        exact absurd rfl (allowed _)

-----------------------------------------------------------------------------------------
-- The process of a server
-----------------------------------------------------------------------------------------

namespace ServerProcess

/-- How many restarts of a process there were, and how many are allowed. -/
def budget (process : ServerProcess) : Nat × Nat :=
  (process.restarts, process.settings.maxRestarts)

theorem budget_keep (process : ServerProcess) (log : Option Machine.Place) (content : Bytes)
    : (process.keep log content).budget = process.budget := by
  unfold keep
  split <;> rfl

theorem budget_listen (process : ServerProcess) (session : Session) (last : Bool)
    : (process.listen session last).budget = process.budget := by
  unfold listen
  simp only
  split
  · exact (budget_keep _ _ _).trans (budget_keep _ _ _)
  · exact budget_keep _ _ _

theorem budget_stop (process : ServerProcess) : process.stop.budget = process.budget := by
  unfold stop
  split
  · exact budget_listen _ _ _
  · rfl

/-- Starting a process does not count as a restart, and never fails for too many restarts. -/
theorem start_frame (process : ServerProcess)
    : process.start.1.budget = process.budget
      ∧ ∀ error, process.start.2 = .error error → error.AllowsRetry := by
  by_cases running : process.isRunning = true
  · simp only [start, if_pos running]
    exact ⟨trivial, by rintro _ ⟨⟩ count ⟨⟩⟩
  · simp only [start, if_neg running]
    cases process.machine.program? process.settings.command process.settings.args with
    | none => exact ⟨rfl, by rintro _ ⟨⟩ count ⟨⟩⟩
    | some program =>
        cases process.refusal? with
        | some reason => exact ⟨rfl, by rintro _ ⟨⟩ count ⟨⟩⟩
        | none => exact ⟨(budget_listen _ _ _).trans (budget_keep _ _ _), by rintro _ ⟨⟩⟩

theorem budget_write (process : ServerProcess) (body : Bytes)
    : (process.write body).1.budget = process.budget := by
  unfold write
  split
  · rfl
  · split
    · rfl
    · exact budget_listen _ _ _

theorem budget_receive (process : ServerProcess) : process.receive.1.budget = process.budget := by
  rcases process.receive_cases with same | ⟨session, taken, _, noted⟩
  · rw [same]
  · rw [noted]
    rfl

/-- A restart is refused once all are used up, and else it counts, whatever the machine answers. -/
theorem restart_cases (process : ServerProcess)
    : (process.settings.maxRestarts ≤ process.restarts
        ∧ process.restart = (process, .error (.tooManyRestarts process.restarts)))
      ∨ (process.restarts < process.settings.maxRestarts
          ∧ process.restart.1.budget = (process.restarts + 1, process.settings.maxRestarts)
          ∧ ∀ error, process.restart.2 = .error error → error.AllowsRetry) := by
  by_cases left : process.restarts < process.settings.maxRestarts
  · have stopped := process.budget_stop
    obtain ⟨kept, allows⟩ := start_frame { process.stop with
      restarts := process.restarts + 1
      waited := process.waited
        + Backoff.delay process.settings.restartDelay process.restarts }
    simp only [restart, if_pos left]
    refine .inr ⟨left, kept.trans ?_, allows⟩
    simp only [budget, Prod.mk.injEq] at stopped ⊢
    exact ⟨trivial, stopped.2⟩
  · exact .inl ⟨Nat.le_of_not_lt left, by simp only [restart, if_neg left]⟩

instance : CountsRestarts ServerProcess where
  attemptsLeft_pos _ := Nat.succ_pos _
  attemptsLeft_lt {process failed error} call allowed := by
    change process.restart = _ at call
    rcases process.restart_cases with ⟨_, refused⟩ | ⟨left, counted, _⟩
    · cases refused.symm.trans call
      exact absurd rfl (allowed _)
    · rw [call] at counted
      obtain ⟨restarts, maxRestarts⟩ : failed.restarts = process.restarts + 1
          ∧ failed.settings.maxRestarts = process.settings.maxRestarts := Prod.mk.inj counted
      simp only [SupervisedTransport.attemptsLeft, restarts, maxRestarts]
      omega

/-- What can become of a process once it was launched, and how many of its restarts were not refused:
it is used, stopped and started again in any order, and the machine changes as it likes.
-/
inductive Life (first : ServerProcess) : Nat → ServerProcess → Prop
  | launched : Life first 0 first
  | wrote {restarts process} (before : Life first restarts process) (body : Bytes)
    : Life first restarts (process.write body).1
  | received {restarts process} (before : Life first restarts process)
    : Life first restarts process.receive.1
  | stopped {restarts process} (before : Life first restarts process)
    : Life first restarts process.stop
  | moved {restarts process} (before : Life first restarts process) (machine : Machine)
    : Life first restarts { process with machine }
  | refused {restarts process last count} (before : Life first restarts process)
    (call : process.restart = (last, .error (.tooManyRestarts count)))
    : Life first restarts last
  | restarted {restarts process last result} (before : Life first restarts process)
    (call : process.restart = (last, result))
    (counts : ∀ error, result = .error error → error.AllowsRetry)
    : Life first (restarts + 1) last

/-- Each restart that is not refused counts, over the whole life of a process, and there are never
more than are allowed. Induction on the life.
-/
theorem Life.restarts_eq {first last : ServerProcess} {restarts : Nat}
    (life : Life first restarts last)
    : last.restarts = first.restarts + restarts
      ∧ last.settings.maxRestarts = first.settings.maxRestarts
      ∧ (first.restarts ≤ first.settings.maxRestarts →
          last.restarts ≤ last.settings.maxRestarts) := by
  induction life with
  | launched => exact ⟨rfl, rfl, id⟩
  | @wrote restarts process _ body ih =>
      obtain ⟨same, sameMax⟩ := Prod.mk.inj (process.budget_write body)
      rwa [same, sameMax]
  | @received restarts process _ ih =>
      obtain ⟨same, sameMax⟩ := Prod.mk.inj process.budget_receive
      rwa [same, sameMax]
  | @stopped restarts process _ ih =>
      obtain ⟨same, sameMax⟩ := Prod.mk.inj process.budget_stop
      rwa [same, sameMax]
  | moved _ machine ih => exact ih
  | @refused restarts process last count _ call ih =>
      rcases process.restart_cases with ⟨_, refused⟩ | ⟨_, _, allows⟩
      · obtain ⟨rfl, _⟩ := Prod.mk.inj (refused.symm.trans call)
        exact ih
      · rw [call] at allows
        exact absurd rfl (allows _ rfl count)
  | @restarted restarts process last result _ call counts ih =>
      rcases process.restart_cases with ⟨_, refused⟩ | ⟨left, counted, _⟩
      · obtain ⟨_, rfl⟩ := Prod.mk.inj (refused.symm.trans call)
        exact absurd rfl (counts _ rfl _)
      · rw [call] at counted
        obtain ⟨restarts, maxRestarts⟩ : last.restarts = process.restarts + 1
            ∧ last.settings.maxRestarts = process.settings.maxRestarts := Prod.mk.inj counted
        omega

end ServerProcess

end LanguageClient
