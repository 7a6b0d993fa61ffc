import LanguageClient.Channel
import LanguageClient.Proofs.Transport.Recorder
import LanguageClient.ServerProcess.Basic

/-! Transports that die: once a message was refused, all are, until the transport is started again.
The transport in memory and the process of a server are such transports.
-/

namespace LanguageClient

variable {τ : Type}

/-- A transport that takes no message is dead. -/
def Transport.IsDead [Transport τ] (transport : τ) : Prop :=
  ∀ message, (Transport.send transport message).2 ≠ .ok ()

/-- Transports that refuse a message only when they are dead, and that stay dead until they are
started again.
-/
class MortalTransport (τ : Type) [Transport τ] : Prop where
  dead_of_refused (transport : τ) (message : Json)
    : (Transport.send transport message).2 ≠ .ok () →
        Transport.IsDead (Transport.send transport message).1
  dead_receive (transport : τ)
    : Transport.IsDead transport → Transport.IsDead (Transport.receive transport).1

namespace Transport

variable [Transport τ] [MortalTransport τ]

/-- A message that is refused shows that the transport is dead. -/
theorem isDead_of_send {transport after : τ} {message : Json} {error : ClientError}
    (sent : Transport.send transport message = (after, .error error))
    : IsDead after := by
  have dead := MortalTransport.dead_of_refused transport message
  rw [sent] at dead
  exact dead (by simp)

theorem IsDead.send {transport after : τ} {message : Json} {result : Except ClientError Unit}
    (dead : IsDead transport) (sent : Transport.send transport message = (after, result))
    : IsDead after ∧ result ≠ .ok () := by
  have refused := dead message
  have still := MortalTransport.dead_of_refused transport message refused
  rw [sent] at refused still
  exact ⟨still, refused⟩

theorem IsDead.receive {transport after : τ} {result : Except ClientError (Option Bytes)}
    (dead : IsDead transport) (received : Transport.receive transport = (after, result))
    : IsDead after := by
  have still := MortalTransport.dead_receive transport dead
  rwa [received] at still

end Transport

theorem Channel.isDead_iff {channel : Channel}
    : Transport.IsDead channel ↔ channel.dead = true := by
  constructor
  · intro refused
    cases alive : channel.dead with
    | true => rfl
    | false => exact absurd (by simp [Transport.send, send, alive]) (refused .null)
  · intro dead message
    simp [Transport.send, send, dead]

instance : MortalTransport Channel where
  dead_of_refused channel message refused := by
    cases dead : channel.dead with
    | true => simpa [Transport.send, Channel.send, dead] using Channel.isDead_iff.mpr dead
    | false => simp [Transport.send, Channel.send, dead] at refused
  dead_receive channel dead := by
    have dead := Channel.isDead_iff.mp dead
    refine Channel.isDead_iff.mpr ?_
    cases waiting : channel.inbound with
    | nil => simpa [Transport.receive, Channel.receive, waiting] using dead
    | cons => simp [Transport.receive, Channel.receive, waiting, dead]

namespace ServerProcess

/-- A process is dead when it was never started or was stopped, and when it is known to have ended. -/
theorem isDead_iff {process : ServerProcess}
    : Transport.IsDead process
      ↔ ∀ session, process.session = some session →
          (session.heard && (session.program session.given).ended) = true := by
  constructor
  · intro refused session running
    cases alive : session.heard && (session.program session.given).ended with
    | true => rfl
    | false =>
        exact absurd (by simp [Transport.send, write, running, alive]) (refused .null)
  · intro ended message
    cases running : process.session with
    | none => simp [Transport.send, write, running]
    | some session => simp [Transport.send, write, running, ended session running]

/-- Where a message is refused, nothing happens. -/
theorem write_of_refused {process : ServerProcess} {body : Bytes}
    (refused : (process.write body).2 ≠ .ok ())
    : (process.write body).1 = process := by
  unfold write at refused ⊢
  split
  · rfl
  · split
    · rfl
    · simp_all

/-- A receipt leaves all as it was, or notes how far the program was heard. -/
theorem receive_cases (process : ServerProcess)
    : process.receive.1 = process
      ∨ ∃ session taken,
          process.session = some session
          ∧ process.receive.1
            = { process with session := some { session with taken, heard := true } } := by
  unfold receive
  cases running : process.session with
  | none => exact .inl rfl
  | some session =>
      simp only
      split
      · split
        · exact .inr ⟨session, _, rfl, rfl⟩
        · exact .inl rfl
      · exact .inr ⟨session, _, rfl, rfl⟩
      · split
        · exact .inr ⟨session, _, rfl, rfl⟩
        · exact .inl rfl
      · exact .inr ⟨session, _, rfl, rfl⟩

instance : MortalTransport ServerProcess where
  dead_of_refused process message refused := by
    have same : (Transport.send process message).1 = process := write_of_refused refused
    rw [same]
    refine isDead_iff.mpr fun session running => ?_
    cases alive : session.heard && (session.program session.given).ended with
    | true => rfl
    | false => exact absurd (by simp [Transport.send, write, running, alive]) refused
  dead_receive process dead := by
    change Transport.IsDead process.receive.1
    rcases process.receive_cases with same | ⟨session, taken, running, noted⟩
    · rwa [same]
    · have ended := isDead_iff.mp dead session running
      rw [noted]
      refine isDead_iff.mpr fun session' running' => ?_
      obtain rfl := Option.some.inj running'
      simpa using (Bool.and_eq_true_iff.mp ended).2

end ServerProcess

theorem Recorder.isDead_iff [SupervisedTransport τ] {recorder : Recorder τ}
    : Transport.IsDead recorder ↔ Transport.IsDead recorder.inner := by
  have same (message : Json)
      : (Transport.send recorder message).2 = (Transport.send recorder.inner message).2 :=
    congrArg (·.2) (recorder.send_inner message)
  simp only [Transport.IsDead, same]

instance [SupervisedTransport τ] [MortalTransport τ] : MortalTransport (Recorder τ) where
  dead_of_refused recorder message refused := by
    have same := recorder.send_inner message
    have inner := MortalTransport.dead_of_refused recorder.inner message
    rw [← same] at inner
    exact Recorder.isDead_iff.mpr (inner refused)
  dead_receive recorder dead := by
    have same := recorder.receive_inner
    have inner := MortalTransport.dead_receive recorder.inner (Recorder.isDead_iff.mp dead)
    rw [← same] at inner
    exact Recorder.isDead_iff.mpr inner

end LanguageClient
