import LanguageClient.Proofs.Transport.Used

/-! A transport that keeps a journal of what passes over it, session by session. It behaves as the
transport inside it does, so whatever is shown of journals holds of every transport.
-/

namespace LanguageClient

/-- What passes over a transport: a message that it takes, or a body that it hands out. -/
inductive Traffic where
  | sent (message : Json)
  | received (body : Bytes)

/-- What passed over a transport, first to last. -/
abbrev Journal := List Traffic

/-- A transport with the journal of its session, and of those that a restart has ended. -/
structure Recorder (τ : Type) where
  inner : τ
  journal : Journal
  earlier : List Journal

namespace Recorder

variable {τ : Type}

/-- A recorder over which nothing has passed. -/
def fresh (inner : τ) : Recorder τ :=
  { inner, journal := [], earlier := [] }

/-- The journals of all sessions. -/
def sessions (recorder : Recorder τ) : List Journal :=
  recorder.earlier ++ [recorder.journal]

/-- A session is over, or it is the one that goes on. -/
theorem mem_sessions {recorder : Recorder τ} {session : Journal}
    : session ∈ recorder.sessions ↔ session ∈ recorder.earlier ∨ session = recorder.journal := by
  rw [sessions, List.mem_append, List.mem_singleton]

/-- The recorder with another transport inside. -/
def alter (change : τ → τ) (recorder : Recorder τ) : Recorder τ :=
  { recorder with inner := change recorder.inner }

/-- Write something into the journal. -/
def note (recorder : Recorder τ) (traffic : Traffic) : Recorder τ :=
  { recorder with journal := recorder.journal ++ [traffic] }

/-- Hand a message over, and note it if it is taken. -/
def send [Transport τ] (recorder : Recorder τ) (message : Json)
    : Recorder τ × Except ClientError Unit :=
  match Transport.send recorder.inner message with
  | (inner, .ok ()) => ({ recorder with inner }.note (.sent message), .ok ())
  | (inner, .error error) => ({ recorder with inner }, .error error)

/-- Take the next body, and note it. -/
def receive [Transport τ] (recorder : Recorder τ)
    : Recorder τ × Except ClientError (Option Bytes) :=
  match Transport.receive recorder.inner with
  | (inner, .ok (some body)) => ({ recorder with inner }.note (.received body), .ok (some body))
  | (inner, result) => ({ recorder with inner }, result)

/-- Start again. A restart that succeeds ends the session. -/
def restart [SupervisedTransport τ] (recorder : Recorder τ)
    : Recorder τ × Except ClientError Unit :=
  match SupervisedTransport.restart recorder.inner with
  | (inner, .ok ()) => ({ inner, journal := [], earlier := recorder.sessions }, .ok ())
  | (inner, .error error) => ({ recorder with inner }, .error error)

instance [SupervisedTransport τ] : SupervisedTransport (Recorder τ) where
  send := send
  receive := receive
  isRunning recorder := Transport.isRunning recorder.inner
  restart := restart
  stop := alter SupervisedTransport.stop
  attemptsLeft recorder := SupervisedTransport.attemptsLeft recorder.inner
  backlog recorder := SupervisedTransport.backlog recorder.inner

variable [SupervisedTransport τ]

/-- A recorder answers a message as the transport inside it does. -/
theorem send_inner (recorder : Recorder τ) (message : Json)
    : ((Transport.send recorder message).1.inner, (Transport.send recorder message).2)
      = Transport.send recorder.inner message := by
  simp only [Transport.send, send]
  rcases Transport.send recorder.inner message with ⟨inner, error | _⟩ <;> rfl

theorem receive_inner (recorder : Recorder τ)
    : ((Transport.receive recorder).1.inner, (Transport.receive recorder).2)
      = Transport.receive recorder.inner := by
  simp only [Transport.receive, receive]
  rcases Transport.receive recorder.inner with ⟨inner, error | _ | body⟩ <;> rfl

theorem restart_inner (recorder : Recorder τ)
    : ((SupervisedTransport.restart recorder).1.inner, (SupervisedTransport.restart recorder).2)
      = SupervisedTransport.restart recorder.inner := by
  simp only [SupervisedTransport.restart, restart]
  rcases SupervisedTransport.restart recorder.inner with ⟨inner, error | _⟩ <;> rfl

/-- A message that is taken is noted. -/
theorem send_of_ok {recorder after : Recorder τ} {message : Json}
    (sent : Transport.send recorder message = (after, .ok ()))
    : after.journal = recorder.journal ++ [.sent message] ∧ after.earlier = recorder.earlier := by
  change recorder.send message = _ at sent
  rcases inside : Transport.send recorder.inner message with ⟨inner, error | _⟩ <;>
    simp only [send, inside] at sent
  · simp at sent
  · obtain ⟨rfl, _⟩ := Prod.mk.inj sent
    exact ⟨rfl, rfl⟩

theorem send_of_error {recorder after : Recorder τ} {message : Json} {error : ClientError}
    (sent : Transport.send recorder message = (after, .error error))
    : after.journal = recorder.journal ∧ after.earlier = recorder.earlier := by
  change recorder.send message = _ at sent
  rcases inside : Transport.send recorder.inner message with ⟨inner, error | _⟩ <;>
    simp only [send, inside] at sent
  · obtain ⟨rfl, _⟩ := Prod.mk.inj sent
    exact ⟨rfl, rfl⟩
  · simp at sent

/-- A body that is handed out is noted. -/
theorem receive_of_some {recorder after : Recorder τ} {body : Bytes}
    (received : Transport.receive recorder = (after, .ok (some body)))
    : after.journal = recorder.journal ++ [.received body]
      ∧ after.earlier = recorder.earlier := by
  change recorder.receive = _ at received
  rcases inside : Transport.receive recorder.inner with ⟨inner, error | _ | other⟩ <;>
    simp only [receive, inside] at received
  · simp at received
  · simp at received
  · obtain ⟨rfl, same⟩ := Prod.mk.inj received
    cases same
    exact ⟨rfl, rfl⟩

theorem receive_of_none {recorder after : Recorder τ} {result : Except ClientError (Option Bytes)}
    (received : Transport.receive recorder = (after, result))
    (nothing : ∀ body, result ≠ .ok (some body))
    : after.journal = recorder.journal ∧ after.earlier = recorder.earlier := by
  change recorder.receive = _ at received
  rcases inside : Transport.receive recorder.inner with ⟨inner, error | _ | body⟩ <;>
    simp only [receive, inside] at received <;>
    obtain ⟨rfl, rfl⟩ := Prod.mk.inj received
  · exact ⟨rfl, rfl⟩
  · exact ⟨rfl, rfl⟩
  · exact absurd rfl (nothing body)

/-- A restart that succeeds starts a session. -/
theorem restart_of_ok {recorder after : Recorder τ}
    (started : SupervisedTransport.restart recorder = (after, .ok ()))
    : after.journal = [] ∧ after.earlier = recorder.sessions := by
  change recorder.restart = _ at started
  rcases inside : SupervisedTransport.restart recorder.inner with ⟨inner, error | _⟩ <;>
    simp only [restart, inside] at started
  · simp at started
  · obtain ⟨rfl, _⟩ := Prod.mk.inj started
    exact ⟨rfl, rfl⟩

theorem restart_of_error {recorder after : Recorder τ} {error : ClientError}
    (started : SupervisedTransport.restart recorder = (after, .error error))
    : after.journal = recorder.journal ∧ after.earlier = recorder.earlier := by
  change recorder.restart = _ at started
  rcases inside : SupervisedTransport.restart recorder.inner with ⟨inner, error | _⟩ <;>
    simp only [restart, inside] at started
  · obtain ⟨rfl, _⟩ := Prod.mk.inj started
    exact ⟨rfl, rfl⟩
  · simp at started

/-- Use adds to the journal of a session, and leaves those of earlier ones. -/
theorem earlier_of_used {kind : Json → Prop} {recorder after : Recorder τ}
    (used : Transport.Used kind recorder after)
    : after.earlier = recorder.earlier := by
  refine used.induct (P := fun other => other.earlier = recorder.earlier) ?_ ?_ rfl
  · intro transport message _ same
    rcases sent : Transport.send transport message with ⟨next, error | _⟩
    · exact (send_of_error sent).2.trans same
    · exact (send_of_ok sent).2.trans same
  · intro transport same
    rcases received : Transport.receive transport with ⟨next, error | _ | body⟩
    · exact (receive_of_none received (by simp)).2.trans same
    · exact (receive_of_none received (by simp)).2.trans same
    · exact (receive_of_some received).2.trans same

end Recorder

end LanguageClient
