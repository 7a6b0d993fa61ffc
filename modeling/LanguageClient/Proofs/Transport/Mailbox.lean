import LanguageClient.Channel
import LanguageClient.Proofs.Transport.Used
import Mathlib.Data.Multiset.AddSub

/-! Transports seen from outside: what waits to be received, and which messages were sent, in
whatever order. A transport that does not die behaves as this much of it does.
-/

namespace LanguageClient

variable {τ σ : Type}

/-- To see transports in some way does justice to them as long as they keep to something: they give
the answers that what is seen of them gives, and go on to keep to it.
-/
structure Transport.Mirrors [Transport τ] [Transport σ] (keeps : τ → Prop) (view : τ → σ)
    : Prop where
  send (transport : τ) (message : Json)
    : keeps transport →
        keeps (Transport.send transport message).1
        ∧ Transport.send (view transport) message
          = (view (Transport.send transport message).1, (Transport.send transport message).2)
  receive (transport : τ)
    : keeps transport →
        keeps (Transport.receive transport).1
        ∧ Transport.receive (view transport)
          = (view (Transport.receive transport).1, (Transport.receive transport).2)

/-- Use does not change what a transport keeps to. -/
theorem Transport.Mirrors.used [Transport τ] [Transport σ] {keeps : τ → Prop} {view : τ → σ}
    (mirrors : Mirrors keeps view) {kind : Json → Prop} {first second : τ}
    (used : Used kind first second) (start : keeps first)
    : keeps second :=
  used.induct (fun transport message _ kept => (mirrors.send transport message kept).1)
    (fun transport kept => (mirrors.receive transport kept).1) start

/-- What can be seen of a transport: what waits to be received, and the messages that were sent,
whatever their order.
-/
structure Mailbox where
  inbound : List (Except ClientError Bytes)
  sent : Multiset Json

namespace Mailbox

/-- The mailbox after some more messages were sent. -/
def post (messages : Multiset Json) (mailbox : Mailbox) : Mailbox :=
  { mailbox with sent := messages + mailbox.sent }

/-- Take what waits longest. -/
def receive (mailbox : Mailbox) : Mailbox × Except ClientError (Option Bytes) :=
  match mailbox.inbound with
  | item :: inbound => ({ mailbox with inbound }, item.map some)
  | [] => (mailbox, .ok none)

/-- A mailbox takes every message, and does not die. -/
instance : SupervisedTransport Mailbox where
  send mailbox message := (mailbox.post {message}, .ok ())
  receive := receive
  isRunning _ := true
  restart mailbox := (mailbox, .ok ())
  stop := id
  attemptsLeft _ := 1
  backlog mailbox := mailbox.inbound.length

theorem send_eq (mailbox : Mailbox) (message : Json)
    : Transport.send mailbox message = (mailbox.post {message}, .ok ()) := rfl

theorem receive_eq (mailbox : Mailbox) : Transport.receive mailbox = mailbox.receive := rfl

theorem inbound_of_sent {mailbox after : Mailbox} {message : Json}
    {result : Except ClientError Unit} (sent : Transport.send mailbox message = (after, result))
    : after.inbound = mailbox.inbound := by
  obtain ⟨rfl, _⟩ := Prod.mk.inj sent
  rfl

/-- Receiving takes what waits longest. -/
theorem inbound_of_received {mailbox after : Mailbox} {result : Except ClientError (Option Bytes)}
    (received : Transport.receive mailbox = (after, result))
    : after.inbound = mailbox.inbound.tail
      ∧ result = (mailbox.inbound.head?.map (·.map some)).getD (.ok none) := by
  obtain ⟨inbound, sent⟩ := mailbox
  cases inbound with
  | nil =>
      obtain ⟨rfl, rfl⟩ := Prod.mk.inj received
      exact ⟨rfl, rfl⟩
  | cons item rest =>
      obtain ⟨rfl, rfl⟩ := Prod.mk.inj received
      exact ⟨rfl, rfl⟩

/-- No error that waits tells of the loss of the transport. -/
def IsCalm (mailbox : Mailbox) : Prop :=
  ∀ error, .error error ∈ mailbox.inbound → error.isFatal = false

theorem post_zero (mailbox : Mailbox) : mailbox.post 0 = mailbox := by
  simp only [post, Multiset.zero_add]

theorem post_post (first second : Multiset Json) (mailbox : Mailbox)
    : (mailbox.post first).post second = mailbox.post (first + second) := by
  simp only [post, Multiset.add_comm first, Multiset.add_assoc]

/-- Messages that were sent before make no difference to what a mailbox answers. -/
theorem post_mirrors (messages : Multiset Json)
    : Transport.Mirrors (fun _ => True) (post messages) where
  send mailbox message _ := by
    refine ⟨trivial, ?_⟩
    rw [send_eq, send_eq, post_post, post_post, Multiset.add_comm]
  receive mailbox _ := by
    refine ⟨trivial, ?_⟩
    obtain ⟨inbound, sent⟩ := mailbox
    cases inbound <;> rfl

end Mailbox

/-- Transports that can be seen as mailboxes, as long as they are steady: they do not die by
themselves.
-/
class MailboxTransport (τ : Type) [Transport τ] where
  view : τ → Mailbox
  IsSteady : τ → Prop
  mirrors : Transport.Mirrors IsSteady view

namespace Channel

/-- A channel is not dead and will not die when something is received. -/
structure IsSteady (channel : Channel) : Prop where
  alive : channel.dead = false
  safe : ∀ count, channel.dieAt = some count → channel.inbound.length ≤ count

instance : MailboxTransport Channel where
  view channel := { inbound := channel.inbound, sent := channel.sent }
  IsSteady := IsSteady
  mirrors := by
    refine ⟨fun channel message steady => ?_, fun channel steady => ?_⟩
    · have taken
          : Transport.send channel message
            = ({ channel with sent := channel.sent ++ [message] }, .ok ()) := by
        simp [Transport.send, send, steady.alive]
      have posted
          : ((channel.sent ++ [message] : List Json) : Multiset Json)
            = {message} + (channel.sent : Multiset Json) :=
        Multiset.coe_eq_coe.mpr (List.perm_append_singleton message channel.sent)
      rw [taken, Mailbox.send_eq, Mailbox.post, posted]
      exact ⟨⟨steady.alive, steady.safe⟩, rfl⟩
    · have same : Transport.receive channel = channel.receive := rfl
      rw [same, Mailbox.receive_eq, Mailbox.receive]
      cases waiting : channel.inbound with
      | nil =>
          have idle : channel.receive = (channel, .ok none) := by
            simp only [receive, waiting, steady.alive]
            rfl
          rw [idle, waiting]
          exact ⟨steady, rfl⟩
      | cons item inbound =>
          have later : ¬ channel.dieAt = some inbound.length := by
            intro dies
            have bound := steady.safe _ dies
            rw [waiting] at bound
            exact absurd bound (Nat.not_succ_le_self _)
          have taken : channel.receive = ({ channel with inbound }, item.map some) := by
            simp only [receive, waiting, steady.alive, later]
            rfl
          rw [taken]
          refine ⟨⟨steady.alive, fun count dies => ?_⟩, rfl⟩
          have bound := steady.safe count dies
          rw [waiting] at bound
          exact Nat.le_of_succ_le bound

end Channel

end LanguageClient
