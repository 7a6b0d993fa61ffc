import LanguageClient.Error
import LanguageClient.Text.Utf8

/-!
What carries messages to a server and back. A transport takes a message as a whole or fails, and
hands out the bodies that have arrived one by one. A supervised transport can be stopped, and
started again as often as its budget allows.
-/

namespace LanguageClient

/-- A transport of messages. -/
class Transport (τ : Type) where
  /-- Hand a message over. -/
  send : τ → Json → τ × Except ClientError Unit
  /-- Take the next body that has arrived, if there is one. -/
  receive : τ → τ × Except ClientError (Option Bytes)
  /-- Whether there is a process at the other end, as far as is known. -/
  isRunning : τ → Bool

/-- A transport with a process that can be started again. -/
class SupervisedTransport (τ : Type) extends Transport τ where
  /-- Stop the process and start it again. -/
  restart : τ → τ × Except ClientError Unit
  /-- Stop the process. -/
  stop : τ → τ
  /-- How many restarts can be tried until one succeeds or all are used up. -/
  attemptsLeft : τ → Nat
  /-- How many bodies and errors can be received before the transport is idle or lost. -/
  backlog : τ → Nat

end LanguageClient
