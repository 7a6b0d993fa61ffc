import LanguageClient.Transport

/-!
A transport in memory: it keeps what was sent, and hands out what was queued. A channel that is
dead takes no messages; what is queued can still be received.
-/

namespace LanguageClient

/-- A transport in memory. -/
structure Channel where
  /-- Bodies and errors that wait to be received. -/
  inbound : List (Except ClientError Bytes)
  /-- The messages sent, first to last. -/
  sent : List Json
  dead : Bool
  /-- The channel dies when a receipt leaves as many items in the queue. -/
  dieAt : Option Nat
  restarts : Nat
  restartBudget : Nat
  /-- Errors with which the next restarts fail. -/
  restartErrors : List ClientError
  /-- A restart leaves the channel dead. -/
  stayDead : Bool
  stops : Nat

namespace Channel

/-- A channel that has carried nothing and may be restarted `budget` times. -/
def fresh (budget : Nat) : Channel :=
  { inbound := [], sent := [], dead := false, dieAt := none, restarts := 0, restartBudget := budget
    restartErrors := [], stayDead := false, stops := 0 }

/-- Put an item into the queue. -/
def push (channel : Channel) (item : Except ClientError Bytes) : Channel :=
  { channel with inbound := channel.inbound ++ [item] }

/-- Hand a message over. -/
def send (channel : Channel) (message : Json) : Channel × Except ClientError Unit :=
  if channel.dead then (channel, .error .processNotRunning)
  else ({ channel with sent := channel.sent ++ [message] }, .ok ())

/-- Take the next item out of the queue. -/
def receive (channel : Channel) : Channel × Except ClientError (Option Bytes) :=
  match channel.inbound with
  | item :: inbound =>
      ({ channel with inbound, dead := channel.dead || channel.dieAt = some inbound.length },
        item.map some)
  | [] => (channel, if channel.dead then .error .processNotRunning else .ok none)

/-- Start again with an empty queue. -/
def restart (channel : Channel) : Channel × Except ClientError Unit :=
  match channel.restartErrors with
  | error :: restartErrors => ({ channel with restartErrors }, .error error)
  | [] =>
      if channel.restarts < channel.restartBudget then
        ({ channel with
            inbound := [], dead := channel.stayDead, dieAt := none
            restarts := channel.restarts + 1 },
          .ok ())
      else (channel, .error (.tooManyRestarts channel.restarts))

/-- Die. -/
def stop (channel : Channel) : Channel :=
  { channel with dead := true, stops := channel.stops + 1 }

instance : SupervisedTransport Channel where
  send := send
  receive := receive
  isRunning channel := ! channel.dead
  restart := restart
  stop := stop
  attemptsLeft channel := channel.restartErrors.length + 1
  backlog channel := channel.inbound.length

end Channel

end LanguageClient
