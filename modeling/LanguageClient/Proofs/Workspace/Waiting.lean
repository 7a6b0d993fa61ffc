import LanguageClient.Proofs.Connection.Completion
import LanguageClient.Proofs.Workspace.Opening

/-! What a workspace leaves behind between its operations: servers have passed on all that they have
learnt, and the requests that wait for answers have different ids, as long as operations come to an
end.
-/

namespace LanguageClient

variable {τ κ : Type} [SupervisedTransport τ]

namespace Connection

variable {connection : Connection τ (Purpose κ)}

/-- The requests that wait have different ids. -/
def IsDistinct (connection : Connection τ (Purpose κ)) : Prop :=
  (connection.pending.map (·.1)).Nodup

theorem IsDistinct.poll (distinct : connection.IsDistinct) : connection.poll.1.IsDistinct :=
  nodup_after distinct (fun looks => nomatch looks : connection.Returns .poll)

/-- Steps on documents send no requests. -/
theorem IsDistinct.sync (distinct : connection.IsDistinct) (documents : Documents)
    (step : Documents → Except ClientError (Documents × DocumentNotice))
    : (connection.sync documents step).1.IsDistinct := by
  obtain ⟨after, synced, result, written, cases⟩ := connection.sync_cases documents step
  rw [written]
  cases cases <;> exact distinct

/-- A question is a request under an id that is free. -/
theorem IsDistinct.ask (distinct : connection.IsDistinct)
    (free : connection.isReady = true → connection.HasFreeId) (uri : String) (question : Question)
    (purpose : Purpose κ)
    : (connection.ask uri question purpose).1.IsDistinct := by
  unfold Connection.ask
  split
  · next ready =>
      have returns
          : connection.Returns
              (.request question.method (some (question.params uri)) purpose) :=
        fun _ => free ready
      exact nodup_after distinct returns
  · exact distinct

/-- Where nothing waits, the request that opens the session finds an id. -/
theorem isDistinct_of_opened {host : Host τ} {after : Connection τ (Purpose κ)}
    {rootUri : Option String} {options : Option Json} {result : Except ClientError Nat}
    (opened : Workspace.openSession host connection rootUri options = (after, result))
    (nobody : connection.pending = [])
    : after.IsDistinct := by
  have distinct : connection.IsDistinct := by
    rw [IsDistinct, nobody]
    exact List.nodup_nil
  have returns
      : connection.Returns
          (.openSession (Message.opening host.processId rootUri options) .session) := by
    refine fun _ => hasFreeId_of_few ?_
    rw [nobody]
    exact Nat.succ_pos _
  obtain rfl : (Workspace.openSession host connection rootUri options).1 = after :=
    congrArg (·.1) opened
  exact nodup_after distinct returns

end Connection

namespace Server

/-- What a server has learnt was passed on. -/
structure IsSettled (server : Server τ κ) : Prop where
  answers : server.connection.answers = []
  notices : server.connection.notices = []

theorem isSettled_kept
    : Kept (fun _ => True) (fun _ _ => True) (IsSettled : Server τ κ → Prop) IsSettled where
  acted _ _ _ _ _ := ⟨rfl, rfl⟩
  disturbed _ settled := ⟨settled.answers, settled.notices⟩
  begun := id
  polled _ _ := ⟨rfl, rfl⟩
  flushed _ := ⟨rfl, rfl⟩
  rehosted _ := trivial
  launched _ _ := ⟨rfl, rfl⟩
  restarted _ _ _ _ _ := ⟨rfl, rfl⟩

/-- The requests of a server that wait have different ids. -/
def IsDistinct (server : Server τ κ) : Prop :=
  server.connection.IsDistinct

/-- Whatever is done but asking questions keeps the ids different: the other requests are sent where
nothing waits.
-/
theorem isDistinct_kept
    : Kept (fun _ => True) (fun operation _ => ∀ path question ticket,
          operation ≠ .ask path question ticket)
        (IsDistinct : Server τ κ → Prop) IsDistinct := by
  refine { acted := ?acted, disturbed := ?disturbed, begun := ?begun, polled := ?polled,
           flushed := ?flushed, rehosted := ?rehosted, launched := ?launched,
           restarted := ?restarted }
  case acted =>
    intro _ _ _ _ server last unasked _ _ acted distinct
    change last.connection.IsDistinct
    rcases acted_connection_of_unasked acted unasked with same | ⟨step, same⟩ <;> rw [same]
    · exact distinct
    · exact Connection.IsDistinct.sync distinct _ _
  case disturbed => exact fun _ distinct => distinct
  case begun => exact id
  case polled => exact fun _ distinct => Connection.IsDistinct.poll distinct
  case flushed =>
    intro server distinct
    exact flush_connection (P := fun connection => connection.IsDistinct)
      (fun _ documents step distinct => distinct.sync documents step) distinct
  case rehosted => exact fun _ => trivial
  case launched =>
    intro workspace name path server _ start
    cases start with
    | @mk _ _ connection _ _ _ opened =>
        have distinct : connection.IsDistinct := Connection.isDistinct_of_opened opened (by rfl)
        exact distinct
  case restarted =>
    intro server transport host options _ _ _
    let lost := Workspace.withTransport server.polled.connection.reset transport
    have opened
        : Workspace.openSession host lost server.polled.rootUri options
          = ((Workspace.openSession host lost server.polled.rootUri options).1,
              (Workspace.openSession host lost server.polled.rootUri options).2) := rfl
    have distinct := Connection.isDistinct_of_opened opened (by rfl)
    exact distinct

end Server

namespace Workspace

/-- An operation comes to an end: where it asks a server something, some id is free for the request.
Requests that open sessions are sent where nothing waits, and need no such condition.
-/
def Returns (workspace : Workspace τ κ) : Operation τ κ → Prop
  | .ask path _ _ =>
      ∀ name uri server,
        workspace.lookup path = .ok (some (name, uri)) →
          workspace.servers.get? name = some server → server.connection.isReady = true →
            server.connection.HasFreeId
  | .shutdown _ =>
      ∀ name server,
        workspace.servers.get? name = some server → server.connection.isReady = true →
          server.connection.HasFreeId
  | _ => True

/-- Every operation of a run comes to an end. -/
def RunReturns (workspace : Workspace τ κ) : List (Operation τ κ) → Prop
  | [] => True
  | operation :: rest =>
      workspace.Returns operation ∧ (workspace.after operation).RunReturns rest

variable {workspace : Workspace τ κ}

theorem runReturns_append {first second : List (Operation τ κ)}
    : workspace.RunReturns (first ++ second)
      ↔ workspace.RunReturns first ∧ (workspace.run first).RunReturns second := by
  induction first generalizing workspace with
  | nil => simp [RunReturns, run]
  | cons operation rest ih => simp [RunReturns, run, ih, and_assoc]

/-- The ids of those that wait stay different, as long as operations come to an end. -/
theorem isDistinct_after {operation : Operation τ κ} {name : String}
    (returns : workspace.Returns operation) (runs : (workspace.slot name).Runs Server.IsDistinct)
    : ((workspace.after operation).slot name).Runs Server.IsDistinct := by
  by_cases asks : ∃ path question ticket, operation = .ask path question ticket
  · obtain ⟨path, question, ticket, rfl⟩ := asks
    have change := workspace.slot_after (.ask path question ticket) name
    generalize (workspace.after (.ask path question ticket)).slot name = slot at change ⊢
    generalize (workspace.perform (.ask path question ticket)).2 = outcome at change
    cases change with
    | apart | unserved => exact runs
    | acted about looked running acted =>
        obtain ⟨distinct, enabled⟩ := runs _ running
        cases about
        cases acted
        exact Slot.runs_of_some rfl
          (Connection.IsDistinct.ask distinct (returns _ _ _ looked running) _ _ _) enabled
  · exact Server.isDistinct_kept.slot_after trivial
      (fun path question ticket same => asks ⟨path, question, ticket, same⟩) runs

/-- Induction on the operations. -/
theorem isDistinct_run {operations : List (Operation τ κ)}
    (returns : workspace.RunReturns operations)
    (runs : ∀ name, (workspace.slot name).Runs Server.IsDistinct)
    : ∀ name, ((workspace.run operations).slot name).Runs Server.IsDistinct := by
  induction operations generalizing workspace with
  | nil => exact runs
  | cons operation rest ih =>
      exact ih returns.2 fun name => isDistinct_after returns.1 (runs name)

/-- Between operations, all servers have passed on what they have learnt. -/
theorem isSettled_run {operations : List (Operation τ κ)}
    (runs : ∀ name, (workspace.slot name).Runs Server.IsSettled)
    : ∀ name, ((workspace.run operations).slot name).Runs Server.IsSettled :=
  Server.isSettled_kept.run (fun _ _ _ => trivial) trivial runs

end Workspace

end LanguageClient
