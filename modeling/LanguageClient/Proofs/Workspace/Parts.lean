import LanguageClient.Proofs.Workspace.SlotChange

/-! Handling messages and stopping servers are put together from few parts: a server is put back, a
lost one is started again or given up, a server is parted with, and notifications are looked at. What
each part keeps, the whole keeps.
-/

namespace LanguageClient.Workspace

variable {τ κ : Type} [SupervisedTransport τ]

/-- A property of workspaces is kept by the parts of which handling messages consists. -/
structure KeptByParts (P : Workspace τ κ → Prop) : Prop where
  put
    : ∀ {workspace name server} last,
        workspace.servers.get? name = some server → P workspace → P (workspace.put name last)
  recovered
    : ∀ {workspace name server},
        workspace.servers.get? name = some server → P workspace → P (workspace.recover name)
  noticed : ∀ {workspace} notice, P workspace → P (workspace.handleNotice notice)
  emptied : ∀ {workspace}, P workspace → P { workspace with inbox := [] }

/-- A lost server whose transport was started again is put back with a new session. -/
theorem recover_of_started {workspace : Workspace τ κ} {name : String} {lost : Server τ κ}
    {transport : τ} (running : workspace.servers.get? name = some lost)
    (started : lost.restart = (transport, .ok ()))
    : workspace.recover name
      = (workspace.put name
            { lost with
              connection :=
                (openSession workspace.host (withTransport lost.connection.reset transport)
                  lost.rootUri (workspace.options name)).1
              documents := .empty
              queued := [] }).report
          (.restarted name) := by
  simp only [Server.restart] at started
  simp only [recover, running, Connection.reset, Connection.failPending, started]
  rfl

/-- A lost server whose transport cannot be started again is parted with and disabled. -/
theorem recover_of_spent {workspace : Workspace τ κ} {name : String} {lost : Server τ κ}
    {transport : τ} {error : ClientError} (running : workspace.servers.get? name = some lost)
    (started : lost.restart = (transport, .error error))
    : workspace.recover name
      = (workspace.release name
            (withTransport lost.connection.reset (SupervisedTransport.stop transport))).disable
          name error.message := by
  simp only [Server.restart] at started
  simp only [recover, running, Connection.reset, Connection.failPending, started]

/-- A lost server is put back with a new session, or parted with and disabled. -/
theorem recover_parts {workspace : Workspace τ κ} {name : String} {lost : Server τ κ}
    (running : workspace.servers.get? name = some lost)
    : (∃ last, workspace.recover name = (workspace.put name last).report (.restarted name))
      ∨ ∃ connection reason,
          workspace.recover name = (workspace.release name connection).disable name reason := by
  rcases started : lost.restart with ⟨transport, error | _⟩
  · exact .inr ⟨_, _, recover_of_spent running started⟩
  · exact .inl ⟨_, recover_of_started running started⟩

namespace KeptByParts

variable {P : Workspace τ κ → Prop} {workspace : Workspace τ κ}

/-- Induction on the budget. -/
theorem pollServer (parts : KeptByParts P) (name : String) (budget : Nat) (start : P workspace)
    : P (pollServer name workspace budget).1 := by
  induction budget generalizing workspace with
  | zero => exact start
  | succ budget ih =>
      cases running : workspace.servers.get? name with
      | none => simpa only [Workspace.pollServer, running] using start
      | some server =>
          let last : Server τ κ := { server with connection := server.connection.poll.1 }
          have polled : P (workspace.put name last) := parts.put last running start
          rcases pollServer_succ_cases running budget with
            ⟨_, same⟩ | ⟨_, same | same⟩ <;> rw [same]
          · exact parts.recovered (workspace.get?_put name last) polled
          · exact polled
          · exact ih polled

theorem flush (parts : KeptByParts P) (name : String) (start : P workspace)
    : P (workspace.flush name) := by
  cases running : workspace.servers.get? name with
  | none => simpa only [Workspace.flush, running] using start
  | some server =>
      have put := parts.put server.flush running start
      simpa only [Workspace.flush, running] using put

/-- Induction on the notifications. -/
theorem drain (parts : KeptByParts P) (start : P workspace) : P workspace.drain := by
  have emptied := parts.emptied start
  unfold Workspace.drain
  generalize { workspace with inbox := [] } = next at emptied
  induction workspace.inbox generalizing next with
  | nil => exact emptied
  | cons notice rest ih => exact ih _ (parts.noticed notice emptied)

/-- Induction on the names of the servers. -/
theorem poll (parts : KeptByParts P) (budget : Nat) (start : P workspace)
    : P (workspace.poll budget).1 := by
  suffices ∀ (names : List String) (state : Workspace τ κ × Nat),
      P state.1 → P (names.foldl pollNext state).1 from
    parts.drain (this workspace.servers.keys (workspace, budget) start)
  intro names
  induction names with
  | nil => exact fun _ start => start
  | cons name rest ih =>
      intro state start
      exact ih _ (parts.flush name (parts.pollServer name state.2 start))

/-- Induction on the servers. -/
theorem shutdownWithin (parts : KeptByParts P) (patience : String → τ → Nat)
    (stopped : ∀ {workspace} entry, P workspace → P (stopServer patience workspace entry))
    (start : P workspace)
    : P (workspace.shutdownWithin patience) := by
  refine parts.drain ?_
  generalize workspace.servers.entries = entries
  induction entries generalizing workspace with
  | nil => exact start
  | cons entry rest ih => exact ih (stopped entry start)

end KeptByParts

end LanguageClient.Workspace
