import LanguageClient.Workspace.Operations

/-! Runs of a workspace: what an editor does with it, in any order, on a machine and over transports
that may change between the operations.
-/

namespace LanguageClient.Workspace

variable {τ κ : Type} [SupervisedTransport τ]

/-- What is done with a workspace. The last two cases are what happens by itself: another machine
launches servers from now on, and the transport of a server changes.
-/
inductive Operation (τ κ : Type) where
  | ensureServer (name : String) (path : Path)
  | openDocument (path : Path) (text : String)
  | changeDocument (path : Path) (text : String)
  | saveDocument (path : Path) (text : Option String)
  | closeDocument (path : Path)
  | ask (path : Path) (question : Question) (ticket : κ)
  | poll (budget : Nat)
  | takeEvents
  | shutdown (patience : String → τ → Nat)
  | rehost (host : Host τ)
  | disturb (name : String) (change : τ → τ)

/-- What an operation answers. -/
inductive Outcome where
  | opened (result : Except ClientError (Option String))
  | numbered (result : Except ClientError (Option Nat))
  | finished (result : Except ClientError Unit)
  | polled (count : Nat)
  | told (events : List Event)
  | done

/-- An operation succeeded. -/
def Outcome.isOk : Outcome → Bool
  | .opened result => result.isOk
  | .numbered result => result.isOk
  | .finished result => result.isOk
  | .polled _ | .told _ | .done => true

/-- Change the transport of a server that runs. -/
def disturb (workspace : Workspace τ κ) (name : String) (change : τ → τ) : Workspace τ κ :=
  match workspace.servers.get? name with
  | none => workspace
  | some server =>
      let connection := withTransport server.connection (change server.connection.transport)
      { workspace with servers := workspace.servers.insert name { server with connection } }

/-- Do something with a workspace. -/
def perform (workspace : Workspace τ κ) : Operation τ κ → Workspace τ κ × Outcome
  | .ensureServer name path =>
      ((workspace.ensureServer name path).1, .finished (workspace.ensureServer name path).2)
  | .openDocument path text =>
      ((workspace.openDocument path text).1, .opened (workspace.openDocument path text).2)
  | .changeDocument path text =>
      ((workspace.changeDocument path text).1, .numbered (workspace.changeDocument path text).2)
  | .saveDocument path text =>
      ((workspace.saveDocument path text).1, .finished (workspace.saveDocument path text).2)
  | .closeDocument path =>
      ((workspace.closeDocument path).1, .finished (workspace.closeDocument path).2)
  | .ask path question ticket =>
      ((workspace.ask path question ticket).1, .numbered (workspace.ask path question ticket).2)
  | .poll budget => ((workspace.poll budget).1, .polled (workspace.poll budget).2)
  | .takeEvents => (workspace.takeEvents.1, .told workspace.takeEvents.2)
  | .shutdown patience => (workspace.shutdownWithin patience, .done)
  | .rehost host => ({ workspace with host }, .done)
  | .disturb name change => (workspace.disturb name change, .done)

/-- The workspace after an operation. -/
def after (workspace : Workspace τ κ) (operation : Operation τ κ) : Workspace τ κ :=
  (workspace.perform operation).1

/-- The workspace after a run. -/
def run (workspace : Workspace τ κ) (operations : List (Operation τ κ)) : Workspace τ κ :=
  operations.foldl after workspace

/-- What holds at first and is kept by every operation of a run holds after it. -/
theorem run_induction {P : Workspace τ κ → Prop} {operations : List (Operation τ κ)}
    (kept
      : ∀ workspace, ∀ operation ∈ operations, P workspace → P (workspace.after operation))
    {workspace : Workspace τ κ} (start : P workspace)
    : P (workspace.run operations) := by
  induction operations generalizing workspace with
  | nil => exact start
  | cons operation rest ih =>
      refine ih (fun workspace other member => ?_) (kept workspace operation ?_ start)
      · exact kept workspace other (List.mem_cons_of_mem _ member)
      · exact List.mem_cons_self

/-- The path that an operation is about, where it is about a document. -/
def Operation.path? : Operation τ κ → Option Path
  | .openDocument path _
  | .changeDocument path _
  | .saveDocument path _
  | .closeDocument path
  | .ask path _ _ => some path
  | _ => none

end LanguageClient.Workspace
