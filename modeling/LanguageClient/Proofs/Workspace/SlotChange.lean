import LanguageClient.Proofs.Workspace.Slot

/-! What each operation of a workspace can do to the slot of a name, refusals and lost transports
included. All that is shown of the servers of a workspace rests on this case distinction.
-/

namespace LanguageClient.Workspace

variable {τ κ : Type} [SupervisedTransport τ]

/-- What is done with a running server for a document, and what it answers. -/
inductive Acted (uri : String) : Operation τ κ → Server τ κ → Server τ κ → Outcome → Prop
  | opened {path text server}
    : Acted uri (.openDocument path text) server (server.openDocument uri text).1
        (.opened ((server.openDocument uri text).2.map fun () => some uri))
  | changed {path text server}
    : Acted uri (.changeDocument path text) server (server.changeDocument uri text).1
        (.numbered ((server.changeDocument uri text).2.map some))
  | saved {path text server}
    : Acted uri (.saveDocument path text) server (server.saveDocument uri text).1
        (.finished (server.saveDocument uri text).2)
  | closed {path server}
    : Acted uri (.closeDocument path) server (server.closeDocument uri).1
        (.finished (server.closeDocument uri).2)
  | asked {path question ticket server}
    : Acted uri (.ask path question ticket) server
        { server with
          connection :=
            (server.connection.ask uri question (.question question.topic ticket)).1 }
        (.numbered
          ((server.connection.ask uri question (.question question.topic ticket)).2.map some))

/-- An operation concerns a name: it is about the server of that name, about a file that this server
serves, or about all servers.
-/
def Concerns (workspace : Workspace τ κ) (name : String) : Operation τ κ → Prop
  | .ensureServer other _ | .disturb other _ => other = name
  | .poll _ | .shutdown _ => True
  | .takeEvents | .rehost _ => False
  | .openDocument path _ | .changeDocument path _ | .saveDocument path _ | .closeDocument path
  | .ask path _ _ => ∃ uri, workspace.lookup path = .ok (some (name, uri))

/-- What an operation can do to the slot of a name. -/
inductive SlotChange (workspace : Workspace τ κ) (name : String)
    : Operation τ κ → Outcome → Slot τ κ → Prop
  | apart {operation outcome} (other : ¬ workspace.Concerns name operation)
    : SlotChange workspace name operation outcome (workspace.slot name)
  | ensured {path slot result} (ensured : Ensured workspace name path slot result)
    : SlotChange workspace name (.ensureServer name path) (.finished result) slot
  | unopened {path text uri slot error}
    (looked : workspace.lookup path = .ok (some (name, uri)))
    (ensured : Ensured workspace name path slot (.error error))
    : SlotChange workspace name (.openDocument path text) (.opened (.error error)) slot
  | launched {path text uri server last outcome}
    (looked : workspace.lookup path = .ok (some (name, uri)))
    (absent : workspace.servers.get? name = none)
    (enabled : workspace.disabled.contains name = false)
    (start : Launched workspace name path server)
    (acted : Acted uri (.openDocument path text) server.settled last outcome)
    : SlotChange workspace name (.openDocument path text) outcome
        { workspace.slot name with server := some last.settled }
  | unserved {operation path uri outcome} (about : operation.path? = some path)
    (looked : workspace.lookup path = .ok (some (name, uri)))
    (absent : workspace.servers.get? name = none)
    (unlaunched : ∀ text, operation ≠ .openDocument path text)
    : SlotChange workspace name operation outcome (workspace.slot name)
  | acted {operation path uri server last outcome} (about : operation.path? = some path)
    (looked : workspace.lookup path = .ok (some (name, uri)))
    (running : workspace.servers.get? name = some server)
    (acted : Acted uri operation server last outcome)
    : SlotChange workspace name operation outcome
        { workspace.slot name with server := some last.settled }
  | polled {budget count slot}
    (polled
      : SlotPolled workspace.host (workspace.options name) (workspace.slot name) slot)
    : SlotChange workspace name (.poll budget) (.polled count) slot.flushed
  | stopped {patience}
    : SlotChange workspace name (.shutdown patience) .done
        ((workspace.slot name).stopped (patience name))
  | undisturbed {change} (absent : workspace.servers.get? name = none)
    : SlotChange workspace name (.disturb name change) .done (workspace.slot name)
  | disturbed {change server} (running : workspace.servers.get? name = some server)
    : SlotChange workspace name (.disturb name change) .done
        { workspace.slot name with
          server := some (server.withTransport (change server.connection.transport)) }

/-- The machine on which a workspace runs after an operation. -/
def Operation.hostAfter (host : Host τ) : Operation τ κ → Host τ
  | .rehost other => other
  | _ => host

/-- What an operation does: to each slot one of these changes, nothing to the settings and the root,
and to the machine only what happens by itself.
-/
structure Performed (workspace : Workspace τ κ) (operation : Operation τ κ) (outcome : Outcome)
    (after : Workspace τ κ)
    : Prop where
  slots : ∀ name, SlotChange workspace name operation outcome (after.slot name)
  ground
    : after.ground = (operation.hostAfter workspace.host, workspace.settings, workspace.root)

/-- Mapping the value of a result twice maps it once. -/
theorem map_map {α β γ : Type} (result : Except ClientError α) (first : α → β) (second : β → γ)
    : (result.map first).map second = result.map fun value => second (first value) := by
  cases result <;> rfl

/-- What has only one value is the same after it was looked at as an option. -/
theorem map_some_unit (result : Except ClientError Unit)
    : ((result.map some).map fun _ => ()) = result := by
  cases result <;> rfl

omit [SupervisedTransport τ] in
/-- Looking up a file depends on the settings and on the names that are disabled. -/
theorem lookup_of_frame {before after : Workspace τ κ} (ground : after.ground = before.ground)
    (disabled : ∀ name, (after.slot name).disabled = (before.slot name).disabled)
    : after.lookup = before.lookup := by
  have settings : after.settings = before.settings := congrArg (·.2.1) ground
  funext path
  have disabled (name : String)
      : after.disabled.contains name = before.disabled.contains name := disabled name
  simp only [lookup, settings, disabled]

omit [SupervisedTransport τ] in
/-- An operation about a file concerns the server that is found for it. -/
theorem concerns_iff {workspace : Workspace τ κ} {operation : Operation τ κ} {path : Path}
    (about : operation.path? = some path) (name : String)
    : workspace.Concerns name operation
      ↔ ∃ uri, workspace.lookup path = .ok (some (name, uri)) := by
  cases operation <;> cases about <;> exact Iff.rfl

omit [SupervisedTransport τ] in
theorem clearDiagnostics_frame (workspace : Workspace τ κ) (path : Path)
    : (workspace.clearDiagnostics path).slot = workspace.slot
      ∧ (workspace.clearDiagnostics path).ground = workspace.ground
      ∧ (workspace.clearDiagnostics path).lookup = workspace.lookup := by
  unfold clearDiagnostics
  split <;> exact ⟨rfl, rfl, rfl⟩

variable {workspace start after : Workspace τ κ} {operation : Operation τ κ} {outcome : Outcome}

/-- Where an operation concerns no server, all slots stay as they are. -/
theorem Performed.idle (slots : after.slot = workspace.slot)
    (ground : after.ground = workspace.ground)
    (apart : ∀ name, ¬ workspace.Concerns name operation)
    (still : operation.hostAfter workspace.host = workspace.host)
    : Performed workspace operation outcome after :=
  ⟨fun name => slots ▸ .apart (apart name), by rw [still]; exact ground⟩

/-- Where an operation concerns one server, its slot changes, and the others stay as they are. -/
theorem OnlySlot.performed {name : String} {slot : Slot τ κ}
    (only : OnlySlot workspace after name slot)
    (here : SlotChange workspace name operation outcome slot)
    (apart : ∀ other, other ≠ name → ¬ workspace.Concerns other operation)
    (still : operation.hostAfter workspace.host = workspace.host)
    : Performed workspace operation outcome after := by
  refine ⟨fun other => ?_, by rw [still]; exact only.ground⟩
  by_cases same : other = name
  · rw [same, only.here]
    exact here
  · rw [only.elsewhere same]
    exact .apart (apart other same)

/-- What is done with the server of a file concerns that server alone. -/
theorem Attended.performed {α : Type} {path : Path} {result : Except ClientError (Option α)}
    {action : Server τ κ → String → Server τ κ × Except ClientError α}
    (answer : Except ClientError (Option α) → Outcome) (about : operation.path? = some path)
    (unlaunched : ∀ text, operation ≠ .openDocument path text)
    (acts
      : ∀ server uri,
          Acted uri operation server (action server uri).1 (answer ((action server uri).2.map some)))
    (slots : start.slot = workspace.slot) (ground : start.ground = workspace.ground)
    (lookups : start.lookup = workspace.lookup)
    (attended : Attended start path action after result)
    : Performed workspace operation (answer result) after := by
  have still : operation.hostAfter workspace.host = workspace.host := by
    cases operation <;> cases about <;> rfl
  have apart {name : String} (elsewhere : ∀ uri, start.lookup path ≠ .ok (some (name, uri)))
      : ¬ workspace.Concerns name operation := by
    rw [concerns_iff about, ← lookups]
    exact fun ⟨uri, looked⟩ => elsewhere uri looked
  have servers (name : String) : start.servers.get? name = workspace.servers.get? name :=
    congrArg Slot.server (congrFun slots name)
  have only (name : String) : OnlySlot workspace start name (workspace.slot name) :=
    .of_frame name slots ground
  cases attended with
  | unknown looked | unrouted looked =>
      exact .idle slots ground (fun _ => apart (by simp [looked])) still
  | @absent name uri looked none =>
      refine (only name).performed ?_ (fun _ other => apart (by simp [looked, Ne.symm other])) still
      exact .unserved about (lookups ▸ looked) (servers name ▸ none) unlaunched
  | @acted name uri server looked running =>
      refine ((only name).put _).performed ?_
        (fun _ other => apart (by simp [looked, Ne.symm other])) still
      exact .acted about (lookups ▸ looked) (servers name ▸ running) (acts server uri)

theorem ensureServer_performed (workspace : Workspace τ κ) (name : String) (path : Path)
    : Performed workspace (.ensureServer name path)
        (.finished (workspace.ensureServer name path).2) (workspace.ensureServer name path).1 := by
  obtain ⟨_, _, _, step, ensured, only⟩ := workspace.ensureServer_cases name path
  rw [step]
  exact only.performed (.ensured ensured) (fun _ other => Ne.symm other) rfl

/-- Opening a document launches its server where it does not run, and concerns that server alone. -/
theorem openDocument_performed (workspace : Workspace τ κ) (path : Path) (text : String)
    : Performed workspace (.openDocument path text) (.opened (workspace.openDocument path text).2)
        (workspace.openDocument path text).1 := by
  rcases looked : workspace.lookup path with error | _ | ⟨name, uri⟩
  · simp only [openDocument, looked]
    exact .idle rfl rfl (by simp [Concerns, looked]) rfl
  · simp only [openDocument, looked]
    exact .idle rfl rfl (by simp [Concerns, looked]) rfl
  · obtain ⟨middle, result, slot, step, ensured, only⟩ := workspace.ensureServer_cases name path
    have apart (other : String) (different : other ≠ name)
        : ¬ workspace.Concerns other (.openDocument path text) := by
      simp [Concerns, looked, Ne.symm different]
    rcases result with error | _
    · simp only [openDocument, looked, step]
      exact only.performed (.unopened looked ensured) apart rfl
    · -- Now the server runs, as it did before or because it was launched.
      have lookedAgain : middle.lookup path = .ok (some (name, uri)) := by
        rw [lookup_of_frame only.ground fun other => ?_, looked]
        rw [only.slot]
        split
        · next same =>
            subst same
            cases ensured <;> rfl
        · rfl
      obtain ⟨server, running, change⟩
          : ∃ server,
              middle.servers.get? name = some server
              ∧ ∀ last outcome, Acted uri (.openDocument path text) server last outcome →
                  SlotChange workspace name (.openDocument path text) outcome
                    { slot with server := some last.settled } := by
        have here := congrArg Slot.server only.here
        cases ensured with
        | @running server running =>
            exact ⟨server, here.trans running, fun _ _ acted => .acted rfl looked running acted⟩
        | @launched server absent enabled start =>
            exact ⟨server.settled, here, fun _ _ acted => .launched looked absent enabled start acted⟩
      simp only [openDocument, looked, step, withServer, lookedAgain, running, map_map]
      exact (only.put _).performed (change _ _ .opened) apart rfl

theorem disturb_performed (workspace : Workspace τ κ) (name : String) (change : τ → τ)
    : Performed workspace (.disturb name change) .done (workspace.disturb name change) := by
  have apart (other : String) (different : other ≠ name)
      : ¬ workspace.Concerns other (.disturb name change) := Ne.symm different
  cases running : workspace.servers.get? name with
  | none =>
      have idle : OnlySlot workspace (workspace.disturb name change) name (workspace.slot name) := by
        simp only [disturb, running]
        exact .of_frame name rfl rfl
      exact idle.performed (.undisturbed running) apart rfl
  | some server =>
      have only
          : OnlySlot workspace (workspace.disturb name change) name
              { workspace.slot name with
                server := some (server.withTransport (change server.connection.transport)) } := by
        simp only [disturb, running]
        refine ⟨fun other => ?_, rfl⟩
        by_cases same : other = name <;>
          simp [slot, Table.get?_insert, Server.withTransport, same]
      exact only.performed (.disturbed running) apart rfl

/-- What is done with a workspace, refusals included, changes its slots as above and nothing else. -/
theorem performed (workspace : Workspace τ κ) (operation : Operation τ κ)
    : Performed workspace operation (workspace.perform operation).2 (workspace.after operation) := by
  cases operation with
  | openDocument path text => exact workspace.openDocument_performed path text
  | ensureServer name path => exact workspace.ensureServer_performed name path
  | disturb name change => exact workspace.disturb_performed name change
  | takeEvents | rehost => exact ⟨fun _ => .apart (by simp [Concerns]), rfl⟩
  | changeDocument path text =>
      obtain ⟨_, _, step, attended⟩ :=
        workspace.withServer_cases path fun server uri => server.changeDocument uri text
      simp only [after, perform, changeDocument, step]
      exact attended.performed .numbered rfl (by simp) (fun _ _ => .changed) rfl rfl rfl
  | saveDocument path text =>
      obtain ⟨_, _, step, attended⟩ :=
        workspace.withServer_cases path fun server uri => server.saveDocument uri text
      simp only [after, perform, saveDocument, step]
      refine attended.performed (fun result => .finished (result.map fun _ => ())) rfl (by simp)
        (fun _ _ => ?_) rfl rfl rfl
      rw [map_some_unit]
      exact .saved
  | closeDocument path =>
      obtain ⟨_, _, step, attended⟩ :=
        (workspace.clearDiagnostics path).withServer_cases path fun server uri =>
          server.closeDocument uri
      obtain ⟨slots, ground, lookups⟩ := workspace.clearDiagnostics_frame path
      simp only [after, perform, closeDocument, step]
      refine attended.performed (fun result => .finished (result.map fun _ => ())) rfl (by simp)
        (fun _ _ => ?_) slots ground lookups
      rw [map_some_unit]
      exact .closed
  | ask path question ticket =>
      obtain ⟨_, _, step, attended⟩ :=
        workspace.withServer_cases path fun server uri =>
          (({ server with
              connection :=
                (server.connection.ask uri question (.question question.topic ticket)).1 }
              : Server τ κ),
            (server.connection.ask uri question (.question question.topic ticket)).2)
      simp only [after, perform, ask, step]
      exact attended.performed .numbered rfl (by simp) (fun _ _ => .asked) rfl rfl rfl
  | poll budget =>
      refine ⟨fun name => ?_, workspace.poll_ground budget⟩
      obtain ⟨slot, polled, same⟩ := workspace.poll_slot budget name
      simp only [after, perform, same]
      exact .polled polled
  | shutdown patience =>
      refine ⟨fun name => ?_, workspace.shutdownWithin_ground patience⟩
      simp only [after, perform, workspace.shutdownWithin_slot]
      exact .stopped

/-- The slot of a name after an operation is one of those to which the operation can lead. -/
theorem slot_after (workspace : Workspace τ κ) (operation : Operation τ κ) (name : String)
    : SlotChange workspace name operation (workspace.perform operation).2
        ((workspace.after operation).slot name) :=
  (workspace.performed operation).slots name

theorem settings_after (workspace : Workspace τ κ) (operation : Operation τ κ)
    : (workspace.after operation).settings = workspace.settings :=
  congrArg (·.2.1) (workspace.performed operation).ground

theorem host_after (workspace : Workspace τ κ) (operation : Operation τ κ)
    : (workspace.after operation).host = operation.hostAfter workspace.host :=
  congrArg (·.1) (workspace.performed operation).ground

end LanguageClient.Workspace
