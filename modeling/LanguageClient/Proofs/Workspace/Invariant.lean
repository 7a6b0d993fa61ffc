import LanguageClient.Proofs.Workspace.LastText

/-! Properties of single servers that every run of a workspace keeps. It is enough to look at what
is done with one server: what holds when a server is launched and is kept by each step that a
server can take holds of all servers that ever run.
-/

namespace LanguageClient

variable {τ κ : Type} [SupervisedTransport τ]

namespace Server

/-- A property lasts as long as the session of a server goes on. There are two forms of it: `calm`
between the operations of a workspace, and `busy` after messages were handled, when documents that
wait may not have been opened yet. Only operations that are fair, with what they answer, need keep
it.
-/
structure Lasting (fair : Workspace.Operation τ κ → Workspace.Outcome → Prop)
    (calm busy : Server τ κ → Prop)
    : Prop where
  acted
    : ∀ {operation : Workspace.Operation τ κ} {outcome path uri server last},
        fair operation outcome → operation.path? = some path → Uri.ofPath? path = some uri →
          Workspace.Acted uri operation server last outcome → calm server → calm last.settled
  disturbed
    : ∀ {name change server},
        fair (.disturb name change) .done → calm server →
          calm (server.withTransport (change server.connection.transport))
  begun : ∀ {server}, calm server → busy server
  polled : ∀ {server}, ¬ server.IsLost → busy server → busy server.polled
  flushed : ∀ {server}, busy server → calm server.flush.settled

/-- A property that also holds of each server that a machine launches, and holds again when a lost
server was started again.
-/
structure Kept (machine : Host τ → Prop)
    (fair : Workspace.Operation τ κ → Workspace.Outcome → Prop) (calm busy : Server τ κ → Prop)
    : Prop extends Lasting fair calm busy where
  rehosted : ∀ {host outcome}, fair (.rehost host) outcome → machine host
  launched
    : ∀ {workspace : Workspace τ κ} {name path server},
        machine workspace.host → Workspace.Launched workspace name path server →
          calm server.settled
  restarted
    : ∀ {server transport} (host : Host τ) (options : Option Json),
        server.IsLost → server.polled.restart = (transport, .ok ()) → busy server →
          busy (server.polled.restarted host options transport)

/-- A property of the servers of one name, which may depend on the name. -/
structure KeptUnder (name : String) (machine : Host τ → Prop)
    (fair : Workspace.Operation τ κ → Workspace.Outcome → Prop) (calm busy : Server τ κ → Prop)
    : Prop extends Lasting fair calm busy where
  launched
    : ∀ {workspace : Workspace τ κ} {path server},
        machine workspace.host → Workspace.Launched workspace name path server →
          calm server.settled
  restarted
    : ∀ {server transport} (host : Host τ) (options : Option Json),
        server.IsLost → server.polled.restart = (transport, .ok ()) → busy server →
          busy (server.polled.restarted host options transport)

variable {machine : Host τ → Prop}
variable {fair : Workspace.Operation τ κ → Workspace.Outcome → Prop} {calm busy : Server τ κ → Prop}

theorem Kept.under (kept : Kept machine fair calm busy) (name : String)
    : KeptUnder name machine fair calm busy :=
  { kept.toLasting with launched := kept.launched, restarted := kept.restarted }

/-- Handling messages keeps such a property. Induction on the messages. -/
theorem Lasting.handled {server last : Server τ κ} (lasting : Lasting fair calm busy)
    (handled : server.Handled last) (start : busy server)
    : busy last := by
  induction handled with
  | nothing => exact start
  | next alive _ ih => exact ih (lasting.polled alive start)

end Server

/-- A property holds of the server that runs, if one does, and the server is not disabled. -/
def Slot.Runs (calm : Server τ κ → Prop) (slot : Slot τ κ) : Prop :=
  ∀ server, slot.server = some server → calm server ∧ slot.disabled = false

namespace Slot

omit [SupervisedTransport τ]

variable {calm : Server τ κ → Prop} {slot : Slot τ κ}

theorem runs_of_none (none : slot.server = none) : slot.Runs calm :=
  fun _ running => nomatch none.symm.trans running

theorem runs_of_some {server : Server τ κ} (running : slot.server = some server)
    (holds : calm server) (enabled : slot.disabled = false)
    : slot.Runs calm := by
  intro other same
  obtain rfl := Option.some.inj (running.symm.trans same)
  exact ⟨holds, enabled⟩

end Slot

namespace Server.KeptUnder

variable {machine : Host τ → Prop}
variable {fair : Workspace.Operation τ κ → Workspace.Outcome → Prop} {calm busy : Server τ κ → Prop}
variable {name : String}

theorem slot_ensured {workspace : Workspace τ κ} {path : Path} {slot : Slot τ κ}
    {result : Except ClientError Unit} (kept : KeptUnder name machine fair calm busy)
    (launches : machine workspace.host)
    (ensured : Workspace.Ensured workspace name path slot result)
    (runs : (workspace.slot name).Runs calm)
    : slot.Runs calm := by
  cases ensured with
  | running | impossible => exact runs
  | failed absent => exact Slot.runs_of_none absent
  | refused => exact Slot.runs_of_none rfl
  | launched _ enabled start =>
      exact Slot.runs_of_some rfl (kept.launched launches start) enabled

theorem slot_polled {host : Host τ} {options : Option Json} {slot last : Slot τ κ}
    (kept : KeptUnder name machine fair calm busy) (polled : Workspace.SlotPolled host options slot last)
    (runs : slot.Runs calm)
    : last.Runs busy := by
  cases polled with
  | absent none => exact Slot.runs_of_none none
  | kept running handled =>
      obtain ⟨holds, enabled⟩ := runs _ running
      exact Slot.runs_of_some rfl (kept.handled handled (kept.begun holds)) enabled
  | recovered running handled fatal started =>
      obtain ⟨holds, enabled⟩ := runs _ running
      have lost := kept.handled handled (kept.begun holds)
      exact Slot.runs_of_some rfl (kept.restarted host options fatal started lost) enabled
  | abandoned => exact Slot.runs_of_none rfl

/-- Every fair operation keeps the property in the slot of the name. -/
theorem slot_after {workspace : Workspace τ κ} {operation : Workspace.Operation τ κ}
    (kept : KeptUnder name machine fair calm busy) (launches : machine workspace.host)
    (fairly : fair operation (workspace.perform operation).2)
    (runs : (workspace.slot name).Runs calm)
    : ((workspace.after operation).slot name).Runs calm := by
  have change := workspace.slot_after operation name
  generalize (workspace.after operation).slot name = slot at change ⊢
  generalize (workspace.perform operation).2 = outcome at change fairly
  cases change with
  | apart | unserved | undisturbed => exact runs
  | ensured ensured | unopened _ ensured => exact kept.slot_ensured launches ensured runs
  | launched looked _ enabled start acted =>
      obtain ⟨_, located⟩ := Workspace.of_lookup looked
      have holds := kept.acted fairly rfl located acted (kept.launched launches start)
      exact Slot.runs_of_some rfl holds enabled
  | acted about looked running acted =>
      obtain ⟨_, located⟩ := Workspace.of_lookup looked
      obtain ⟨holds, enabled⟩ := runs _ running
      exact Slot.runs_of_some rfl (kept.acted fairly about located acted holds) enabled
  | polled polled =>
      intro server running
      obtain ⟨before, ran, rfl⟩ := Option.map_eq_some_iff.mp running
      obtain ⟨holds, enabled⟩ := kept.slot_polled polled runs before ran
      exact ⟨kept.flushed holds, enabled⟩
  | stopped =>
      refine Slot.runs_of_none ?_
      unfold Slot.stopped
      split
      · assumption
      · rfl
  | disturbed running =>
      obtain ⟨holds, enabled⟩ := runs _ running
      exact Slot.runs_of_some rfl (kept.disturbed fairly holds) enabled

end Server.KeptUnder

namespace Server.Kept

variable {machine : Host τ → Prop}
variable {fair : Workspace.Operation τ κ → Workspace.Outcome → Prop} {calm busy : Server τ κ → Prop}

/-- Every fair operation keeps the property in every slot. -/
theorem slot_after {workspace : Workspace τ κ} {operation : Workspace.Operation τ κ} {name : String}
    (kept : Kept machine fair calm busy) (launches : machine workspace.host)
    (fairly : fair operation (workspace.perform operation).2)
    (runs : (workspace.slot name).Runs calm)
    : ((workspace.after operation).slot name).Runs calm :=
  (kept.under name).slot_after launches fairly runs

/-- Every run of fair operations keeps the property of all servers that run. -/
theorem run {workspace : Workspace τ κ} {operations : List (Workspace.Operation τ κ)}
    (kept : Kept machine fair calm busy)
    (fairly : ∀ operation ∈ operations, ∀ outcome, fair operation outcome)
    (launches : machine workspace.host) (runs : ∀ name, (workspace.slot name).Runs calm)
    : ∀ name, ((workspace.run operations).slot name).Runs calm := by
  let P (workspace : Workspace τ κ) : Prop :=
    machine workspace.host ∧ ∀ name, (workspace.slot name).Runs calm
  suffices all : P (workspace.run operations) from all.2
  refine Workspace.run_induction (P := P) ?_ ⟨launches, runs⟩
  rintro workspace operation member ⟨launches, runs⟩
  refine ⟨?_, fun name => kept.slot_after launches (fairly operation member _) (runs name)⟩
  rw [Workspace.host_after]
  cases operation with
  | rehost host => exact kept.rehosted (fairly _ member .done)
  | _ => exact launches

end Server.Kept

end LanguageClient
