import LanguageClient.Proofs.Workspace.Concluded

/-! Handling messages in slices: what waits is handled in one order, as much of it as the budget
allows, so that two budgets come to the same as their sum.
-/

namespace LanguageClient

namespace Server

variable {κ : Type} {server : Server Mailbox κ}

/-- A server has passed on what it has learnt, and no error that waits tells of the loss of its
transport.
-/
structure IsQuiet (server : Server Mailbox κ) : Prop where
  settled : server.IsSettled
  calm : server.connection.transport.IsCalm

end Server

namespace Workspace

variable {κ : Type} {workspace : Workspace Mailbox κ}

-----------------------------------------------------------------------------------------
-- What waits to be handled
-----------------------------------------------------------------------------------------

/-- What waits to be handled of one server. -/
def waitingOf (workspace : Workspace Mailbox κ) (name : String)
    : List (String × Except ClientError Bytes) :=
  match workspace.servers.get? name with
  | some server => server.connection.transport.inbound.map (name, ·)
  | none => []

/-- What waits to be handled, server by server in the order of their names. -/
def inbound (workspace : Workspace Mailbox κ) : List (String × Except ClientError Bytes) :=
  workspace.servers.keys.flatMap workspace.waitingOf

theorem waitingOf_of_running {name : String} {server : Server Mailbox κ}
    (running : workspace.servers.get? name = some server)
    : workspace.waitingOf name = server.connection.transport.inbound.map (name, ·) := by
  simp only [waitingOf, running]

theorem waitingOf_own (workspace : Workspace Mailbox κ) (name : String)
    : ∀ entry ∈ workspace.waitingOf name, entry.1 = name := by
  intro entry member
  unfold waitingOf at member
  split at member
  · obtain ⟨_, _, rfl⟩ := List.mem_map.mp member
    rfl
  · exact nomatch member

theorem waitingOf_put (workspace : Workspace Mailbox κ) (name : String) (server : Server Mailbox κ)
    (other : String)
    : (workspace.put name server).waitingOf other
      = if other = name then server.connection.transport.inbound.map (name, ·)
        else workspace.waitingOf other := by
  have found := congrArg Slot.server (workspace.slot_put name server other)
  split
  · next same =>
      subst same
      rw [if_pos rfl] at found
      rw [waitingOf_of_running found]
      rfl
  · next apart =>
      rw [if_neg apart] at found
      have found : (workspace.put name server).servers.get? other = workspace.servers.get? other :=
        found
      simp only [waitingOf, found]

/-- Handling a message of a server takes it away from what waits. -/
theorem waitingOf_hear (workspace : Workspace Mailbox κ) (name other : String)
    : (workspace.hear name).waitingOf other
      = if other = name then (workspace.waitingOf other).tail else workspace.waitingOf other := by
  cases running : workspace.servers.get? name with
  | none =>
      simp only [hear, running]
      split
      · next same =>
          have nothing : workspace.waitingOf other = [] := by simp only [waitingOf, same, running]
          rw [nothing]
          rfl
      · rfl
  | some server =>
      simp only [hear, running]
      rw [waitingOf_put]
      split
      · next same =>
          have taken : server.heard.connection.transport.inbound
              = server.connection.transport.inbound.tail := server.connection.poll_inbound
          rw [same, waitingOf_of_running running, taken, List.map_tail]
      · rfl

/-- Induction on the messages. -/
theorem waitingOf_foldl_hear (workspace : Workspace Mailbox κ) {names : List String}
    {other : String} (apart : other ∉ names)
    : (names.foldl hear workspace).waitingOf other = workspace.waitingOf other := by
  induction names generalizing workspace with
  | nil => rfl
  | cons name rest ih =>
      obtain ⟨different, apart⟩ := not_or.mp (mt List.mem_cons.mpr apart)
      rw [List.foldl_cons, ih _ apart, waitingOf_hear, if_neg different]

/-- Opening documents takes nothing of what waits. -/
theorem waitingOf_flush (workspace : Workspace Mailbox κ) (name other : String)
    : (workspace.flush name).waitingOf other = workspace.waitingOf other := by
  unfold flush
  split
  · next server running =>
      rw [waitingOf_put]
      split
      · next same => rw [same, waitingOf_of_running running, Server.flush_inbound]
      · rfl
  · rfl

theorem keys_put {name : String} {old : Server Mailbox κ}
    (running : workspace.servers.get? name = some old) (server : Server Mailbox κ)
    : (workspace.put name server).servers.keys = workspace.servers.keys :=
  Table.keys_insert running _

theorem keys_hear (workspace : Workspace Mailbox κ) (name : String)
    : (workspace.hear name).servers.keys = workspace.servers.keys := by
  unfold hear
  split
  · next running => exact keys_put running _
  · rfl

/-- What waits longest is the next message of its server, and when that is handled, the others wait.
-/
theorem inbound_cons {name : String} {item : Except ClientError Bytes}
    {rest : List (String × Except ClientError Bytes)}
    (waiting : workspace.inbound = (name, item) :: rest)
    : (∃ server own,
        workspace.servers.get? name = some server
        ∧ server.connection.transport.inbound = item :: own)
      ∧ (workspace.hear name).inbound = rest := by
  obtain ⟨⟨others, first⟩, taken⟩ :=
    Table.flatMap_of_first workspace.servers.nodup_keys workspace.waitingOf_own waiting
  refine ⟨?_, ?_⟩
  · cases running : workspace.servers.get? name with
    | none =>
        simp only [waitingOf, running] at first
        exact nomatch first
    | some server =>
        rw [waitingOf_of_running running] at first
        obtain ⟨own, more, inbound, same, _⟩ := List.map_eq_cons_iff.mp first
        obtain ⟨_, rfl⟩ := Prod.mk.inj same
        exact ⟨server, more, rfl, inbound⟩
  · rw [inbound, keys_hear, ← taken]
    exact List.flatMap_congr fun other _ => workspace.waitingOf_hear name other

/-- Some messages are handled one after the other, each of them the next one of its server. -/
inductive Hears
    : Workspace Mailbox κ → List (String × Except ClientError Bytes) → Workspace Mailbox κ → Prop
  | nothing {start} : Hears start [] start
  | next {start last name server item own rest} (running : start.servers.get? name = some server)
    (waiting : server.connection.transport.inbound = item :: own)
    (later : Hears (start.put name server.heard) rest last)
    : Hears start ((name, item) :: rest) last

/-- Handling what waits in its order. Induction on how much is handled. -/
theorem hears_inbound (workspace : Workspace Mailbox κ) (count : Nat)
    : let last := ((workspace.inbound.take count).map (·.1)).foldl hear workspace
      workspace.Hears (workspace.inbound.take count) last
      ∧ last.inbound = workspace.inbound.drop count := by
  induction count generalizing workspace with
  | zero => exact ⟨.nothing, rfl⟩
  | succ count ih =>
      cases waiting : workspace.inbound with
      | nil => exact ⟨.nothing, waiting⟩
      | cons entry rest =>
          obtain ⟨name, item⟩ := entry
          obtain ⟨⟨server, own, running, first⟩, taken⟩ := inbound_cons waiting
          have heard : workspace.hear name = workspace.put name server.heard := by
            simp only [hear, running]
          obtain ⟨hears, left⟩ := ih (workspace.hear name)
          rw [taken] at hears left
          rw [heard] at hears
          exact ⟨.next running first (heard ▸ hears), left⟩

-----------------------------------------------------------------------------------------
-- Quiet workspaces
-----------------------------------------------------------------------------------------

/-- All servers that run are quiet. -/
def IsQuiet (workspace : Workspace Mailbox κ) : Prop :=
  ∀ name server, workspace.servers.get? name = some server → server.IsQuiet

/-- A server that is put back passes on what it has learnt. -/
theorem IsQuiet.put (quiet : workspace.IsQuiet) (name : String) {server : Server Mailbox κ}
    (calm : server.connection.transport.IsCalm)
    : (workspace.put name server).IsQuiet := by
  intro other found running
  have put := congrArg Slot.server (workspace.slot_put name server other)
  split at put
  · obtain rfl := Option.some.inj (running.symm.trans put)
    exact ⟨⟨rfl, rfl⟩, calm⟩
  · exact quiet other found (put.symm.trans running)

theorem IsQuiet.hear (quiet : workspace.IsQuiet) (name : String)
    : (workspace.hear name).IsQuiet := by
  unfold Workspace.hear
  split
  · next server running => exact quiet.put name (Server.calm_heard (quiet name server running).calm)
  · exact quiet

/-- Induction on the messages. -/
theorem IsQuiet.foldl_hear (quiet : workspace.IsQuiet) (names : List String)
    : (names.foldl Workspace.hear workspace).IsQuiet := by
  induction names generalizing workspace with
  | nil => exact quiet
  | cons name rest ih => exact ih (quiet.hear name)

theorem IsQuiet.flush (quiet : workspace.IsQuiet) (name : String)
    : (workspace.flush name).IsQuiet := by
  unfold Workspace.flush
  split
  · next server running => exact quiet.put name (Server.calm_flush (quiet name server running).calm)
  · exact quiet

theorem IsQuiet.concluded (quiet : workspace.IsQuiet) : workspace.concluded.IsQuiet := by
  intro name server running
  rw [concluded_servers, Table.get?_map] at running
  obtain ⟨before, found, rfl⟩ := Option.map_eq_some_iff.mp running
  have here := quiet name before found
  exact ⟨here.settled.flush, Server.calm_flush here.calm⟩

/-- Opening the documents that wait for one server makes no difference if those of all are opened at
the end.
-/
theorem flush_concluded (quiet : workspace.IsQuiet) (name : String)
    : (workspace.flush name).concluded = workspace.concluded := by
  unfold flush
  split
  · next server running =>
      have found : workspace.flushed.servers.get? name = some server.flush := by
        rw [flushed_get?, running]
        rfl
      have settled := (quiet name server running).settled.flush
      have same : (workspace.put name server.flush).flushed = workspace.flushed := by
        rw [flushed_put, Server.flush_flush, put_of_settled found settled]
      rw [concluded, same, concluded]
  · rfl

/-- What waits is not touched at the end. -/
theorem inbound_concluded (workspace : Workspace Mailbox κ)
    : workspace.concluded.inbound = workspace.inbound := by
  rw [inbound, concluded_servers, Table.keys_map]
  refine List.flatMap_congr fun name _ => ?_
  unfold waitingOf
  rw [concluded_servers, Table.get?_map]
  cases workspace.servers.get? name with
  | none => rfl
  | some server => exact congrArg (·.map (name, ·)) server.flush_inbound

-----------------------------------------------------------------------------------------
-- Handling what waits
-----------------------------------------------------------------------------------------

/-- Where nothing waits, nothing happens. -/
theorem pollServer_of_empty {name : String} {server : Server Mailbox κ}
    (running : workspace.servers.get? name = some server) (settled : server.IsSettled)
    (nothing : server.connection.transport.inbound = []) (budget : Nat)
    : pollServer name workspace (budget + 1) = (workspace, budget + 1) := by
  have idle := Connection.poll_of_empty nothing
  have same : server.heard = server := by
    rw [Server.heard, idle]
  rw [pollServer_succ running, idle, same, put_of_settled running settled]

/-- Where something waits, it is handled, and the rest of the budget is spent after it. -/
theorem pollServer_of_waiting {name : String} {server : Server Mailbox κ}
    (running : workspace.servers.get? name = some server)
    (calm : server.connection.transport.IsCalm) {item : Except ClientError Bytes}
    {rest : List (Except ClientError Bytes)}
    (waiting : server.connection.transport.inbound = item :: rest) (budget : Nat)
    : pollServer name workspace (budget + 1) = pollServer name (workspace.hear name) budget := by
  have heard : workspace.hear name = workspace.put name server.heard := by
    simp only [hear, running]
  rw [pollServer_succ running, heard]
  rcases Connection.poll_of_waiting waiting calm with handled | ⟨error, failed, bearable⟩
  · rw [handled]
  · simp only [failed, bearable, Bool.false_eq_true, if_false]

/-- Of one server, as much as the budget allows is handled in its order. Induction on the budget. -/
theorem pollServer_eq (quiet : workspace.IsQuiet) (name : String) (budget : Nat)
    : let handled := (workspace.waitingOf name).take budget
      pollServer name workspace budget
        = ((handled.map (·.1)).foldl hear workspace, budget - handled.length) := by
  induction budget generalizing workspace with
  | zero => rfl
  | succ budget ih =>
      cases running : workspace.servers.get? name with
      | none =>
          simp only [waitingOf, pollServer, running]
          rfl
      | some server =>
          obtain ⟨settled, calm⟩ := quiet name server running
          have next := ih (quiet.hear name)
          rw [waitingOf_hear, if_pos rfl, waitingOf_of_running running] at next
          rw [waitingOf_of_running running]
          cases waiting : server.connection.transport.inbound with
          | nil =>
              rw [pollServer_of_empty running settled waiting]
              rfl
          | cons item rest =>
              rw [waiting, List.map_cons, List.tail_cons] at next
              rw [pollServer_of_waiting running calm waiting, next]
              simp only [List.map_cons, List.take_succ_cons, List.foldl_cons, List.length_cons,
                Nat.add_sub_add_right]

/-- Handling the messages of some servers handles what waits of one after the other, as much as the
budget allows. Induction on the names.
-/
theorem pollNext_foldl_eq (quiet : workspace.IsQuiet) {names : List String}
    (different : names.Nodup) (budget : Nat)
    : let handled := (names.flatMap workspace.waitingOf).take budget
      let polled := names.foldl pollNext (workspace, budget)
      polled.1.concluded = ((handled.map (·.1)).foldl hear workspace).concluded
      ∧ polled.2 = budget - handled.length := by
  induction names generalizing workspace budget with
  | nil =>
      rw [List.flatMap_nil, List.take_nil]
      exact ⟨rfl, rfl⟩
  | cons name rest ih =>
      obtain ⟨fresh, restDifferent⟩ := List.nodup_cons.mp different
      let first := (workspace.waitingOf name).take budget
      let heard := (first.map (·.1)).foldl hear workspace
      have step
          : pollNext (workspace, budget) name = (heard.flush name, budget - first.length) := by
        have polled := pollServer_eq quiet name budget
        simp only [pollNext, polled]
        rfl
      have calm : heard.IsQuiet := quiet.foldl_hear _
      have untouched
          : rest.flatMap (heard.flush name).waitingOf = rest.flatMap workspace.waitingOf := by
        refine List.flatMap_congr fun other member => ?_
        rw [waitingOf_flush]
        refine waitingOf_foldl_hear workspace fun taken => fresh ?_
        obtain ⟨entry, among, rfl⟩ := List.mem_map.mp taken
        rw [waitingOf_own workspace name entry (List.mem_of_mem_take among)] at member
        exact member
      obtain ⟨concluded, left⟩ := ih (calm.flush name) restDifferent (budget - first.length)
      rw [untouched] at concluded left
      let others := (rest.flatMap workspace.waitingOf).take (budget - first.length)
      have split : ((name :: rest).flatMap workspace.waitingOf).take budget = first ++ others := by
        have length : first.length = min budget (workspace.waitingOf name).length :=
          List.length_take
        have spent : budget - (workspace.waitingOf name).length = budget - first.length := by omega
        rw [List.flatMap_cons, List.take_append, spent]
      -- The documents of this server are opened before the messages of the others are handled.
      have early
          : ((others.map (·.1)).foldl hear (heard.flush name)).concluded
            = ((others.map (·.1)).foldl hear heard).concluded := by
        rw [← concluded_foldl_hear, flush_concluded calm, concluded_foldl_hear]
      rw [List.foldl_cons, step, split]
      refine ⟨concluded.trans ?_, left.trans ?_⟩
      · rw [List.map_append, List.foldl_append]
        exact early
      · rw [List.length_append, Nat.sub_sub]

/-- Handling messages leaves no document that waits for a server that is ready. -/
theorem flushed_poll (workspace : Workspace Mailbox κ) (budget : Nat)
    : (workspace.poll budget).1.flushed = (workspace.poll budget).1 := by
  have same
      : (workspace.poll budget).1.servers.map Server.flush = (workspace.poll budget).1.servers := by
    refine Table.ext_get? fun name => ?_
    obtain ⟨slot, _, last⟩ := workspace.poll_slot budget name
    have found
        : (workspace.poll budget).1.servers.get? name
          = slot.server.map fun server => server.flush.settled := congrArg Slot.server last
    rw [Table.get?_map, found, Option.map_map]
    refine congrArg (slot.server.map ·) (funext fun server => ?_)
    exact server.flush.flush_settled.trans (congrArg Server.settled server.flush_flush)
  exact congrArg (fun servers => { (workspace.poll budget).1 with servers }) same

/-- As much of what waits is handled as the budget allows, in its order. -/
theorem poll_eq (quiet : workspace.IsQuiet) (budget : Nat)
    : workspace.poll budget
      = ((((workspace.inbound.take budget).map (·.1)).foldl hear workspace).concluded,
          min budget workspace.inbound.length) := by
  obtain ⟨concluded, left⟩ := pollNext_foldl_eq quiet workspace.servers.nodup_keys budget
  have drained
      : workspace.poll budget
        = ((workspace.servers.keys.foldl pollNext (workspace, budget)).1.drain,
            budget - (workspace.servers.keys.foldl pollNext (workspace, budget)).2) := rfl
  refine Prod.ext ?_ ?_
  · rw [← flushed_poll, drained, ← drain_flushed]
    exact concluded
  · rw [drained, left, List.length_take, inbound]
    omega

/-- Two budgets come to the same as their sum. -/
theorem poll_poll (quiet : workspace.IsQuiet) (budget more : Nat)
    : workspace.poll (budget + more)
      = (((workspace.poll budget).1.poll more).1,
          (workspace.poll budget).2 + ((workspace.poll budget).1.poll more).2) := by
  let heard := ((workspace.inbound.take budget).map (·.1)).foldl hear workspace
  have calm : heard.IsQuiet := quiet.foldl_hear _
  have early : workspace.poll budget = (heard.concluded, min budget workspace.inbound.length) :=
    poll_eq quiet budget
  have left : heard.concluded.inbound = workspace.inbound.drop budget :=
    (inbound_concluded _).trans (workspace.hears_inbound budget).2
  have late
      : heard.concluded.poll more
        = (((((workspace.inbound.drop budget).take more).map (·.1)).foldl hear
              heard.concluded).concluded,
            min more (workspace.inbound.drop budget).length) := by
    have polled := poll_eq calm.concluded more
    rwa [left] at polled
  rw [early, late, poll_eq quiet]
  refine Prod.ext ?_ ?_
  · rw [List.take_add, List.map_append, List.foldl_append, concluded_foldl_hear]
  · have length : (workspace.inbound.drop budget).length = workspace.inbound.length - budget :=
      List.length_drop
    change min (budget + more) workspace.inbound.length
      = min budget workspace.inbound.length + min more (workspace.inbound.drop budget).length
    omega

/-- The names of what waits ascend. -/
theorem inbound_ordered (workspace : Workspace Mailbox κ)
    : workspace.inbound.Pairwise (·.1 ≤ ·.1) := by
  refine List.pairwise_flatMap.mpr ⟨fun name _ => ?_, ?_⟩
  · refine List.pairwise_of_forall_mem_list fun first here second there => ?_
    have same : first.1 = second.1 :=
      (workspace.waitingOf_own name first here).trans
        (workspace.waitingOf_own name second there).symm
    exact same ▸ Std.le_refl first.1
  · have ascending : workspace.servers.keys.Pairwise (· < ·) :=
      List.pairwise_map.mpr workspace.servers.ascending
    refine ascending.imp fun less first here second there => ?_
    rw [workspace.waitingOf_own _ first here, workspace.waitingOf_own _ second there]
    exact Std.le_of_lt less

-----------------------------------------------------------------------------------------
-- Workspaces that came about by operations
-----------------------------------------------------------------------------------------

variable {τ : Type} [SupervisedTransport τ] [MailboxTransport τ]

/-- Between operations, what is seen of a workspace whose servers are steady is quiet. -/
theorem IsSteady.isQuiet {start : Workspace τ κ} (steady : start.IsSteady)
    (settled : ∀ name, (start.slot name).Runs Server.IsSettled)
    : start.seen.IsQuiet := by
  intro name server running
  rw [seen_get?] at running
  obtain ⟨own, found, rfl⟩ := Option.map_eq_some_iff.mp running
  have rest : own.IsSettled := (settled name own found).1
  exact ⟨⟨rest.answers, rest.notices⟩, (steady name own found).calm⟩

/-- Handling messages in slices is handling them at once, as long as no transport dies. As much of
what waits is handled as the budget allows, server by server in the order of their names and of each
in the order in which it came; and two budgets, one after the other, count the same messages and
leave the same workspace as their sum, but for the order in which messages were sent.
-/
theorem poll_in_slices (host : Host τ) (settings : Settings) (root : Option Path)
    (operations : List (Operation τ κ)) (budget more : Nat)
    (steady : ((fresh host settings root : Workspace τ κ).run operations).IsSteady)
    : let workspace : Workspace τ κ := (fresh host settings root).run operations
      let waiting := workspace.seen.inbound
      let first := workspace.poll budget
      let second := first.1.poll more
      let whole := workspace.poll (budget + more)
      first.2 = min budget waiting.length
      ∧ waiting.Pairwise (·.1 ≤ ·.1)
      ∧ (∃ heard, workspace.seen.Hears (waiting.take budget) heard ∧ first.1.seen = heard.concluded)
      ∧ first.1.seen.inbound = waiting.drop budget
      ∧ first.2 + second.2 = whole.2
      ∧ second.1.seen = whole.1.seen := by
  intro workspace waiting first second whole
  have settled : ∀ name, (workspace.slot name).Runs Server.IsSettled :=
    isSettled_run fun _ => Slot.runs_of_none rfl
  have quiet : workspace.seen.IsQuiet := steady.isQuiet settled
  obtain ⟨seenFirst, steadyFirst⟩ := seen_poll steady budget
  have seenSecond := (seen_poll steadyFirst more).1
  have seenWhole := (seen_poll steady (budget + more)).1
  have sum := poll_poll quiet budget more
  rw [seenFirst, seenSecond, seenWhole] at sum
  obtain ⟨same, counts⟩ := Prod.mk.inj sum
  obtain ⟨state, count⟩ := Prod.mk.inj (seenFirst.symm.trans (poll_eq quiet budget))
  obtain ⟨hears, left⟩ := workspace.seen.hears_inbound budget
  refine ⟨count, workspace.seen.inbound_ordered, ⟨_, hears, state⟩, ?_, counts.symm, same.symm⟩
  exact (congrArg inbound state).trans ((inbound_concluded _).trans left)

/-- A document is opened, and before its server is heard, there wait the answer that opens the
session, something illegible and a request of the server.
-/
def handshakeWaits : List (Operation Channel Unit) :=
  let question :=
    Message.request 7 "window/workDoneProgress/create" (some (.object [("token", .nat 1)]))
  let push (channel : Channel) : Channel :=
    (channel.push (.ok (Text.bytes "?"))).push (.ok question.printBytes)
  [.openDocument (Text.bytes "/a.rs") "one", .disturb "rust" push]

/-- Where the cut falls between the answer that opens the session and the request, the document is
opened before the reply to the request, and at once after it. Both come to the same.
-/
theorem handshake_in_slices
    : let workspace : Workspace Channel Unit :=
        (fresh promptHost rustSettings none).run handshakeWaits
      let first := workspace.poll 2
      let second := first.1.poll 5
      let whole := workspace.poll 7
      workspace.IsSteady
      ∧ first.2 = 2
      ∧ second.2 = 1
      ∧ whole.2 = 3
      ∧ second.1.seen = whole.1.seen := by
  intro workspace first second whole
  have alive
      : workspace.servers.entries.all (fun entry =>
          let channel := entry.2.connection.transport
          ! channel.dead && channel.dieAt.isNone && channel.inbound.all (·.toOption.isSome))
        = true := by
    decide +kernel
  have steady : workspace.IsSteady := by
    intro name server running
    have here := List.all_eq_true.mp alive (name, server) (Table.mem_entries_iff.mpr running)
    simp only [Bool.and_eq_true, Bool.not_eq_true', Option.isNone_iff_eq_none] at here
    obtain ⟨⟨living, lasting⟩, legible⟩ := here
    refine ⟨⟨living, fun count dies => nomatch lasting.symm.trans dies⟩, fun error member => ?_⟩
    exact nomatch List.all_eq_true.mp legible _ member
  have waiting : workspace.seen.inbound.length = 3 := by
    decide +kernel
  obtain ⟨count, _, _, _, counts, same⟩ :=
    poll_in_slices promptHost rustSettings none handshakeWaits 2 5 steady
  have three : whole.2 = 3 := by
    decide +kernel
  have two : first.2 = 2 := by
    refine count.trans ?_
    change min 2 workspace.seen.inbound.length = 2
    rw [waiting]
    rfl
  have one : second.2 = 1 := by
    have sum : first.2 + second.2 = whole.2 := counts
    omega
  exact ⟨steady, two, one, three, same⟩

end Workspace

end LanguageClient
