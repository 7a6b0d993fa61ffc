import LanguageClient.Proofs.Connection.Traffic
import LanguageClient.Proofs.Workspace.Handshake
import LanguageClient.Proofs.Workspace.Queue
import LanguageClient.Proofs.Workspace.Reports

/-! A document whose opening succeeded is not lost without a word: it waits or is open until it is
closed or an event says that the session of its server has ended, unless the transport is dead.
-/

namespace LanguageClient

variable {τ κ : Type} [SupervisedTransport τ]

/-- Use does not revive a dead transport. -/
theorem Transport.IsDead.used [MortalTransport τ] {kind : Json → Prop} {before after : τ}
    (dead : Transport.IsDead before) (used : Transport.Used kind before after)
    : Transport.IsDead after := by
  refine used.induct (P := Transport.IsDead) (fun transport message _ dead => ?_) ?_ dead
  · exact MortalTransport.dead_of_refused transport message (dead message)
  · exact MortalTransport.dead_receive

/-- What is in a table stays in it when something is put in. -/
theorem Table.contains_insert {α : Type} {table : Table α} {key : String}
    (present : table.contains key = true) (other : String) (value : α)
    : (table.insert other value).contains key = true := by
  rw [Table.contains, Table.get?_insert]
  split
  · rfl
  · exact present

namespace Server

/-- A server has not lost a document: it waits or is open, unless the transport is dead. -/
def Holds (uri : String) (server : Server τ κ) : Prop :=
  server.Knows uri ∨ Transport.IsDead server.connection.transport

variable {server : Server τ κ} {uri other text : String}

omit [SupervisedTransport τ] in
theorem isQueued_iff_mem : server.isQueued uri = true ↔ uri ∈ server.queued.map (·.uri) := by
  rw [isQueued_eq_true_iff, List.mem_map]

/-- A document whose opening succeeded waits or is open. -/
theorem knows_of_opened (opened : (server.openDocument uri text).2 = .ok ())
    : (server.openDocument uri text).1.Knows uri := by
  rw [Server.openDocument_eq] at opened ⊢
  split at opened
  · next ready =>
      rw [if_pos ready]
      obtain ⟨after, documents, result, written, synced⟩ :=
        server.connection.sync_cases server.documents (·.didOpen uri server.language text)
      simp only [written, Server.synced] at opened ⊢
      cases synced with
      | unready | illegal | unsent => cases opened
      | sent _ legal =>
          obtain ⟨_, rfl, _⟩ := Documents.didOpen_eq_ok legal
          refine .inr ?_
          simp [Table.contains, Table.get?_insert]
  · next unready =>
      rw [if_neg unready]
      split at opened
      · cases opened
      · next unknown =>
          rw [if_neg unknown]
          refine .inl (isQueued_iff_mem.mpr ?_)
          simp

/-- Where neither the queue nor the open documents change, none is lost. -/
theorem Holds.keep {after : Server τ κ} (holds : server.Holds uri)
    (queued : after.queued = server.queued) (documents : after.documents = server.documents)
    (dead
      : Transport.IsDead server.connection.transport →
          Transport.IsDead after.connection.transport)
    : after.Holds uri := by
  rw [Holds, Knows, isQueued, queued, documents]
  exact holds.imp (fun known => known) dead

/-- A queue in which no document is missing loses none. -/
theorem Holds.requeued {queued : List QueuedOpen} (holds : server.Holds uri)
    (keeps : uri ∈ server.queued.map (·.uri) → uri ∈ queued.map (·.uri))
    : ({ server with queued } : Server τ κ).Holds uri := by
  rcases holds with (waits | opened) | dead
  · exact .inl (.inl (isQueued_iff_mem.mpr (keeps (isQueued_iff_mem.mp waits))))
  · exact .inl (.inr opened)
  · exact .inr dead

variable [MortalTransport τ]

/-- A step on documents loses a document only if it succeeds and takes it from those that are
open.
-/
theorem Holds.synced {step : Documents → Except ClientError (Documents × DocumentNotice)}
    (holds : server.Holds uri)
    (keeps
      : ∀ stepped notice, step server.documents = .ok (stepped, notice) →
          (server.connection.sync server.documents step).2.2 = .ok notice.version →
            server.documents.contains uri = true → stepped.contains uri = true)
    : (server.synced (server.connection.sync server.documents step)).1.Holds uri := by
  rcases holds with known | dead
  · obtain ⟨after, documents, result, written, synced⟩ :=
      server.connection.sync_cases server.documents step
    rw [written] at keeps ⊢
    cases synced with
    | unready | illegal | unsent => exact .inl known
    | sent _ legal =>
        refine .inl (known.imp (fun waits => waits) fun opened => ?_)
        exact keeps _ _ legal rfl opened
  · exact .inr (dead.used (server.connection.sync_used server.documents step))

theorem Holds.openDocument (holds : server.Holds uri)
    : (server.openDocument other text).1.Holds uri := by
  rw [Server.openDocument_eq]
  split
  · refine holds.synced fun stepped notice legal _ opened => ?_
    obtain ⟨_, rfl, _⟩ := Documents.didOpen_eq_ok legal
    exact Table.contains_insert opened _ _
  · split
    · exact holds
    · refine holds.requeued fun waits => ?_
      rw [List.map_append]
      exact List.mem_append_left _ waits

theorem Holds.changeDocument (holds : server.Holds uri)
    : (server.changeDocument other text).1.Holds uri := by
  rw [Server.changeDocument_eq]
  split
  · refine holds.requeued fun waits => ?_
    rwa [uris_replaceQueued]
  · refine holds.synced fun stepped notice legal _ opened => ?_
    obtain ⟨_, _, rfl, _⟩ := Documents.didChange_eq_ok legal
    exact Table.contains_insert opened _ _

theorem Holds.saveDocument {copy : Option String} (holds : server.Holds uri)
    : (server.saveDocument other copy).1.Holds uri := by
  rw [Server.saveDocument_eq]
  split
  · exact holds
  · refine holds.synced fun stepped notice legal _ opened => ?_
    obtain ⟨_, _, rfl, _⟩ := Documents.didSave_eq_ok legal
    exact Table.contains_insert opened _ _

/-- Only a document that is closed with success is lost. -/
theorem Holds.closeDocument (holds : server.Holds uri)
    (unclosed : other = uri → (server.closeDocument other).2.isOk = false)
    : (server.closeDocument other).1.Holds uri := by
  rw [Server.closeDocument_eq] at unclosed ⊢
  split at unclosed
  · next waits =>
      rw [if_pos waits]
      have different : uri ≠ other := by
        rintro rfl
        exact nomatch unclosed rfl
      refine holds.requeued fun waits => ?_
      obtain ⟨entry, present, rfl⟩ := List.mem_map.mp waits
      have stays : entry ∈ server.queued.filter (·.uri ≠ other) :=
        List.mem_filter.mpr ⟨present, by simpa using different⟩
      exact List.mem_map_of_mem stays
  · next sent =>
      rw [if_neg sent]
      refine holds.synced fun stepped notice legal done opened => ?_
      have different : uri ≠ other := by
        rintro rfl
        have unclosed := unclosed rfl
        rw [isOk_map] at unclosed
        exact nomatch (congrArg Except.isOk done).symm.trans unclosed
      obtain ⟨_, _, rfl, _⟩ := Documents.didClose_eq_ok legal
      rwa [Table.contains, Table.get?_erase, if_neg different]

/-- Opening the documents that wait, one after the other, opens each, unless the transport is dead.
Induction on those that wait.
-/
theorem opened_of_waiting {waiting : List QueuedOpen} (ready : server.connection.isReady = true)
    (distinct : (waiting.map (·.uri)).Nodup)
    (unopened : ∀ entry ∈ waiting, server.documents.contains entry.uri = false)
    (known
      : uri ∈ waiting.map (·.uri) ∨ server.documents.contains uri = true
        ∨ Transport.IsDead server.connection.transport)
    : (waiting.foldl (fun (server : Server τ κ) entry =>
        (server.synced
          (server.connection.sync server.documents
            (·.didOpen entry.uri server.language entry.text))).1)
        server).Holds uri := by
  induction waiting generalizing server with
  | nil =>
      rcases known with none | opened | dead
      · exact nomatch none
      · exact .inl (.inr opened)
      · exact .inr dead
  | cons entry rest ih =>
      obtain ⟨fresh, different⟩ := List.nodup_cons.mp distinct
      have closed := unopened entry List.mem_cons_self
      have later : ∀ other ∈ rest, server.documents.contains other.uri = false :=
        fun other member => unopened other (List.mem_cons_of_mem _ member)
      obtain ⟨after, documents, result, written, synced⟩ :=
        server.connection.sync_cases server.documents
          (·.didOpen entry.uri server.language entry.text)
      rw [List.foldl_cons, written]
      cases synced with
      | unready unready => exact absurd (of_decide_eq_true ready) unready
      | illegal _ illegal => simp [Documents.didOpen, closed] at illegal
      | unsent _ _ sent =>
          have dead := Transport.isDead_of_send sent
          exact ih ready different later (.inr (.inr dead))
      | @sent _ _ transport _ legal sent =>
          obtain ⟨_, rfl, _⟩ := Documents.didOpen_eq_ok legal
          refine ih ready different (fun other member => ?_) ?_
          · have apart : other.uri ≠ entry.uri := by
              intro same
              exact fresh (List.mem_map.mpr ⟨other, member, same⟩)
            rw [Server.synced, Table.contains, Table.get?_insert, if_neg apart]
            exact later other member
          · rcases known with waits | opened | dead
            · rcases List.mem_cons.mp waits with rfl | waits
              · refine .inr (.inl ?_)
                simp [Server.synced, Table.contains, Table.get?_insert]
              · exact .inl waits
            · exact .inr (.inl (Table.contains_insert opened _ _))
            · exact .inr (.inr (dead.send sent).1)

theorem Holds.flush (holds : server.Holds uri) (apart : server.IsApart)
    : server.flush.Holds uri := by
  rw [Server.flush_eq]
  split
  · next ready =>
      refine @opened_of_waiting _ _ _ { server with queued := [] } _ _ _ ready apart.distinct ?_ ?_
      · intro entry member
        rcases apart.apart with none | none
        · exact nomatch none ▸ member
        · change server.documents.contains entry.uri = false
          rw [none]
          rfl
      · rcases holds with (waits | opened) | dead
        · exact .inl (isQueued_iff_mem.mp waits)
        · exact .inr (.inl opened)
        · exact .inr (.inr dead)
  · exact holds

/-- An operation cannot lose a document with what it answers: it does not revive a dead transport,
and it is not a close of this document that succeeds.
-/
def Spares (uri : String) (operation : Workspace.Operation τ κ) (outcome : Workspace.Outcome)
    : Prop :=
  operation.KeepsDead
  ∧ ∀ path, operation = .closeDocument path → Uri.ofPath? path = some uri → outcome.isOk = false

/-- A server does not lose a document as long as its session goes on. -/
theorem holds_lasting (uri : String)
    : Lasting (Spares uri) (fun server : Server τ κ => server.IsTidy ∧ server.Holds uri)
        fun server => server.IsApart ∧ server.Holds uri := by
  have tidy := isTidy_kept (τ := τ) (κ := κ)
  refine { acted := ?acted, disturbed := ?disturbed, begun := ?begun, polled := ?polled,
           flushed := ?flushed }
  case acted =>
    rintro operation outcome path other server last ⟨_, unclosed⟩ about located acted
    rintro ⟨isTidy, holds⟩
    refine ⟨tidy.acted trivial about located acted isTidy, ?_⟩
    cases acted with
    | opened => exact holds.openDocument
    | changed => exact holds.changeDocument
    | saved => exact holds.saveDocument
    | closed =>
        cases about
        refine holds.closeDocument fun same => ?_
        exact unclosed path rfl (same ▸ located)
    | asked =>
        exact holds.keep rfl rfl fun dead => dead.used (server.connection.ask_used _ _ _)
  case disturbed =>
    rintro name change server ⟨mortal, _⟩ ⟨isTidy, holds⟩
    exact ⟨isTidy.withTransport _, holds.keep rfl rfl (mortal _)⟩
  case begun =>
    rintro server ⟨isTidy, holds⟩
    exact ⟨isTidy.isApart, holds⟩
  case polled =>
    rintro server alive ⟨apart, holds⟩
    refine ⟨apart.polled, holds.keep rfl rfl fun dead => ?_⟩
    exact dead.used server.connection.poll_used
  case flushed =>
    rintro server ⟨apart, holds⟩
    exact ⟨tidy.flushed apart, holds.flush apart⟩

end Server

namespace Workspace

/-- Opening a document succeeds only where a server is found for it. -/
theorem lookup_of_opened {workspace : Workspace τ κ} {path : Path} {text uri : String}
    (opened : (workspace.openDocument path text).2 = .ok (some uri))
    : ∃ name other, workspace.lookup path = .ok (some (name, other)) := by
  rcases looked : workspace.lookup path with error | _ | ⟨name, other⟩
  · simp [openDocument, looked] at opened
  · simp [openDocument, looked] at opened
  · exact ⟨name, other, rfl⟩

/-- What is answered about a document that was opened is its URI. -/
theorem Acted.knows {path : Path} {text uri other : String} {server last : Server τ κ}
    (acted : Acted other (.openDocument path text) server last (.opened (.ok (some uri))))
    : last.Knows uri := by
  generalize answered : Outcome.opened (.ok (some uri)) = outcome at acted
  cases acted with
  | opened =>
      have opened := Outcome.opened.inj answered
      cases result : (server.openDocument other text).2 with
      | error error => simp [result, Except.map] at opened
      | ok _ =>
          simp only [result, Except.map, Except.ok.injEq, Option.some.injEq] at opened
          subst opened
          exact Server.knows_of_opened result

/-- A document whose opening succeeded waits for the server that serves it, or is open. -/
theorem hasRunning_of_opened {workspace : Workspace τ κ} {path : Path} {text uri name : String}
    (tidy : (workspace.slot name).Runs Server.IsTidy)
    (opened : (workspace.perform (.openDocument path text)).2 = .opened (.ok (some uri)))
    (served : workspace.settings.serverForPath? path = some name)
    : (workspace.after (.openDocument path text)).HasRunning name fun server =>
        server.IsTidy ∧ server.Holds uri := by
  obtain ⟨other, found, looked⟩ := lookup_of_opened (Outcome.opened.inj opened)
  obtain rfl : other = name := Option.some.inj ((of_lookup looked).1.symm.trans served)
  have still : ((workspace.after (.openDocument path text)).slot other).Runs Server.IsTidy :=
    Server.isTidy_kept.slot_after trivial trivial tidy
  suffices known
      : ∃ server,
          ((workspace.after (.openDocument path text)).slot other).server = some server
          ∧ server.Knows uri by
    obtain ⟨server, running, known⟩ := known
    exact ⟨server, running, (still server running).1, .inl known⟩
  have change := workspace.slot_after (.openDocument path text) other
  generalize (workspace.after (.openDocument path text)).slot other = slot at change ⊢
  rw [opened] at change
  cases change with
  | apart elsewhere => exact absurd ⟨found, looked⟩ elsewhere
  | launched _ _ _ _ acted => exact ⟨_, rfl, acted.knows⟩
  | unserved about _ _ unlaunched =>
      cases about
      exact absurd rfl (unlaunched text)
  | acted _ _ _ acted => exact ⟨_, rfl, acted.knows⟩

/-- The operations of a history are those of its run. -/
theorem history_map_fst (workspace : Workspace τ κ) (operations : List (Operation τ κ))
    : (workspace.history operations).map (·.1) = operations := by
  induction operations generalizing workspace with
  | nil => rfl
  | cons operation rest ih => rw [history, List.map_cons, ih]

/-- Over transports that stay dead once they are, a document whose opening succeeded waits for its
server or is open, whatever is done in between, unless it was closed with success, it was reported
that its server was started again or stopped, or the transport of the server is dead.
-/
theorem accepted_document_is_kept [MortalTransport τ] (host : Host τ) (settings : Settings)
    (root : Option Path) (earlier later : List (Operation τ κ)) (path : Path)
    (text uri name : String) (served : settings.serverForPath? path = some name)
    (mortal : ∀ operation ∈ later, operation.KeepsDead)
    : let workspace := (fresh host settings root).run earlier
      let next := workspace.after (.openDocument path text)
      (workspace.perform (.openDocument path text)).2 = .opened (.ok (some uri)) →
        (∀ other outcome, (.closeDocument other, outcome) ∈ next.history later →
          Uri.ofPath? other = some uri → outcome.isOk = false) →
          (∀ event ∈ next.reports later, ¬ event.Ends name) →
            ∃ server,
              (next.run later).servers.get? name = some server
              ∧ (server.isQueued uri = true ∨ server.documents.contains uri = true
                ∨ Transport.IsDead server.connection.transport) := by
  intro workspace next opened unclosed quiet
  have tidy := isTidy_run host settings root earlier name
  have served : workspace.settings.serverForPath? path = some name := by
    rw [settings_run]
    exact served
  have fairly : ∀ entry ∈ next.history later, Server.Spares uri entry.1 entry.2 := by
    rintro ⟨operation, outcome⟩ member
    refine ⟨mortal operation ?_, ?_⟩
    · rw [← history_map_fst next later]
      exact List.mem_map_of_mem member
    · rintro other rfl located
      exact unclosed other outcome member located
  obtain ⟨server, running, _, holds⟩ :=
    run_lasts (Server.holds_lasting uri) fairly quiet (hasRunning_of_opened tidy opened served)
  exact ⟨server, running, or_assoc.mp holds⟩

/-- A document is opened before its server is ready, and another one comes and goes. -/
theorem first_document_is_kept
    : let first := Text.bytes "/a.rs"
      let second := Text.bytes "/b.rs"
      let start : Workspace Channel Unit := fresh promptHost rustSettings none
      let later : List (Operation Channel Unit) :=
        [.openDocument second "two", .closeDocument second, .poll 9]
      ∃ server,
        ((start.after (.openDocument first "one")).run later).servers.get? "rust" = some server
        ∧ (server.isQueued "file:///a.rs" = true ∨ server.documents.contains "file:///a.rs" = true
          ∨ Transport.IsDead server.connection.transport) := by
  intro first second start later
  have mortal : ∀ operation ∈ later, operation.KeepsDead := by
    intro operation member
    simp only [later, List.mem_cons, List.not_mem_nil, or_false] at member
    rcases member with rfl | rfl | rfl <;> trivial
  have opened : (start.openDocument first "one").2.toOption = some (some "file:///a.rs") := by
    decide +kernel
  have silent : (start.after (.openDocument first "one")).reports later = [] := by
    decide +kernel
  refine accepted_document_is_kept promptHost rustSettings none [] later first "one" "file:///a.rs"
    "rust" (by decide +kernel) mortal ?_ ?_ ?_
  · cases answered : (start.openDocument first "one").2 with
    | error error => simp [answered, Except.toOption] at opened
    | ok found =>
        rw [answered] at opened
        obtain rfl := Option.some.inj opened
        exact congrArg Outcome.opened answered
  · rintro other outcome member located
    simp only [later, history, List.mem_cons, List.not_mem_nil, or_false, Prod.mk.injEq,
      reduceCtorEq, false_and, false_or, Operation.closeDocument.injEq] at member
    obtain ⟨rfl, _⟩ := member
    exact absurd located (by decide +kernel)
  · intro event member
    have none : event ∈ ([] : List Event) := silent ▸ member
    cases none

end Workspace

end LanguageClient
