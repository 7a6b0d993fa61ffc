import LanguageClient.Proofs.Connection.Ids

/-! Every request that was sent is answered exactly once, at the first thing that ends its waiting:
its response, the loss of the transport, the end of the session, a reset, or the end of the
connection. Nothing else is ever answered.
-/

namespace LanguageClient.Connection

variable {τ κ : Type} [Transport τ]

-----------------------------------------------------------------------------------------
-- What one operation answers
-----------------------------------------------------------------------------------------

/-- What an operation tells a request that waits under an id, if it ends its waiting: a response
with that id its own result, and a fatal error on reading, the end of the session and a reset that
the process is not there any more.
-/
def settles? (connection : Connection τ κ) (operation : Operation τ κ) (id : Nat)
    : Option (Except ClientError Json) :=
  match operation with
  | .poll =>
      match (Transport.receive connection.transport).2 with
      | .error error => if error.isFatal then some (.error .processNotRunning) else none
      | .ok none => none
      | .ok (some body) =>
          (Message.responseIn? body).bind fun (named, result) =>
            if named = id then some result else none
  | .exit => if connection.phase = .shuttingDown then some (.error .processNotRunning) else none
  | .reset => some (.error .processNotRunning)
  | _ => none

/-- The requests whose waiting an operation ends, with what it tells them. -/
def settled (connection : Connection τ κ) (operation : Operation τ κ)
    : List (κ × Except ClientError Json) :=
  connection.pending.filterMap fun (id, ticket) =>
    (connection.settles? operation id).map (ticket, ·)

/-- The requests that go on waiting. -/
def unsettled (connection : Connection τ κ) (operation : Operation τ κ) : List (Nat × κ) :=
  connection.pending.filter fun (id, _) => (connection.settles? operation id).isNone

/-- The operation ends no waiting at all. -/
theorem settled_of_none {connection : Connection τ κ} {operation : Operation τ κ}
    (none : ∀ entry ∈ connection.pending, connection.settles? operation entry.1 = Option.none)
    : connection.settled operation = []
      ∧ connection.unsettled operation = connection.pending := by
  constructor
  · refine List.filterMap_eq_nil_iff.mpr fun entry member => ?_
    simp [none entry member]
  · refine List.filter_eq_self.mpr fun entry member => ?_
    simp [none entry member]

theorem settled_of_all {connection : Connection τ κ} {operation : Operation τ κ}
    {result : Except ClientError Json}
    (all : ∀ id, connection.settles? operation id = some result)
    : connection.settled operation
        = connection.pending.map (fun (_, ticket) => (ticket, result))
      ∧ connection.unsettled operation = [] := by
  constructor
  · simp only [settled, all, Option.map_some]
    exact congrFun List.filterMap_eq_map' _
  · simp [unsettled, all]

/-- In a list of different ids, an id that is found stands for one entry. -/
theorem filterMap_of_lookup {entries : List (Nat × κ)} {id : Nat} {ticket : κ}
    (different : (entries.map (·.1)).Nodup) (found : entries.lookup id = some ticket)
    (result : Except ClientError Json)
    : entries.filterMap
        (fun (other, own) => (if id = other then some result else none).map (own, ·))
      = [(ticket, result)] := by
  induction entries with
  | nil => simp at found
  | cons entry rest ih =>
      obtain ⟨first, own⟩ := entry
      obtain ⟨fresh, restDifferent⟩ := List.nodup_cons.mp different
      by_cases same : id = first
      · subst same
        obtain rfl : own = ticket := by simpa using found
        have nothing
            : rest.filterMap
                (fun (other, own) => (if id = other then some result else none).map (own, ·))
              = [] := by
          refine List.filterMap_eq_nil_iff.mpr fun entry member => ?_
          have other : id ≠ entry.1 := fun same =>
            fresh (List.mem_map.mpr ⟨entry, member, same.symm⟩)
          simp only [if_neg other, Option.map_none]
        rw [List.filterMap_cons, nothing]
        simp
      · have later : rest.lookup id = some ticket := by
          simpa [List.lookup_cons, beq_false_of_ne same] using found
        simpa [same] using ih restDifferent later

/-- What an operation does to the requests that wait: those whose waiting it ends are answered, the
others go on waiting, and the one that it sends joins them.
-/
structure Settlement (connection : Connection τ κ) (operation : Operation τ κ) : Prop where
  answers
    : (connection.after operation).answers
      = connection.answers ++ connection.settled operation
  pending
    : (connection.after operation).pending
      = connection.unsettled operation ++ (connection.accepted? operation).toList

/-- An operation that ends no waiting only adds its own request, if it sends one. -/
theorem Settlement.of_none {connection : Connection τ κ} {operation : Operation τ κ}
    (none : ∀ entry ∈ connection.pending, connection.settles? operation entry.1 = Option.none)
    (answers : (connection.after operation).answers = connection.answers)
    (pending
      : (connection.after operation).pending
        = connection.pending ++ (connection.accepted? operation).toList)
    : connection.Settlement operation := by
  obtain ⟨nobody, everybody⟩ := settled_of_none none
  exact ⟨by rw [answers, nobody, List.append_nil], by rw [pending, everybody]⟩

/-- An operation that ends all waiting leaves no request behind. -/
theorem Settlement.of_failPending {connection : Connection τ κ} {operation : Operation τ κ}
    (all : ∀ id, connection.settles? operation id = some (.error .processNotRunning))
    (silent : operation.ticket? = none)
    (answers
      : (connection.after operation).answers
        = connection.answers
          ++ connection.pending.map fun (_, ticket) => (ticket, .error .processNotRunning))
    (pending : (connection.after operation).pending = [])
    : connection.Settlement operation := by
  obtain ⟨everybody, nobody⟩ := settled_of_all all
  exact ⟨by rw [answers, everybody], by simp [pending, nobody, accepted?, silent]⟩

/-- A body that reads as anything but a response answers nothing. -/
theorem not_answered_of_read {body : Bytes} {incoming : Option Message.Incoming}
    (read : Message.Incoming.ofBytes? body = incoming)
    (other : ∀ given outcome, incoming ≠ some (.response given outcome)) (id : Nat)
    (result : Except ClientError Json)
    : Message.responseIn? body ≠ some (id, result) := by
  intro answers
  obtain ⟨given, outcome, response, _⟩ := Message.responseIn?_eq_some_iff.mp answers
  exact other given outcome (read.symm.trans response)

/-- A body that does not answer a request does not end its waiting. -/
theorem settles?_poll_eq_none {connection : Connection τ κ} {transport : τ} {body : Bytes} {id : Nat}
    (received : Transport.receive connection.transport = (transport, .ok (some body)))
    (other : ∀ result, Message.responseIn? body ≠ some (id, result))
    : connection.settles? .poll id = none := by
  simp only [settles?, received]
  cases answers : Message.responseIn? body with
  | none => rfl
  | some answer =>
      obtain ⟨named, result⟩ := answer
      have different : named ≠ id := fun same => other result (same ▸ answers)
      simp [different]

/-- A response ends the waiting of the one request that it names. -/
theorem settles?_poll_of_answer {connection : Connection τ κ} {transport : τ} {body : Bytes}
    {id : Nat} {result : Except ClientError Json}
    (received : Transport.receive connection.transport = (transport, .ok (some body)))
    (read : Message.responseIn? body = some (id, result)) (other : Nat)
    : connection.settles? .poll other = if id = other then some result else none := by
  simp [settles?, received, read]

/-- A response to a pending request answers it and takes it away from those that wait. -/
theorem Settlement.of_answer {connection : Connection τ κ} {transport : τ} {body : Bytes}
    {id : Nat} {result : Except ClientError Json} {ticket : κ}
    (different : (connection.pending.map (·.1)).Nodup)
    (received : Transport.receive connection.transport = (transport, .ok (some body)))
    (read : Message.responseIn? body = some (id, result))
    (found : connection.pending.lookup id = some ticket)
    (answers : (connection.after .poll).answers = connection.answers ++ [(ticket, result)])
    (pending : (connection.after .poll).pending = connection.pending.filter (·.1 ≠ id))
    : connection.Settlement .poll := by
  have ends := settles?_poll_of_answer received read
  constructor
  · rw [answers, ← filterMap_of_lookup different found result]
    simp only [settled, ends]
  · rw [pending]
    simp only [unsettled, ends, accepted?, Operation.ticket?, Option.toList_none, List.append_nil]
    refine List.filter_congr fun entry _ => ?_
    by_cases same : id = entry.1 <;> simp [same, eq_comm]

/-- Handling a message ends the waiting of one request at most, unless the transport is lost. -/
theorem poll_settlement (connection : Connection τ κ)
    (different : (connection.pending.map (·.1)).Nodup)
    : connection.Settlement .poll := by
  obtain ⟨after', result, polled, cases⟩ := connection.poll_cases
  have same : connection.after .poll = after' := by simp only [after, perform, polled]
  have own : connection.accepted? .poll = none := rfl
  cases cases with
  | idle received =>
      refine .of_none (fun _ _ => ?_) (by rw [same]) (by simp [same, own])
      simp [settles?, received]
  | spoiled received bearable =>
      refine .of_none (fun _ _ => ?_) (by rw [same]) (by simp [same, own])
      simp [settles?, received, bearable]
  | lost received fatal =>
      refine .of_failPending (fun _ => ?_) rfl (by rw [same]; rfl) (by rw [same]; rfl)
      simp [settles?, received, fatal]
  | illegible received read | noticed received read | replied received read =>
      refine .of_none (fun entry _ => ?_) (by simp [same]) (by simp [same, own])
      exact settles?_poll_eq_none received (not_answered_of_read read (by simp) entry.1)
  | unmatched received read nobody =>
      refine .of_none (fun entry member => ?_) (by rw [same]) (by simp [same, own])
      refine settles?_poll_eq_none received fun result answers => ?_
      obtain ⟨given, outcome, response, named, _⟩ := Message.responseIn?_eq_some_iff.mp answers
      cases read.symm.trans response
      simpa using List.lookup_eq_none_iff.mp (nobody _ named) entry member
  | answered received read found =>
      exact .of_answer different received read found (by rw [same]; rfl) (by rw [same]; rfl)
  | openingAnswered received read found _ finished =>
      obtain ⟨_, pending, answers, _⟩ := finished.frame
      exact .of_answer different received read found
        (by simp [same, answer, answers]) (by simp [same, answer, pending])

theorem call_settlement (connection : Connection τ κ) {operation : Operation τ κ} {ticket : κ}
    (call : operation.ticket? = some ticket)
    (silent : ∀ id, connection.settles? operation id = none)
    : connection.Settlement operation := by
  cases connection.call_cases call with
  | refused _ given same => exact .of_none (fun _ _ => silent _) (by rw [same]) (by simp [same, given])
  | unsent _ given _ pending answers =>
      exact .of_none (fun _ _ => silent _) answers (by simp [pending, given])
  | sent _ given _ pending answers =>
      exact .of_none (fun _ _ => silent _) answers (by simp [pending, given])

/-- Every operation settles the requests whose waiting it ends, and no others. -/
theorem settlement (connection : Connection τ κ) (operation : Operation τ κ)
    (different : (connection.pending.map (·.1)).Nodup)
    : connection.Settlement operation := by
  cases operation with
  | poll => exact poll_settlement connection different
  | reset => exact .of_failPending (fun _ => rfl) rfl rfl rfl
  | listen | disturb => exact .of_none (fun _ _ => rfl) rfl (List.append_nil _).symm
  | notify method params =>
      obtain ⟨_, _, written, notified⟩ := connection.notify_cases method params
      refine .of_none (fun _ _ => rfl) ?_ ?_ <;> cases notified <;>
        simp [after, perform, written, accepted?, Operation.ticket?]
  | exit =>
      obtain ⟨_, _, written, ended⟩ := connection.exit_cases
      cases ended with
      | refused open' =>
          refine .of_none (fun _ _ => ?_) ?_ ?_ <;>
            simp [settles?, open', after, perform, written, accepted?, Operation.ticket?]
      | ended closing =>
          refine .of_failPending (fun _ => ?_) rfl ?_ ?_ <;>
            simp [settles?, closing, after, perform, written, failPending]
  | request => exact call_settlement connection rfl (fun _ => rfl)
  | openSession => exact call_settlement connection rfl (fun _ => rfl)
  | shutdown => exact call_settlement connection rfl (fun _ => rfl)

-----------------------------------------------------------------------------------------
-- What a run answers
-----------------------------------------------------------------------------------------

/-- An answer that was given: when, to whom, and what. -/
structure Completion (κ : Type) where
  time : Nat
  ticket : κ
  result : Except ClientError Json
deriving DecidableEq

/-- How a request that waits under an id is answered in a run whose first operation happens at
`time`: by the first operation that ends its waiting, or else when the connection ends after the
run.
-/
def fate (id : Nat) (ticket : κ) (connection : Connection τ κ) (time : Nat)
    : List (Operation τ κ) → Completion κ
  | [] => ⟨time, ticket, .error .processNotRunning⟩
  | operation :: rest =>
      match connection.settles? operation id with
      | some result => ⟨time, ticket, result⟩
      | none => fate id ticket (connection.after operation) (time + 1) rest

/-- The answers given by each operation of a run, and by the end of the connection after it. -/
def completions (connection : Connection τ κ) (time : Nat)
    : List (Operation τ κ) → List (Completion κ)
  | [] =>
      (connection.close.answers.drop connection.answers.length).map fun (ticket, result) =>
        ⟨time, ticket, result⟩
  | operation :: rest =>
      ((connection.after operation).answers.drop connection.answers.length).map
        (fun (ticket, result) => ⟨time, ticket, result⟩)
      ++ (connection.after operation).completions (time + 1) rest

/-- The fates of the requests that a run sends. -/
def dues (connection : Connection τ κ) (time : Nat)
    : List (Operation τ κ) → List (Completion κ)
  | [] => []
  | operation :: rest =>
      ((connection.accepted? operation).toList.map fun (id, ticket) =>
        fate id ticket (connection.after operation) (time + 1) rest)
      ++ (connection.after operation).dues (time + 1) rest

/-- The ids of those that wait stay different, as long as operations come to an end. -/
theorem nodup_after {connection : Connection τ κ} {operation : Operation τ κ}
    (different : (connection.pending.map (·.1)).Nodup) (returns : connection.Returns operation)
    : ((connection.after operation).pending.map (·.1)).Nodup := by
  rw [(settlement connection operation different).pending, List.map_append]
  have kept : ((connection.unsettled operation).map (·.1)).Nodup :=
    different.sublist (List.filter_sublist.map _)
  cases accepted : connection.accepted? operation with
  | none => simpa using kept
  | some entry =>
      obtain ⟨id, ticket⟩ := entry
      obtain ⟨looks, rfl⟩ := accepted?_spec accepted
      have free := isPending_eq_false_iff.mp (freshId_spec (returns looks)).2
      refine List.nodup_append.mpr ⟨kept, by simp, ?_⟩
      intro old member new added
      obtain rfl : new = connection.freshId := by simpa using added
      rintro rfl
      exact free ((List.filter_sublist.map _).subset member)

/-- Those whose waiting an operation ends meet their fate now, the others later. -/
theorem map_fate_perm (connection : Connection τ κ) (time : Nat) (operation : Operation τ κ)
    (rest : List (Operation τ κ)) (waiting : List (Nat × κ))
    : (waiting.map fun (id, ticket) => fate id ticket connection time (operation :: rest)).Perm
        (((waiting.filterMap fun (id, ticket) =>
              (connection.settles? operation id).map (ticket, ·)).map
            fun (ticket, result) => ⟨time, ticket, result⟩)
          ++ (waiting.filter fun (id, _) => (connection.settles? operation id).isNone).map
            fun (id, ticket) => fate id ticket (connection.after operation) (time + 1) rest) := by
  induction waiting with
  | nil => exact .nil
  | cons entry others ih =>
      obtain ⟨id, ticket⟩ := entry
      cases settles : connection.settles? operation id with
      | some result => simpa [fate, settles] using ih
      | none =>
          simp only [List.map_cons, fate, settles, List.filterMap_cons, Option.map_none,
            List.filter_cons, Option.isNone_none, if_true]
          exact (ih.cons _).trans List.perm_middle.symm

/-- In a run, every request that waits at first and every request that is sent is answered once, as
its fate is, and nothing else is answered. Induction on the run; the ids that wait stay different.
-/
theorem completions_perm_fates (operations : List (Operation τ κ)) (connection : Connection τ κ)
    (time : Nat) (different : (connection.pending.map (·.1)).Nodup)
    (returns : connection.RunReturns operations)
    : (connection.completions time operations).Perm
        ((connection.pending.map fun (id, ticket) => fate id ticket connection time operations)
          ++ connection.dues time operations) := by
  induction operations generalizing connection time with
  | nil => simp [completions, dues, fate, close, failPending, Function.comp_def]
  | cons operation rest ih =>
      obtain ⟨returnsFirst, returnsRest⟩ := returns
      have settles := settlement connection operation different
      have later := ih (connection.after operation) (time + 1) (nodup_after different returnsFirst)
        returnsRest
      have now := map_fate_perm connection time operation rest connection.pending
      rw [settles.pending, List.map_append, List.append_assoc] at later
      simp only [completions, dues, settles.answers, List.drop_left]
      refine (later.append_left _).trans ?_
      rw [← List.append_assoc]
      exact now.symm.append_right _

end LanguageClient.Connection
