import LanguageClient.Proofs.Connection.Operation
import Mathlib.Data.List.Nodup
import Mathlib.Data.List.Perm.Subperm
import Mathlib.Data.Nat.ModEq

/-! The ids of requests. An id is never one that is pending, and as long as there are ids that were
not used yet, they are used in turn.
-/

namespace LanguageClient.Connection

variable {τ κ : Type} [Transport τ]

-----------------------------------------------------------------------------------------
-- The search for an id
-----------------------------------------------------------------------------------------

/-- Some id of 32 bits is not pending. -/
def HasFreeId (connection : Connection τ κ) : Prop :=
  ∃ id < Text.word32, connection.isPending id = false

omit [Transport τ] in
theorem isPending_eq_true_iff {connection : Connection τ κ} {id : Nat}
    : connection.isPending id = true ↔ id ∈ connection.pending.map (·.1) := by
  simp [isPending]

omit [Transport τ] in
theorem isPending_eq_false_iff {connection : Connection τ κ} {id : Nat}
    : connection.isPending id = false ↔ id ∉ connection.pending.map (·.1) := by
  rw [← isPending_eq_true_iff, Bool.not_eq_true]

omit [Transport τ] in
/-- A request that is pending is found with its ticket. -/
theorem exists_lookup_of_isPending {connection : Connection τ κ} {id : Nat}
    (waits : connection.isPending id = true)
    : ∃ ticket, connection.pending.lookup id = some ticket := by
  cases found : connection.pending.lookup id with
  | some ticket => exact ⟨ticket, rfl⟩
  | none =>
      obtain ⟨entry, member, rfl⟩ := List.mem_map.mp (isPending_eq_true_iff.mp waits)
      simpa using List.lookup_eq_none_iff.mp found entry member

omit [Transport τ] in
/-- A request is pending still when another one was answered. -/
theorem isPending_of_other {connection after : Connection τ κ} {id answered : Nat}
    (waits : connection.isPending id = true) (other : id ≠ answered)
    (rest : after.pending = connection.pending.filter (·.1 ≠ answered))
    : after.isPending id = true := by
  obtain ⟨entry, member, rfl⟩ := List.mem_map.mp (isPending_eq_true_iff.mp waits)
  refine isPending_eq_true_iff.mpr (List.mem_map.mpr ⟨entry, ?_, rfl⟩)
  rw [rest]
  exact List.mem_filter.mpr ⟨member, by simpa using other⟩

/-- The first `count` numbers from `start` on are different when they wrap round below `bound`. -/
theorem nodup_turn {start count bound : Nat} (few : count ≤ bound)
    : ((List.range count).map fun i => (start + i) % bound).Nodup := by
  refine List.Nodup.map_on ?_ List.nodup_range
  intro i hi j hj same
  have hi := List.mem_range.mp hi
  have hj := List.mem_range.mp hj
  have congruent := Nat.ModEq.add_left_cancel' start same
  exact congruent.eq_of_lt_of_lt (by omega) (by omega)

/-- Numbers in turn meet every number below the bound within one round. -/
theorem mem_turn {start count bound id : Nat} (many : bound ≤ count) (small : id < bound)
    : id ∈ (List.range count).map fun i => (start + i) % bound := by
  refine List.mem_map.mpr ⟨(id + bound - start % bound) % bound, ?_, ?_⟩
  · exact List.mem_range.mpr (Nat.lt_of_lt_of_le (Nat.mod_lt _ (by omega)) many)
  · have below := Nat.mod_lt start (show 0 < bound by omega)
    have whole : start % bound + (id + bound - start % bound) = id + bound := by omega
    rw [Nat.add_mod, Nat.mod_mod, ← Nat.add_mod, ← Nat.mod_add_mod, whole, Nat.add_mod_right,
      Nat.mod_eq_of_lt small]

omit [Transport τ] in
/-- There are more candidates than pending ids, or they are all ids there are. -/
theorem exists_free_candidate {connection : Connection τ κ} (free : connection.HasFreeId)
    : ∃ id ∈ connection.candidates, connection.isPending id = false := by
  obtain ⟨id, small, idFree⟩ := free
  by_cases few : connection.pending.length + 1 ≤ Text.word32
  · by_contra none
    push Not at none
    have included : connection.candidates ⊆ connection.pending.map (·.1) := by
      intro candidate member
      exact isPending_eq_true_iff.mp (by simpa using none candidate member)
    have bound := (List.Nodup.subperm (nodup_turn few) included).length_le
    simp only [List.length_map, List.length_range] at bound
    omega
  · exact ⟨id, mem_turn (by omega) small, idFree⟩

omit [Transport τ] in
/-- Where an id is free, the search finds an id of 32 bits that is not pending. -/
theorem freshId_spec {connection : Connection τ κ} (free : connection.HasFreeId)
    : connection.freshId < Text.word32 ∧ connection.isPending connection.freshId = false := by
  obtain ⟨candidate, member, candidateFree⟩ := exists_free_candidate free
  have some : (connection.candidates.find? fun id => ! connection.isPending id).isSome := by
    rw [List.find?_isSome]
    exact ⟨candidate, member, by simpa using candidateFree⟩
  obtain ⟨id, found⟩ := Option.isSome_iff_exists.mp some
  have chosen : connection.freshId = id := by simp [freshId, found]
  rw [chosen]
  refine ⟨?_, by simpa using List.find?_some found⟩
  obtain ⟨_, _, rfl⟩ := List.mem_map.mp (List.mem_of_find?_eq_some found)
  exact Nat.mod_lt _ (by decide)

omit [Transport τ] in
/-- Some id is free as long as fewer requests wait than there are ids. -/
theorem hasFreeId_of_few {connection : Connection τ κ}
    (few : connection.pending.length < Text.word32)
    : connection.HasFreeId := by
  by_contra none
  have all : List.range Text.word32 ⊆ connection.pending.map (·.1) := by
    intro id member
    refine isPending_eq_true_iff.mp (Bool.eq_true_of_not_eq_false fun free => ?_)
    exact none ⟨id, List.mem_range.mp member, free⟩
  have bound := (List.nodup_range.subperm all).length_le
  rw [List.length_range, List.length_map] at bound
  omega

omit [Transport τ] in
/-- The search starts at the next id, and ends there if that is not pending. -/
theorem freshId_eq_nextId {connection : Connection τ κ} (small : connection.nextId < Text.word32)
    (free : connection.isPending connection.nextId = false)
    : connection.freshId = connection.nextId := by
  simp [freshId, candidates, List.range_succ_eq_map, Nat.mod_eq_of_lt small, free]

-----------------------------------------------------------------------------------------
-- Operations that look for an id
-----------------------------------------------------------------------------------------

/-- Whether an operation looks for an id. One that is refused does not. -/
def looksForId (connection : Connection τ κ) : Operation τ κ → Bool
  | .request .. => connection.phase ≠ .exited
  | .openSession .. => connection.phase = .uninitialized
  | .shutdown _ => connection.phase = .initialized
  | _ => false

/-- An operation comes to an end. A search for an id goes on for ever where none is free. -/
def Returns (connection : Connection τ κ) (operation : Operation τ κ) : Prop :=
  connection.looksForId operation = true → connection.HasFreeId

/-- Every operation of a run comes to an end. -/
def RunReturns (connection : Connection τ κ) : List (Operation τ κ) → Prop
  | [] => True
  | operation :: rest =>
      connection.Returns operation ∧ (connection.after operation).RunReturns rest

/-- The ids that a run uses up, in turn, whether their requests could be written or not. -/
def usedIds (connection : Connection τ κ) : List (Operation τ κ) → List Nat
  | [] => []
  | operation :: rest =>
      (if connection.looksForId operation then [connection.freshId] else [])
      ++ (connection.after operation).usedIds rest

/-- The ids that a run hands out, in turn. -/
def givenIds (connection : Connection τ κ) : List (Operation τ κ) → List Nat
  | [] => []
  | operation :: rest =>
      ((connection.accepted? operation).map (·.1)).toList
      ++ (connection.after operation).givenIds rest

/-- The ways in which an operation with a ticket can end: it is refused and changes nothing; its
request cannot be written, and only an id is used up; or its request waits under that id.
-/
inductive CallStep (connection : Connection τ κ) (operation : Operation τ κ) (ticket : κ) : Prop
  | refused (looks : connection.looksForId operation = false)
    (given : connection.accepted? operation = none)
    (same : connection.after operation = connection)
  | unsent (looks : connection.looksForId operation = true)
    (given : connection.accepted? operation = none)
    (next : (connection.after operation).nextId = (connection.freshId + 1) % Text.word32)
    (pending : (connection.after operation).pending = connection.pending)
    (answers : (connection.after operation).answers = connection.answers)
  | sent (looks : connection.looksForId operation = true)
    (given : connection.accepted? operation = some (connection.freshId, ticket))
    (next : (connection.after operation).nextId = (connection.freshId + 1) % Text.word32)
    (pending
      : (connection.after operation).pending
        = connection.pending ++ [(connection.freshId, ticket)])
    (answers : (connection.after operation).answers = connection.answers)

/-- Every operation with a ticket ends in one of these ways: a request, and the requests that open
and close a session in the phases where they are legal.
-/
theorem call_cases (connection : Connection τ κ) {operation : Operation τ κ} {ticket : κ}
    (call : operation.ticket? = some ticket)
    : connection.CallStep operation ticket := by
  cases operation with
  | notify | exit | reset | poll | listen | disturb => simp [Operation.ticket?] at call
  | request method params handed =>
      obtain rfl : handed = ticket := Option.some.inj call
      obtain ⟨_, _, written, requested⟩ := connection.request_cases method params handed
      cases requested with
      | refused ended =>
          apply CallStep.refused <;> simp [looksForId, accepted?, after, perform, written, ended]
      | unsent live =>
          apply CallStep.unsent <;> simp [looksForId, accepted?, after, perform, written, live]
      | sent live =>
          apply CallStep.sent <;>
            simp [looksForId, accepted?, after, perform, written, live, Operation.ticket?]
  | openSession params handed =>
      obtain rfl : handed = ticket := Option.some.inj call
      obtain ⟨_, _, written, opened⟩ := connection.openSession_cases params handed
      cases opened with
      | refused begun =>
          apply CallStep.refused <;> simp [looksForId, accepted?, after, perform, written, begun]
      | unsent closed requested =>
          cases requested with
          | refused ended => simp [closed] at ended
          | unsent =>
              apply CallStep.unsent <;> simp [looksForId, accepted?, after, perform, written, closed]
      | sent closed requested =>
          cases requested
          apply CallStep.sent <;>
            simp [looksForId, accepted?, after, perform, written, closed, Operation.ticket?]
  | shutdown handed =>
      obtain rfl : handed = ticket := Option.some.inj call
      obtain ⟨_, _, written, closed⟩ := connection.shutdown_cases handed
      cases closed with
      | refused unready =>
          apply CallStep.refused <;> simp [looksForId, accepted?, after, perform, written, unready]
      | unsent ready requested =>
          cases requested with
          | refused ended => simp [ready] at ended
          | unsent =>
              apply CallStep.unsent <;> simp [looksForId, accepted?, after, perform, written, ready]
      | sent ready requested =>
          cases requested
          apply CallStep.sent <;>
            simp [looksForId, accepted?, after, perform, written, ready, Operation.ticket?]

theorem poll_nextId (connection : Connection τ κ)
    : connection.poll.1.nextId = connection.nextId := by
  obtain ⟨after, result, polled, cases⟩ := connection.poll_cases
  rw [polled]
  cases cases with
  | idle | lost | spoiled | illegible | replied | unmatched | answered => rfl
  | noticed => exact handleNotification_nextId ..
  | openingAnswered _ _ _ _ finished => exact finished.frame.1

theorem nextId_after_of_no_ticket (connection : Connection τ κ) {operation : Operation τ κ}
    (silent : operation.ticket? = none)
    : (connection.after operation).nextId = connection.nextId := by
  cases operation with
  | request | openSession | shutdown => simp [Operation.ticket?] at silent
  | reset | listen | disturb => rfl
  | poll => exact poll_nextId connection
  | notify method params =>
      obtain ⟨_, _, written, notified⟩ := connection.notify_cases method params
      cases notified <;> simp only [after, perform, written]
  | exit =>
      obtain ⟨_, _, written, ended⟩ := connection.exit_cases
      cases ended <;> simp only [after, perform, written, failPending]

omit [Transport τ] in
theorem ticket_of_looksForId {connection : Connection τ κ} {operation : Operation τ κ}
    (looks : connection.looksForId operation = true)
    : ∃ ticket, operation.ticket? = some ticket := by
  cases operation with
  | request | openSession | shutdown => exact ⟨_, rfl⟩
  | notify | exit | reset | poll | listen | disturb => simp [looksForId] at looks

/-- The id that an operation hands out is the one that its search found. -/
theorem accepted?_spec {connection : Connection τ κ} {operation : Operation τ κ} {id : Nat}
    {ticket : κ} (accepted : connection.accepted? operation = some (id, ticket))
    : connection.looksForId operation = true ∧ id = connection.freshId := by
  cases handed : operation.ticket? with
  | none => simp [accepted?, handed] at accepted
  | some own =>
      cases connection.call_cases handed with
      | refused _ given => simp [given] at accepted
      | unsent _ given => simp [given] at accepted
      | sent looks given =>
          rw [given] at accepted
          exact ⟨looks, (Prod.mk.inj (Option.some.inj accepted)).1.symm⟩

/-- An operation uses up the id that it looks for, and none if it looks for none. -/
theorem nextId_after (connection : Connection τ κ) (operation : Operation τ κ)
    : (connection.after operation).nextId
      = if connection.looksForId operation then (connection.freshId + 1) % Text.word32
        else connection.nextId := by
  cases handed : operation.ticket? with
  | none =>
      have looks : connection.looksForId operation = false := by
        by_contra looks
        obtain ⟨ticket, same⟩ := ticket_of_looksForId (by simpa using looks)
        simp [handed] at same
      rw [looks, nextId_after_of_no_ticket connection handed]
      rfl
  | some ticket =>
      cases connection.call_cases handed with
      | refused looks _ same => rw [looks, same]; rfl
      | unsent looks _ next => rw [looks, next]; rfl
      | sent looks _ next => rw [looks, next]; rfl

end LanguageClient.Connection
