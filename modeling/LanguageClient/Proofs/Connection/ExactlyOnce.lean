import LanguageClient.Channel
import LanguageClient.Proofs.Connection.Completion

/-! A connection answers every request once. As long as not all ids of 32 bits were used, no id is
handed out twice, so that a late response finds nobody who waits for it.
-/

namespace LanguageClient.Connection

variable {τ κ : Type} [Transport τ]

-----------------------------------------------------------------------------------------
-- Parts of a run
-----------------------------------------------------------------------------------------

/-- The first part of a run comes to an end, and so does what follows it. -/
theorem runReturns_append {connection : Connection τ κ} {first second : List (Operation τ κ)}
    : connection.RunReturns (first ++ second)
      ↔ connection.RunReturns first ∧ (connection.run first).RunReturns second := by
  induction first generalizing connection with
  | nil => simp [RunReturns]
  | cons operation rest ih => simp [RunReturns, ih, and_assoc]

/-- The ids that a run hands out are those of its parts. -/
theorem givenIds_append (connection : Connection τ κ) (first second : List (Operation τ κ))
    : connection.givenIds (first ++ second)
      = connection.givenIds first ++ (connection.run first).givenIds second := by
  induction first generalizing connection with
  | nil => rfl
  | cons operation rest ih => simp [givenIds, ih]

theorem nodup_run {connection : Connection τ κ} {operations : List (Operation τ κ)}
    (different : (connection.pending.map (·.1)).Nodup) (returns : connection.RunReturns operations)
    : (((connection.run operations).pending.map (·.1))).Nodup := by
  induction operations generalizing connection with
  | nil => exact different
  | cons operation rest ih => exact ih (nodup_after different returns.1) returns.2

/-- Those that wait after an operation waited before it, or were sent by it. -/
theorem pending_after_subset {connection : Connection τ κ} (operation : Operation τ κ)
    (different : (connection.pending.map (·.1)).Nodup)
    : (connection.after operation).pending.map (·.1)
      ⊆ connection.pending.map (·.1)
        ++ ((connection.accepted? operation).map (·.1)).toList := by
  rw [(settlement connection operation different).pending, List.map_append, Option.toList_map]
  exact (List.Sublist.append_right (List.filter_sublist.map _) _).subset

/-- A run comes to an end if there are ids for all that it may send and for what waits already.
Induction on the operations: each leaves one more request waiting at most.
-/
theorem runReturns_of_few {connection : Connection τ κ} {operations : List (Operation τ κ)}
    (different : (connection.pending.map (·.1)).Nodup)
    (few : connection.pending.length + operations.length ≤ Text.word32)
    : connection.RunReturns operations := by
  induction operations generalizing connection with
  | nil => trivial
  | cons operation rest ih =>
      rw [List.length_cons] at few
      have returns : connection.Returns operation := fun _ => hasFreeId_of_few (by omega)
      have kept : (connection.unsettled operation).length ≤ connection.pending.length :=
        List.length_filter_le ..
      have added : (connection.accepted? operation).toList.length ≤ 1 := by
        cases connection.accepted? operation <;> simp
      refine ⟨returns, ih (nodup_after different returns) ?_⟩
      rw [(settlement connection operation different).pending, List.length_append]
      omega

-----------------------------------------------------------------------------------------
-- Ids in turn
-----------------------------------------------------------------------------------------

theorem givenIds_sublist (connection : Connection τ κ) (operations : List (Operation τ κ))
    : (connection.givenIds operations).Sublist (connection.usedIds operations) := by
  induction operations generalizing connection with
  | nil => exact .slnil
  | cons operation rest ih =>
      refine List.Sublist.append ?_ (ih _)
      cases accepted : connection.accepted? operation with
      | none => exact List.nil_sublist _
      | some entry =>
          obtain ⟨looks, named⟩ := accepted?_spec accepted
          simp [looks, named]

/-- Where the ids used so far are those below `start`, a run uses the ids from `start` on, one
after the other, until all are used. Induction on the run; those that wait have ids below `start`.
-/
theorem usedIds_eq_range' {connection : Connection τ κ} {operations : List (Operation τ κ)}
    {start : Nat} (different : (connection.pending.map (·.1)).Nodup)
    (returns : connection.RunReturns operations)
    (below : ∀ id ∈ connection.pending.map (·.1), id < start)
    (next : connection.nextId = start % Text.word32)
    (few : start + (connection.usedIds operations).length ≤ Text.word32)
    : connection.usedIds operations
      = List.range' start (connection.usedIds operations).length := by
  induction operations generalizing connection start with
  | nil => rfl
  | cons operation rest ih =>
      obtain ⟨returnsFirst, returnsRest⟩ := returns
      have different' := nodup_after different returnsFirst
      have nextAfter := nextId_after connection operation
      have waiting := pending_after_subset operation different
      cases looks : connection.looksForId operation with
      | false =>
          have silent : connection.accepted? operation = none := by
            by_contra accepted
            obtain ⟨_, accepted⟩ := Option.ne_none_iff_exists'.mp accepted
            simp [(accepted?_spec accepted).1] at looks
          simp only [silent, Option.map_none, Option.toList_none, List.append_nil] at waiting
          simp only [usedIds, looks, Bool.false_eq_true, if_false, List.nil_append] at few nextAfter ⊢
          exact ih different' returnsRest (fun id member => below id (waiting member))
            (nextAfter.trans next) few
      | true =>
          simp only [usedIds, looks, if_true, List.singleton_append, List.length_cons]
            at few nextAfter ⊢
          have small : start < Text.word32 := by omega
          have first : connection.freshId = start := by
            rw [Nat.mod_eq_of_lt small] at next
            rw [← next]
            refine freshId_eq_nextId (next ▸ small) (isPending_eq_false_iff.mpr fun member => ?_)
            exact absurd (below _ member) (by omega)
          rw [first] at nextAfter ⊢
          have below' : ∀ id ∈ (connection.after operation).pending.map (·.1), id < start + 1 := by
            intro id member
            rcases List.mem_append.mp (waiting member) with old | new
            · exact Nat.lt_succ_of_lt (below id old)
            · obtain ⟨entry, accepted, rfl⟩ := Option.map_eq_some_iff.mp (Option.mem_toList.mp new)
              rw [(accepted?_spec accepted).2, first]
              exact Nat.lt_succ_self start
          rw [List.range'_succ, ← ih different' returnsRest below' nextAfter (by omega)]

/-- As long as ids are left, those that a new connection hands out are all different. -/
theorem givenIds_nodup {transport : τ} {operations : List (Operation τ κ)}
    (returns : (fresh transport : Connection τ κ).RunReturns operations)
    (few : ((fresh transport : Connection τ κ).usedIds operations).length ≤ Text.word32)
    : ((fresh transport : Connection τ κ).givenIds operations).Nodup := by
  have nobody : (fresh transport : Connection τ κ).pending.map (·.1) = [] := rfl
  have inTurn
      : (fresh transport : Connection τ κ).usedIds operations
        = List.range' 0 ((fresh transport : Connection τ κ).usedIds operations).length :=
    usedIds_eq_range' (nobody ▸ List.nodup_nil) returns (by simp [nobody]) rfl (by omega)
  refine List.Nodup.sublist (givenIds_sublist _ _) ?_
  rw [inTurn]
  exact List.nodup_range'

-----------------------------------------------------------------------------------------
-- Late responses
-----------------------------------------------------------------------------------------

/-- Those that wait after a run waited before it, or were sent by it. -/
theorem pending_run_subset {connection : Connection τ κ} {operations : List (Operation τ κ)}
    (different : (connection.pending.map (·.1)).Nodup) (returns : connection.RunReturns operations)
    : (connection.run operations).pending.map (·.1)
      ⊆ connection.pending.map (·.1) ++ connection.givenIds operations := by
  induction operations generalizing connection with
  | nil => simp [givenIds]
  | cons operation rest ih =>
      intro id member
      rcases List.mem_append.mp (ih (nodup_after different returns.1) returns.2 member) with
        waiting | later
      · have now := pending_after_subset operation different waiting
        simp only [givenIds, List.mem_append] at now ⊢
        tauto
      · simp [givenIds, later]

/-- A response to nobody who waits is dropped: it answers nothing. -/
theorem poll_answers_of_unknown {connection : Connection τ κ} {id : Nat}
    {result : Except ClientError Json} (heard : connection.heard? = some (id, result))
    (unknown : connection.isPending id = false) (different : (connection.pending.map (·.1)).Nodup)
    : (connection.after .poll).answers = connection.answers := by
  have nobody : ∀ entry ∈ connection.pending, connection.settles? .poll entry.1 = none := by
    intro entry member
    have other : id ≠ entry.1 := by
      rintro rfl
      exact isPending_eq_false_iff.mp unknown (List.mem_map_of_mem member)
    rcases received : (Transport.receive connection.transport).2 with error | body | body
    · simp [heard?, received] at heard
    · simp [heard?, received] at heard
    · simp only [heard?, received] at heard
      simp [settles?, received, heard, other]
  rw [(settlement connection .poll different).answers, (settled_of_none nobody).1, List.append_nil]

/-- Once a request does not wait any more, nobody ever waits under its id again. -/
theorem isPending_run_of_given {transport : τ} {first second : List (Operation τ κ)} {id : Nat}
    (returns : (fresh transport : Connection τ κ).RunReturns (first ++ second))
    (few : ((fresh transport : Connection τ κ).usedIds (first ++ second)).length ≤ Text.word32)
    (given : id ∈ (fresh transport : Connection τ κ).givenIds first)
    (settled : ((fresh transport : Connection τ κ).run first).isPending id = false)
    : ((fresh transport : Connection τ κ).run (first ++ second)).isPending id = false := by
  have once := givenIds_nodup returns few
  rw [givenIds_append] at once
  obtain ⟨returnsFirst, returnsSecond⟩ := runReturns_append.mp returns
  have start : (((fresh transport : Connection τ κ).run first).pending.map (·.1)).Nodup :=
    nodup_run List.nodup_nil returnsFirst
  rw [run_append]
  refine isPending_eq_false_iff.mpr fun waits => ?_
  rcases List.mem_append.mp (pending_run_subset start returnsSecond waits) with old | again
  · exact isPending_eq_false_iff.mp settled old
  · exact (List.nodup_append.mp once).2.2 id given id again rfl

/-- Every request of a run that was sent is answered once, at the first thing that ends its waiting
and with what that tells it; nothing else is answered, no request that is refused or that could not
be written among them. A response is a body that answers the request, and tells it the result, the
failure that the server reports, or that the error is none. The id that a request gets is not
pending. As long as ids are left, no id is handed out twice, and a response to a request that was
answered already answers nothing, whatever sessions were opened in between.
-/
theorem answered_exactly_once (transport : τ) (operations : List (Operation τ κ))
    (returns : (fresh transport : Connection τ κ).RunReturns operations)
    : ((fresh transport : Connection τ κ).completions 0 operations).Perm
        ((fresh transport : Connection τ κ).dues 0 operations)
      ∧ (∀ body id result,
          Message.responseIn? body = some (id, result) ↔ Message.Answers body id result)
      ∧ (∀ first operation second, operations = first ++ operation :: second →
          ∀ id ticket,
            ((fresh transport : Connection τ κ).run first).accepted? operation = some (id, ticket) →
              ((fresh transport : Connection τ κ).run first).isPending id = false)
      ∧ (((fresh transport : Connection τ κ).usedIds operations).length ≤ Text.word32 →
          ((fresh transport : Connection τ κ).givenIds operations).Nodup
          ∧ ∀ first second, operations = first ++ second →
              ∀ id ∈ (fresh transport : Connection τ κ).givenIds first,
                ((fresh transport : Connection τ κ).run first).isPending id = false →
                  ∀ result,
                    ((fresh transport : Connection τ κ).run operations).heard?
                      = some (id, result) →
                    (((fresh transport : Connection τ κ).run operations).after .poll).answers
                      = ((fresh transport : Connection τ κ).run operations).answers) := by
  refine ⟨?_, fun _ _ _ => Message.responseIn?_eq_some_iff_answers, ?_,
    fun few => ⟨givenIds_nodup returns few, ?_⟩⟩
  · simpa [fresh] using completions_perm_fates operations (fresh transport) 0 List.nodup_nil returns
  · rintro first operation second rfl id ticket accepted
    obtain ⟨looks, rfl⟩ := accepted?_spec accepted
    obtain ⟨returnsHere, _⟩ := (runReturns_append.mp returns).2
    exact (freshId_spec (returnsHere looks)).2
  · rintro first second rfl id given settled result heard
    exact poll_answers_of_unknown heard (isPending_run_of_given returns few given settled)
      (nodup_run List.nodup_nil returns)

/-- Five requests are answered once each: by the loss of the transport, which a frame that is merely
spoiled is not, by a result, by an error that is none, by a failure of the server, and by a reset.
-/
theorem five_requests_answered_exactly_once
    : let channel :=
        { Channel.fresh 0 with
          inbound :=
            [.ok (Text.bytes "\x7b\"id\":1,\"result\":true\x7d"),
              .ok (Text.bytes
                "\x7b\"id\":3,\"error\":\x7b\"code\":-32601,\"message\":\"no\"\x7d\x7d"),
              .error .missingContentLength,
              .ok (Text.bytes "\x7b\"id\":2,\"error\":\x7b\"code\":\"no\"\x7d\x7d"),
              .error .unexpectedEof] }
      let operations : List (Operation Channel String) :=
        [.request "first" none "one", .request "second" none "two", .request "third" none "three",
          .request "fourth" none "four", .poll, .poll, .poll, .poll, .poll,
          .request "fifth" none "five", .reset]
      (fresh channel : Connection Channel String).RunReturns operations
      ∧ ((fresh channel).completions 0 operations).Perm
          [⟨8, "one", .error .processNotRunning⟩, ⟨4, "two", .ok (.bool true)⟩,
            ⟨7, "three", .error .json⟩, ⟨5, "four", .error (.serverError (-32601) "no")⟩,
            ⟨10, "five", .error .processNotRunning⟩] := by
  intro channel operations
  have returns : (fresh channel : Connection Channel String).RunReturns operations :=
    runReturns_of_few List.nodup_nil (by decide)
  have fates
      : (fresh channel : Connection Channel String).dues 0 operations
        = [⟨8, "one", .error .processNotRunning⟩, ⟨4, "two", .ok (.bool true)⟩,
            ⟨7, "three", .error .json⟩, ⟨5, "four", .error (.serverError (-32601) "no")⟩,
            ⟨10, "five", .error .processNotRunning⟩] := by
    decide +kernel
  exact ⟨returns, fates ▸ (answered_exactly_once channel operations returns).1⟩

end LanguageClient.Connection
