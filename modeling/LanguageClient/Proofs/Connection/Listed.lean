import LanguageClient.Proofs.Connection.Dispatch
import LanguageClient.Proofs.Connection.Operation

/-! What becomes of a message that is no object. A list that is short enough is an envelope too: its
values are the members, each by its place. Everything else costs itself.
-/

namespace LanguageClient.Connection

open Message

variable {τ κ : Type} [Transport τ] {connection : Connection τ κ} {transport : τ} {body : Bytes}

/-- A list is dispatched like the object that gives its values to the members at their places. -/
theorem dispatched_of_list {values : List Json}
    (received : Transport.receive connection.transport = (transport, .ok (some body)))
    (parsed : Json.parse? body = some (.arr values)) (short : values.length ≤ Member.all.length)
    : Dispatched connection transport (fun member => values[member.place]?) connection.poll := by
  have bare := ofBytes?_ne_obj parsed
  have given := (givenMembers?_eq_some_iff bare).mpr ⟨values, parsed, short, rfl⟩
  obtain ⟨raw, piece, read⟩ := Option.bind_eq_some_iff.mp given
  exact dispatched_of_given received piece read fun member => lookup_zip values member.mem_all

/-- What is neither an object nor a list that is short enough costs itself. -/
theorem poll_of_no_members
    (received : Transport.receive connection.transport = (transport, .ok (some body)))
    (bare : ∀ members, Json.Raw.ofBytes? body ≠ some (.obj members))
    (long : ∀ values, Json.parse? body = some (.arr values) → Member.all.length < values.length)
    : connection.poll = ({ connection with transport }, .error .json) := by
  have message : Incoming.ofBytes? body = none := by
    rw [Incoming.ofBytes?, Option.bind_eq_none_iff]
    intro given read
    obtain ⟨values, parsed, short, -⟩ := (givenMembers?_eq_some_iff bare).mp read
    exact absurd short (Nat.not_le.mpr (long values parsed))
  simp only [poll, received, message]

/-- A batch, which is a list of objects, costs itself, however long it is. -/
theorem batch_costs_itself {values : List Json}
    (received : Transport.receive connection.transport = (transport, .ok (some body)))
    (parsed : Json.parse? body = some (.arr values))
    (objects : ∀ value ∈ values, ∃ members, value = .obj members)
    : ∃ error,
        connection.poll = ({ connection with transport }, .error error)
        ∧ (error = .json ∨ error = .responseWithoutId) := by
  rcases Nat.lt_or_ge Member.all.length values.length with long | short
  · refine ⟨.json, ?_, .inl rfl⟩
    apply poll_of_no_members received (ofBytes?_ne_obj parsed)
    intro others same
    obtain rfl := Json.arr.inj (Option.some.inj (parsed.symm.trans same))
    exact long
  · have dispatched := dispatched_of_list received parsed short
    match values, objects with
    | [], _ => exact ⟨_, dispatched.anonymous (.inl rfl) rfl, .inr rfl⟩
    | [_], objects =>
        obtain ⟨members, rfl⟩ := objects _ List.mem_cons_self
        exact ⟨_, dispatched.anonymous (.inl rfl) rfl, .inr rfl⟩
    | _ :: _ :: _, objects =>
        obtain ⟨members, rfl⟩ := objects _ (List.mem_cons_of_mem _ List.mem_cons_self)
        exact ⟨_, dispatched.nonsense _ rfl Json.noConfusion fun _ => Json.noConfusion, .inl rfl⟩

/-- A message that is no object, in every session: a list of no more values than an envelope has
members is dispatched like the object with these members, and everything else costs itself.
-/
theorem dispatched_by_place
    (received : Transport.receive connection.transport = (transport, .ok (some body)))
    : (∀ values, Json.parse? body = some (.arr values) → values.length ≤ Member.all.length →
          Dispatched connection transport (fun member => values[member.place]?) connection.poll)
      ∧ ((∀ members, Json.Raw.ofBytes? body ≠ some (.obj members)) →
          (∀ values, Json.parse? body = some (.arr values) →
            Member.all.length < values.length) →
            connection.poll = ({ connection with transport }, .error .json)) :=
  ⟨fun _ => dispatched_of_list received, poll_of_no_members received⟩

/-- A list in the order of the members answers the request that waits; with a sixth value, it costs
itself.
-/
theorem four_values_dispatched_by_place
    : let connection (body : Bytes) : Connection Channel String :=
        { fresh ((Channel.fresh 0).push (.ok body)) with pending := [(0, "waits")] }
      let short := connection (Text.bytes "[0,null,null,\"told\"]")
      let long := connection (Text.bytes "[0,null,null,\"told\",null,null]")
      short.poll.2 = .ok true
      ∧ short.poll.1.answers = [("waits", .ok (.str "told"))]
      ∧ short.poll.1.pending = []
      ∧ long.poll = ({ long with transport := Channel.fresh 0 }, .error .json) := by
  intro connection short long
  have received (body : Bytes)
      : Transport.receive (connection body).transport = (Channel.fresh 0, .ok (some body)) := rfl
  have parsedShort
      : Json.parse? (Text.bytes "[0,null,null,\"told\"]")
        = some (.arr [.nat 0, .null, .null, .str "told"]) := by
    decide +kernel
  have parsedLong
      : Json.parse? (Text.bytes "[0,null,null,\"told\",null,null]")
        = some (.arr [.nat 0, .null, .null, .str "told", .null, .null]) := by
    decide +kernel
  have dispatched := (dispatched_by_place (received _)).1 _ parsedShort (by decide)
  obtain ⟨polled, answers, pending, -⟩ := dispatched.answered (.inr rfl) 0 "waits" rfl rfl
  have costs := (dispatched_by_place (received _)).2 (ofBytes?_ne_obj parsedLong)
  refine ⟨polled, ?_, ?_, costs ?_⟩
  · rw [answers]
    rfl
  · rw [pending]
    rfl
  · intro values parsed
    obtain rfl := Json.arr.inj (Option.some.inj (parsedLong.symm.trans parsed))
    decide

/-- A list can answer a request as the response does that it should have been: a message that is
no object need not cost itself.
-/
theorem listed_response_is_taken
    : ¬ ∀ (channel transport : Channel) (operations : List (Operation Channel String))
          (body : Bytes) (message : Json),
        let connection := (fresh channel : Connection Channel String).run operations
        Transport.receive connection.transport = (transport, .ok (some body)) →
          Json.parse? body = some message →
            (∀ members, message ≠ .obj members) →
              connection.poll = ({ connection with transport }, .error .json) := by
  intro costs
  have lost :=
    costs (Channel.fresh 0) { Channel.fresh 0 with sent := [Message.request 0 "ask" none] }
      [.request "ask" none "one",
        .disturb (·.push (.ok (Text.bytes "[0,null,null,\"forged\"]")))]
      (Text.bytes "[0,null,null,\"forged\"]") (.arr [.nat 0, .null, .null, .str "forged"])
      rfl (by decide +kernel) (fun _ => Json.noConfusion)
  exact absurd (congrArg (·.1.pending) lost) (by decide +kernel)

end LanguageClient.Connection
