import LanguageClient.Channel
import LanguageClient.Proofs.Connection.Steps
import LanguageClient.Proofs.Message.Envelope
import LanguageClient.Proofs.Message.Outgoing

/-! What becomes of a message is decided by the members of its envelope: whether they are given,
null, or of some other kind. What their values hold inside decides nothing, and neither does the
session.
-/

namespace LanguageClient.Message

-----------------------------------------------------------------------------------------
-- Replies
-----------------------------------------------------------------------------------------

/-- The number of items that a server wants to know the configuration of. -/
def itemCount (params : Json) : Nat :=
  match params.get? "items" with
  | some (.arr items) => items.length
  | _ => 0

/-- A message replies to a request of the server: it has the id of that request, no method, and
either the result that the method calls for or an error, not both.
-/
structure IsReply (id : Json) (method : String) (params reply : Json) : Prop where
  id : reply.get? "id" = some id
  bare : reply.get? "method" = none
  agreed
    : method = "window/workDoneProgress/create" ∨ method = "client/registerCapability" →
        reply.get? "result" = some .null ∧ reply.get? "error" = none
  configured
    : method = "workspace/configuration" →
        reply.get? "result" = some (.arr (List.replicate (itemCount params) .null))
        ∧ reply.get? "error" = none
  refused
    : method ≠ "window/workDoneProgress/create" → method ≠ "client/registerCapability" →
        method ≠ "workspace/configuration" →
          reply.get? "result" = none
          ∧ ∃ error,
              reply.get? "error" = some error
              ∧ error.get? "code" = some (.int (-32601))
              ∧ error.get? "message" = some (.str ("Method not found: " ++ method))

theorem get?_result (id value : Json)
    : (result id value).get? "id" = some id
      ∧ (result id value).get? "method" = none
      ∧ (result id value).get? "result" = some value
      ∧ (result id value).get? "error" = none := by
  simp [result, Json.get?_object, protocolMember, lookup_cons_eq]

theorem get?_unknownMethod (id : Json) (method : String)
    : (unknownMethod id method).get? "id" = some id
      ∧ (unknownMethod id method).get? "method" = none
      ∧ (unknownMethod id method).get? "result" = none
      ∧ (unknownMethod id method).get? "error"
        = some (.object [("code", .int unknownMethodCode),
            ("message", .str ("Method not found: " ++ method))]) := by
  simp [unknownMethod, Json.get?_object, protocolMember, lookup_cons_eq]

theorem length_of_items (params : Json)
    : (((params.get? "items").bind Json.array?).getD []).length = itemCount params := by
  unfold itemCount
  cases params.get? "items" with
  | none => rfl
  | some items => cases items <;> rfl

theorem isReply_reply (id : Json) (method : String) (params : Json)
    : IsReply id method params (reply id method params) := by
  unfold reply
  split
  · obtain ⟨same, bare, value, error⟩ := get?_result id .null
    refine ⟨same, bare, fun _ => ⟨value, error⟩, fun known => ?_, fun other => absurd rfl other⟩
    exact absurd known (by decide)
  · obtain ⟨same, bare, value, error⟩ := get?_result id .null
    refine ⟨same, bare, fun _ => ⟨value, error⟩, fun known => ?_, fun _ other => absurd rfl other⟩
    exact absurd known (by decide)
  · rw [length_of_items]
    obtain ⟨same, bare, value, error⟩ := get?_result id (.arr (.replicate (itemCount params) .null))
    refine ⟨same, bare, fun known => ?_, fun _ => ⟨value, error⟩, fun _ _ other => absurd rfl other⟩
    exact absurd known (by decide)
  · next create register configuration =>
      obtain ⟨same, bare, value, error⟩ := get?_unknownMethod id method
      refine ⟨same, bare, fun known => ?_, fun known => absurd known configuration, fun _ _ _ => ?_⟩
      · rcases known with known | known
        · exact absurd known create
        · exact absurd known register
      · refine ⟨value, _, error, ?_⟩
        simp [Json.get?_object, lookup_cons_eq, unknownMethodCode]

end LanguageClient.Message

namespace LanguageClient.Connection

open Message

variable {τ κ : Type} [Transport τ]

-----------------------------------------------------------------------------------------
-- What becomes of a message
-----------------------------------------------------------------------------------------

/-- What becomes of a message whose envelope has these members, received over a transport that is
left as given: a notification is told to the listener, once; a request is replied to, once, and
leaves all but the transport as it was; everything without a method is a response and tells the
listener nothing; a method that is not a string costs the message.
-/
structure Dispatched (connection : Connection τ κ) (transport : τ) (value : Member → Option Json)
    (polled : Connection τ κ × Except ClientError Bool)
    : Prop where
  notification
    : ∀ method, value .method = some (.str method) → IsVoid (value .id) →
        polled
          = ({ connection with
                transport
                notices := connection.notices ++ connection.listener.toList.map fun listener =>
                  { listener, method, params := (value .params).getD .null } },
              .ok true)
  request
    : ∀ method id, value .method = some (.str method) → value .id = some id → id ≠ .null →
        ∃ reply,
          IsReply id method ((value .params).getD .null) reply
          ∧ polled
            = ({ connection with transport := (Transport.send transport reply).1 },
                (Transport.send transport reply).2.map fun () => true)
  silent
    : IsVoid (value .method) →
        polled.1.notices = connection.notices ∧ polled.1.listener = connection.listener
  anonymous
    : IsVoid (value .method) → (value .id).bind Json.u32? = none →
        polled = ({ connection with transport }, .error .responseWithoutId)
  unknown
    : IsVoid (value .method) → ∀ id, (value .id).bind Json.u32? = some id →
        connection.pending.lookup id = none →
          polled = ({ connection with transport }, .error (.unknownRequestId id))
  answered
    : IsVoid (value .method) → ∀ id ticket, (value .id).bind Json.u32? = some id →
        connection.pending.lookup id = some ticket →
          polled.2 = .ok true
          ∧ polled.1.answers = connection.answers ++ [(ticket, verdict value)]
          ∧ polled.1.pending = connection.pending.filter (·.1 ≠ id)
          ∧ (connection.openingId ≠ some id ∨ connection.phase ≠ .initializing →
              polled.1.transport = transport ∧ polled.1.phase = connection.phase)
  nonsense
    : ∀ method, value .method = some method → method ≠ .null → (∀ text, method ≠ .str text) →
        polled = ({ connection with transport }, .error .json)

theorem bind_u32?_filter (value : Option Json)
    : (value.filter (! ·.isNull)).bind Json.u32? = value.bind Json.u32? := by
  rcases value with _ | _ | _ <;> rfl

theorem finishOpening_notices (connection : Connection τ κ) (result : Except ClientError Json)
    : (connection.finishOpening result).notices = connection.notices
      ∧ (connection.finishOpening result).listener = connection.listener := by
  have finished := finishOpening_cases connection result
  generalize connection.finishOpening result = after at finished
  cases finished <;> exact ⟨rfl, rfl⟩

/-- What a response that somebody waits for leaves behind. -/
theorem handleResponse_of_found (connection : Connection τ κ) {given : Option Json}
    (outcome : Message.Outcome) {id : Nat} {ticket : κ} (named : given.bind Json.u32? = some id)
    (found : connection.pending.lookup id = some ticket)
    : ∃ after,
        connection.handleResponse given outcome = (after, .ok ())
        ∧ after.notices = connection.notices
        ∧ after.listener = connection.listener
        ∧ after.answers = connection.answers ++ [(ticket, resultOf outcome)]
        ∧ after.pending = connection.pending.filter (·.1 ≠ id)
        ∧ (connection.openingId ≠ some id ∨ connection.phase ≠ .initializing →
            after.transport = connection.transport ∧ after.phase = connection.phase) := by
  let rest := { connection with pending := connection.pending.filter (·.1 ≠ id) }
  by_cases opening : connection.openingId = some id
  · refine ⟨(rest.finishOpening (resultOf outcome)).answer ticket (resultOf outcome),
      by simp only [handleResponse, named, found, if_pos opening, rest], ?_⟩
    obtain ⟨notices, listener⟩ := finishOpening_notices rest (resultOf outcome)
    obtain ⟨-, pending, answers, -⟩ := (finishOpening_cases rest (resultOf outcome)).frame
    refine ⟨notices, listener, congrArg (· ++ _) answers, pending, ?_⟩
    rintro (other | late)
    · exact absurd opening other
    · simp only [answer, finishOpening, rest, if_neg late, and_self]
  · refine ⟨rest.answer ticket (resultOf outcome),
      by simp only [handleResponse, named, found, if_neg opening, rest], ?_⟩
    exact ⟨rfl, rfl, rfl, rfl, fun _ => ⟨rfl, rfl⟩⟩

theorem handleResponse_notices (connection : Connection τ κ) (given : Option Json)
    (outcome : Message.Outcome)
    : (connection.handleResponse given outcome).1.notices = connection.notices
      ∧ (connection.handleResponse given outcome).1.listener = connection.listener := by
  cases named : given.bind Json.u32? with
  | none => simp only [handleResponse, named, and_self]
  | some id =>
      cases found : connection.pending.lookup id with
      | none => simp only [handleResponse, named, found, and_self]
      | some ticket =>
          obtain ⟨after, handled, notices, listener, -⟩ :=
            handleResponse_of_found connection outcome named found
          rw [handled]
          exact ⟨notices, listener⟩

/-- A message is dispatched by the members that its envelope gives. -/
theorem dispatched_of_given {connection : Connection τ κ} {transport : τ} {body : Bytes}
    {raw : Json.Raw} {given : List (Member × Json)} {value : Member → Option Json}
    (received : Transport.receive connection.transport = (transport, .ok (some body)))
    (piece : Json.Raw.ofBytes? body = some raw)
    (read : members? raw = some given)
    (found : ∀ member, given.lookup member = value member)
    : Dispatched connection transport value connection.poll := by
  have message : Incoming.ofBytes? body = ofMembers? given := by
    rw [Incoming.ofBytes?, piece, Option.bind_some, read, Option.bind_some]
  have answer (void : IsVoid (value .method))
      : let handled :=
          { connection with transport }.handleResponse (present? given .id) (outcome given)
        connection.poll = (handled.1, handled.2.map fun _ => true) := by
    simp only [poll, received, message, ofMembers?, present?, found, filter_of_isVoid void, handle]
  have named : (present? given .id).bind Json.u32? = (value .id).bind Json.u32? := by
    rw [present?, found, bind_u32?_filter]
  refine ⟨?notification, ?request, ?silent, ?anonymous, ?unknown, ?answered, ?nonsense⟩
  case notification =>
    intro method named void
    simp only [poll, received, message, ofMembers?, present?, found, named, filter_of_isVoid void,
      filter_of_ne_null (Json.noConfusion : Json.str method ≠ .null), getD_filter, handle,
      handleNotification]
    cases connection.listener with
    | none => simp [Except.map]
    | some listener => rfl
  case request =>
    intro method id named identified given
    refine ⟨_, isReply_reply id method _, ?_⟩
    simp only [poll, received, message, ofMembers?, present?, found, named, identified,
      filter_of_ne_null given, filter_of_ne_null (Json.noConfusion : Json.str method ≠ .null),
      getD_filter, handle, write]
  case silent =>
    intro void
    rw [answer void]
    exact handleResponse_notices { connection with transport } _ _
  case anonymous =>
    intro void nameless
    rw [answer void]
    simp only [handleResponse, named, nameless]
    rfl
  case unknown =>
    intro void id identified nobody
    rw [answer void]
    simp only [handleResponse, named, identified, nobody]
    rfl
  case answered =>
    intro void id ticket identified waits
    obtain ⟨after, handled, -, -, answers, pending, rest⟩ :=
      handleResponse_of_found { connection with transport } (outcome given)
        (named.trans identified) waits
    rw [answer void, handled, ← resultOf_outcome found]
    exact ⟨rfl, answers, pending, rest⟩
  case nonsense =>
    intro method named present other
    have unread : ofMembers? given = none := by
      simp only [ofMembers?, present?, found, named, filter_of_ne_null present]
      cases method with
      | str text => exact absurd rfl (other text)
      | _ => rfl
    simp only [poll, received, message, unread]

/-- What becomes of a message is decided by its envelope, in every session: by its own members,
where the whole of it can be read; by those it gives for an envelope, where only these can; and a
message that gives none costs itself.
-/
theorem dispatched_by_structure {connection : Connection τ κ} {transport : τ} {body : Bytes}
    {members : List (Bytes × Json.Raw)}
    (received : Transport.receive connection.transport = (transport, .ok (some body)))
    (object : Json.Raw.ofBytes? body = some (.obj members))
    (once : ∀ member : Member, (under member.name members).length ≤ 1)
    : (∀ message, Json.parse? body = some message →
          Dispatched connection transport (fun member => message.get? member.name) connection.poll)
      ∧ (∀ value, Envelope members value →
          Dispatched connection transport value connection.poll)
      ∧ ((∀ value, ¬ Envelope members value) →
          connection.poll = ({ connection with transport }, .error .json)) := by
  have dispatched (value : Member → Option Json) (envelope : Envelope members value)
      : Dispatched connection transport value connection.poll := by
    obtain ⟨given, read, found⟩ := envelope_iff.mp envelope
    exact dispatched_of_given received object read found
  refine ⟨fun message parsed => ?_, dispatched, fun bare => ?_⟩
  · exact dispatched _ (envelope_of_parse? object once parsed)
  · have unread : members? (.obj members) = none := by
      cases read : members? (.obj members) with
      | none => rfl
      | some given => exact absurd (envelope_iff.mpr ⟨given, read, fun _ => rfl⟩) (bare _)
    have message : Incoming.ofBytes? body = none := by
      rw [Incoming.ofBytes?, object, Option.bind_some, unread]
      rfl
    simp only [poll, received, message]

/-- A request of the server that has the id of a request that waits is replied to, and the request
goes on waiting.
-/
theorem request_with_pending_id_dispatched
    : let body :=
        Text.bytes ("\x7b\"id\":0,\"method\":\"workspace/configuration\","
          ++ "\"params\":\x7b\"items\":[1,2]\x7d\x7d")
      let connection : Connection Channel String :=
        { fresh ((Channel.fresh 0).push (.ok body)) with
          phase := .exited
          pending := [(0, "waits")] }
      ∃ transport members reply,
        Transport.receive connection.transport = (transport, .ok (some body))
        ∧ Json.Raw.ofBytes? body = some (.obj members)
        ∧ (∀ member : Member, (under member.name members).length ≤ 1)
        ∧ IsReply (.nat 0) "workspace/configuration"
            (.object [("items", .arr [.nat 1, .nat 2])]) reply
        ∧ connection.poll
          = ({ connection with transport := (Transport.send transport reply).1 }, .ok true) := by
  intro body connection
  let members : List (Bytes × Json.Raw) :=
    [(Text.bytes "id", .num (Text.bytes "0")),
      (Text.bytes "method", .str (Text.bytes "workspace/configuration")),
      (Text.bytes "params",
        .obj [(Text.bytes "items", .arr [.num (Text.bytes "1"), .num (Text.bytes "2")])])]
  have received
      : Transport.receive connection.transport = (Channel.fresh 0, .ok (some body)) := rfl
  have object : Json.Raw.ofBytes? body = some (.obj members) := rfl
  have once : ∀ member : Member, (under member.name members).length ≤ 1 := by
    intro member
    cases member <;> decide +kernel
  have parsed
      : Json.parse? body
        = some (.object [("id", .nat 0), ("method", .str "workspace/configuration"),
            ("params", .object [("items", .arr [.nat 1, .nat 2])])]) := by
    decide +kernel
  have dispatched := (dispatched_by_structure received object once).1 _ parsed
  obtain ⟨reply, replies, polled⟩ :=
    dispatched.request "workspace/configuration" (.nat 0) rfl rfl (by decide)
  exact ⟨_, members, reply, received, object, once, replies, polled⟩

end LanguageClient.Connection
