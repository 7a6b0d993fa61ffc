import LanguageClient.Message.Outgoing
import LanguageClient.Proofs.Json.Object

/-! The members of the messages to a server. Requests and notifications name their method, and
replies have none.
-/

namespace LanguageClient.Message

/-- The method that a message names. A reply names none. -/
def method? (message : Json) : Option String :=
  (message.get? "method").bind Json.string?

/-- The parameters of a message. -/
def params? (message : Json) : Option Json :=
  message.get? "params"

@[simp]
theorem method?_request (id : Nat) (method : String) (params : Option Json)
    : method? (request id method params) = some method := by
  cases params <;>
    simp [method?, request, Json.get?_object, paramsMember, protocolMember, lookup_cons_eq,
      Json.string?]

@[simp]
theorem method?_notification (method : String) (params : Option Json)
    : method? (notification method params) = some method := by
  cases params <;>
    simp [method?, notification, Json.get?_object, paramsMember, protocolMember, lookup_cons_eq,
      Json.string?]

@[simp]
theorem params?_request (id : Nat) (method : String) (params : Option Json)
    : params? (request id method params) = params := by
  cases params <;>
    simp [params?, request, Json.get?_object, paramsMember, protocolMember, lookup_cons_eq]

@[simp]
theorem params?_notification (method : String) (params : Option Json)
    : params? (notification method params) = params := by
  cases params <;>
    simp [params?, notification, Json.get?_object, paramsMember, protocolMember, lookup_cons_eq]

theorem method?_result (id value : Json) : method? (result id value) = none := by
  simp [method?, result, Json.get?_object, protocolMember, lookup_cons_eq]

theorem method?_unknownMethod (id : Json) (method : String)
    : method? (unknownMethod id method) = none := by
  simp [method?, unknownMethod, Json.get?_object, protocolMember, lookup_cons_eq]

/-- No reply looks like a request or a notification. -/
@[simp]
theorem method?_reply (id : Json) (method : String) (params : Json)
    : method? (reply id method params) = none := by
  unfold reply
  split
  · exact method?_result id .null
  · exact method?_result id .null
  · exact method?_result id _
  · exact method?_unknownMethod id method

end LanguageClient.Message
