import LanguageClient.Json.Basic

/-!
Messages to a server: requests, notifications, and replies to requests of the server.
-/

namespace LanguageClient.Message

/-- The member that names the protocol. -/
def protocolMember : String × Json :=
  ("jsonrpc", .str "2.0")

/-- The member for parameters, where there are any. -/
def paramsMember : Option Json → List (String × Json)
  | some params => [("params", params)]
  | none => []

/-- A request. -/
def request (id : Nat) (method : String) (params : Option Json) : Json :=
  .object ([protocolMember, ("id", .nat id), ("method", .str method)] ++ paramsMember params)

/-- A notification. -/
def notification (method : String) (params : Option Json) : Json :=
  .object ([protocolMember, ("method", .str method)] ++ paramsMember params)

/-- The result of a request of the server. -/
def result (id value : Json) : Json :=
  .object [protocolMember, ("id", id), ("result", value)]

/-- The code for methods that are not known. -/
def unknownMethodCode : Int := -32601

/-- The reply to a request of the server that is not known. -/
def unknownMethod (id : Json) (method : String) : Json :=
  .object [protocolMember, ("id", id),
    ("error", .object [("code", .int unknownMethodCode),
      ("message", .str ("Method not found: " ++ method))])]

/-- The reply to a request of the server. Progress and registrations are agreed to, and every
item of a configuration is null. -/
def reply (id : Json) (method : String) (params : Json) : Json :=
  match method with
  | "window/workDoneProgress/create" | "client/registerCapability" => result id .null
  | "workspace/configuration" =>
      let count := ((params.get? "items").bind Json.array?).getD [] |>.length
      result id (.arr (List.replicate count .null))
  | _ => unknownMethod id method

end LanguageClient.Message
