import LanguageClient.Frame
import LanguageClient.Json.Parser
import LanguageClient.Json.Printer
import LanguageClient.Machine.Basic

/-!
A server that follows a script: for each method the script lists what to send when a message of
that method arrives. It stands in for a server when a client is tried out.
-/

namespace LanguageClient.Machine.ScriptedServer

/-- What a script tells the server to do. -/
inductive Step where
  | send (body : Bytes)
  | exit

/-- The text with every occurrence of a pattern replaced, from left to right. -/
def replace (pattern replacement : List Char) : List Char → List Char
  | [] => []
  | c :: rest =>
      if pattern.isPrefixOf (c :: rest) && ! pattern.isEmpty then
        replacement ++ replace pattern replacement (rest.drop (pattern.length - 1))
      else c :: replace pattern replacement rest
termination_by text => text.length
decreasing_by
  · simp only [List.length_drop, List.length_cons]
    omega
  · exact Nat.lt_succ_self _

/-- The text in a script that stands for the parameters of a message. -/
def paramsMark : List Char := "@PARAMS@".toList

mutual

/-- A value of a script with the text of the parameters put in. -/
def fill (params : List Char) : Json → Json
  | .str s => .str (String.ofList (replace paramsMark params s.toList))
  | .arr elements => .arr (fillElements params elements)
  | .obj members => .obj (fillMembers params members)
  | other => other

/-- Values of a script with the text of the parameters put in. -/
def fillElements (params : List Char) : List Json → List Json
  | [] => []
  | element :: rest => fill params element :: fillElements params rest

/-- Members of a script with the text of the parameters put in. -/
def fillMembers (params : List Char) : List (String × Json) → List (String × Json)
  | [] => []
  | (key, value) :: rest => (key, fill params value) :: fillMembers params rest

end

/-- A message of a script for the message that it answers. -/
def fillMessage (message params : Json) (id : Json) : Json :=
  let filled := fill (Json.chars params) message
  if message.get? "id" = some (.str "@") then filled.set "id" id else filled

/-- The answer to the end of a session that a script says nothing about. -/
def farewell (id : Json) : Json :=
  .object [("jsonrpc", .str "2.0"), ("id", id), ("result", .null)]

/-- A script: for each method what is to be done, from a message with its id and parameters. -/
abbrev Script := String → Option (List (Json → Json → Step))

/-- What the server does when a message arrives. -/
def steps (script : Script) (message : Json) : List Step :=
  let id := (message.get? "id").getD .null
  let params := (message.get? "params").getD .null
  match (message.get? "method").bind Json.string? with
  | none => []
  | some method =>
      match script method with
      | some listed => listed.map fun step => step id params
      | none => if method = "shutdown" then [.send (Json.printBytes (farewell id))] else []

/-- Do what is to be done, until the server is to exit. -/
def perform (written : Output) : List Step → Output
  | [] => written
  | .send body :: rest => perform { written with out := written.out ++ Frame.encode body } rest
  | .exit :: _ => { written with ended := true }

/-- The messages in what a server was given. -/
def messages (input : Bytes) : List Json :=
  (Frame.readAll Frame.defaultLimit input input.length).filterMap fun
    | .ok (some body) => Json.parse? body
    | _ => none

/-- The program of a server that follows a script. -/
def program (script : Script) : Program :=
  fun input => perform ⟨[], [], false⟩ ((messages input).flatMap (steps script))

end LanguageClient.Machine.ScriptedServer
