/-!
What a workspace reports to the editor.
-/

namespace LanguageClient

/-- How urgent a message of a server is. -/
inductive MessageLevel where
  | error
  | warning
  | info
  | log
deriving DecidableEq, Repr

/-- The level with this number in the protocol; every number above three means the last level,
and so does zero. -/
def MessageLevel.ofNumber : Nat → MessageLevel
  | 1 => .error
  | 2 => .warning
  | 3 => .info
  | _ => .log

/-- Why a server was stopped. -/
inductive StopReason where
  /-- The workspace was closed. -/
  | exited
  /-- The server cannot be used; the text says why. -/
  | failed (text : String)
deriving DecidableEq, Repr

/-- Something that the editor may want to show. -/
inductive Event where
  /-- A document has other diagnostics than before. -/
  | diagnostics (uri : String) (count : Nat)
  | message (server : String) (level : MessageLevel) (text : String)
  | restarted (server : String)
  | stopped (server : String) (reason : StopReason)
deriving DecidableEq, Repr

end LanguageClient
