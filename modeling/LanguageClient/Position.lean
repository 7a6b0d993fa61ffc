import LanguageClient.Json.Record

/-!
Places in a document: positions, counted in lines and 16-bit units from zero, and the ranges
between two of them. Both count in 32 bits.
-/

namespace LanguageClient

/-- A place in a document. -/
structure Position where
  line : Nat
  character : Nat
deriving DecidableEq, Repr, Inhabited

/-- What lies from `start` up to `stop`. -/
structure Range where
  start : Position
  stop : Position
deriving DecidableEq, Repr, Inhabited

namespace Position

/-- Read a position. -/
def ofJson? (value : Json) : Option Position := do
  let record ← Json.Record.of? 2 value
  let line ← record.required 0 "line" Json.u32?
  let character ← record.required 1 "character" Json.u32?
  return { line, character }

def toJson (position : Position) : Json :=
  .object [("line", .nat position.line), ("character", .nat position.character)]

end Position

namespace Range

/-- Read a range. -/
def ofJson? (value : Json) : Option Range := do
  let record ← Json.Record.of? 2 value
  let start ← record.required 0 "start" Position.ofJson?
  let stop ← record.required 1 "end" Position.ofJson?
  return { start, stop }

def toJson (range : Range) : Json :=
  .object [("start", range.start.toJson), ("end", range.stop.toJson)]

end Range

end LanguageClient
