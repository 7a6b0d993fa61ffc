import LanguageClient.Channel
import LanguageClient.Proofs.Connection.Documents
import LanguageClient.Proofs.Json.Record
import LanguageClient.Proofs.Message.Outgoing
import LanguageClient.Proofs.Position
import LanguageClient.Proofs.Selection

/-! Diagnostics survive the way to a server and back. What is sent with a request for code actions is
read as what was sent when it is published, and what was read once is read again from what is made of
it.
-/

namespace LanguageClient

-----------------------------------------------------------------------------------------
-- One diagnostic
-----------------------------------------------------------------------------------------

namespace Severity

theorem ofNat?_toNat (severity : Severity) : ofNat? severity.toNat = some severity := by
  cases severity <;> rfl

theorem ofNat?_eq_some_iff {n : Nat} {severity : Severity}
    : ofNat? n = some severity ↔ n = severity.toNat := by
  constructor
  · intro known
    unfold ofNat? at known
    split at known <;> cases known <;> rfl
  · rintro rfl
    exact severity.ofNat?_toNat

theorem u64?_toNat (severity : Severity)
    : (Json.nat severity.toNat).u64? = some severity.toNat := by
  cases severity <;> decide

end Severity

namespace Diagnostic

/-- The fields of a diagnostic as it is written. -/
theorem exists_record_toJson (diagnostic : Diagnostic)
    : ∃ record,
        Json.Record.of? 5 diagnostic.toJson = some record
        ∧ record.get? 0 "range" = some diagnostic.range.toJson
        ∧ record.get? 1 "severity" = some (.nat diagnostic.severity.toNat)
        ∧ record.get? 2 "code" = diagnostic.code.map .str
        ∧ record.get? 3 "source" = diagnostic.source.map .str
        ∧ record.get? 4 "message" = some (.str diagnostic.message) := by
  refine ⟨_, rfl, ?_, ?_, ?_, ?_, ?_⟩
  all_goals
    rw [Json.Record.get?]
    refine (Json.get?_object _ _).trans ?_
    cases diagnostic.code <;> cases diagnostic.source <;> simp [lookup_cons_eq]

/-- A diagnostic is read from what is written of it. -/
theorem ofJson?_toJson {diagnostic : Diagnostic} (fits : diagnostic.range.Fits)
    : ofJson? diagnostic.toJson = some diagnostic := by
  obtain ⟨record, seen, range, severity, code, source, message⟩ := diagnostic.exists_record_toJson
  have rangeRead : record.required 0 "range" Range.ofJson? = some diagnostic.range := by
    rw [Json.Record.required, range, Option.bind_some, fits.isWritten_toJson.ofJson?]
  have number (n : Nat) : Json.nat n ≠ .null := Json.noConfusion
  have text (text : String) : Json.str text ≠ .null := Json.noConfusion
  have severityRead
      : record.nullable 1 "severity" Json.u64? = some (some diagnostic.severity.toNat) := by
    rw [Json.Record.nullable_of_some _ severity (number _), diagnostic.severity.u64?_toNat,
      Option.map_some]
  have codeRead : record.nullable 2 "code" some = some (diagnostic.code.map .str) :=
    Json.Record.nullable_of_map code text fun _ => rfl
  have sourceRead : record.nullable 3 "source" Json.string? = some (diagnostic.source.map id) :=
    Json.Record.nullable_of_map source text fun _ => rfl
  have messageRead : record.required 4 "message" Json.string? = some diagnostic.message := by
    rw [Json.Record.required, message, Option.bind_some, Json.string?]
  have codeBack : (diagnostic.code.map .str).bind codeText? = diagnostic.code := by
    cases diagnostic.code <;> rfl
  simp only [ofJson?, seen, rangeRead, severityRead, codeRead, sourceRead, messageRead, codeBack,
    Option.bind_eq_bind, Option.bind_some, Option.map_id, id_eq, Option.pure_def,
    Severity.ofNat?_toNat, Option.getD_some]

/-- The fields that a diagnostic was read from. -/
theorem exists_record_of_ofJson? {value : Json} {diagnostic : Diagnostic}
    (read : ofJson? value = some diagnostic)
    : ∃ record severity,
        Json.Record.of? 5 value = some record
        ∧ record.required 0 "range" Range.ofJson? = some diagnostic.range
        ∧ record.nullable 1 "severity" Json.u64? = some severity
        ∧ diagnostic.severity = (severity.bind Severity.ofNat?).getD .error := by
  simp only [ofJson?, Option.bind_eq_bind, Option.bind_eq_some_iff, Option.pure_def] at read
  obtain ⟨record, seen, range, ranged, severity, told, _, _, _, _, _, _, made⟩ := read
  cases made
  exact ⟨record, severity, seen, ranged, told, rfl⟩

theorem fits_of_ofJson? {value : Json} {diagnostic : Diagnostic}
    (read : ofJson? value = some diagnostic)
    : diagnostic.range.Fits := by
  obtain ⟨record, _, _, ranged, _⟩ := exists_record_of_ofJson? read
  obtain ⟨_, _, same⟩ := Option.bind_eq_some_iff.mp ranged
  exact Range.fits_of_ofJson? same

/-- The severity of a diagnostic is not given, or it is a number that is no level. -/
def LacksLevel (given : Option Json) : Prop :=
  given = none
  ∨ given = some .null
  ∨ ∃ number, given = some (.num number) ∧ ∀ n : Nat, 1 ≤ n → n ≤ 4 → number ≠ .integer n

/-- A diagnostic without a known level is read as an error. -/
theorem severity_of_lacksLevel {value : Json} {diagnostic : Diagnostic} {record : Json.Record}
    (read : ofJson? value = some diagnostic) (seen : Json.Record.of? 5 value = some record)
    (lacks : LacksLevel (record.get? 1 "severity"))
    : diagnostic.severity = .error := by
  obtain ⟨own, severity, seenToo, _, told, same⟩ := exists_record_of_ofJson? read
  obtain rfl : own = record := Option.some.inj (seenToo.symm.trans seen)
  rw [same]
  rcases lacks with absent | null | ⟨number, given, unknown⟩
  · rw [Json.Record.nullable_of_absent _ (.inl absent)] at told
    rw [← Option.some.inj told]
    rfl
  · rw [Json.Record.nullable_of_absent _ (.inr null)] at told
    rw [← Option.some.inj told]
    rfl
  · rw [Json.Record.nullable_of_some _ given nofun] at told
    obtain ⟨n, counted, rfl⟩ := Option.map_eq_some_iff.mp told
    obtain ⟨made, _⟩ := Json.natBelow?_eq_some_iff.mp counted
    have outside : Severity.ofNat? n = none := by
      refine Option.eq_none_iff_forall_not_mem.mpr fun level known => ?_
      obtain rfl : n = level.toNat := Severity.ofNat?_eq_some_iff.mp known
      have bounds : 1 ≤ level.toNat ∧ level.toNat ≤ 4 := by cases level <;> decide
      exact unknown level.toNat bounds.1 bounds.2 (Json.num.inj made)
    rw [Option.bind_some, outside, Option.getD_none]

end Diagnostic

-----------------------------------------------------------------------------------------
-- Publications
-----------------------------------------------------------------------------------------

/-- A publication is read entry by entry. -/
theorem Publication.ofJson?_of_entries {params : Json} {record : Json.Record} {uri : String}
    {entries : List Json} (seen : Json.Record.of? 2 params = some record)
    (named : record.get? 0 "uri" = some (.str uri))
    (given : record.get? 1 "diagnostics" = some (.arr entries))
    : Publication.ofJson? params = some ⟨uri, entries.filterMap Diagnostic.ofJson?⟩ := by
  simp only [Publication.ofJson?, seen, Json.Record.required, named, Json.Record.withDefault, given,
    Json.string?, Json.array?, Option.bind_eq_bind, Option.bind_some, Option.pure_def]

theorem filterMap_ofJson?_toJson {diagnostics : List Diagnostic}
    (fit : ∀ diagnostic ∈ diagnostics, diagnostic.range.Fits)
    : (diagnostics.map Diagnostic.toJson).filterMap Diagnostic.ofJson? = diagnostics := by
  rw [List.filterMap_map]
  refine (List.filterMap_congr fun diagnostic member => ?_).trans List.filterMap_some
  exact Diagnostic.ofJson?_toJson (fit diagnostic member)

/-- The diagnostics in the context of a request. -/
def Message.contextDiagnostics? (message : Json) : Option Json := do
  (← (← params? message).get? "context").get? "diagnostics"

theorem Message.contextDiagnostics?_codeAction (id : Nat) (method uri : String) (place : Range)
    (diagnostics : List Diagnostic)
    : contextDiagnostics?
        (request id method (some ((Question.codeAction place diagnostics).params uri)))
      = some (.arr (diagnostics.map Diagnostic.toJson)) := by
  have context
      : ((Question.codeAction place diagnostics).params uri).get? "context"
        = some (.object [("diagnostics", .arr (diagnostics.map Diagnostic.toJson))]) :=
    (lookup_insertEntry _ _ _ _).trans (if_pos rfl)
  simp only [contextDiagnostics?, params?_request, context, Json.get?_object, Option.bind_eq_bind,
    Option.bind_some, List.reverse_singleton, lookup_cons_eq, if_pos]

/-- A question that may be asked is handed over to the transport. -/
theorem Connection.ask_transport {τ κ : Type} [Transport τ] {connection : Connection τ κ}
    (ready : connection.isReady = true) (uri : String) (question : Question) (ticket : κ)
    : (connection.ask uri question ticket).1.transport
      = (Transport.send connection.transport
          (Message.request connection.freshId question.method (some (question.params uri)))).1 := by
  obtain ⟨after, result, written, asked⟩ := connection.ask_cases uri question ticket
  rw [written]
  have opened : connection.phase = .initialized := of_decide_eq_true ready
  cases asked with
  | unready closed => exact absurd opened closed
  | requested _ requested =>
      cases requested with
      | refused ended => simp [opened] at ended
      | unsent _ sent => rw [sent]
      | sent _ sent => rw [sent]

/-- Diagnostics that are sent in the context of a question for code actions are read as the same list
when what was sent is published for any document. Of whatever is published each entry that can be read
gives a diagnostic, in the order of the entries; it is an error if it lacks a known level; and from
what is made of it on the way to the server it is read again unchanged.
-/
theorem diagnostics_survive_the_way {τ κ : Type} [Transport τ] {connection : Connection τ κ}
    (ready : connection.isReady = true) (uri : String) (place : Range) (ticket : κ)
    {diagnostics : List Diagnostic} (fit : ∀ diagnostic ∈ diagnostics, diagnostic.range.Fits)
    : (∃ message sent,
        (connection.ask uri (.codeAction place diagnostics) ticket).1.transport
          = (Transport.send connection.transport message).1
        ∧ Message.contextDiagnostics? message = some sent
        ∧ ∀ params record document,
            Json.Record.of? 2 params = some record →
              record.get? 0 "uri" = some (.str document) →
                record.get? 1 "diagnostics" = some sent →
                  Publication.ofJson? params = some ⟨document, diagnostics⟩)
      ∧ (∀ params record document entries,
          Json.Record.of? 2 params = some record →
            record.get? 0 "uri" = some (.str document) →
              record.get? 1 "diagnostics" = some (.arr entries) →
                ∃ found,
                  Publication.ofJson? params = some ⟨document, found⟩
                  ∧ Selects (fun entry diagnostic => Diagnostic.ofJson? entry = some diagnostic)
                      entries found)
      ∧ ∀ entry diagnostic,
          Diagnostic.ofJson? entry = some diagnostic →
            (∀ record,
              Json.Record.of? 5 entry = some record →
                Diagnostic.LacksLevel (record.get? 1 "severity") →
                  diagnostic.severity = .error)
            ∧ Diagnostic.ofJson? diagnostic.toJson = some diagnostic := by
  refine ⟨⟨_, _, Connection.ask_transport ready uri _ ticket,
    Message.contextDiagnostics?_codeAction _ _ uri place diagnostics, ?sent⟩, ?published, ?again⟩
  case sent =>
    intro params record document seen named given
    rw [Publication.ofJson?_of_entries seen named given, filterMap_ofJson?_toJson fit]
  case published =>
    intro params record document entries seen named given
    exact ⟨_, Publication.ofJson?_of_entries seen named given,
      (selects_iff fun _ _ => Iff.rfl).mpr rfl⟩
  case again =>
    intro entry diagnostic read
    refine ⟨fun record seen lacks => Diagnostic.severity_of_lacksLevel read seen lacks, ?_⟩
    exact Diagnostic.ofJson?_toJson (Diagnostic.fits_of_ofJson? read)

/-- A diagnostic with a code and a source and one without either on the way to the server and back, and
an entry with an unknown level and a number for its code.
-/
theorem coded_diagnostic_survives_the_way
    : let connection : Connection Channel Nat :=
        { Connection.fresh (Channel.fresh 0) with phase := .initialized }
      let range : Range := ⟨⟨0, 0⟩, ⟨0, 5⟩⟩
      let diagnostics : List Diagnostic :=
        [⟨range, .warning, some "308", some "rustc", "unused"⟩, ⟨range, .hint, none, none, ""⟩]
      let entry : Json := .arr [range.toJson, .nat 9, .nat 308, .null, .str "unused"]
      let unleveled : Diagnostic := ⟨range, .error, some "308", none, "unused"⟩
      (connection.isReady = true ∧ ∀ diagnostic ∈ diagnostics, diagnostic.range.Fits)
      ∧ (∃ message sent,
          (connection.ask "file:///a" (.codeAction range diagnostics) 7).1.transport.sent = [message]
          ∧ Message.contextDiagnostics? message = some sent
          ∧ Publication.ofJson? (.arr [.str "file:///b", sent])
            = some ⟨"file:///b", diagnostics⟩)
      ∧ Publication.ofJson? (.arr [.str "file:///b", .arr [.null, entry]])
        = some ⟨"file:///b", [unleveled]⟩
      ∧ unleveled.severity = .error
      ∧ Diagnostic.ofJson? unleveled.toJson = some unleveled := by
  intro connection range diagnostics entry unleveled
  have ready : connection.isReady = true := rfl
  have fit : ∀ diagnostic ∈ diagnostics, diagnostic.range.Fits := by decide
  have read : Diagnostic.ofJson? entry = some unleveled := by decide +kernel
  have unread : Diagnostic.ofJson? .null = none := rfl
  obtain ⟨⟨message, sent, handed, told, back⟩, published, again⟩ :=
    diagnostics_survive_the_way ready "file:///a" range 7 fit
  refine ⟨⟨ready, fit⟩, ⟨message, sent, ?_, told, ?_⟩, ?_, ?_, ?_⟩
  · rw [handed]
    rfl
  · exact back _ _ _ rfl rfl rfl
  · obtain ⟨found, made, selected⟩ := published (.arr [.str "file:///b", .arr [.null, entry]]) _ _
      [.null, entry] rfl rfl rfl
    rw [made, (selects_iff fun _ _ => Iff.rfl).mp selected, List.filterMap_cons_none unread,
      List.filterMap_cons_some read, List.filterMap_nil]
  · refine (again entry unleveled read).1 _ rfl (.inr (.inr ⟨.integer 9, rfl, fun n _ small => ?_⟩))
    intro same
    have nine : (9 : Int) = n := Json.Number.integer.inj same
    omega
  · exact (again entry unleveled read).2

end LanguageClient
