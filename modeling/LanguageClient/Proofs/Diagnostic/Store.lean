import LanguageClient.Diagnostic.Store
import LanguageClient.Proofs.Table
import LanguageClient.Proofs.Text.Order
import Mathlib.Algebra.GroupWithZero.Nat
import Mathlib.Data.List.Induction
import Mathlib.Data.List.Perm.Basic

/-! The diagnostics of all documents and their views. The store holds what was last given for each
document and not cleared since; a snapshot lists just that, in one order; and what is counted, told
in the status and shown on a line is taken from it.
-/

namespace LanguageClient

-----------------------------------------------------------------------------------------
-- Counting
-----------------------------------------------------------------------------------------

namespace SeverityCounts

/-- How many diagnostics there are of a severity. -/
def of (counts : SeverityCounts) : Severity → Nat
  | .error => counts.errors
  | .warning => counts.warnings
  | .information => counts.information
  | .hint => counts.hints

theorem of_ofList (diagnostics : List Diagnostic) (severity : Severity)
    : (ofList diagnostics).of severity = diagnostics.countP (·.severity = severity) := by
  cases severity <;> rfl

/-- Each diagnostic counts once. -/
theorem total_ofList (diagnostics : List Diagnostic)
    : (ofList diagnostics).total = diagnostics.length := by
  induction diagnostics with
  | nil => rfl
  | cons first rest ih =>
      simp only [total, ofList] at ih
      simp only [total, ofList, List.countP_cons, List.length_cons]
      cases first.severity <;> simp <;> omega

theorem ofList_eq_of_perm {diagnostics others : List Diagnostic} (perm : diagnostics.Perm others)
    : ofList diagnostics = ofList others := by
  simp only [ofList, perm.countP_eq]

end SeverityCounts

namespace DiagnosticStore

-----------------------------------------------------------------------------------------
-- Changes
-----------------------------------------------------------------------------------------

/-- A change of a store: of the diagnostics of one document, or of all. -/
inductive Change where
  | update (uri : String) (items : List Diagnostic)
  | clear (uri : String)
  | clearAll

namespace Change

/-- The store after a change. -/
def apply (store : DiagnosticStore) : Change → DiagnosticStore
  | .update uri items => store.update uri items
  | .clear uri => store.clear uri
  | .clearAll => .empty

/-- The change decides what is known of a document. -/
def Concerns (uri : String) : Change → Prop
  | .update own _ | .clear own => own = uri
  | .clearAll => True

end Change

/-- The store after changes of an empty one. -/
def after (changes : List Change) : DiagnosticStore :=
  changes.foldl Change.apply .empty

/-- These items were the last that were given for a document, and nothing concerned it since. -/
def LastGiven (changes : List Change) (uri : String) (items : List Diagnostic) : Prop :=
  ∃ before since,
    changes = before ++ .update uri items :: since ∧ ∀ change ∈ since, ¬ change.Concerns uri

theorem lastGiven_concat {changes : List Change} {change : Change} {uri : String}
    {items : List Diagnostic}
    : LastGiven (changes ++ [change]) uri items
      ↔ change = .update uri items ∨ ¬ change.Concerns uri ∧ LastGiven changes uri items := by
  constructor
  · rintro ⟨before, since, split, untouched⟩
    rcases List.eq_nil_or_concat since with rfl | ⟨rest, last, rfl⟩
    · exact .inl (List.singleton_inj.mp (List.append_inj' split rfl).2)
    · rw [List.concat_eq_append] at split untouched
      rw [← List.cons_append, ← List.append_assoc] at split
      obtain ⟨rfl, ends⟩ := List.append_inj' split rfl
      obtain rfl := List.singleton_inj.mp ends
      refine .inr ⟨untouched change (List.mem_append_right rest List.mem_cons_self), before, rest,
        rfl, fun other member => untouched other (List.mem_append_left _ member)⟩
  · rintro (rfl | ⟨untouched, before, since, rfl, others⟩)
    · exact ⟨changes, [], rfl, nofun⟩
    · refine ⟨before, since ++ [change], by simp, fun other member => ?_⟩
      rcases List.mem_append.mp member with member | member
      · exact others other member
      · exact List.mem_singleton.mp member ▸ untouched

theorem get?_update (store : DiagnosticStore) (uri other : String) (items : List Diagnostic)
    : (store.update uri items).get? other
      = if other = uri then (some items).filter (! ·.isEmpty) else store.get? other := by
  unfold update get?
  cases empty : items.isEmpty with
  | true => simp [Table.get?_erase, Option.filter, empty]
  | false => simp [Table.get?_insert, Option.filter, empty]

theorem get?_clear (store : DiagnosticStore) (uri other : String)
    : (store.clear uri).get? other = if other = uri then none else store.get? other :=
  store.table.get?_erase uri other

/-- A document has what a change gives it, or what it had if the change does not concern it. -/
theorem get?_apply_eq_some_iff {store : DiagnosticStore} {change : Change} {uri : String}
    {items : List Diagnostic}
    : (change.apply store).get? uri = some items
      ↔ items ≠ [] ∧ change = .update uri items
        ∨ ¬ change.Concerns uri ∧ store.get? uri = some items := by
  cases change with
  | update own given =>
      rw [Change.apply, get?_update, Change.Concerns]
      by_cases same : own = uri
      · subst same
        simp only [if_true, Option.filter_eq_some_iff, Change.update.injEq, true_and, not_true,
          false_and, or_false, Option.some_inj]
        constructor
        · rintro ⟨rfl, filled⟩
          exact ⟨by simpa using filled, rfl⟩
        · rintro ⟨filled, rfl⟩
          exact ⟨rfl, by simpa using filled⟩
      · simp [same, Ne.symm same]
  | clear own =>
      rw [Change.apply, get?_clear, Change.Concerns]
      by_cases same : own = uri
      · simp [same]
      · simp [same, Ne.symm same]
  | clearAll => simp [Change.apply, Change.Concerns, empty, get?]

/-- A document has the items of its last update since it was last cleared, unless there are none.
Induction on the changes, from the last one.
-/
theorem get?_after_eq_some_iff {changes : List Change} {uri : String} {items : List Diagnostic}
    : (after changes).get? uri = some items ↔ items ≠ [] ∧ LastGiven changes uri items := by
  induction changes using List.reverseRecOn with
  | nil =>
      have nothing : ¬ LastGiven [] uri items := by
        rintro ⟨before, since, split, _⟩
        exact absurd split.symm (by simp)
      simp [after, empty, get?, nothing]
  | append_singleton changes change ih =>
      rw [after, List.foldl_concat, ← after, get?_apply_eq_some_iff, ih, lastGiven_concat]
      constructor
      · rintro (⟨filled, same⟩ | ⟨untouched, filled, given⟩)
        · exact ⟨filled, .inl same⟩
        · exact ⟨filled, .inr ⟨untouched, given⟩⟩
      · rintro ⟨filled, same | ⟨untouched, given⟩⟩
        · exact .inl ⟨filled, same⟩
        · exact .inr ⟨untouched, filled, given⟩

theorem ne_nil_of_get?_after {changes : List Change} {uri : String} {items : List Diagnostic}
    (found : (after changes).get? uri = some items)
    : items ≠ [] :=
  (get?_after_eq_some_iff.mp found).1

theorem ext_get? {one other : DiagnosticStore} (same : ∀ uri, one.get? uri = other.get? uri)
    : one = other := by
  obtain ⟨table⟩ := one
  obtain ⟨others⟩ := other
  exact congrArg DiagnosticStore.mk (Table.ext_get? same)

/-- What was given last decides the store. -/
theorem after_eq_of_lastGiven {changes others : List Change}
    (same : ∀ uri items, items ≠ [] →
      (LastGiven changes uri items ↔ LastGiven others uri items))
    : after changes = after others := by
  refine ext_get? fun uri => Option.ext fun items => ?_
  rw [get?_after_eq_some_iff, get?_after_eq_some_iff]
  exact and_congr_right (same uri items)

-----------------------------------------------------------------------------------------
-- Snapshots
-----------------------------------------------------------------------------------------

/-- An error is among the items. -/
def HoldError (items : List Diagnostic) : Prop :=
  ∃ item ∈ items, item.severity = .error

theorem hasError_iff {items : List Diagnostic} : hasError items = true ↔ HoldError items := by
  simp [hasError, HoldError]

/-- Documents are shown in this order: those with an error first, and otherwise by the bytes of
their URIs.
-/
def ShownBefore (one other : String × List Diagnostic) : Prop :=
  HoldError one.2 ∧ ¬ HoldError other.2
  ∨ (HoldError one.2 ↔ HoldError other.2) ∧ Text.bytes one.1 < Text.bytes other.1

theorem snapshot_files (store : DiagnosticStore)
    : store.snapshot.files
      = store.table.entries.filter (fun file => hasError file.2)
        ++ store.table.entries.filter (fun file => ! hasError file.2) := by
  rw [snapshot, List.partition_eq_filter_filter]
  rfl

theorem perm_snapshot_files (store : DiagnosticStore)
    : store.snapshot.files.Perm store.table.entries := by
  rw [snapshot_files]
  exact List.filter_append_perm _ _

theorem mem_snapshot_files_iff {store : DiagnosticStore} {uri : String} {items : List Diagnostic}
    : (uri, items) ∈ store.snapshot.files ↔ store.get? uri = some items :=
  (store.perm_snapshot_files.mem_iff).trans Table.mem_entries_iff

theorem nodup_snapshot_uris (store : DiagnosticStore)
    : (store.snapshot.files.map Prod.fst).Nodup :=
  ((store.perm_snapshot_files.map Prod.fst).nodup_iff).mpr store.table.nodup_keys

theorem pairwise_shownBefore (store : DiagnosticStore)
    : store.snapshot.files.Pairwise ShownBefore := by
  rw [snapshot_files, List.pairwise_append]
  have erring {file : String × List Diagnostic}
      (member : file ∈ store.table.entries.filter fun file => hasError file.2)
      : HoldError file.2 :=
    hasError_iff.mp (List.mem_filter.mp member).2
  have clean {file : String × List Diagnostic}
      (member : file ∈ store.table.entries.filter fun file => ! hasError file.2)
      : ¬ HoldError file.2 := by
    rw [← hasError_iff, Bool.not_eq_true]
    exact Bool.not_eq_true' _ ▸ (List.mem_filter.mp member).2
  refine ⟨?erring, ?clean, fun one first other second => .inl ⟨erring first, clean second⟩⟩
  case erring =>
    refine List.Pairwise.imp_of_mem ?_ (store.table.ascending.filter _)
    intro one other first second less
    exact .inr ⟨iff_of_true (erring first) (erring second), Text.bytes_lt_bytes_iff.mpr less⟩
  case clean =>
    refine List.Pairwise.imp_of_mem ?_ (store.table.ascending.filter _)
    intro one other first second less
    exact .inr ⟨iff_of_false (clean first) (clean second), Text.bytes_lt_bytes_iff.mpr less⟩

-----------------------------------------------------------------------------------------
-- Counts
-----------------------------------------------------------------------------------------

theorem counts_snapshot (store : DiagnosticStore) : store.snapshot.counts = store.counts :=
  SeverityCounts.ofList_eq_of_perm (store.perm_snapshot_files.flatMap_right _)

theorem counts_of_eq_sum (store : DiagnosticStore) (severity : Severity)
    : store.counts.of severity
      = (store.snapshot.files.map fun file => file.2.countP (·.severity = severity)).sum := by
  rw [← counts_snapshot, DiagnosticSnapshot.counts, SeverityCounts.of_ofList, List.countP_flatMap]
  rfl

theorem total_counts_eq_sum (store : DiagnosticStore)
    : store.counts.total = (store.snapshot.files.map fun file => file.2.length).sum := by
  rw [← counts_snapshot, DiagnosticSnapshot.counts, SeverityCounts.total_ofList,
    List.length_flatMap]

/-- Every document that is known has diagnostics, so without diagnostics nothing is shown. -/
theorem snapshot_files_eq_nil_iff (changes : List Change)
    : (after changes).snapshot.files = [] ↔ (after changes).counts.total = 0 := by
  rw [← counts_snapshot, DiagnosticSnapshot.counts, SeverityCounts.total_ofList,
    List.length_eq_zero_iff, List.flatMap_eq_nil_iff]
  constructor
  · intro none
    simp [none]
  · intro empty
    refine List.eq_nil_iff_forall_not_mem.mpr fun (uri, items) member => ?_
    exact ne_nil_of_get?_after (mem_snapshot_files_iff.mp member) (empty _ member)

theorem status_eq_empty_iff (snapshot : DiagnosticSnapshot)
    : snapshot.status = "" ↔ snapshot.files = [] := by
  unfold DiagnosticSnapshot.status
  cases empty : snapshot.files.isEmpty with
  | true => simpa using empty
  | false =>
      have filled : snapshot.files ≠ [] := by simpa using empty
      simp [SeverityCounts.status, filled]

-----------------------------------------------------------------------------------------
-- Lines
-----------------------------------------------------------------------------------------

/-- The item is the first of the most severe ones. -/
def IsSeverest (items : List Diagnostic) (item : Diagnostic) : Prop :=
  ∃ before behind,
    items = before ++ item :: behind
    ∧ (∀ other ∈ before, item.severity.toNat < other.severity.toNat)
    ∧ ∀ other ∈ behind, item.severity.toNat ≤ other.severity.toNat

/-- The item is the first of the most severe ones among those that start on a line. -/
def IsSeverestOn (line : Nat) (items : List Diagnostic) (item : Diagnostic) : Prop :=
  ∃ before behind,
    items = before ++ item :: behind
    ∧ item.line = line
    ∧ (∀ other ∈ before, other.line = line → item.severity.toNat < other.severity.toNat)
    ∧ ∀ other ∈ behind, other.line = line → item.severity.toNat ≤ other.severity.toNat

theorem IsSeverest.le {items : List Diagnostic} {item other : Diagnostic}
    (severest : IsSeverest items item) (member : other ∈ items)
    : item.severity.toNat ≤ other.severity.toNat := by
  obtain ⟨before, behind, rfl, above, below⟩ := severest
  rcases List.mem_append.mp member with member | member
  · exact Nat.le_of_lt (above other member)
  · rcases List.mem_cons.mp member with rfl | member
    · exact Nat.le_refl _
    · exact below other member

theorem isSeverest_cons_iff {first item : Diagnostic} {rest : List Diagnostic}
    : IsSeverest (first :: rest) item
      ↔ item = first ∧ (∀ other ∈ rest, first.severity.toNat ≤ other.severity.toNat)
        ∨ IsSeverest rest item ∧ item.severity.toNat < first.severity.toNat := by
  constructor
  · rintro ⟨before, behind, split, above, below⟩
    cases before with
    | nil =>
        obtain ⟨rfl, rfl⟩ := List.cons.inj split
        exact .inl ⟨rfl, below⟩
    | cons head before =>
        obtain ⟨rfl, rfl⟩ := List.cons.inj split
        have later : ∀ other ∈ before, item.severity.toNat < other.severity.toNat :=
          fun other member => above other (List.mem_cons_of_mem _ member)
        exact .inr ⟨⟨before, behind, rfl, later, below⟩, above first List.mem_cons_self⟩
  · rintro (⟨rfl, below⟩ | ⟨⟨before, behind, rfl, above, below⟩, less⟩)
    · exact ⟨[], rest, rfl, nofun, below⟩
    · refine ⟨first :: before, behind, rfl, fun other member => ?_, below⟩
      rcases List.mem_cons.mp member with rfl | member
      · exact less
      · exact above other member

/-- An item is the first severest one on a line if it is so among those on the line. -/
theorem isSeverest_filter_iff {line : Nat} {items : List Diagnostic} {item : Diagnostic}
    : IsSeverest (items.filter (·.line = line)) item ↔ IsSeverestOn line items item := by
  constructor
  · rintro ⟨before, behind, split, above, below⟩
    obtain ⟨front, back, rfl, rfl, ends⟩ := List.filter_eq_append_iff.mp split
    obtain ⟨skipped, behind, rfl, elsewhere, here, rfl⟩ := List.filter_eq_cons_iff.mp ends
    refine ⟨front ++ skipped, behind, (List.append_assoc _ _ _).symm, of_decide_eq_true here,
      fun other member same => ?_, fun other member same => ?_⟩
    · rcases List.mem_append.mp member with member | member
      · exact above other (List.mem_filter.mpr ⟨member, decide_eq_true same⟩)
      · exact absurd (decide_eq_true same) (elsewhere other member)
    · exact below other (List.mem_filter.mpr ⟨member, decide_eq_true same⟩)
  · rintro ⟨before, behind, rfl, here, above, below⟩
    refine ⟨before.filter (·.line = line), behind.filter (·.line = line), ?_, ?_, ?_⟩
    · simp only [List.filter_append, List.filter_cons, here, decide_true, if_true]
    · intro other member
      obtain ⟨member, same⟩ := List.mem_filter.mp member
      exact above other member (of_decide_eq_true same)
    · intro other member
      obtain ⟨member, same⟩ := List.mem_filter.mp member
      exact below other member (of_decide_eq_true same)

theorem severest_eq_none_iff {items : List Diagnostic} : severest items = none ↔ items = [] := by
  cases items with
  | nil => simp [severest]
  | cons first rest =>
      rw [severest]
      split
      · split <;> simp
      · simp

/-- Induction on the items: the first one is kept unless one after it is more severe. -/
theorem severest_eq_some_iff {items : List Diagnostic} {item : Diagnostic}
    : severest items = some item ↔ IsSeverest items item := by
  induction items generalizing item with
  | nil =>
      have nothing : ¬ IsSeverest [] item := by
        rintro ⟨before, behind, split, _⟩
        exact absurd split.symm (by simp)
      simp [severest, nothing]
  | cons first rest ih =>
      rw [severest, isSeverest_cons_iff, ← ih]
      cases found : severest rest with
      | none =>
          obtain rfl := severest_eq_none_iff.mp found
          simp [eq_comm]
      | some other =>
          have least (third : Diagnostic) (member : third ∈ rest)
              : other.severity.toNat ≤ third.severity.toNat :=
            (ih.mp found).le member
          have member : other ∈ rest := by
            obtain ⟨before, behind, rfl, _⟩ := ih.mp found
            exact List.mem_append_right before List.mem_cons_self
          by_cases more : other.severity.toNat < first.severity.toNat
          · simp only [Severity.moreSevere, more, decide_true, if_true, Option.some_inj]
            constructor
            · rintro rfl
              exact .inr ⟨rfl, more⟩
            · rintro (⟨rfl, below⟩ | ⟨rfl, _⟩)
              · exact absurd (below other member) (Nat.not_le.mpr more)
              · rfl
          · simp only [Severity.moreSevere, more, decide_false, Option.some_inj]
            constructor
            · rintro ⟨⟩
              refine .inl ⟨rfl, fun third member => ?_⟩
              exact Nat.le_trans (Nat.not_lt.mp more) (least third member)
            · rintro (⟨rfl, _⟩ | ⟨rfl, less⟩)
              · rfl
              · exact absurd less more

/-- On a line the first of its most severe items is found. -/
theorem severestOnLine_eq_some_iff {store : DiagnosticStore} {uri : String} {line : Nat}
    {item : Diagnostic}
    : store.severestOnLine uri line = some item
      ↔ ∃ items, store.get? uri = some items ∧ IsSeverestOn line items item := by
  simp only [severestOnLine, Option.bind_eq_some_iff, severest_eq_some_iff, isSeverest_filter_iff]

/-- Nothing is found on a line exactly when nothing starts there. -/
theorem severestOnLine_eq_none_iff {store : DiagnosticStore} {uri : String} {line : Nat}
    : store.severestOnLine uri line = none
      ↔ ∀ items, store.get? uri = some items → ∀ item ∈ items, item.line ≠ line := by
  simp only [severestOnLine, Option.bind_eq_none_iff, severest_eq_none_iff,
    List.filter_eq_nil_iff, decide_eq_true_eq]

-----------------------------------------------------------------------------------------
-- The store and its views
-----------------------------------------------------------------------------------------

/-- After any changes a document has the items that were given last for it and not cleared since,
unless there are none. A snapshot lists each document that has items once, with just these, in one
order, whatever the order in which they came; what is counted is what it lists; it is empty, and so
is the status, exactly when nothing is counted; and on a line the first of its most severe items is
found, or nothing if nothing starts there.
-/
theorem store_and_views_agree (changes : List Change)
    : let store := after changes
      (∀ uri items, store.get? uri = some items ↔ items ≠ [] ∧ LastGiven changes uri items)
      ∧ (∀ uri items, (uri, items) ∈ store.snapshot.files ↔ store.get? uri = some items)
      ∧ (store.snapshot.files.map Prod.fst).Nodup
      ∧ store.snapshot.files.Pairwise ShownBefore
      ∧ (∀ others : List Change,
          (∀ uri items, items ≠ [] → (LastGiven changes uri items ↔ LastGiven others uri items)) →
            (after others).snapshot = store.snapshot)
      ∧ store.counts = store.snapshot.counts
      ∧ (∀ severity,
          store.counts.of severity
          = (store.snapshot.files.map fun file => file.2.countP (·.severity = severity)).sum)
      ∧ store.counts.total = (store.snapshot.files.map fun file => file.2.length).sum
      ∧ (store.snapshot.files = [] ↔ store.counts.total = 0)
      ∧ (store.snapshot.status = "" ↔ store.counts.total = 0)
      ∧ ∀ uri line,
          (∀ item,
            store.severestOnLine uri line = some item
            ↔ ∃ items, store.get? uri = some items ∧ IsSeverestOn line items item)
          ∧ (store.severestOnLine uri line = none
            ↔ ∀ items, store.get? uri = some items → ∀ item ∈ items, item.line ≠ line) := by
  intro store
  refine ⟨fun uri items => get?_after_eq_some_iff, fun uri items => mem_snapshot_files_iff,
    store.nodup_snapshot_uris, store.pairwise_shownBefore, ?order, store.counts_snapshot.symm,
    store.counts_of_eq_sum, store.total_counts_eq_sum, snapshot_files_eq_nil_iff changes, ?status,
    fun uri line => ⟨fun item => severestOnLine_eq_some_iff, severestOnLine_eq_none_iff⟩⟩
  case order =>
    intro others same
    exact congrArg snapshot (after_eq_of_lastGiven same).symm
  case status =>
    rw [status_eq_empty_iff, snapshot_files_eq_nil_iff]

/-- Two documents, one of which has an error; a third that is cleared and a fourth whose items are
taken back. On a line with two errors the first one is found.
-/
theorem changed_store_and_views_agree
    : let item (severity : Severity) (line : Nat) (message : String) : Diagnostic :=
        ⟨⟨⟨line, 0⟩, ⟨line, 4⟩⟩, severity, none, none, message⟩
      let broken : List Diagnostic :=
        [item .hint 1 "", item .error 1 "one", item .warning 2 "", item .error 1 "two"]
      let sound : List Diagnostic := [item .warning 3 "unused"]
      let changes : List Change :=
        [.update "file:///z" sound, .clearAll, .update "file:///c" sound, .update "file:///b" sound,
          .update "file:///d" broken, .update "file:///a" sound, .clear "file:///c",
          .update "file:///d" [], .update "file:///b" broken]
      let others : List Change := [.update "file:///b" broken, .update "file:///a" sound]
      (∀ uri items, items ≠ [] → (LastGiven changes uri items ↔ LastGiven others uri items))
      ∧ (after changes).snapshot.files = [("file:///b", broken), ("file:///a", sound)]
      ∧ (after changes).snapshot = (after others).snapshot
      ∧ (after changes).counts.total = 5
      ∧ (after changes).severestOnLine "file:///b" 1 = some (item .error 1 "one") := by
  intro item broken sound changes others
  have entries : (after changes).table.entries = (after others).table.entries := by decide +kernel
  have same (uri : String) : (after changes).get? uri = (after others).get? uri :=
    congrArg (List.lookup uri) entries
  have given (uri : String) (items : List Diagnostic) (filled : items ≠ [])
      : LastGiven changes uri items ↔ LastGiven others uri items := by
    have held := (store_and_views_agree changes).1 uri items
    have heldOthers := (store_and_views_agree others).1 uri items
    simp only [filled, ne_eq, not_false_eq_true, true_and] at held heldOthers
    rw [← held, ← heldOthers, same]
  obtain ⟨_, _, _, _, order, _, _, total, _, _, lines⟩ := store_and_views_agree changes
  have files : (after changes).snapshot.files = [("file:///b", broken), ("file:///a", sound)] := by
    decide +kernel
  refine ⟨given, files, (order others given).symm, ?_, ?_⟩
  · rw [total, files]
    rfl
  · refine ((lines _ _).1 _).mpr ⟨broken, by decide +kernel, ?_⟩
    exact ⟨[item .hint 1 ""], [item .warning 2 "", item .error 1 "two"], rfl, rfl, by decide,
      by decide⟩

end DiagnosticStore

end LanguageClient
