import LanguageClient.Proofs.Uri.Percent
import LanguageClient.Uri.File
import LanguageClient.Workspace.Routing

/-! The URI of a file tells the names on its path, so files with one URI are served by one server. -/

namespace LanguageClient

namespace Path

/-- The first segment that names a place is the same however the others are left out. -/
theorem head?_dropWhile_isSkipped (segments : List Bytes)
    : (segments.dropWhile isSkipped).head? = (segments.filter (! isSkipped ·)).head? := by
  induction segments with
  | nil => rfl
  | cons segment rest ih => cases skipped : isSkipped segment <;> simp [skipped, ih]

/-- The name of a file is the last name on its path, unless that is a step upward. -/
theorem fileName?_of_isAbsolute {path : Path} (absolute : path.isAbsolute = true)
    : path.fileName? = path.names.getLast?.filter (· ≠ [dot, dot]) := by
  cases path with
  | nil => simp [isAbsolute] at absolute
  | cons first rest =>
      obtain rfl : first = slash := by simpa [isAbsolute] using absolute
      have last : (lastFirst (slash :: rest)).head? = (names (slash :: rest)).getLast? := by
        have skipped : isSkipped [] = true := by decide
        simp only [lastFirst, lead, names, segments, if_pos, List.filter_cons, skipped,
          head?_dropWhile_isSkipped, List.filter_reverse, List.head?_reverse]
        rfl
      rw [← last, fileName?]
      cases lastFirst (slash :: rest) with
      | nil => rfl
      | cons name _ => by_cases up : name = [dot, dot] <;> simp [up, Option.filter]

/-- What is on a path names places. -/
theorem ne_nil_of_mem_names {path : Path} {name : Bytes} (member : name ∈ path.names)
    : name ≠ [] := by
  rintro rfl
  simp [names, isSkipped] at member

end Path

namespace Uri

theorem encodeByte_ne_nil (b : UInt8) : encodeByte b ≠ [] := by
  unfold encodeByte
  split <;> simp

/-- The text of the names on a path, which has a slash also where there are none. -/
theorem names_of_text {first second : Path}
    (same
      : (if first.names.isEmpty then ['/'] else encodeSegments first.names)
        = if second.names.isEmpty then ['/'] else encodeSegments second.names)
    : first.names = second.names := by
  -- No name has an empty text, so a slash alone stands for no names.
  have more {path : Path} : encodeSegments path.names ≠ ['/'] := by
    intro slash
    cases names : path.names with
    | nil => simp [names, encodeSegments] at slash
    | cons name rest =>
        have named : name ≠ [] := Path.ne_nil_of_mem_names (names ▸ List.mem_cons_self)
        obtain ⟨b, others, rfl⟩ := List.exists_cons_of_ne_nil named
        simp [names, encodeSegments, encodeSegment, encodeByte_ne_nil] at slash
  by_cases none : first.names = []
  · by_cases noneEither : second.names = []
    · rw [none, noneEither]
    · simp only [none, List.isEmpty_nil, if_true, List.isEmpty_iff, if_neg noneEither] at same
      exact absurd same.symm more
  · by_cases noneEither : second.names = []
    · simp only [noneEither, List.isEmpty_nil, if_true, List.isEmpty_iff, if_neg none] at same
      exact absurd same more
    · simp only [List.isEmpty_iff, if_neg none, if_neg noneEither] at same
      exact encodeSegments_injective same

/-- A path with a URI is a path from the root, and its URI tells its names. -/
theorem names_of_ofPath? {first second : Path} {uri : String} (one : ofPath? first = some uri)
    (two : ofPath? second = some uri)
    : first.isAbsolute = true ∧ second.isAbsolute = true ∧ first.names = second.names := by
  unfold ofPath? at one two
  split at one
  · next absolute =>
      split at two
      · next absoluteToo =>
          have texts := String.ofList_injective (Option.some.inj (one.trans two.symm))
          exact ⟨absolute, absoluteToo, names_of_text (List.append_cancel_left texts)⟩
      · cases two
  · cases one

end Uri

/-- Files with one URI are served by one server. -/
theorem Settings.serverForPath?_of_uri (settings : Settings) {first second : Path} {uri : String}
    (one : Uri.ofPath? first = some uri) (two : Uri.ofPath? second = some uri)
    : settings.serverForPath? first = settings.serverForPath? second := by
  obtain ⟨absolute, absoluteToo, names⟩ := Uri.names_of_ofPath? one two
  have fileName : first.fileName? = second.fileName? := by
    rw [Path.fileName?_of_isAbsolute absolute, Path.fileName?_of_isAbsolute absoluteToo, names]
  have extension : first.extension? = second.extension? := by
    simp only [Path.extension?, Path.extensionBytes?, fileName]
  simp only [Settings.serverForPath?, fileName, extension]

end LanguageClient
