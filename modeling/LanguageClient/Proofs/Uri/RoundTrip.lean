import LanguageClient.Proofs.Path
import LanguageClient.Proofs.Text.Ascii
import LanguageClient.Proofs.Uri.File

/-! The URI of a file reads back as a path with the names of the file's path. Nothing in an encoded
name ends a segment, the path or the URI, so what is read are the segments that were written; and
only a step upward would be resolved.
-/

namespace LanguageClient.Uri

variable {names : List Bytes} {text rest : List Char}

-----------------------------------------------------------------------------------------
-- Characters of encoded names
-----------------------------------------------------------------------------------------

/-- The character neither counts as blank around a URI nor ends a segment or a path. -/
def IsInner (c : Char) : Prop :=
  0x20 < c.toNat ∧ isSlash true c = false ∧ endsPath c = false

instance (c : Char) : Decidable (IsInner c) :=
  inferInstanceAs (Decidable (_ ∧ _))

theorem isInner_of_mem_encodeSegment {name : Bytes} {c : Char} (member : c ∈ encodeSegment name)
    : IsInner c := by
  have inner : ∀ b, ((encodeByte b).all fun c => decide (IsInner c)) = true :=
    forall_byte (by decide +kernel)
  obtain ⟨b, _, found⟩ := List.mem_flatMap.mp member
  exact of_decide_eq_true (List.all_eq_true.mp (inner b) c found)

/-- The segments of the path in a URI: those of the names, or an empty one where there are none. -/
def segmentsOf (names : List Bytes) : List Segment :=
  if names.isEmpty then [[]] else names.map encodeSegment

/-- The path in a URI. -/
def pathOf (names : List Bytes) : List Char :=
  '/' :: pathText (segmentsOf names)

theorem pathText_cons (segment : Segment) (rest : List Bytes)
    : pathText (segment :: rest.map encodeSegment) = segment ++ encodeSegments rest := by
  induction rest generalizing segment with
  | nil => simp [pathText, encodeSegments]
  | cons next others ih =>
      have later := ih (encodeSegment next)
      simp only [pathText] at later
      rw [pathText, List.map_cons, List.intercalate_cons_cons, later]
      simp [encodeSegments]

theorem pathOf_cons (name : Bytes) (rest : List Bytes)
    : pathOf (name :: rest) = encodeSegments (name :: rest) := by
  rw [pathOf, segmentsOf, if_neg (by simp), List.map_cons, pathText_cons]
  rfl

/-- No character of the path in a URI counts as blank. -/
theorem visible_of_mem_pathOf {c : Char} (member : c ∈ pathOf names) : 0x20 < c.toNat := by
  have slash : 0x20 < '/'.toNat := by decide
  cases names with
  | nil =>
      obtain rfl := List.mem_singleton.mp member
      exact slash
  | cons name rest =>
      rw [pathOf_cons] at member
      obtain ⟨segment, _, found⟩ := List.mem_flatMap.mp member
      rcases List.mem_cons.mp found with rfl | inside
      · exact slash
      · exact (isInner_of_mem_encodeSegment inside).1

/-- The URI of a path from the root is its names. -/
theorem ofPath?_of_isAbsolute {path : Path} (absolute : path.isAbsolute = true)
    : ofPath? path = some (String.ofList ("file://".toList ++ pathOf path.names)) := by
  have text
      : (if path.names.isEmpty then ['/'] else encodeSegments path.names)
        = pathOf path.names := by
    cases path.names with
    | nil => rfl
    | cons name rest => rw [pathOf_cons]; rfl
  rw [ofPath?, if_pos absolute, ← text]
  rfl

-----------------------------------------------------------------------------------------
-- Segments
-----------------------------------------------------------------------------------------

/-- The segments of inner characters and a text are those of the text, with these characters in
front of the first.
-/
theorem splitPath_append {front : List Char} (inner : ∀ c ∈ front, IsInner c)
    {first : Segment} {others : List Segment} (split : splitPath true rest = first :: others)
    : splitPath true (front ++ rest) = (front ++ first) :: others := by
  induction front with
  | nil => exact split
  | cons c more ih =>
      obtain ⟨⟨_, whole, within⟩, later⟩ := List.forall_mem_cons.mp inner
      rw [List.cons_append, splitPath, within, whole, ih later]
      rfl

theorem splitPath_encodeSegments (names : List Bytes)
    : splitPath true (encodeSegments names) = [] :: names.map encodeSegment := by
  induction names with
  | nil => rfl
  | cons name rest ih =>
      change [] :: splitPath true (encodeSegment name ++ encodeSegments rest) = _
      rw [splitPath_append (fun _ => isInner_of_mem_encodeSegment) ih, List.append_nil,
        List.map_cons]

/-- The path in a URI is split into the segments that were written. -/
theorem splitPath_pathOf (names : List Bytes)
    : splitPath true (pathOf names) = [] :: segmentsOf names := by
  cases names with
  | nil => rfl
  | cons name rest =>
      rw [pathOf_cons]
      exact splitPath_encodeSegments (name :: rest)

/-- The segment is no dot and no step upward, in any spelling. -/
def Stays (segment : Segment) : Prop :=
  isUp segment = false ∧ isHere segment = false

/-- Segments that stay are kept. Drives matter right below the root alone, where an empty segment of
the URI already stands.
-/
theorem resolve_of_stays {segments done : List Segment}
    (stays : ∀ segment ∈ segments, Stays segment) (deep : 1 < done.length)
    : resolve true done segments = ⟨done.reverse ++ segments, false⟩ := by
  induction segments generalizing done with
  | nil => simp [resolve]
  | cons segment rest ih =>
      obtain ⟨⟨up, here⟩, later⟩ := List.forall_mem_cons.mp stays
      have below : done ≠ [[]] := fun root => absurd (root ▸ deep) (by decide)
      have deeper : 1 < (segment :: done).length := Nat.lt_succ_of_lt deep
      simp [resolve, up, here, below, ih later deeper]

/-- A name that is no step upward stays. Decoding tells what it is a spelling of. -/
theorem stays_encodeSegment {name : Bytes} (named : Path.IsName name)
    (level : name ≠ [Path.dot, Path.dot])
    : Stays (encodeSegment name) := by
  have spelt {text : Segment} (same : encodeSegment name = text)
      : name = decode (Text.encode text) := by
    have decoded := decode_encodeSegment name []
    have nothing : decode [] = [] := rfl
    rw [same, nothing, List.append_nil, List.append_nil] at decoded
    exact decoded.symm
  refine ⟨Bool.eq_false_iff.mpr fun up => ?_, Bool.eq_false_iff.mpr fun here => ?_⟩
  · have dotted : ∀ first ∈ dots, ∀ second ∈ dots,
        decode (Text.encode (first ++ second)) = [Path.dot, Path.dot] := by decide +kernel
    simp only [isUp, List.any_eq_true, decide_eq_true_eq] at up
    obtain ⟨first, inFirst, second, inSecond, same⟩ := up
    exact level ((spelt same).trans (dotted first inFirst second inSecond))
  · have dotted : ∀ segment ∈ dots, decode (Text.encode segment) = [Path.dot] := by
      decide +kernel
    have same := (spelt rfl).trans (dotted _ (List.contains_iff_mem.mp here))
    rw [same] at named
    exact absurd named.2 (by decide)

/-- The segments in a URI stay, unless there is a step upward on the path. -/
theorem stays_of_mem_segmentsOf (named : ∀ name ∈ names, Path.IsName name)
    (level : [Path.dot, Path.dot] ∉ names)
    : ∀ segment ∈ segmentsOf names, Stays segment := by
  intro segment member
  rw [segmentsOf] at member
  split at member
  · obtain rfl := List.mem_singleton.mp member
    exact ⟨by decide, by decide⟩
  · obtain ⟨name, present, rfl⟩ := List.mem_map.mp member
    exact stays_encodeSegment (named name present) fun up => level (up ▸ present)

-----------------------------------------------------------------------------------------
-- Reading
-----------------------------------------------------------------------------------------

/-- No name has an empty text, so no slash stands in front of a name. -/
theorem exists_first_of_isName {name : Bytes} (named : Path.IsName name)
    : ∃ c rest, encodeSegment name = c :: rest ∧ c ≠ '/' := by
  have filled : encodeSegment name ≠ [] := by
    intro empty
    have same : name = [] := encodeSegment_injective empty
    rw [same] at named
    exact absurd named.2 (by decide)
  obtain ⟨c, rest, same⟩ := List.exists_cons_of_ne_nil filled
  refine ⟨c, rest, same, ?_⟩
  rintro rfl
  exact slash_not_mem_encodeSegment name (same ▸ List.mem_cons_self)

/-- Slashes in front of a path count as one, and what was written has only one. -/
theorem rooted_pathText (named : ∀ name ∈ names, Path.IsName name)
    : rooted (pathText ([] :: [] :: segmentsOf names)) = pathOf names := by
  cases names with
  | nil => rfl
  | cons name rest =>
      obtain ⟨c, others, same, other⟩ := exists_first_of_isName (named name List.mem_cons_self)
      have text
          : pathText (segmentsOf (name :: rest)) = encodeSegment name ++ encodeSegments rest :=
        pathText_cons (encodeSegment name) rest
      change rooted ('/' :: '/' :: pathText (segmentsOf (name :: rest))) = _
      rw [rooted, pathOf, text, same]
      simp [other]

/-- The path in a URI is read as it is written, unless there is a step upward on it. -/
theorem ofFile?_pathOf (named : ∀ name ∈ names, Path.IsName name)
    (level : [Path.dot, Path.dot] ∉ names)
    : ofFile? ('/' :: '/' :: pathOf names) = some ⟨.absent, some (pathOf names)⟩ := by
  have resolved
      : resolve true [[]] (splitPath true (pathOf names))
        = ⟨[] :: [] :: segmentsOf names, false⟩ := by
    rw [splitPath_pathOf]
    -- The slash after the host leaves an empty segment, so no drive stands right below the root.
    change resolve true [[], []] (segmentsOf names) = _
    exact resolve_of_stays (stays_of_mem_segmentsOf named level) (by decide)
  have read
      : ofFile? ('/' :: '/' :: pathOf names)
        = let path := resolve true [[]] (splitPath true (pathOf names))
          some ⟨if path.drive then .absent else .absent, some (rooted (pathText path.segments))⟩ :=
    rfl
  rw [read, resolved, ← rooted_pathText named]
  rfl

/-- Nothing is cut off where no character counts as blank. -/
theorem dropWhile_of_visible (visible : ∀ c ∈ text, 0x20 < c.toNat)
    : text.dropWhile (·.toNat ≤ 0x20) = text := by
  cases text with
  | nil => rfl
  | cons c rest => simp [visible c List.mem_cons_self]

/-- A text of characters that do not count as blank is read from its scheme on. -/
theorem parse?_file (visible : ∀ c ∈ rest, 0x20 < c.toNat)
    : parse? (String.ofList ("file:".toList ++ rest)) = ofFile? rest := by
  have visible : ∀ c ∈ "file:".toList ++ rest, 0x20 < c.toNat := by
    change ∀ c ∈ 'f' :: 'i' :: 'l' :: 'e' :: ':' :: rest, 0x20 < c.toNat
    simp only [List.forall_mem_cons]
    exact ⟨by decide, by decide, by decide, by decide, by decide, visible⟩
  have front := dropWhile_of_visible visible
  have back := dropWhile_of_visible fun c member => visible c (List.mem_reverse.mp member)
  have kept
      : ("file:".toList ++ rest).filter (fun c => ! ['\t', '\n', '\r'].contains c)
        = "file:".toList ++ rest := by
    refine List.filter_eq_self.mpr fun c member => ?_
    have above := visible c member
    have other : c ∉ ['\t', '\n', '\r'] := by
      simp only [List.mem_cons, List.not_mem_nil, or_false]
      rintro (rfl | rfl | rfl) <;> exact absurd above (by decide)
    simpa using other
  have scheme : scheme? ("file:".toList ++ rest) = some ("file".toList, rest) := rfl
  simp only [parse?, String.toList_ofList, front, back, List.reverse_reverse, kept, scheme]
  rfl

-----------------------------------------------------------------------------------------
-- Paths
-----------------------------------------------------------------------------------------

theorem decode_encodeSegments (names : List Bytes)
    : decode (Text.encode (encodeSegments names)) = Path.ofNames names := by
  induction names with
  | nil => rfl
  | cons name rest ih =>
      have slash (text : List Char) : Text.encode ('/' :: text) = Path.slash :: Text.encode text :=
        Text.encode_cons_of_ascii (by decide) text
      have split
          : encodeSegments (name :: rest) = '/' :: (encodeSegment name ++ encodeSegments rest) :=
        rfl
      rw [split, slash, decode_cons (by decide), Text.encode_append, decode_encodeSegment, ih]
      rfl

/-- The path in a URI is one from the root with the names that were written. -/
theorem names_decode_pathOf (named : ∀ name ∈ names, Path.IsName name)
    : Path.isAbsolute (decode (Text.encode (pathOf names))) = true
      ∧ Path.names (decode (Text.encode (pathOf names))) = names := by
  cases names with
  | nil => exact ⟨rfl, rfl⟩
  | cons name rest =>
      rw [pathOf_cons, decode_encodeSegments]
      exact ⟨rfl, Path.names_ofNames named⟩

theorem closeDrive_cases (path : Path)
    : closeDrive path = path ∨ closeDrive path = path ++ [Path.slash] := by
  unfold closeDrive
  split
  · split
    · exact .inr rfl
    · exact .inl rfl
  · exact .inl rfl

/-- A slash behind the letter of a drive changes no name. -/
theorem names_closeDrive {path : Path} (absolute : path.isAbsolute = true)
    : (closeDrive path).isAbsolute = true ∧ (closeDrive path).names = path.names := by
  rcases closeDrive_cases path with same | closed
  · rw [same]
    exact ⟨absolute, rfl⟩
  · rw [closed, Path.names_append_slash]
    refine ⟨?_, List.append_nil _⟩
    cases path with
    | nil => cases absolute
    | cons => exact absolute

/-- The URI of a path from the root without a step upward is read as a path from the root with the
same names.
-/
theorem toPath?_of_ofPath? {path : Path} (absolute : path.isAbsolute = true)
    (level : [Path.dot, Path.dot] ∉ path.names)
    : ∃ uri back,
        ofPath? path = some uri
        ∧ toPath? uri = some back
        ∧ back.isAbsolute = true
        ∧ back.names = path.names := by
  have named : ∀ name ∈ path.names, Path.IsName name := fun _ => Path.isName_of_mem_names
  obtain ⟨fromRoot, names⟩ := names_decode_pathOf named
  obtain ⟨closed, same⟩ := names_closeDrive fromRoot
  refine ⟨_, _, ofPath?_of_isAbsolute absolute, ?_, closed, same.trans names⟩
  have visible : ∀ c ∈ '/' :: '/' :: pathOf path.names, 0x20 < c.toNat := by
    simp only [List.forall_mem_cons]
    exact ⟨by decide, by decide, fun _ => visible_of_mem_pathOf⟩
  have read := parse?_file visible
  rw [ofFile?_pathOf named level] at read
  exact congrArg (·.bind filePath?) read

/-- The files with one URI are those from the root with the same names on their paths. -/
theorem ofPath?_eq_some_iff {first second : Path} {uri : String}
    (located : ofPath? first = some uri)
    : ofPath? second = some uri ↔ second.isAbsolute = true ∧ second.names = first.names := by
  constructor
  · intro other
    obtain ⟨_, absolute, same⟩ := names_of_ofPath? located other
    exact ⟨absolute, same.symm⟩
  · rintro ⟨absolute, same⟩
    have fromRoot := (names_of_ofPath? located located).1
    rw [← located, ofPath?_of_isAbsolute absolute, ofPath?_of_isAbsolute fromRoot, same]

/-- A path that does not start at the root has no URI. -/
theorem ofPath?_of_not_isAbsolute {path : Path} (relative : path.isAbsolute = false)
    : ofPath? path = none := by
  rw [ofPath?, relative]
  rfl

end LanguageClient.Uri
