import LanguageClient.Proofs.Position
import LanguageClient.Proofs.Reply.Member
import LanguageClient.Proofs.Selection
import LanguageClient.Reply.Hover

/-! The text of a hover is the text of its parts, without those that say nothing. The range does not
touch the text.
-/

namespace LanguageClient.Reply

variable {members changed : List (String × Json)} {contents : Json}

/-- The value is a part that says something: a text that is not empty. -/
def IsPart (value : Json) (text : String) : Prop :=
  IsMarkup value text ∧ text ≠ ""

/-- The text that a part says, where it says something. -/
def partText? (value : Json) : Option String :=
  (markupText? value).filter (· ≠ "")

theorem partText?_eq_some_iff {value : Json} {text : String}
    : partText? value = some text ↔ IsPart value text := by
  simp only [partText?, Option.filter_eq_some_iff, decide_eq_true_eq, markupText?_eq_some_iff,
    IsPart]

theorem hoverParts_eq_filterMap (parts : List Json)
    : hoverParts parts = parts.filterMap partText? :=
  List.filter_filterMap ..

/-- A part that says nothing leaves no trace. -/
theorem hoverParts_append_cons {part : Json} (front back : List Json)
    (silent : ∀ text, ¬ IsPart part text)
    : hoverParts (front ++ part :: back) = hoverParts (front ++ back) := by
  have none : partText? part = none :=
    Option.eq_none_iff_forall_not_mem.mpr fun text said =>
      silent text (partText?_eq_some_iff.mp said)
  simp only [hoverParts_eq_filterMap, List.filterMap_append, List.filterMap_cons_none none]

/-- A text says the same by itself as in a list of one part. -/
theorem hoverText_singleton {value : Json} {text : String} (read : IsMarkup value text)
    : hoverText (.arr [value]) = hoverText value := by
  have found := markupText?_eq_some_iff.mpr read
  have alone : hoverText value = .ok text := by
    cases read with
    | plain => rfl
    | marked given => rw [hoverText, found]
  rw [alone, hoverText, hoverParts, List.filterMap_cons_some found, List.filterMap_nil]
  by_cases empty : text = "" <;> simp [empty]

theorem isBlankText_iff {text : String}
    : isBlankText text = true ↔ ∀ c ∈ text.toList, Text.isBlank c = true :=
  List.all_eq_true

/-- What is shown of a text. -/
def shown (range : Option Range) (text : String) : Option Hover :=
  if isBlankText text then none else some ⟨text, range⟩

/-- A hover is its text, unless that is blank, with its range. -/
theorem decodeHover_of_contents (given : Json.lookup? "contents" members = some contents)
    : decodeHover (.obj members)
      = (hoverText contents).map
          (shown ((Json.lookup? "range" members).bind Range.ofJson?)) := by
  simp only [decodeHover, given]
  cases hoverText contents with
  | error _ => rfl
  | ok text =>
      change (if isBlankText text then _ else _) = Except.ok (shown _ text)
      rw [shown]
      split <;> rfl

/-- A hover depends on its contents and its range alone. -/
theorem decodeHover_congr {other : Json} (given : Json.lookup? "contents" members = some contents)
    (givenNow : Json.lookup? "contents" changed = some other)
    (alike : hoverText other = hoverText contents)
    (range : Json.lookup? "range" changed = Json.lookup? "range" members)
    : decodeHover (.obj changed) = decodeHover (.obj members) := by
  rw [decodeHover_of_contents given, decodeHover_of_contents givenNow, alike, range]

theorem map_text_shown (range : Option Range) (text : String)
    : (shown range text).map Hover.text = if isBlankText text then none else some text := by
  rw [shown]
  split <;> rfl

/-- The text of a hover does not depend on its range. -/
theorem map_text_decodeHover
    (same : Json.lookup? "contents" changed = Json.lookup? "contents" members)
    : (decodeHover (.obj changed)).map (Option.map Hover.text)
      = (decodeHover (.obj members)).map (Option.map Hover.text) := by
  cases given : Json.lookup? "contents" members with
  | none => rw [decodeHover, decodeHover, same, given]
  | some contents =>
      rw [decodeHover_of_contents given, decodeHover_of_contents (same.trans given)]
      cases hoverText contents with
      | error _ => rfl
      | ok text => simp only [Except.map, map_text_shown]

theorem tells_range_of_decodeHover {hover : Hover}
    (decoded : decodeHover (.obj members) = .ok (some hover))
    : Tells IsRange (Json.lookup? "range" members) hover.range := by
  cases given : Json.lookup? "contents" members with
  | none => rw [decodeHover, given] at decoded; cases decoded
  | some contents =>
      rw [decodeHover_of_contents given] at decoded
      cases text : hoverText contents with
      | error _ => rw [text] at decoded; cases decoded
      | ok text =>
          rw [text, Except.map, Except.ok.injEq, shown] at decoded
          split at decoded
          · cases decoded
          · obtain rfl := Option.some.inj decoded
            exact tells_bind (fun _ _ => Range.ofJson?_eq_some_iff) _

/-- Contents in parts are always decoded. Their text is the texts of the parts that say something,
in order and with line feeds between them, and nothing is shown when it is white space alone. A part
that says nothing can be left out, and a text may stand by itself or in a list of its own. The range
is what the member of this name tells, if it is a range, and does not touch the text.
-/
theorem hover_joins_its_parts
    : (∀ members parts,
        Json.lookup? "contents" members = some (.arr parts) →
          ∃ texts,
            Selects IsPart parts texts
            ∧ ((∀ c ∈ ("\n".intercalate texts).toList, Text.isBlank c = true) →
                decodeHover (.obj members) = .ok none)
            ∧ ∀ c ∈ ("\n".intercalate texts).toList,
                Text.isBlank c = false →
                  ∃ range, decodeHover (.obj members) = .ok (some ⟨"\n".intercalate texts, range⟩))
      ∧ (∀ members changed front part back,
          (∀ text, ¬ IsPart part text) →
            Json.lookup? "contents" members = some (.arr (front ++ part :: back)) →
              Json.lookup? "contents" changed = some (.arr (front ++ back)) →
                Json.lookup? "range" changed = Json.lookup? "range" members →
                  decodeHover (.obj changed) = decodeHover (.obj members))
      ∧ (∀ members changed value text,
          IsMarkup value text →
            Json.lookup? "contents" members = some value →
              Json.lookup? "contents" changed = some (.arr [value]) →
                Json.lookup? "range" changed = Json.lookup? "range" members →
                  decodeHover (.obj changed) = decodeHover (.obj members))
      ∧ (∀ members changed,
          Json.lookup? "contents" changed = Json.lookup? "contents" members →
            (decodeHover (.obj changed)).map (Option.map Hover.text)
              = (decodeHover (.obj members)).map (Option.map Hover.text))
      ∧ ∀ members hover,
          decodeHover (.obj members) = .ok (some hover) →
            Tells IsRange (Json.lookup? "range" members) hover.range := by
  refine ⟨?joined, ?silent, ?alone, fun _ _ => map_text_decodeHover,
    fun _ _ => tells_range_of_decodeHover⟩
  case joined =>
    intro members parts given
    have selected : Selects IsPart parts (hoverParts parts) :=
      (selects_iff fun _ _ => partText?_eq_some_iff).mpr (hoverParts_eq_filterMap parts)
    have decoded := decodeHover_of_contents given
    rw [hoverText, Except.map, shown] at decoded
    refine ⟨_, selected, fun blank => ?_, fun c inside visible => ?_⟩
    · rwa [if_pos (isBlankText_iff.mpr blank)] at decoded
    · have legible : ¬ isBlankText ("\n".intercalate (hoverParts parts)) = true := fun blank =>
        Bool.eq_false_iff.mp visible (isBlankText_iff.mp blank c inside)
      rw [if_neg legible] at decoded
      exact ⟨_, decoded⟩
  case silent =>
    intro members changed front part back silent given givenNow range
    refine decodeHover_congr given givenNow ?_ range
    rw [hoverText, hoverText, hoverParts_append_cons front back silent]
  case alone =>
    intro members changed value text read given givenNow range
    exact decodeHover_congr given givenNow (hoverText_singleton read) range

/-- Parts among which are an empty one, a blank one and some that are no texts, with a range that is
none, then without the number among them; a text by itself and in a list; and blank parts.
-/
theorem mixed_parts_are_joined
    : let before : List Json := [.str "", .obj [("value", .str "A")]]
      let after : List Json := [.str " ", .obj [("value", .nat 1)], .str "B"]
      let members := [("contents", .arr (before ++ .nat 3 :: after)), ("range", .str "none")]
      let fewer := [("contents", .arr (before ++ after)), ("range", .str "none")]
      let marked : Json := .obj [("value", .str "A")]
      decodeHover (.obj members) = .ok (some ⟨"A\n \nB", none⟩)
      ∧ decodeHover (.obj fewer) = decodeHover (.obj members)
      ∧ decodeHover (.obj [("contents", .arr [marked])]) = decodeHover (.obj [("contents", marked)])
      ∧ decodeHover (.obj [("contents", .arr [.str "\t", .str " "])]) = .ok none
      ∧ (decodeHover (.obj fewer)).map (Option.map Hover.text)
        = (decodeHover (.obj [("contents", .arr (before ++ after))])).map
            (Option.map Hover.text) := by
  intro before after members fewer marked
  obtain ⟨joined, silent, alone, apart, tells⟩ := hover_joins_its_parts
  have number (text : String) : ¬ IsPart (.nat 3) text := fun said => nomatch said.1
  refine ⟨?_, silent members fewer before (.nat 3) after number rfl rfl rfl,
    alone [("contents", marked)] [("contents", .arr [marked])] marked "A" (.marked rfl) rfl rfl rfl,
    ?_, apart _ fewer rfl⟩
  · obtain ⟨texts, selected, _, visible⟩ := joined members _ rfl
    have same : texts = ["A", " ", "B"] :=
      ((selects_iff fun _ _ => partText?_eq_some_iff).mp selected).trans (by decide +kernel)
    subst same
    obtain ⟨range, decoded⟩ := visible 'A' (by decide +kernel) (by decide)
    have absent : range = none :=
      Option.eq_none_iff_forall_not_mem.mpr fun value found => by
        obtain ⟨_, given, start, stop, pair, _⟩ := (tells members _ decoded value).mp found
        obtain rfl := Option.some.inj given
        cases pair
    rw [decoded, absent]
    rfl
  · obtain ⟨texts, selected, blank, _⟩ := joined [("contents", .arr [.str "\t", .str " "])] _ rfl
    have same : texts = ["\t", " "] :=
      ((selects_iff fun _ _ => partText?_eq_some_iff).mp selected).trans (by decide +kernel)
    subst same
    exact blank (isBlankText_iff.mp (by decide +kernel))

end LanguageClient.Reply
