import LanguageClient.Text.Utf16
import Mathlib.Data.List.Basic

/-! Stretches of 16-bit units. A character outside the basic plane is written as two surrogates, a
high one and a low one; a stretch of a text's units is a text itself exactly when its surrogates
stand in such pairs, and then it is the part of the text between its ends.
-/

namespace LanguageClient.Text

-----------------------------------------------------------------------------------------
-- Units and surrogates
-----------------------------------------------------------------------------------------

/-- The units of a character: its number, or two surrogates if it lies outside the basic plane. -/
def unitsOfChar (c : Char) : List Nat :=
  if c.toNat < 0x10000 then [c.toNat]
  else [0xD800 + (c.toNat - 0x10000) / 0x400, 0xDC00 + (c.toNat - 0x10000) % 0x400]

/-- The units of a text. -/
def toUnits (text : List Char) : List Nat :=
  text.flatMap unitsOfChar

def IsHighSurrogate (unit : Nat) : Prop :=
  0xD800 ≤ unit ∧ unit < 0xDC00

def IsLowSurrogate (unit : Nat) : Prop :=
  0xDC00 ≤ unit ∧ unit < 0xE000

/-- Every surrogate belongs to a pair, of a high one and a low one right after it. -/
inductive Paired : List Nat → Prop
  | nil : Paired []
  | single {unit rest} (notHigh : ¬ IsHighSurrogate unit) (notLow : ¬ IsLowSurrogate unit)
    (paired : Paired rest)
    : Paired (unit :: rest)
  | pair {high low rest} (isHigh : IsHighSurrogate high) (isLow : IsLowSurrogate low)
    (paired : Paired rest)
    : Paired (high :: low :: rest)

/-- The units from `first` up to `last`. -/
def unitsBetween (text : List Char) (first last : Nat) : List Nat :=
  ((toUnits text).drop first).take (last - first)

/-- A character is one unit that is no surrogate, or a pair of surrogates. -/
theorem unitsOfChar_cases (c : Char)
    : (unitsOf c = 1
        ∧ unitsOfChar c = [c.toNat]
        ∧ ¬ IsHighSurrogate c.toNat
        ∧ ¬ IsLowSurrogate c.toNat)
      ∨ (unitsOf c = 2
        ∧ ∃ high low,
            unitsOfChar c = [high, low]
            ∧ IsHighSurrogate high
            ∧ IsLowSurrogate low) := by
  have valid := c.valid
  simp only [UInt32.isValidChar, Nat.isValidChar] at valid
  have number : c.val.toNat = c.toNat := rfl
  rw [number] at valid
  unfold unitsOf unitsOfChar IsHighSurrogate IsLowSurrogate
  by_cases basic : c.toNat < 0x10000
  · left
    simp only [basic, if_true, true_and]
    omega
  · right
    simp only [basic, if_false, true_and]
    refine ⟨_, _, rfl, ?_, ?_⟩ <;> omega

theorem length_unitsOfChar (c : Char) : (unitsOfChar c).length = unitsOf c := by
  rcases unitsOfChar_cases c with ⟨count, written, _⟩ | ⟨count, high, low, written, _⟩
  · rw [written, count, List.length_singleton]
  · rw [written, count, List.length_cons, List.length_singleton]

@[simp]
theorem toUnits_nil : toUnits [] = [] := rfl

@[simp]
theorem toUnits_cons (c : Char) (rest : List Char)
    : toUnits (c :: rest) = unitsOfChar c ++ toUnits rest :=
  List.flatMap_cons

@[simp]
theorem toUnits_append (front back : List Char)
    : toUnits (front ++ back) = toUnits front ++ toUnits back :=
  List.flatMap_append

@[simp]
theorem length_toUnits (text : List Char) : (toUnits text).length = units text := by
  induction text with
  | nil => rfl
  | cons c rest ih => rw [toUnits_cons, List.length_append, length_unitsOfChar, ih, units]

@[simp]
theorem units_append (front back : List Char) : units (front ++ back) = units front + units back := by
  rw [← length_toUnits, toUnits_append, List.length_append, length_toUnits, length_toUnits]

/-- The surrogates of a text stand in pairs. -/
theorem paired_toUnits (text : List Char) : Paired (toUnits text) := by
  induction text with
  | nil => exact .nil
  | cons c rest ih =>
      rw [toUnits_cons]
      rcases unitsOfChar_cases c with
        ⟨_, written, notHigh, notLow⟩ | ⟨_, high, low, written, isHigh, isLow⟩
      · rw [written]
        exact .single notHigh notLow ih
      · rw [written]
        exact .pair isHigh isLow ih

-----------------------------------------------------------------------------------------
-- Where a stretch may begin and end
-----------------------------------------------------------------------------------------

/-- No stretch with its surrogates in pairs starts with a low one. -/
theorem not_paired_of_low {low : Nat} {rest : List Nat} (isLow : IsLowSurrogate low)
    : ¬ Paired (low :: rest) := by
  intro paired
  cases paired with
  | single _ notLow => exact notLow isLow
  | pair isHigh => exact absurd isHigh.2 (Nat.not_lt.mpr isLow.1)

/-- After a high surrogate comes its low one, and then the rest. -/
theorem Paired.of_high {high : Nat} {rest : List Nat} (paired : Paired (high :: rest))
    (isHigh : IsHighSurrogate high)
    : ∃ low later, rest = low :: later ∧ Paired later := by
  cases paired with
  | single notHigh => exact absurd isHigh notHigh
  | pair _ _ later => exact ⟨_, _, rfl, later⟩

/-- What stands after a unit that is no high surrogate has its surrogates in pairs too. -/
theorem Paired.of_notHigh {unit : Nat} {rest : List Nat} (paired : Paired (unit :: rest))
    (notHigh : ¬ IsHighSurrogate unit)
    : Paired rest := by
  cases paired with
  | single _ _ later => exact later
  | pair isHigh => exact absurd isHigh notHigh

/-- Where the surrogates among the first units of a text stand in pairs, these units are the
characters at its start. Induction on the text: a pair is cut only behind its high surrogate.
-/
theorem exists_front_of_paired {text : List Char} {count : Nat} (within : count ≤ units text)
    (paired : Paired ((toUnits text).take count))
    : ∃ front back, text = front ++ back ∧ units front = count := by
  induction text generalizing count with
  | nil =>
      have none : count = 0 := Nat.le_zero.mp within
      exact ⟨[], [], rfl, none.symm⟩
  | cons c rest ih =>
      rcases Nat.eq_zero_or_pos count with rfl | some
      · exact ⟨[], c :: rest, rfl, rfl⟩
      · rw [units] at within
        rw [toUnits_cons] at paired
        rcases unitsOfChar_cases c with
          ⟨one, written, notHigh, _⟩ | ⟨two, high, low, written, isHigh, _⟩
        · obtain ⟨fewer, rfl⟩ := Nat.exists_eq_add_of_le' some
          rw [written] at paired
          have later := paired.of_notHigh notHigh
          obtain ⟨front, back, rfl, counted⟩ := ih (by omega) later
          exact ⟨c :: front, back, rfl, by rw [units, one, counted, Nat.add_comm]⟩
        · rw [written] at paired
          obtain _ | _ | fewer := count
          · cases some
          · obtain ⟨low, later, empty, _⟩ := Paired.of_high paired isHigh
            cases empty
          · obtain ⟨low, later, split, later'⟩ := Paired.of_high paired isHigh
            obtain ⟨rfl, rfl⟩ := List.cons.inj split
            obtain ⟨front, back, rfl, counted⟩ := ih (by omega) later'
            exact ⟨c :: front, back, rfl, by rw [units, two, counted, Nat.add_comm]⟩

/-- Where the surrogates of a stretch that is not empty stand in pairs, it starts between two
characters. Induction on the text: a pair is cut only before its low surrogate.
-/
theorem exists_back_of_paired {text : List Char} {first count : Nat} (some : 0 < count)
    (within : first + count ≤ units text) (paired : Paired (((toUnits text).drop first).take count))
    : ∃ front back, text = front ++ back ∧ units front = first := by
  induction text generalizing first with
  | nil =>
      rw [units] at within
      omega
  | cons c rest ih =>
      rcases Nat.eq_zero_or_pos first with rfl | later
      · exact ⟨[], c :: rest, rfl, rfl⟩
      · rw [units] at within
        rw [toUnits_cons] at paired
        rcases unitsOfChar_cases c with ⟨one, written, _⟩ | ⟨two, high, low, written, _, isLow⟩
        · obtain ⟨before, rfl⟩ := Nat.exists_eq_add_of_le' later
          rw [written] at paired
          obtain ⟨front, back, rfl, counted⟩ := ih (by omega) paired
          exact ⟨c :: front, back, rfl, by rw [units, one, counted, Nat.add_comm]⟩
        · rw [written] at paired
          obtain ⟨fewer, rfl⟩ := Nat.exists_eq_add_of_le' some
          obtain _ | _ | before := first
          · cases later
          · exact absurd paired (not_paired_of_low isLow)
          · obtain ⟨front, back, rfl, counted⟩ := ih (by omega) paired
            exact ⟨c :: front, back, rfl, by rw [units, two, counted, Nat.add_comm]⟩

-----------------------------------------------------------------------------------------
-- Slices
-----------------------------------------------------------------------------------------

theorem unitsOf_pos (c : Char) : 0 < unitsOf c := by
  rcases unitsOfChar_cases c with ⟨count, _⟩ | ⟨count, _⟩ <;> omega

theorem splitUnits?_append (front back : List Char)
    : splitUnits? (units front) (front ++ back) = some (front, back) := by
  induction front with
  | nil => rw [units, List.nil_append, splitUnits?]
  | cons c rest ih =>
      obtain ⟨more, length⟩ := Nat.exists_eq_add_of_le' (unitsOf_pos c)
      have count : units (c :: rest) = (more + units rest) + 1 := by rw [units, length]; omega
      have left : more + units rest + 1 - unitsOf c = units rest := by omega
      have fits : unitsOf c ≤ more + units rest + 1 := by omega
      rw [count, List.cons_append, splitUnits?, if_pos fits, left, ih]
      rfl

/-- A text splits at a unit into a part of so many units and what follows it. -/
theorem splitUnits?_eq_some_iff {count : Nat} {text front back : List Char}
    : splitUnits? count text = some (front, back)
      ↔ text = front ++ back ∧ units front = count := by
  constructor
  · intro split
    induction text generalizing count front with
    | nil =>
        cases count with
        | zero =>
            obtain ⟨rfl, rfl⟩ := Prod.mk.inj (Option.some.inj split)
            exact ⟨rfl, rfl⟩
        | succ count => cases split
    | cons c rest ih =>
        cases count with
        | zero =>
            obtain ⟨rfl, rfl⟩ := Prod.mk.inj (Option.some.inj split)
            exact ⟨rfl, rfl⟩
        | succ count =>
            rw [splitUnits?] at split
            by_cases fits : unitsOf c ≤ count + 1
            · rw [if_pos fits] at split
              obtain ⟨⟨later, _⟩, splitLater, same⟩ := Option.map_eq_some_iff.mp split
              obtain ⟨rfl, rfl⟩ := Prod.mk.inj same
              obtain ⟨rfl, counted⟩ := ih splitLater
              exact ⟨rfl, by rw [units, counted]; omega⟩
            · rw [if_neg fits] at split
              cases split
  · rintro ⟨rfl, rfl⟩
    exact splitUnits?_append front back

/-- A part that is not empty lies between two characters of the text, at these units. -/
theorem sliceUnits?_eq_some_iff_of_lt {text part : List Char} {first last : Nat}
    (less : first < last)
    : sliceUnits? text first last = some part
      ↔ ∃ front back,
          text = front ++ part ++ back ∧ units front = first ∧ units (front ++ part) = last := by
  rw [sliceUnits?, if_neg (Nat.ne_of_lt less), if_pos less]
  simp only [Option.bind_eq_bind, Option.bind_eq_some_iff, Option.pure_def, Option.some.injEq,
    Prod.exists, splitUnits?_eq_some_iff, units_append]
  constructor
  · rintro ⟨front, _, ⟨rfl, counted⟩, part, back, ⟨rfl, length⟩, rfl⟩
    exact ⟨front, back, (List.append_assoc ..).symm, counted, by omega⟩
  · rintro ⟨front, back, rfl, counted, ending⟩
    refine ⟨front, part ++ back, ⟨List.append_assoc .., counted⟩, part, back, ⟨rfl, ?_⟩, rfl⟩
    omega

theorem unitsBetween_eq {text front part back : List Char} {first last : Nat}
    (split : text = front ++ part ++ back) (counted : units front = first)
    (ending : units (front ++ part) = last)
    : unitsBetween text first last = toUnits part := by
  have length : last - first = units part := by
    rw [units_append, counted] at ending
    omega
  rw [split, unitsBetween, List.append_assoc, toUnits_append, toUnits_append, length,
    List.drop_left' ((length_toUnits front).trans counted), List.take_left' (length_toUnits part)]

/-- The units of a part are those between its ends. -/
theorem toUnits_of_sliceUnits? {text part : List Char} {first last : Nat}
    (sliced : sliceUnits? text first last = some part)
    : toUnits part = unitsBetween text first last := by
  rcases Nat.lt_trichotomy first last with less | rfl | more
  · obtain ⟨front, back, split, counted, ending⟩ := (sliceUnits?_eq_some_iff_of_lt less).mp sliced
    exact (unitsBetween_eq split counted ending).symm
  · rw [sliceUnits?, if_pos rfl] at sliced
    split at sliced
    · obtain rfl := Option.some.inj sliced
      simp [unitsBetween]
    · cases sliced
  · rw [sliceUnits?, if_neg (Nat.ne_of_gt more), if_neg (Nat.not_lt.mpr (Nat.le_of_lt more))]
      at sliced
    cases sliced

/-- Where the surrogates of a stretch that is not empty stand in pairs, it is a part of the text. -/
theorem exists_part_of_paired {text : List Char} {first last : Nat} (less : first < last)
    (within : last ≤ units text) (paired : Paired (unitsBetween text first last))
    : ∃ front part back,
        text = front ++ part ++ back ∧ units front = first ∧ units (front ++ part) = last := by
  have inside : first + (last - first) ≤ units text := by omega
  obtain ⟨front, rest, rfl, counted⟩ :=
    exists_back_of_paired (Nat.sub_pos_of_lt less) inside paired
  rw [unitsBetween, toUnits_append, List.drop_left' ((length_toUnits front).trans counted)]
    at paired
  rw [units_append, counted] at inside
  obtain ⟨part, back, rfl, length⟩ :=
    exists_front_of_paired (Nat.le_of_add_le_add_left inside) paired
  refine ⟨front, part, back, (List.append_assoc ..).symm, counted, ?_⟩
  rw [units_append, counted, length]
  omega

/-- A part exists exactly when its ends are in order and inside the text, and the surrogates between
them stand in pairs.
-/
theorem sliceUnits?_isSome_iff {text : List Char} {first last : Nat}
    : (sliceUnits? text first last).isSome
      ↔ first ≤ last ∧ last ≤ (toUnits text).length ∧ Paired (unitsBetween text first last) := by
  rw [length_toUnits, Option.isSome_iff_exists]
  rcases Nat.lt_trichotomy first last with less | rfl | more
  · simp only [sliceUnits?_eq_some_iff_of_lt less]
    constructor
    · rintro ⟨part, front, back, split, counted, ending⟩
      refine ⟨Nat.le_of_lt less, ?_, ?_⟩
      · rw [split, units_append, ending]
        exact Nat.le_add_right _ _
      · rw [unitsBetween_eq split counted ending]
        exact paired_toUnits part
    · rintro ⟨_, within, paired⟩
      obtain ⟨front, part, back, found⟩ := exists_part_of_paired less within paired
      exact ⟨part, front, back, found⟩
  · have empty : unitsBetween text first first = [] := by simp [unitsBetween]
    rw [sliceUnits?, if_pos rfl, empty]
    by_cases within : first ≤ units text
    · simp [within, Paired.nil]
    · simp [within]
  · have reversed : ¬ first ≤ last := Nat.not_le.mpr more
    rw [sliceUnits?, if_neg (Nat.ne_of_gt more), if_neg (Nat.not_lt.mpr (Nat.le_of_lt more))]
    simp [reversed]

end LanguageClient.Text
