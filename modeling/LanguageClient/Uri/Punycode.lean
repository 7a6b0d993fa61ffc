import LanguageClient.Text.Digits

/-!
Names in ASCII letters for names in other letters. The ASCII characters of a name come first; after
the last dash, numbers tell which other characters go in and where. A number is written in digits of
base 36, least first, and ends with a digit below a threshold that moves with the size of the
numbers before it.
-/

namespace LanguageClient.Uri.Punycode

/-- The base of the digits. -/
def base : Nat := 36

/-- The greatest threshold. -/
def greatestThreshold : Nat := 26

/-- The value of a digit: letters first. -/
def digit? (c : Char) : Option Nat :=
  if 'a' ≤ c ∧ c ≤ 'z' then some (c.toNat - 'a'.toNat)
  else if 'A' ≤ c ∧ c ≤ 'Z' then some (c.toNat - 'A'.toNat)
  else (Text.digitValue? c).map (· + 26)

/-- The threshold for the digit whose place, counted from one, is `place / 36`. -/
def threshold (place bias : Nat) : Nat :=
  max 1 (min greatestThreshold (place - bias))

/-- The number that starts here added to `value`, and the rest. Numbers have at most 32 bits. -/
def number? (bias place weight value : Nat) : List Char → Option (Nat × List Char)
  | [] => none
  | c :: rest => do
      let digit ← digit? c
      let value := value + digit * weight
      let limit := threshold place bias
      if Text.word32 ≤ value then none
      else if digit < limit then some (value, rest)
      else
        let weight := weight * (base - limit)
        if Text.word32 ≤ weight then none else number? bias (place + base) weight value rest

/-- What follows a number is shorter. -/
theorem number?_length {bias place weight value next : Nat} {text rest : List Char}
    (h : number? bias place weight value text = some (next, rest))
    : rest.length < text.length := by
  induction text generalizing place weight value with
  | nil => simp [number?] at h
  | cons c text ih =>
      simp only [number?, Option.bind_eq_bind, Option.bind_eq_some_iff] at h
      obtain ⟨digit, _, h⟩ := h
      split at h
      · simp at h
      · split at h
        · simp only [Option.some.injEq, Prod.mk.injEq] at h
          rw [← h.2]
          simp
        · split at h
          · simp at h
          · have := ih h
            simp only [List.length_cons]
            omega

/-- Divide a step until it is small, and count how often in places. -/
def shrink (step place : Nat) : Nat × Nat :=
  if 455 < step then shrink (step / 35) (place + base) else (step, place)
termination_by step
decreasing_by exact Nat.div_lt_self (by omega) (by omega)

/-- Where thresholds lie after a step in a name that has now so many characters. -/
def adapt (step count : Nat) (isFirst : Bool) : Nat :=
  let step := if isFirst then step / 700 else step / 2
  let (step, place) := shrink (step + step / count) 0
  place + 36 * step / (step + 38)

/-- Put in the characters that numbers tell of. `index` counts through the places of the name, and
beyond its end through those of the name with the next character. -/
def insertAll? (name : List Char) (code index bias : Nat) (text : List Char)
    : Option (List Char) :=
  if text.isEmpty then some name
  else
    match _h : number? bias base 1 index text with
    | some (next, rest) =>
        let count := name.length + 1
        let code := code + next / count
        let place := next % count
        if code < 0xD800 ∨ (0xDFFF < code ∧ code < 0x110000) then
          insertAll? (name.take place ++ Char.ofNat code :: name.drop place) code (place + 1)
            (adapt (next - index) count (index = 0)) rest
        else none
    | none => none
termination_by text.length
decreasing_by exact number?_length _h

/-- The name that a text stands for. -/
def decode? (text : List Char) : Option (List Char) :=
  match text.reverse.span (· ≠ '-') with
  | (numbers, _ :: first :: before) =>
      insertAll? (first :: before).reverse 128 0 72 numbers.reverse
  | _ => insertAll? [] 128 0 72 text

end LanguageClient.Uri.Punycode
