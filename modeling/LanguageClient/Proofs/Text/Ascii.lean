import LanguageClient.Text.Digits
import LanguageClient.Text.Utf8

/-! Texts of ASCII characters. Each character is one byte and reads back from it, and the decimal
digits of a number read back as the number.
-/

namespace LanguageClient.Text

-----------------------------------------------------------------------------------------
-- Bytes
-----------------------------------------------------------------------------------------

/-- A text without characters beyond ASCII. -/
def IsAscii (text : List Char) : Prop :=
  ∀ c ∈ text, c.toNat < 128

theorem encode_append (first second : List Char)
    : encode (first ++ second) = encode first ++ encode second :=
  List.flatMap_append

theorem encode_cons_of_ascii {c : Char} (ascii : c.toNat < 128) (rest : List Char)
    : encode (c :: rest) = UInt8.ofNat c.toNat :: encode rest := by
  have single : String.utf8EncodeChar c = [UInt8.ofNat c.toNat] := by
    have below : c.val.toNat ≤ 127 := Nat.le_of_lt_succ ascii
    simp only [String.utf8EncodeChar, if_pos below]
    rfl
  rw [encode, List.flatMap_cons, single]
  rfl

theorem decodeLossy_cons_of_ascii {b : UInt8} (ascii : b < 0x80) (rest : Bytes)
    : decodeLossy (b :: rest) = Char.ofNat b.toNat :: decodeLossy rest := by
  have whole : piece b rest = (.char (Char.ofNat b.toNat), 0) := by
    unfold piece
    rw [if_pos ascii]
  rw [decodeLossy, pieces, whole]
  rfl

/-- A text of ASCII characters reads back from its bytes. -/
theorem decodeLossy_encode_of_ascii {text : List Char} (ascii : IsAscii text)
    : decodeLossy (encode text) = text := by
  induction text with
  | nil => simp [encode, decodeLossy, pieces]
  | cons c rest ih =>
      have small : c.toNat < 128 := ascii c List.mem_cons_self
      have value : (UInt8.ofNat c.toNat).toNat = c.toNat := by
        rw [UInt8.toNat_ofNat']
        omega
      have byte : UInt8.ofNat c.toNat < 0x80 := by
        rw [UInt8.lt_iff_toNat_lt, value]
        exact small
      rw [encode_cons_of_ascii small, decodeLossy_cons_of_ascii byte, value, Char.ofNat_toNat,
        ih fun other member => ascii other (List.mem_cons_of_mem c member)]

theorem encode_eq_map_of_ascii {text : List Char} (ascii : IsAscii text)
    : encode text = text.map fun c => UInt8.ofNat c.toNat := by
  induction text with
  | nil => rfl
  | cons c rest ih =>
      rw [encode_cons_of_ascii (ascii c List.mem_cons_self), List.map_cons,
        ih fun other member => ascii other (List.mem_cons_of_mem c member)]

/-- A start of a text of ASCII characters, in bytes, is a start of the text. -/
theorem exists_prefix_of_encode {text : List Char} (ascii : IsAscii text) {front back : Bytes}
    (split : encode text = front ++ back)
    : ∃ first last, text = first ++ last ∧ front = encode first := by
  refine ⟨text.take front.length, text.drop front.length, (List.take_append_drop _ text).symm, ?_⟩
  have start : IsAscii (text.take front.length) := fun c member =>
    ascii c (List.mem_of_mem_take member)
  rw [encode_eq_map_of_ascii start, List.map_take, ← encode_eq_map_of_ascii ascii, split,
    List.take_left]

/-- A byte of a text of ASCII characters is one of these characters. -/
theorem mem_encode_of_ascii {text : List Char} (ascii : IsAscii text) {b : UInt8}
    (member : b ∈ encode text)
    : ∃ c ∈ text, b = UInt8.ofNat c.toNat := by
  induction text with
  | nil => simp [encode] at member
  | cons c rest ih =>
      rw [encode_cons_of_ascii (ascii c List.mem_cons_self)] at member
      rcases List.mem_cons.mp member with rfl | later
      · exact ⟨c, List.mem_cons_self, rfl⟩
      · obtain ⟨other, found, same⟩ :=
          ih (fun other member => ascii other (List.mem_cons_of_mem c member)) later
        exact ⟨other, List.mem_cons_of_mem c found, same⟩

-----------------------------------------------------------------------------------------
-- Decimal digits
-----------------------------------------------------------------------------------------

theorem isDigit_iff {c : Char} : c.isDigit = true ↔ 48 ≤ c.toNat ∧ c.toNat ≤ 57 := by
  simp [Char.isDigit, UInt32.le_iff_toNat_le]

theorem isDigit_of_mem_digits {n : Nat} {c : Char} (member : c ∈ digits n) : c.isDigit = true :=
  Nat.isDigit_of_mem_toDigits (by decide) (by decide) member

theorem readDigits_of_isDigit {text : List Char} (numeric : ∀ c ∈ text, c.isDigit = true)
    (acc : Nat)
    : readDigits acc text = some (Nat.ofDigitChars 10 text acc) := by
  induction text generalizing acc with
  | nil => rfl
  | cons c rest ih =>
      have within : '0' ≤ c ∧ c ≤ '9' := isDigit_iff.mp (numeric c List.mem_cons_self)
      simp only [readDigits, digitValue?, if_pos within, Nat.ofDigitChars_cons]
      exact ih (fun other member => numeric other (List.mem_cons_of_mem c member)) _

/-- A run of digits is read as a number, if that is below the bound. -/
theorem readBounded_of_isDigit {text : List Char} (numeric : ∀ c ∈ text, c.isDigit = true)
    (filled : text ≠ []) (bound : Nat)
    : readBounded bound text = (some (Nat.ofDigitChars 10 text 0)).filter (· < bound) := by
  cases text with
  | nil => exact absurd rfl filled
  | cons first rest =>
      have unsigned : first ≠ '+' := by
        rintro rfl
        exact absurd (numeric '+' List.mem_cons_self) (by decide)
      have value := readDigits_of_isDigit numeric 0
      simp [readBounded, unsigned, value]

/-- A number reads back from its digits. -/
theorem readBounded_digits {n bound : Nat} (small : n < bound)
    : readBounded bound (digits n) = some n := by
  rw [readBounded_of_isDigit (fun _ => isDigit_of_mem_digits) Nat.toDigits_ne_nil, digits,
    Nat.ofDigitChars_ten_toDigits]
  simp [small]

theorem le_ofDigitChars (text : List Char) (acc : Nat) : acc ≤ Nat.ofDigitChars 10 text acc := by
  induction text generalizing acc with
  | nil => exact Nat.le_refl acc
  | cons c rest ih =>
      rw [Nat.ofDigitChars_cons]
      exact Nat.le_trans (by omega) (ih _)

/-- The first digits of a number are read as a number too. -/
theorem readBounded_of_prefix {n bound : Nat} {front back : List Char} (small : n < bound)
    (split : digits n = front ++ back) (begun : front ≠ [])
    : ∃ m, readBounded bound front = some m := by
  have numeric : ∀ c ∈ front, c.isDigit = true := by
    intro c member
    exact isDigit_of_mem_digits (n := n) (split ▸ List.mem_append_left back member)
  have value : Nat.ofDigitChars 10 back (Nat.ofDigitChars 10 front 0) = n := by
    rw [← Nat.ofDigitChars_append, ← split, digits, Nat.ofDigitChars_ten_toDigits]
  have below : Nat.ofDigitChars 10 front 0 < bound := by
    have grown := le_ofDigitChars back (Nat.ofDigitChars 10 front 0)
    omega
  exact ⟨_, by rw [readBounded_of_isDigit numeric begun, Option.filter_some, if_pos (by simpa)]⟩

end LanguageClient.Text
