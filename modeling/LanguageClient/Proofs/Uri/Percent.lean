import LanguageClient.Uri.Percent

/-! Percent encoding loses nothing: what a segment is encoded to can be decoded again, so different
segments are encoded differently, and never with a slash.
-/

namespace LanguageClient.Uri

/-- What holds of the bytes below 256 holds of all bytes. -/
theorem forall_byte {P : UInt8 → Prop} (all : ∀ n < 256, P (UInt8.ofNat n)) (b : UInt8) : P b := by
  simpa using all b.toNat b.toNat_lt

/-- A byte stands for itself, which is no percent sign, or for a percent sign and the two digits
of its value.
-/
theorem encode_encodeByte (b : UInt8)
    : (Text.encode (encodeByte b) = [b] ∧ b ≠ percent)
      ∨ ∃ high low,
          Text.encode (encodeByte b) = [percent, high, low]
          ∧ hexValue? high = some (b.toNat / 16)
          ∧ hexValue? low = some (b.toNat % 16) := by
  by_cases plain : isPlain b = true
  · have self : ∀ b, isPlain b = true → Text.encode (encodeByte b) = [b] ∧ b ≠ percent :=
      forall_byte (by decide +kernel)
    exact .inl (self b plain)
  · have digits
        : ∀ b, isPlain b = false →
            Text.encode (encodeByte b)
              = [percent, UInt8.ofNat (hexDigit (b.toNat / 16)).toNat,
                  UInt8.ofNat (hexDigit (b.toNat % 16)).toNat] :=
      forall_byte (by decide +kernel)
    have value : ∀ n < 16, hexValue? (UInt8.ofNat (hexDigit n).toNat) = some n := by decide
    have small := b.toNat_lt
    exact .inr ⟨_, _, digits b (by simpa using plain), value _ (by omega), value _ (by omega)⟩

theorem decode_cons {b : UInt8} (other : b ≠ percent) (rest : Bytes)
    : decode (b :: rest) = b :: decode rest := by
  match rest with
  | [] => rfl
  | [_] => rfl
  | _ :: _ :: _ => rw [decode, if_neg other]

theorem decode_encodeByte (b : UInt8) (rest : Bytes)
    : decode (Text.encode (encodeByte b) ++ rest) = b :: decode rest := by
  rcases encode_encodeByte b with ⟨self, other⟩ | ⟨high, low, digits, highValue, lowValue⟩
  · rw [self]
    exact decode_cons other rest
  · have whole : b.toNat / 16 * 16 + b.toNat % 16 = b.toNat := by omega
    rw [digits]
    simp only [List.cons_append, List.nil_append, decode, highValue, lowValue, if_pos, whole]
    simp

theorem decode_encodeSegment (segment rest : Bytes)
    : decode (Text.encode (encodeSegment segment) ++ rest) = segment ++ decode rest := by
  induction segment with
  | nil => rfl
  | cons b others ih =>
      have split
          : Text.encode (encodeSegment (b :: others))
            = Text.encode (encodeByte b) ++ Text.encode (encodeSegment others) := by
        simp [encodeSegment, Text.encode]
      rw [split, List.append_assoc, decode_encodeByte, ih]
      rfl

/-- Different segments are encoded differently. -/
theorem encodeSegment_injective {first second : Bytes}
    (same : encodeSegment first = encodeSegment second)
    : first = second := by
  have decoded := decode_encodeSegment first []
  rw [same, decode_encodeSegment second []] at decoded
  simpa [decode] using decoded.symm

theorem slash_not_mem_encodeSegment (segment : Bytes) : '/' ∉ encodeSegment segment := by
  have none : ∀ b, '/' ∉ encodeByte b := forall_byte (by decide +kernel)
  intro member
  obtain ⟨b, _, found⟩ := List.mem_flatMap.mp member
  exact none b found

/-- The text of segments after slashes. -/
def encodeSegments (segments : List Bytes) : List Char :=
  segments.flatMap fun segment => '/' :: encodeSegment segment

/-- What stands before the second slash is the first segment. -/
theorem takeWhile_encodeSegment (segment : Bytes) (rest : List Bytes)
    : (encodeSegment segment ++ encodeSegments rest).takeWhile (· ≠ '/')
      = encodeSegment segment := by
  have stop : (encodeSegments rest).takeWhile (· ≠ '/') = [] := by
    cases rest <;> simp [encodeSegments]
  rw [List.takeWhile_append_of_pos, stop, List.append_nil]
  intro c member
  have other : c ≠ '/' := fun same => slash_not_mem_encodeSegment segment (same ▸ member)
  simpa using other

/-- Segments after slashes are encoded to one text only. Induction on the segments: the text up to
the next slash is that of the first one.
-/
theorem encodeSegments_injective {first second : List Bytes}
    (same : encodeSegments first = encodeSegments second)
    : first = second := by
  induction first generalizing second with
  | nil =>
      cases second with
      | nil => rfl
      | cons => simp [encodeSegments] at same
  | cons segment rest ih =>
      cases second with
      | nil => simp [encodeSegments] at same
      | cons other others =>
          have same
              : encodeSegment segment ++ encodeSegments rest
                = encodeSegment other ++ encodeSegments others := by
            simpa [encodeSegments] using same
          have head := congrArg (List.takeWhile (· ≠ '/')) same
          rw [takeWhile_encodeSegment, takeWhile_encodeSegment] at head
          obtain rfl := encodeSegment_injective head
          rw [ih (List.append_cancel_left same)]

end LanguageClient.Uri
