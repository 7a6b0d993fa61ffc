import LanguageClient.Text.Utf8
import Mathlib.Tactic.SplitIfs

/-! The order of texts is the order of their bytes: UTF-8 keeps the order of characters, so what comes
first by characters comes first by bytes.
-/

namespace LanguageClient.Text

theorem ofNat_eq_ofNat_iff {n m : Nat} (small : n < UInt8.size) (other : m < UInt8.size)
    : UInt8.ofNat n = UInt8.ofNat m ↔ n = m := by
  rw [← UInt8.toNat_inj, UInt8.toNat_ofNat', UInt8.toNat_ofNat', Nat.mod_eq_of_lt small,
    Nat.mod_eq_of_lt other]

/-- The bytes of a lower character come first, whatever follows them. Each character has one of four
forms, and the first byte in which two of them differ decides.
-/
theorem utf8EncodeChar_append_lt {c d : Char} (less : c < d) (rest others : Bytes)
    : String.utf8EncodeChar c ++ rest < String.utf8EncodeChar d ++ others := by
  have below : c.val.toNat < d.val.toNat := less
  have bounded : d.val.toNat < 0x110000 := by
    rcases d.valid with low | high <;> simp only [UInt32.toNat] at * <;> omega
  simp only [String.utf8EncodeChar]
  -- Only quotients by one divisor are related by linear arithmetic.
  have nested (n : Nat) : n / 4096 = n / 64 / 64 ∧ n / 262144 = n / 64 / 64 / 64 := by
    simp only [Nat.div_div_eq_div_mul, and_self]
  simp only [nested]
  split_ifs <;>
    simp (disch := simp only [UInt8.size]; omega) only [List.cons_append, List.nil_append,
      List.cons_lt_cons_iff, UInt8.ofNat_lt_iff_lt, ofNat_eq_ofNat_iff] <;>
    omega

theorem utf8EncodeChar_ne_nil (c : Char) : String.utf8EncodeChar c ≠ [] := by
  simp only [String.utf8EncodeChar]
  split_ifs <;> exact List.cons_ne_nil _ _

theorem encode_lt_encode_of_lt {first second : List Char} (less : first < second)
    : encode first < encode second := by
  induction less with
  | @nil c rest =>
      obtain ⟨b, more, bytes⟩ := List.exists_cons_of_ne_nil (utf8EncodeChar_ne_nil c)
      rw [encode, encode, List.flatMap_cons, bytes]
      exact List.nil_lt_cons _ _
  | @cons c rest others _ ih =>
      simp only [encode, List.flatMap_cons]
      exact List.append_left_lt ih
  | rel less =>
      simp only [encode, List.flatMap_cons]
      exact utf8EncodeChar_append_lt less _ _

/-- One string comes before another exactly when its bytes do. -/
theorem bytes_lt_bytes_iff {first second : String}
    : bytes first < bytes second ↔ first < second := by
  have kept {first second : String} (less : first < second) : bytes first < bytes second :=
    encode_lt_encode_of_lt (String.lt_iff.mp less)
  refine ⟨fun less => ?_, kept⟩
  refine Decidable.byContradiction fun later => ?_
  by_cases same : second = first
  · exact List.lt_irrefl _ (same ▸ less)
  · have after : second < first := Std.lt_of_le_of_ne (String.not_lt.mp later) same
    exact List.lt_asymm less (kept after)

end LanguageClient.Text
