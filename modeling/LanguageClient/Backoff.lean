import LanguageClient.Text.Digits

/-!
Waiting before restarts: the wait doubles with every attempt, up to a greatest factor and up to
the longest time that can be told. Times are in milliseconds.
-/

namespace LanguageClient.Backoff

/-- The greatest factor by which a wait grows. -/
def greatestFactor : Nat := Text.word32 - 1

/-- The longest time that can be told: 64 bits of seconds, and the last whole millisecond. -/
def longest : Nat := (Text.word64 - 1) * 1000 + 999

/-- How much longer the wait is before an attempt, counted from zero, than before the first. -/
def factor (attempt : Nat) : Nat :=
  if attempt < 32 then Nat.pow 2 attempt else greatestFactor

/-- The wait before an attempt, counted from zero. -/
def delay (base attempt : Nat) : Nat :=
  min (base * factor attempt) longest

/-- The factor is the power of two, cut off at the greatest factor. -/
theorem factor_eq_min (attempt : Nat)
    : factor attempt = min (Nat.pow 2 attempt) greatestFactor := by
  unfold factor greatestFactor Text.word32
  split
  · next h =>
      have : Nat.pow 2 attempt ≤ Nat.pow 2 31 := Nat.pow_le_pow_right (by decide) (by omega)
      have : Nat.pow 2 31 = 2147483648 := by decide
      omega
  · next h =>
      have : Nat.pow 2 32 ≤ Nat.pow 2 attempt := Nat.pow_le_pow_right (by decide) (by omega)
      have : Nat.pow 2 32 = 4294967296 := by decide
      omega

end LanguageClient.Backoff
