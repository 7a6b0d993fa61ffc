import LanguageClient.Transport

/-! What can become of a transport by use alone: it sends some messages and receives some bodies. -/

namespace LanguageClient

/-- A transport was used to receive, and to send messages of one kind. -/
inductive Transport.Used {τ : Type} [Transport τ] (kind : Json → Prop) : τ → τ → Prop
  | unused {transport} : Used kind transport transport
  | sent {transport middle last message result} (before : Used kind transport middle)
    (fits : kind message) (sent : Transport.send middle message = (last, result))
    : Used kind transport last
  | received {transport middle last result} (before : Used kind transport middle)
    (received : Transport.receive middle = (last, result))
    : Used kind transport last

namespace Transport.Used

variable {τ : Type} [Transport τ] {kind : Json → Prop} {first second third : τ}

/-- Use after use is use. -/
theorem trans (one : Used kind first second) (two : Used kind second third)
    : Used kind first third := by
  induction two with
  | unused => exact one
  | sent _ fits sent ih => exact .sent ih fits sent
  | received _ received ih => exact .received ih received

/-- What holds of a transport and is kept whenever it sends or receives holds after its use. -/
theorem induct {P : τ → Prop} (used : Used kind first second)
    (send
      : ∀ transport message, kind message → P transport →
          P (Transport.send transport message).1)
    (receive : ∀ transport, P transport → P (Transport.receive transport).1)
    (start : P first)
    : P second := by
  induction used with
  | unused => exact start
  | sent _ fits sent ih =>
      have kept := send _ _ fits ih
      rwa [sent] at kept
  | received _ received ih =>
      have kept := receive _ ih
      rwa [received] at kept

end Transport.Used

end LanguageClient
