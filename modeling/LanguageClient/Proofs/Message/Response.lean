import LanguageClient.Connection.Basic
import LanguageClient.Proofs.Json.Kind
import LanguageClient.Proofs.Json.Record
import LanguageClient.Proofs.Message.Envelope

/-! A body seen as a response: the request that it answers, and what it says of it. The members of
the envelope alone decide both. An error is one of a server if it tells a code and a text, in either
of the forms in which records are written; any other error is none.
-/

namespace LanguageClient.Message

-----------------------------------------------------------------------------------------
-- Members that are void
-----------------------------------------------------------------------------------------

/-- A member that is not given, or null. -/
def IsVoid (value : Option Json) : Prop :=
  value = none ∨ value = some .null

theorem isVoid_or_given (value : Option Json)
    : IsVoid value ∨ ∃ own, value = some own ∧ own ≠ .null := by
  rcases value with _ | _ | _ <;> simp [IsVoid]

theorem filter_of_isVoid {value : Option Json} (void : IsVoid value)
    : value.filter (! ·.isNull) = none := by
  rcases void with rfl | rfl <;> rfl

theorem filter_of_ne_null {value : Json} (given : value ≠ .null)
    : (some value).filter (! ·.isNull) = some value := by
  cases value with
  | null => exact absurd rfl given
  | _ => rfl

theorem getD_filter (value : Option Json)
    : (value.filter (! ·.isNull)).getD .null = value.getD .null := by
  rcases value with _ | _ | _ <;> rfl

/-- Only void members are left out. -/
theorem filter_eq_none_iff {value : Option Json}
    : value.filter (! ·.isNull) = none ↔ IsVoid value := by
  refine ⟨fun left => ?_, filter_of_isVoid⟩
  rcases isVoid_or_given value with void | ⟨own, rfl, filled⟩
  · exact void
  · rw [filter_of_ne_null filled] at left
    cases left

theorem filter_eq_some_iff {value : Option Json} {own : Json}
    : value.filter (! ·.isNull) = some own ↔ value = some own ∧ own ≠ .null := by
  rw [Option.filter_eq_some_iff]
  cases own <;> simp [Json.isNull]

-----------------------------------------------------------------------------------------
-- Errors of a server
-----------------------------------------------------------------------------------------

/-- The code of a failure is an integer of 64 bits with a sign. -/
def Failure.Fits (failure : Failure) : Prop :=
  -(Text.word63 : Int) ≤ failure.code ∧ failure.code < Text.word63

/-- A text that may be left out is a string where it is given, and empty where it is not. -/
def IsOptionalText (given : Option Json) (text : String) : Prop :=
  given = some (.str text) ∨ given = none ∧ text = ""

/-- The value is an error that tells of the failure: an object with its code and its text, whatever
else the object has, or a list of the code and the text in this order. The text may be left out.
-/
inductive Failure.IsWritten (failure : Failure) : Json → Prop
  | named {members} (coded : Json.lookup? "code" members = some (.int failure.code))
    (worded : IsOptionalText (Json.lookup? "message" members) failure.text) (fits : failure.Fits)
    : failure.IsWritten (.obj members)
  | listed {text : Option Json} (worded : IsOptionalText text failure.text) (fits : failure.Fits)
    : failure.IsWritten (.arr (.int failure.code :: text.toList))

/-- The error of a response is read exactly where it tells of a failure. -/
theorem Failure.ofJson?_eq_some_iff {value : Json} {failure : Failure}
    : ofJson? value = some failure ↔ failure.IsWritten value := by
  simp only [ofJson?, Json.Record.required, Option.bind_eq_bind, Option.bind_eq_some_iff,
    Json.i64?_eq_some_iff, Json.Record.withDefault_eq_some_iff, Json.string?_eq_some_iff,
    exists_eq_right, Option.pure_def, Option.some_inj]
  constructor
  · rintro ⟨record, seen, code, ⟨_, coded, rfl, fits⟩, text, worded, rfl⟩
    have fields := (@Json.exists_record_iff _ "message" value _ _).mp ⟨record, seen, coded, rfl⟩
    rcases fields with ⟨members, rfl, coded, same⟩ | rfl
    · exact .named coded (same ▸ worded) fits
    · exact .listed worded fits
  · rintro (⟨coded, worded, fits⟩ | ⟨worded, fits⟩)
    · obtain ⟨record, seen, coded, same⟩ := Json.exists_record_iff.mpr (.inl ⟨_, rfl, coded, rfl⟩)
      exact ⟨record, seen, _, ⟨_, coded, rfl, fits⟩, _, same ▸ worded, rfl⟩
    · obtain ⟨record, seen, coded, same⟩ := Json.exists_record_iff.mpr (.inr rfl)
      exact ⟨record, seen, _, ⟨_, coded, rfl, fits⟩, _, same ▸ worded, rfl⟩

instance (failure : Failure) (value : Json) : Decidable (failure.IsWritten value) :=
  decidable_of_iff _ Failure.ofJson?_eq_some_iff

theorem Failure.IsWritten.ne_null {value : Json} {failure : Failure}
    (written : failure.IsWritten value)
    : value ≠ .null := by
  cases written <;> exact Json.noConfusion

/-- The code and the text that a value tells, as far as it tells them. -/
def Failure.glimpsed (value : Json) : Failure where
  code :=
    match value.field? 0 "code" with
    | some (.num (.integer code)) => code
    | _ => 0
  text :=
    match value.field? 1 "message" with
    | some (.str text) => text
    | _ => ""

/-- A value tells of one failure at most. -/
theorem Failure.IsWritten.glimpsed_eq {value : Json} {failure : Failure}
    (written : failure.IsWritten value)
    : glimpsed value = failure := by
  obtain ⟨code, text⟩ := failure
  rcases written with ⟨coded, worded, -⟩ | @⟨given, worded, -⟩
  · rcases worded with worded | ⟨worded, rfl⟩ <;>
      simp [glimpsed, Json.field?, coded, worded, Json.int]
  · rcases worded with rfl | ⟨rfl, rfl⟩ <;> rfl

/-- What an error tells: the failure, or that the error is none. -/
def toldBy (error : Json) : ClientError :=
  -- Something can be glimpsed of any value: of a text that is a number, or of a list of three.
  if (Failure.glimpsed error).IsWritten error then
    .serverError (Failure.glimpsed error).code (Failure.glimpsed error).text
  else .json

theorem toldBy_of_isWritten {error : Json} {failure : Failure}
    (written : failure.IsWritten error)
    : toldBy error = .serverError failure.code failure.text := by
  obtain rfl := written.glimpsed_eq
  exact if_pos written

theorem toldBy_of_not_isWritten {error : Json}
    (strange : ∀ failure : Failure, ¬ failure.IsWritten error)
    : toldBy error = .json :=
  if_neg (strange _)

-----------------------------------------------------------------------------------------
-- What a response says
-----------------------------------------------------------------------------------------

/-- What a response says of its request: the result, null where it has none, or what its error
tells.
-/
def verdict (value : Member → Option Json) : Except ClientError Json :=
  match value .error with
  | none | some .null => .ok ((value .result).getD .null)
  | some error => .error (toldBy error)

/-- An envelope reports this of its request: the result, null where it has none, if it has no error;
the failure that its error tells of; or that its error is none.
-/
inductive Reports (value : Member → Option Json) : Except ClientError Json → Prop
  | result (sound : IsVoid (value .error)) : Reports value (.ok ((value .result).getD .null))
  | failed {error} {failure : Failure} (given : value .error = some error)
    (written : failure.IsWritten error)
    : Reports value (.error (.serverError failure.code failure.text))
  | malformed {error} (given : value .error = some error) (filled : error ≠ .null)
    (strange : ∀ failure : Failure, ¬ failure.IsWritten error)
    : Reports value (.error .json)

theorem verdict_of_void {value : Member → Option Json} (sound : IsVoid (value .error))
    : verdict value = .ok ((value .result).getD .null) := by
  rcases sound with sound | sound <;> rw [verdict, sound]

theorem verdict_of_error {value : Member → Option Json} {error : Json}
    (given : value .error = some error) (filled : error ≠ .null)
    : verdict value = .error (toldBy error) := by
  rw [verdict, given]
  cases error with
  | null => exact absurd rfl filled
  | _ => rfl

/-- An envelope reports one thing, its verdict. -/
theorem reports_iff {value : Member → Option Json} {result : Except ClientError Json}
    : Reports value result ↔ verdict value = result := by
  constructor
  · intro reported
    cases reported with
    | result sound => exact verdict_of_void sound
    | failed given written =>
        rw [verdict_of_error given written.ne_null, toldBy_of_isWritten written]
    | malformed given filled strange =>
        rw [verdict_of_error given filled, toldBy_of_not_isWritten strange]
  · rintro rfl
    rcases isVoid_or_given (value .error) with sound | ⟨error, given, filled⟩
    · rw [verdict_of_void sound]
      exact .result sound
    · rw [verdict_of_error given filled]
      by_cases known : ∃ failure : Failure, failure.IsWritten error
      · obtain ⟨failure, written⟩ := known
        rw [toldBy_of_isWritten written]
        exact .failed given written
      · have strange := not_exists.mp known
        rw [toldBy_of_not_isWritten strange]
        exact .malformed given filled strange

/-- What an envelope reports of its request is what the outcome read of it tells. -/
theorem resultOf_outcome {given : List (Member × Json)} {value : Member → Option Json}
    (found : ∀ member, given.lookup member = value member)
    : Connection.resultOf (outcome given) = verdict value := by
  unfold outcome
  cases present : present? given .error with
  | none =>
      rw [present?, found] at present
      rw [verdict_of_void (filter_eq_none_iff.mp present), ← found]
      exact congrArg Except.ok (getD_filter _)
  | some error =>
      rw [present?, found] at present
      obtain ⟨reported, filled⟩ := filter_eq_some_iff.mp present
      rw [verdict_of_error reported filled]
      cases read : Failure.ofJson? error with
      | some failure =>
          rw [toldBy_of_isWritten (Failure.ofJson?_eq_some_iff.mp read)]
          simp only [read, Connection.resultOf]
      | none =>
          have strange (failure : Failure) : ¬ failure.IsWritten error := fun written => by
            rw [Failure.ofJson?_eq_some_iff.mpr written] at read
            cases read
          rw [toldBy_of_not_isWritten strange]
          simp only [read, Connection.resultOf]

-----------------------------------------------------------------------------------------
-- Bodies that answer a request
-----------------------------------------------------------------------------------------

/-- The id of a request that a body answers, and what it reports of that request. An envelope with a
method answers nothing, and neither does one without an id of 32 bits.
-/
def responseIn? (body : Bytes) : Option (Nat × Except ClientError Json) :=
  ((Json.Raw.ofBytes? body).bind members?).bind fun given =>
    if (present? given .method).isNone then
      ((present? given .id).bind Json.u32?).map fun id => (id, verdict (given.lookup ·))
    else none

/-- A body answers a request: it gives an envelope without a method and with the id of the request,
which is of 32 bits.
-/
inductive Answers (body : Bytes) (id : Nat) (result : Except ClientError Json) : Prop
  | intro {value} (given : Gives body value) (nameless : IsVoid (value .method))
    (identified : value .id = some (.nat id)) (fits : id < Text.word32)
    (reported : Reports value result)
    : Answers body id result

/-- A body answers a request exactly when it reads as a response with an id of 32 bits. -/
theorem responseIn?_eq_some_iff {body : Bytes} {id : Nat} {result : Except ClientError Json}
    : responseIn? body = some (id, result)
      ↔ ∃ given outcome,
          Incoming.ofBytes? body = some (.response given outcome)
          ∧ given.bind Json.u32? = some id
          ∧ Connection.resultOf outcome = result := by
  unfold responseIn? Incoming.ofBytes?
  cases (Json.Raw.ofBytes? body).bind members? with
  | none => simp
  | some given =>
      simp only [Option.bind_some, ofMembers?]
      cases present? given .method with
      | some method => cases method <;> cases present? given .id <;> simp
      | none =>
          cases present? given .id with
          | none => simp
          | some named =>
              have reported := resultOf_outcome (fun member => Eq.refl (given.lookup member))
              simp only [Option.isNone_none, if_true, Option.bind_some, Option.map_eq_some_iff,
                Prod.mk.injEq, Option.some.injEq, Incoming.response.injEq, ← reported]
              constructor
              · rintro ⟨_, hid, rfl, rfl⟩
                exact ⟨some named, outcome given, ⟨rfl, rfl⟩, hid, rfl⟩
              · rintro ⟨_, _, ⟨rfl, rfl⟩, hid, rfl⟩
                exact ⟨id, hid, rfl, rfl⟩

/-- The response in a body is the answer that the body gives. -/
theorem responseIn?_eq_some_iff_answers {body : Bytes} {id : Nat}
    {result : Except ClientError Json}
    : responseIn? body = some (id, result) ↔ Answers body id result := by
  simp only [responseIn?, Option.bind_eq_some_iff, Option.ite_none_right_eq_some]
  simp only [Option.map_eq_some_iff, Option.isNone_iff_eq_none, Option.bind_eq_some_iff, present?,
    Prod.mk.injEq, Json.u32?, Json.natBelow?_eq_some_iff, filter_eq_none_iff, filter_eq_some_iff]
  constructor
  · rintro ⟨given, ⟨raw, piece, read⟩, nameless, _, ⟨_, ⟨identified, -⟩, rfl, fits⟩, rfl, rfl⟩
    have gives := gives_iff.mpr ⟨given, by rw [piece, Option.bind_some, read], fun _ => rfl⟩
    exact ⟨gives, nameless, identified, fits, reports_iff.mpr rfl⟩
  · rintro ⟨gives, nameless, identified, fits, reported⟩
    obtain ⟨given, read, found⟩ := gives_iff.mp gives
    obtain rfl := funext found
    obtain ⟨raw, piece, read⟩ := Option.bind_eq_some_iff.mp read
    exact ⟨given, ⟨raw, piece, read⟩, nameless, id,
      ⟨_, ⟨identified, Json.noConfusion⟩, rfl, fits⟩, rfl, reports_iff.mp reported⟩

end LanguageClient.Message
