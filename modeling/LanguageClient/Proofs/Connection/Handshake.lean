import LanguageClient.Proofs.Connection.Traffic
import LanguageClient.Proofs.Transport.Mortal

/-! The order of messages in a session: the session is opened and the server told so, then there is
work, then the session is closed and left. The journal of a session is followed stage by stage, and
the phase of its connection never runs ahead of the stage.
-/

namespace LanguageClient

-----------------------------------------------------------------------------------------
-- Messages as letters
-----------------------------------------------------------------------------------------

/-- What a message is for in a session. -/
inductive Letter where
  | opening
  | opened
  | work
  | closing
  | leaving
  | foreign
deriving DecidableEq, Repr

/-- What a message with this method is for. -/
def Letter.ofMethod (method : String) : Letter :=
  if method = "initialize" then .opening
  else if method = "initialized" then .opened
  else if method = "shutdown" then .closing
  else if method = "exit" then .leaving
  else if method ∈ documentMethods ++ questionMethods then .work
  else .foreign

/-- Notifications and questions about documents are work. -/
theorem ofMethod_of_mem {method : String} (work : method ∈ documentMethods ++ questionMethods)
    : Letter.ofMethod method = .work := by
  have all : ∀ method ∈ documentMethods ++ questionMethods, Letter.ofMethod method = .work := by
    decide
  exact all method work

/-- What a message is for. Replies are for nothing. -/
def Message.letter? (message : Json) : Option Letter :=
  (Message.method? message).map Letter.ofMethod

/-- The letter of something that passed, if it is a message but no reply. -/
def Traffic.letter? : Traffic → Option Letter
  | .sent message => Message.letter? message
  | .received _ => none

/-- The messages of a session, less the replies. -/
def Journal.letters (journal : Journal) : List Letter :=
  journal.filterMap Traffic.letter?

/-- The messages of a whole session with so much work. -/
def sessionWord (work : Nat) : List Letter :=
  [.opening, .opened] ++ List.replicate work .work ++ [.closing, .leaving]

/-- A session was asked for, and a response to that very request says that it is open. -/
def Journal.Granted (journal : Journal) : Prop :=
  ∃ first id params middle body value last,
    journal
      = first ++ .sent (Message.request id "initialize" (some params))
        :: (middle ++ .received body :: last)
    ∧ Message.responseIn? body = some (id, .ok value)

/-- The order of a session: its messages are the first of those of a whole session, and the server is
told that the session is open only after it was granted.
-/
def Journal.InOrder (journal : Journal) : Prop :=
  (∃ work, Journal.letters journal <+: sessionWord work)
  ∧ ∀ before message after, journal = before ++ .sent message :: after →
      Message.letter? message = some .opened → Journal.Granted before

-----------------------------------------------------------------------------------------
-- Following a session
-----------------------------------------------------------------------------------------

/-- How far a session has come. -/
inductive Stage where
  | silent
  | asked (id : Nat)
  | granted
  | opened
  | closing
  | left

/-- A session has come to a stage. Replies and bodies that arrive change nothing, except for the
response that grants the session.
-/
inductive Follows : Journal → Stage → Prop
  | silent : Follows [] .silent
  | asked {journal id params} (before : Follows journal .silent)
    : Follows (journal ++ [.sent (Message.request id "initialize" (some params))]) (.asked id)
  | granted {journal id body value} (before : Follows journal (.asked id))
    (response : Message.responseIn? body = some (id, .ok value))
    : Follows (journal ++ [.received body]) .granted
  | opened {journal message} (before : Follows journal .granted)
    (letter : Message.letter? message = some .opened)
    : Follows (journal ++ [.sent message]) .opened
  | worked {journal message} (before : Follows journal .opened)
    (letter : Message.letter? message = some .work)
    : Follows (journal ++ [.sent message]) .opened
  | closing {journal message} (before : Follows journal .opened)
    (letter : Message.letter? message = some .closing)
    : Follows (journal ++ [.sent message]) .closing
  | left {journal message} (before : Follows journal .closing)
    (letter : Message.letter? message = some .leaving)
    : Follows (journal ++ [.sent message]) .left
  | replied {journal stage message} (before : Follows journal stage)
    (reply : Message.letter? message = none)
    : Follows (journal ++ [.sent message]) stage
  | heard {journal stage body} (before : Follows journal stage)
    : Follows (journal ++ [.received body]) stage

/-- The messages with which a session can have come to a stage. -/
def Stage.Word : Stage → List Letter → Prop
  | .silent, letters => letters = []
  | .asked _, letters | .granted, letters => letters = [.opening]
  | .opened, letters => ∃ work, letters = [.opening, .opened] ++ List.replicate work .work
  | .closing, letters =>
      ∃ work, letters = [.opening, .opened] ++ List.replicate work .work ++ [.closing]
  | .left, letters => ∃ work, letters = sessionWord work

theorem letters_concat (journal : Journal) (traffic : Traffic)
    : Journal.letters (journal ++ [traffic])
      = Journal.letters journal ++ traffic.letter?.toList := by
  rw [Journal.letters, List.filterMap_append]
  cases letter : traffic.letter? <;> simp [Journal.letters, letter]

theorem letter?_opening (id : Nat) (params : Option Json)
    : Message.letter? (Message.request id "initialize" params) = some .opening := by
  simp [Message.letter?, Letter.ofMethod]

/-- The messages of a session are those of its stage. Induction on how it got there. -/
theorem Follows.word {journal : Journal} {stage : Stage} (follows : Follows journal stage)
    : stage.Word (Journal.letters journal) := by
  induction follows with
  | silent => rfl
  | asked _ ih =>
      have nothing : Journal.letters _ = [] := ih
      simp [letters_concat, Traffic.letter?, letter?_opening, nothing, Stage.Word]
  | granted _ _ ih =>
      have one : Journal.letters _ = [.opening] := ih
      simp [letters_concat, Traffic.letter?, one, Stage.Word]
  | opened _ letter ih =>
      rw [letters_concat, ih, Traffic.letter?, letter]
      exact ⟨0, rfl⟩
  | worked _ letter ih =>
      obtain ⟨work, same⟩ := ih
      rw [letters_concat, same, Traffic.letter?, letter]
      exact ⟨work + 1, by simp [List.replicate_succ']⟩
  | closing _ letter ih =>
      obtain ⟨work, same⟩ := ih
      rw [letters_concat, same, Traffic.letter?, letter]
      exact ⟨work, rfl⟩
  | left _ letter ih =>
      obtain ⟨work, same⟩ := ih
      rw [letters_concat, same, Traffic.letter?, letter]
      exact ⟨work, by simp [sessionWord]⟩
  | replied _ reply ih => simpa [letters_concat, Traffic.letter?, reply] using ih
  | heard _ ih => simpa [letters_concat, Traffic.letter?] using ih

/-- At any stage, the messages are the first of a whole session. -/
theorem Stage.Word.isPrefix {stage : Stage} {letters : List Letter} (word : stage.Word letters)
    : ∃ work, letters <+: sessionWord work := by
  cases stage with
  | silent => exact ⟨0, [_, _, _, _], by rw [word]; rfl⟩
  | asked | granted => exact ⟨0, [_, _, _], by rw [word]; rfl⟩
  | opened =>
      obtain ⟨work, rfl⟩ := word
      exact ⟨work, [.closing, .leaving], rfl⟩
  | closing =>
      obtain ⟨work, rfl⟩ := word
      exact ⟨work, [.leaving], by simp [sessionWord]⟩
  | left =>
      obtain ⟨work, rfl⟩ := word
      exact ⟨work, List.prefix_rfl⟩

/-- What is sent in a longer journal was sent before, or is what made it longer. -/
theorem split_concat {journal before after : Journal} {traffic : Traffic} {message : Json}
    (split : journal ++ [traffic] = before ++ .sent message :: after)
    : (traffic = .sent message ∧ journal = before)
      ∨ ∃ rest, journal = before ++ .sent message :: rest := by
  rcases List.eq_nil_or_concat after with rfl | ⟨rest, last, rfl⟩
  · obtain ⟨same, last⟩ := List.append_inj' split rfl
    exact .inl ⟨List.head_eq_of_cons_eq last, same⟩
  · have split : journal ++ [traffic] = (before ++ .sent message :: rest) ++ [last] := by
      simpa using split
    exact .inr ⟨rest, (List.append_inj' split rfl).1⟩

theorem Follows.asks {journal : Journal} {id : Nat} (follows : Follows journal (.asked id))
    : ∃ first params rest,
        journal = first ++ .sent (Message.request id "initialize" (some params)) :: rest := by
  generalize reached : Stage.asked id = stage at follows
  induction follows with
  | asked => cases reached; exact ⟨_, _, [], rfl⟩
  | replied _ _ ih | heard _ ih =>
      obtain ⟨first, params, rest, rfl⟩ := ih reached
      exact ⟨first, params, rest ++ [_], List.append_assoc _ _ _⟩
  | silent | granted | opened | worked | closing | left => cases reached

/-- What was granted stays so. -/
theorem Journal.Granted.concat {journal : Journal} (granted : Journal.Granted journal)
    (traffic : Traffic)
    : Journal.Granted (journal ++ [traffic]) := by
  obtain ⟨first, id, params, middle, body, value, last, rfl, response⟩ := granted
  exact ⟨first, id, params, middle, body, value, last ++ [traffic], by simp, response⟩

theorem Follows.grants {journal : Journal} (follows : Follows journal .granted)
    : Journal.Granted journal := by
  generalize reached : Stage.granted = stage at follows
  induction follows with
  | granted before response =>
      obtain ⟨first, params, rest, rfl⟩ := before.asks
      exact ⟨first, _, params, rest, _, _, [], by simp, response⟩
  | replied _ _ ih | heard _ ih => exact (ih reached).concat _
  | silent | asked | opened | worked | closing | left => cases reached

/-- A session that is followed is in order. Induction on how it got to its stage. -/
theorem Follows.inOrder {journal : Journal} {stage : Stage} (follows : Follows journal stage)
    : Journal.InOrder journal := by
  refine ⟨follows.word.isPrefix, ?_⟩
  induction follows with
  | silent => intro before message after split; simp at split
  | asked _ ih =>
      intro before message after split letter
      rcases split_concat split with ⟨same, _⟩ | ⟨rest, split⟩
      · cases same
        simp [letter?_opening] at letter
      · exact ih before message rest split letter
  | opened granted _ ih =>
      intro before message after split letter
      rcases split_concat split with ⟨_, rfl⟩ | ⟨rest, split⟩
      · exact granted.grants
      · exact ih before message rest split letter
  | worked _ other ih | closing _ other ih | left _ other ih | replied _ other ih =>
      intro before message after split letter
      rcases split_concat split with ⟨same, _⟩ | ⟨rest, split⟩
      · cases same
        simp [other] at letter
      · exact ih before message rest split letter
  | granted _ _ ih | heard _ ih =>
      intro before message after split letter
      rcases split_concat split with ⟨same, _⟩ | ⟨rest, split⟩
      · cases same
      · exact ih before message rest split letter

-----------------------------------------------------------------------------------------
-- The phase of a connection
-----------------------------------------------------------------------------------------

namespace Connection

variable {τ κ : Type} [SupervisedTransport τ]

/-- The phase of a connection at each stage of its session. A session that was granted counts as open
where the server could not be told so; then nothing can be sent any more.
-/
inductive Fits (connection : Connection (Recorder τ) κ) : Stage → Prop
  | silent (closed : connection.phase = .uninitialized) : Fits connection .silent
  | refused {id} (closed : connection.phase = .uninitialized) : Fits connection (.asked id)
  | asked {id} (opening : connection.phase = .initializing)
    (awaited : ∀ other, connection.openingId = some other → other = id)
    : Fits connection (.asked id)
  | mute (ready : connection.phase = .initialized) (dead : Transport.IsDead connection.transport)
    : Fits connection .granted
  | opened (ready : connection.phase = .initialized) : Fits connection .opened
  | closing (closing : connection.phase = .shuttingDown) : Fits connection .closing
  | unheard (ended : connection.phase = .exited) : Fits connection .closing
  | left (ended : connection.phase = .exited) : Fits connection .left

/-- The session of a connection is at a stage that its phase fits. -/
def Handshake (connection : Connection (Recorder τ) κ) : Prop :=
  ∃ stage, Follows connection.transport.journal stage ∧ connection.Fits stage

variable {connection after : Connection (Recorder τ) κ}

/-- What is no message of the session keeps the phase fitting. -/
theorem Handshake.keep (handshake : connection.Handshake)
    (follows
      : ∀ stage, Follows connection.transport.journal stage → Follows after.transport.journal stage)
    (phase : after.phase = connection.phase)
    (openingId : ∀ id, after.openingId = some id → connection.openingId = some id)
    (dead : Transport.IsDead connection.transport → Transport.IsDead after.transport)
    : after.Handshake := by
  obtain ⟨stage, followed, fits⟩ := handshake
  refine ⟨stage, follows stage followed, ?_⟩
  cases fits with
  | silent closed => exact .silent (phase.trans closed)
  | refused closed => exact .refused (phase.trans closed)
  | asked opening awaited =>
      exact .asked (phase.trans opening) fun other known => awaited other (openingId other known)
  | mute ready isDead => exact .mute (phase.trans ready) (dead isDead)
  | opened ready => exact .opened (phase.trans ready)
  | closing closing => exact .closing (phase.trans closing)
  | unheard ended => exact .unheard (phase.trans ended)
  | left ended => exact .left (phase.trans ended)

/-- A receipt is no message. -/
theorem follows_receive {recorder received : Recorder τ}
    {result : Except ClientError (Option Bytes)}
    (done : Transport.receive recorder = (received, result)) {stage : Stage}
    (follows : Follows recorder.journal stage)
    : Follows received.journal stage := by
  rcases result with error | _ | body
  · rw [(Recorder.receive_of_none done (by simp)).1]
    exact follows
  · rw [(Recorder.receive_of_none done (by simp)).1]
    exact follows
  · rw [(Recorder.receive_of_some done).1]
    exact .heard follows

/-- A message that is refused leaves no trace, and one that is taken comes next. -/
theorem follows_send {recorder sent : Recorder τ} {message : Json}
    {result : Except ClientError Unit} (done : Transport.send recorder message = (sent, result))
    {stage : Stage} (follows : Follows recorder.journal stage)
    (next : Follows (recorder.journal ++ [.sent message]) stage)
    : Follows sent.journal stage := by
  rcases result with error | _
  · rw [(Recorder.send_of_error done).1]
    exact follows
  · rw [(Recorder.send_of_ok done).1]
    exact next

variable [MortalTransport τ]

/-- The response to the request that opens the session: the server is told that the session is open,
unless the transport is dead by then.
-/
theorem OpeningFinished.handshake {result : Except ClientError Json} {body : Bytes} {id : Nat}
    {journal : Journal} (finished : OpeningFinished connection result after)
    (heard : connection.transport.journal = journal ++ [.received body])
    (response : Message.responseIn? body = some (id, result))
    (follows : Follows journal (.asked id)) (opening : connection.phase = .initializing)
    : after.Handshake := by
  cases finished with
  | @opened value transport sentResult _ sent =>
      have granted : Follows connection.transport.journal .granted := by
        rw [heard]
        exact .granted follows response
      rcases sentResult with error | _
      · refine ⟨.granted, ?_, .mute rfl (Transport.isDead_of_send sent)⟩
        rw [(Recorder.send_of_error sent).1]
        exact granted
      · refine ⟨.opened, ?_, .opened rfl⟩
        rw [(Recorder.send_of_ok sent).1]
        exact .opened granted (by simp [Message.letter?, Letter.ofMethod])
  | failed =>
      refine ⟨.asked id, ?_, .refused rfl⟩
      rw [heard]
      exact .heard follows
  | late other => exact absurd opening other

theorem Handshake.poll (handshake : connection.Handshake) : connection.poll.1.Handshake := by
  obtain ⟨after, result, written, polled⟩ := connection.poll_cases
  rw [written]
  cases polled with
  | idle received | spoiled received | lost received | illegible received | unmatched received
  | answered received =>
      exact handshake.keep (fun _ => follows_receive received) rfl
        (by simp [failPending, answer]) (fun dead => dead.receive received)
  | noticed received =>
      exact handshake.keep (fun _ follows => by simpa using follows_receive received follows)
        (by simp) (by simp) (fun dead => by simpa using dead.receive received)
  | replied received _ sent =>
      refine handshake.keep (fun stage follows => ?_) rfl (fun _ known => known)
        (fun dead => ((dead.receive received).send sent).1)
      have heard := follows_receive received follows
      exact follows_send sent heard (.replied heard (by simp [Message.letter?]))
  | @openingAnswered _ _ _ _ ticket finished received read _ asked opened =>
      by_cases opening : connection.phase = .initializing
      · obtain ⟨stage, follows, fits⟩ := handshake
        cases fits with
        | asked _ awaited =>
            rw [← awaited _ asked] at follows
            have heard := (Recorder.receive_of_some received).1
            have kept := opened.handshake heard read follows opening
            exact kept.keep (fun _ follows => follows) rfl (fun _ known => known) (fun dead => dead)
        | silent other | refused other | mute other | opened other | closing other | unheard other
        | left other => simp [opening] at other
      · cases opened with
        | opened other | failed other => exact absurd other opening
        | late =>
            exact handshake.keep (fun _ => follows_receive received) rfl (by simp [answer])
              (fun dead => dead.receive received)

omit [MortalTransport τ] in
/-- Before its first session is opened, nothing passes over a connection. -/
theorem handshake_of_silent (silent : connection.transport.journal = [])
    (closed : connection.phase = .uninitialized)
    : connection.Handshake :=
  ⟨.silent, by rw [silent]; exact .silent, .silent closed⟩

omit [MortalTransport τ] in
/-- The first message of a session is the one that opens it. -/
theorem Handshake.openSession {params : Json} {ticket : κ}
    (silent : connection.transport.journal = []) (closed : connection.phase = .uninitialized)
    : (connection.openSession params ticket).1.Handshake := by
  obtain ⟨after, result, written, opened⟩ := connection.openSession_cases params ticket
  rw [written]
  cases opened with
  | refused begun => exact absurd closed begun
  | unsent _ requested =>
      cases requested with
      | refused ended => simp [closed] at ended
      | unsent _ sent =>
          refine handshake_of_silent ?_ closed
          rw [(Recorder.send_of_error sent).1]
          exact silent
  | sent _ requested =>
      cases requested with
      | sent _ sent =>
          refine ⟨.asked connection.freshId, ?_, .asked rfl fun _ known => ?_⟩
          · rw [(Recorder.send_of_ok sent).1, silent]
            exact .asked .silent
          · exact (Option.some.inj known).symm

/-- Work is sent while the session is open, and then by a transport that took the message before it.
-/
theorem Handshake.work {message : Json} {transport : Recorder τ} {result : Except ClientError Unit}
    (handshake : connection.Handshake) (ready : connection.phase = .initialized)
    (letter : Message.letter? message = some .work)
    (sent : Transport.send connection.transport message = (transport, result))
    (phase : after.phase = connection.phase) (same : after.transport = transport)
    : after.Handshake := by
  obtain ⟨stage, follows, fits⟩ := handshake
  rw [ready] at phase
  cases fits with
  | opened =>
      refine ⟨.opened, ?_, .opened phase⟩
      rw [same]
      exact follows_send sent follows (.worked follows letter)
  | mute _ dead =>
      obtain ⟨still, refused⟩ := dead.send sent
      refine ⟨.granted, ?_, .mute phase (same ▸ still)⟩
      rcases result with error | _
      · rw [same, (Recorder.send_of_error sent).1]
        exact follows
      · exact absurd rfl refused
  | silent other | refused other | asked other | closing other | unheard other | left other =>
      simp [ready] at other

theorem Handshake.ask {uri : String} {question : Question} {ticket : κ}
    (handshake : connection.Handshake)
    : (connection.ask uri question ticket).1.Handshake := by
  obtain ⟨after, result, written, asked⟩ := connection.ask_cases uri question ticket
  rw [written]
  have work : Letter.ofMethod question.method = .work :=
    ofMethod_of_mem (List.mem_append_right _ question.method_mem)
  have letter (id : Nat) (params : Option Json)
      : Message.letter? (Message.request id question.method params) = some .work := by
    simp [Message.letter?, work]
  cases asked with
  | unready => exact handshake
  | requested ready requested =>
      cases requested with
      | refused => exact handshake
      | unsent _ sent | sent _ sent => exact handshake.work ready (letter _ _) sent rfl rfl

theorem Handshake.sync {documents : Documents}
    {step : Documents → Except ClientError (Documents × DocumentNotice)}
    (handshake : connection.Handshake)
    (steps
      : ∀ stepped notice, step documents = .ok (stepped, notice) →
          documents.Step stepped notice)
    : (connection.sync documents step).1.Handshake := by
  obtain ⟨after, synced, result, written, cases⟩ := connection.sync_cases documents step
  rw [written]
  have letter {stepped notice} (legal : step documents = .ok (stepped, notice))
      : Message.letter? (Message.notification notice.method (some notice.params)) = some .work := by
    simp [Message.letter?, ofMethod_of_mem (List.mem_append_left _ (steps _ _ legal).method_mem)]
  cases cases with
  | unready | illegal => exact handshake
  | unsent ready legal sent | sent ready legal sent =>
      exact handshake.work ready (letter legal) sent rfl rfl

/-- Closing the session is its last request. -/
theorem Handshake.shutdown {ticket : κ} (handshake : connection.Handshake)
    : (connection.shutdown ticket).1.Handshake := by
  obtain ⟨after, result, written, closed⟩ := connection.shutdown_cases ticket
  rw [written]
  have letter (id : Nat) : Message.letter? (Message.request id "shutdown" none) = some .closing := by
    simp [Message.letter?, Letter.ofMethod]
  cases closed with
  | refused => exact handshake
  | unsent ready requested =>
      cases requested with
      | refused => exact handshake
      | unsent _ sent =>
          refine handshake.keep (fun _ follows => ?_) rfl (fun _ known => known)
            (fun dead => (dead.send sent).1)
          rw [(Recorder.send_of_error sent).1]
          exact follows
  | sent ready requested =>
      cases requested with
      | sent _ sent =>
          obtain ⟨stage, follows, fits⟩ := handshake
          cases fits with
          | opened =>
              refine ⟨.closing, ?_, .closing rfl⟩
              rw [(Recorder.send_of_ok sent).1]
              exact .closing follows (letter _)
          | mute _ dead => exact absurd rfl (dead.send sent).2
          | silent other | refused other | asked other | closing other | unheard other
          | left other => simp [ready] at other

omit [MortalTransport τ] in
/-- Leaving is the last message of all. -/
theorem Handshake.exit (handshake : connection.Handshake) : connection.exit.1.Handshake := by
  obtain ⟨after, result, written, ended⟩ := connection.exit_cases
  rw [written]
  have letter : Message.letter? (Message.notification "exit" none) = some .leaving := by
    simp [Message.letter?, Letter.ofMethod]
  cases ended with
  | refused => exact handshake
  | @ended transport result closing sent =>
      obtain ⟨stage, follows, fits⟩ := handshake
      cases fits with
      | closing =>
          rcases result with error | _
          · refine ⟨.closing, ?_, .unheard rfl⟩
            simp only [failPending, (Recorder.send_of_error sent).1]
            exact follows
          · refine ⟨.left, ?_, .left rfl⟩
            simp only [failPending, (Recorder.send_of_ok sent).1]
            exact .left follows letter
      | silent other | refused other | asked other | mute other | opened other | unheard other
      | left other => simp [closing] at other

end Connection

namespace Workspace

variable {τ κ : Type} [SupervisedTransport τ] [MortalTransport τ]
variable {connection : Connection (Recorder τ) (Purpose κ)}

/-- Waiting for an answer keeps the handshake. Induction on how often it is looked for. -/
theorem awaitAnswer_handshake (handshake : connection.Handshake) (id count : Nat)
    : (awaitAnswer id connection count).Handshake := by
  induction count generalizing connection with
  | zero => exact handshake
  | succ count ih =>
      rw [awaitAnswer]
      split
      · have polled := handshake.poll
        split
        · next connection' _ same => exact ih (by rwa [same] at polled)
        · next connection' error same =>
            rw [same] at polled
            split
            · exact polled
            · exact ih polled
      · exact handshake

theorem closeSession_handshake (handshake : connection.Handshake) (patience : Recorder τ → Nat)
    : (closeSession patience connection).Handshake := by
  rw [closeSession]
  split
  · have closed : (connection.shutdown .session).1.Handshake := handshake.shutdown
    split
    · next same =>
        rw [same] at closed
        exact (awaitAnswer_handshake closed _ _).exit
    · next same =>
        rwa [same] at closed
  · exact handshake

end Workspace

end LanguageClient
