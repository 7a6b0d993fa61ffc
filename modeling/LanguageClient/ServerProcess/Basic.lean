import LanguageClient.Backoff
import LanguageClient.Frame
import LanguageClient.Json.Printer
import LanguageClient.Machine.Basic
import LanguageClient.ServerProcess.Settings
import LanguageClient.Transport

/-!
The process of a server on a machine. Messages are framed on their way to the program and read off
what it writes; its complaints are kept in a file, each session between two marks.
-/

namespace LanguageClient

/-- A program that was started. -/
structure Session where
  program : Machine.Program
  /-- What the program has been given. -/
  given : Bytes
  /-- How much of what the program wrote has been read. -/
  taken : Nat
  /-- What was read shows that the program is at work, or has ended. -/
  heard : Bool
  /-- Where complaints are kept. -/
  log : Option Machine.Place
  /-- How much of the complaints is kept. -/
  logged : Nat
  /-- The end of the session is marked. -/
  marked : Bool

/-- The process of a server. -/
structure ServerProcess where
  settings : ProcessSettings
  machine : Machine
  session : Option Session
  restarts : Nat
  /-- The time spent waiting before restarts, in milliseconds. -/
  waited : Nat

namespace ServerProcess

/-- A process that was not started yet. -/
def fresh (machine : Machine) (settings : ProcessSettings) : ServerProcess :=
  { settings, machine, session := none, restarts := 0, waited := 0 }

/-- Whether the process was started and not stopped since. -/
def isRunning (process : ServerProcess) : Bool :=
  process.session.isSome

/-- The mark where a session starts or ends. -/
def mark (process : ServerProcess) (kind : String) : Bytes :=
  Text.bytes
    ("\n===== " ++ kind ++ " " ++ process.settings.name ++ " " ++ process.machine.clock
      ++ " =====\n")

/-- Keep a text with the complaints of a session. -/
def keep (process : ServerProcess) (log : Option Machine.Place) (content : Bytes) : ServerProcess :=
  match log with
  | some place =>
      { process with machine := { process.machine with
          files := process.machine.files.append place content } }
  | none => process

/-- Keep the complaints that are new, and mark the end of the session when it has come. -/
def listen (process : ServerProcess) (session : Session) (last : Bool) : ServerProcess :=
  let output := session.program session.given
  let process := process.keep session.log (output.complaints.drop session.logged)
  let session := { session with logged := output.complaints.length }
  if (output.ended || last) && ! session.marked then
    { process.keep session.log (process.mark "session end") with
      session := some { session with marked := true } }
  else { process with session := some session }

/-- The directory in which the process starts is there. -/
def hasDirectory (process : ServerProcess) : Bool :=
  match process.settings.directory with
  | some path => process.machine.files.namesDirectory process.machine.here path
  | none => true

/-- The length of the longest argument that is handed to a program, in bytes. -/
def longestArgument : Nat := 131071

/-- Whether the machine refuses to start a program for these settings, and its words where they are
the same on all machines: no text that is handed to a program can hold a character of code zero. -/
def refusal? (process : ServerProcess) : Option (Option String) :=
  let settings := process.settings
  if (settings.args.any fun arg => arg.toList.contains '\x00')
      || settings.directory.any (·.contains 0) then
    some (some "nul byte found in provided data")
  else if (settings.args.any fun arg => longestArgument < arg.utf8ByteSize)
      || ! process.hasDirectory then
    some none
  else none

/-- Start the process. -/
def start (process : ServerProcess) : ServerProcess × Except ClientError Unit :=
  if process.isRunning then (process, .error .alreadyRunning)
  else
    let settings := process.settings
    match process.machine.program? settings.command settings.args with
    | none => (process, .error (.notFound settings.command))
    | some program =>
        match process.refusal? with
        | some reason => (process, .error (.spawn settings.command reason))
        | none =>
            let (files, log) := match settings.log with
              | some path => process.machine.files.openLog path
              | none => (process.machine.files, none)
            let process := { process with machine := { process.machine with files } }
            let session : Session :=
              { program, given := [], taken := 0, heard := false, log, logged := 0
                marked := false }
            ((process.keep log (process.mark "session start")).listen session false, .ok ())

/-- Stop the process. -/
def stop (process : ServerProcess) : ServerProcess :=
  match process.session with
  | some session => { process.listen session true with session := none }
  | none => process

/-- Stop the process, wait, and start it again, if restarts are left. -/
def restart (process : ServerProcess) : ServerProcess × Except ClientError Unit :=
  if process.restarts < process.settings.maxRestarts then
    let stopped := process.stop
    let delay := Backoff.delay process.settings.restartDelay process.restarts
    start { stopped with restarts := process.restarts + 1, waited := process.waited + delay }
  else (process, .error (.tooManyRestarts process.restarts))

/-- Write a framed body. A program that is known to have ended takes nothing. -/
def write (process : ServerProcess) (body : Bytes) : ServerProcess × Except ClientError Unit :=
  match process.session with
  | none => (process, .error .processNotRunning)
  | some session =>
      if session.heard && (session.program session.given).ended then (process, .error (.io none))
      else
        let session := { session with given := Frame.write session.given body }
        (process.listen session false, .ok ())

/-- Take the next body that the program has written as a whole. What is cut short is an error once
the program has ended. -/
def receive (process : ServerProcess) : ServerProcess × Except ClientError (Option Bytes) :=
  match process.session with
  | none => (process, .error .processNotRunning)
  | some session =>
      let output := session.program session.given
      let unread := output.out.drop session.taken
      let take (rest : Bytes) : ServerProcess :=
        { process with session := some { session with
            taken := output.out.length - rest.length, heard := true } }
      match Frame.read process.settings.messageLimit unread with
      | (.ok none, rest) =>
          if output.ended then (take rest, .error .processNotRunning) else (process, .ok none)
      | (.ok (some body), rest) => (take rest, .ok (some body))
      | (.error .unexpectedEof, rest) =>
          if output.ended then (take rest, .error .unexpectedEof) else (process, .ok none)
      | (.error error, rest) => (take rest, .error error)

instance : SupervisedTransport ServerProcess where
  send process message := process.write (Json.printBytes message)
  receive := receive
  isRunning := isRunning
  restart := restart
  stop := stop
  attemptsLeft process := process.settings.maxRestarts - process.restarts + 1
  backlog process :=
    match process.session with
    | some session => (session.program session.given).out.length + 1
    | none => 1

end ServerProcess

end LanguageClient
