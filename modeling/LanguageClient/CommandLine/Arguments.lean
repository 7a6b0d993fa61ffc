import LanguageClient.Text.Digits
import LanguageClient.Path

/-!
The arguments of the command line. Options may stand before the command and after it; those after
it count. Two dashes end the options. The last option before the command is looked at only when
the arguments after the command have been read, so help on the command comes first.
-/

namespace LanguageClient.CommandLine

/-- What is to be done with a file. -/
inductive Task where
  /-- Show the diagnostics of the file. -/
  | check (file : Path)
  /-- Show the hover at a place, counted from one. -/
  | hover (file : Path) (line column : Nat)
deriving DecidableEq, Repr

/-- The file of a task. -/
def Task.file : Task → Path
  | .check file => file
  | .hover file _ _ => file

/-- The options, as far as they are given. -/
structure Options where
  /-- The command of the server to use. -/
  server : Option String
  /-- The language to tell that server. -/
  language : Option String
  /-- How many seconds to wait. -/
  timeout : Option Nat
deriving DecidableEq, Repr

namespace Options

/-- No options. -/
def none : Options := ⟨.none, .none, .none⟩

/-- How many seconds to wait when that is not said. -/
def usualTimeout : Nat := 30

/-- These options, and others where these say nothing. -/
def or (options others : Options) : Options :=
  { server := options.server.or others.server
    language := options.language.or others.language
    timeout := options.timeout.or others.timeout }

/-- Give an option its value. An option has one value, and a timeout is a number of 64 bits. -/
def set? (options : Options) (name value : String) : Option Options :=
  match name with
  | "server" => if options.server.isSome then .none else some { options with server := value }
  | "language" => if options.language.isSome then .none else some { options with language := value }
  | "timeout" =>
      if options.timeout.isSome then .none
      else (Text.readBounded Text.word64 value.toList).map fun seconds =>
        { options with timeout := seconds }
  | _ => .none

/-- The names of the options that have a value. -/
def names : List String :=
  ["server", "language", "timeout"]

/-- The options with the one whose value has not been looked at yet. -/
def settle? (options : Options) : Option (String × String) → Option Options
  | some (name, value) => options.set? name value
  | .none => some options

end Options

/-- What the arguments ask for. -/
inductive Request where
  | run (options : Options) (task : Task)
  | version
  /-- Help on a command, or on all of them. -/
  | help (command : Option String)
  /-- The arguments cannot be used. -/
  | misuse
deriving DecidableEq, Repr

/-- What the arguments after a command ask for, with the options before it. Those may be unusable,
which does not matter where help is asked for. -/
def Request.after (before : Option Options) : Request → Request
  | .run options task =>
      match before with
      | some before => .run (options.or before) task
      | .none => .misuse
  | request => request

/-- What an argument is. -/
inductive Argument where
  /-- Something that is no option. -/
  | plain (text : String)
  /-- An option, with the value after an equals sign. -/
  | option (name : String) (value : Option String)
  /-- An option of one letter, and the letters after it. -/
  | letter (c : Char)
  /-- Two dashes. -/
  | divider
deriving DecidableEq, Repr

/-- What an argument is. -/
def Argument.ofString (text : String) : Argument :=
  match text.toList with
  | ['-', '-'] => .divider
  | '-' :: '-' :: rest =>
      match rest.span (· ≠ '=') with
      | (name, _ :: value) => .option (String.ofList name) (some (String.ofList value))
      | (name, []) => .option (String.ofList name) .none
  | '-' :: c :: _ => .letter c
  | _ => .plain text

/-- The commands. -/
def commandNames : List String :=
  ["check", "hover", "help"]

/-- A line or column: a number of 32 bits, of which zero may have a minus sign. -/
def coordinate? (text : String) : Option Nat :=
  match text.toList with
  | '-' :: digits =>
      if digits.isEmpty then .none else (Text.readDigits 0 digits).filter (· = 0)
  | unsigned => Text.readBounded Text.word32 unsigned

/-- The task of a command with these plain arguments. -/
def task? (command : String) (plain : List String) : Option Task :=
  match command, plain with
  | "check", [file] => if file.isEmpty then .none else some (.check (Text.bytes file))
  | "hover", [file, line, column] =>
      if file.isEmpty then .none
      else
        match coordinate? line, coordinate? column with
        | some line, some column => some (.hover (Text.bytes file) line column)
        | _, _ => .none
  | _, _ => .none

/-- Whether plain arguments can be the first ones of a command. -/
def fits (command : String) (plain : List String) : Bool :=
  match command, plain with
  | _, [] => true
  | "check", [file] => ! file.isEmpty
  | "hover", file :: numbers =>
      ! file.isEmpty && numbers.length ≤ 2 && numbers.all fun text => (coordinate? text).isSome
  | _, _ => false

/-- Read the arguments after a command. -/
def readTask (command : String) (options : Options) (plain : List String) : List String → Request
  | [] =>
      match task? command plain with
      | some task => .run options task
      | .none => .misuse
  | text :: rest =>
      match Argument.ofString text with
      | .plain text =>
          if fits command (plain ++ [text]) then readTask command options (plain ++ [text]) rest
          else .misuse
      | .divider =>
          match task? command (plain ++ rest) with
          | some task => .run options task
          | .none => .misuse
      | .letter c => if c = 'h' then .help (some command) else .misuse
      | .option "help" .none => .help (some command)
      | .option name (some value) =>
          match options.set? name value with
          | some options => readTask command options plain rest
          | .none => .misuse
      | .option name .none =>
          match rest with
          | value :: rest =>
              match Argument.ofString value, options.set? name value with
              | .plain _, some options => readTask command options plain rest
              | _, _ => .misuse
          | [] => .misuse

/-- Read the arguments. The option in `pending` has a value that has not been looked at yet. -/
def read (options : Options) (pending : Option (String × String)) : List String → Request
  | [] => .misuse
  | text :: rest =>
      match Argument.ofString text, options.settle? pending with
      | .plain "help", _ =>
          match rest with
          | [] => .help .none
          | [command] => if commandNames.contains command then .help (some command) else .misuse
          | _ => .misuse
      | .plain text, before =>
          if commandNames.contains text then (readTask text .none [] rest).after before
          else .misuse
      | .letter c, some _ =>
          if c = 'V' then .version else if c = 'h' then .help .none else .misuse
      | .option "help" .none, some _ => .help .none
      | .option "version" .none, some _ => .version
      | .option name (some value), some options =>
          match options.set? name value with
          | some options => read options .none rest
          | .none => .misuse
      | .option name .none, some options =>
          match rest with
          | value :: rest =>
              match Argument.ofString value, Options.names.contains name with
              | .plain _, true => read options (some (name, value)) rest
              | _, _ => .misuse
          | [] => .misuse
      | _, _ => .misuse

/-- What the arguments ask for. -/
def Request.ofArguments (arguments : List String) : Request :=
  read .none .none arguments

end LanguageClient.CommandLine
