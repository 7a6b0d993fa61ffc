import LanguageClient.Machine.Basic
import LanguageClient.Text.Digits

/-!
A small shell: commands in turn, of which one that copies its input goes on as long as it is given
any. It knows as many commands as it takes to stand in for a server. A command may depend on whether
the one before it succeeded.
-/

namespace LanguageClient.Machine.Shell

/-- When the next command is run. -/
inductive Condition where
  | always
  /-- If the last command succeeded. -/
  | success
  /-- If the last command failed. -/
  | failure
deriving DecidableEq, Repr

/-- A word of a command, or what stands between words. -/
inductive Token where
  | word (text : List Char)
  /-- The end of a command, and when the next one is run. -/
  | stop (next : Condition)
  /-- What the command writes counts as complaints. -/
  | complaining
deriving DecidableEq, Repr

/-- How the next character of a text is read. -/
inductive Quoting where
  | plain
  | single
  | double
deriving DecidableEq, Repr

/-- The tokens with the word that was being read. -/
def closeWord (word : Option (List Char)) (tokens : List Token) : List Token :=
  match word with
  | some text => .word text :: tokens
  | none => tokens

/-- The word with one more character. -/
def extend (word : Option (List Char)) (c : Char) : Option (List Char) :=
  some (word.getD [] ++ [c])

/-- Characters that a backslash makes plain between double quotes. -/
def isEscapable (c : Char) : Bool :=
  ['"', '\\', '$', '\x60'].contains c

/-- The tokens of a text. `word` is the word that is being read. -/
def tokens : Quoting → Option (List Char) → List Char → List Token
  | _, word, [] => closeWord word []
  | .single, word, '\'' :: rest => tokens .plain word rest
  | .single, word, c :: rest => tokens .single (extend word c) rest
  | .double, word, '"' :: rest => tokens .plain word rest
  | .double, word, '\\' :: c :: rest =>
      tokens .double (extend (if isEscapable c then word else extend word '\\') c) rest
  | .double, word, c :: rest => tokens .double (extend word c) rest
  | .plain, word, '\'' :: rest => tokens .single (some (word.getD [])) rest
  | .plain, word, '"' :: rest => tokens .double (some (word.getD [])) rest
  | .plain, word, '\\' :: c :: rest => tokens .plain (extend word c) rest
  | .plain, word, '>' :: '&' :: '2' :: rest =>
      closeWord (if word = some ['1'] then none else word)
        (.complaining :: tokens .plain none rest)
  | .plain, word, '&' :: '&' :: rest =>
      closeWord word (.stop .success :: tokens .plain none rest)
  | .plain, word, '|' :: '|' :: rest =>
      closeWord word (.stop .failure :: tokens .plain none rest)
  | .plain, word, c :: rest =>
      if c = ' ' || c = '\t' then closeWord word (tokens .plain none rest)
      else if c = ';' || c = '&' || c = '\n' then
        closeWord word (.stop .always :: tokens .plain none rest)
      else tokens .plain (extend word c) rest

/-- A command. -/
structure Command where
  words : List (List Char)
  complaining : Bool
  condition : Condition
deriving DecidableEq, Repr

/-- The commands of tokens. `command` is the one that is being read. -/
def commands (command : Command) : List Token → List Command
  | [] => [command]
  | .stop next :: rest => command :: commands ⟨[], false, next⟩ rest
  | .complaining :: rest => commands { command with complaining := true } rest
  | .word text :: rest => commands { command with words := command.words ++ [text] } rest

/-- The byte that up to three octal digits stand for, and the rest. -/
def octal (acc : Nat) : Nat → List Char → Nat × List Char
  | 0, text => (acc, text)
  | count + 1, text =>
      match text with
      | c :: rest =>
          if '0' ≤ c ∧ c ≤ '7' then octal (acc * 8 + (c.toNat - '0'.toNat)) count rest
          else (acc, text)
      | [] => (acc, text)

/-- The byte that a letter after a backslash stands for. -/
def letterByte? : Char → Option UInt8
  | 'a' => some 0x07
  | 'b' => some 0x08
  | 'f' => some 0x0C
  | 'n' => some 0x0A
  | 'r' => some 0x0D
  | 't' => some 0x09
  | 'v' => some 0x0B
  | '\\' => some 0x5C
  | '"' => some 0x22
  | _ => none

/-- What a format writes with these arguments. `fuel` is at least the number of characters. -/
def format : Nat → List (List Char) → List Char → Bytes
  | 0, _, _ => []
  | _, _, [] => []
  | fuel + 1, args, '\\' :: c :: rest =>
      match letterByte? c with
      | some b => b :: format fuel args rest
      | none =>
          if '0' ≤ c ∧ c ≤ '7' then
            let (n, rest) := octal 0 3 (c :: rest)
            UInt8.ofNat n :: format fuel args rest
          else Text.encode ['\\', c] ++ format fuel args rest
  | fuel + 1, args, '%' :: 's' :: rest =>
      Text.encode (args.head?.getD []) ++ format fuel args.tail rest
  | fuel + 1, args, '%' :: '%' :: rest => Text.encode ['%'] ++ format fuel args rest
  | fuel + 1, args, c :: rest => Text.encode [c] ++ format fuel args rest

/-- A text whose escapes are replaced. `fuel` is at least the number of characters. -/
def unescaped : Nat → List Char → Bytes
  | 0, _ => []
  | _, [] => []
  | fuel + 1, '\\' :: '0' :: rest =>
      let (n, rest) := octal 0 3 rest
      UInt8.ofNat n :: unescaped fuel rest
  | fuel + 1, '\\' :: c :: rest =>
      match letterByte? c with
      | some b => b :: unescaped fuel rest
      | none => Text.encode ['\\', c] ++ unescaped fuel rest
  | fuel + 1, c :: rest => Text.encode [c] ++ unescaped fuel rest

/-- The words of a line, with blanks between them. -/
def line (words : List (List Char)) : Bytes :=
  let text := List.intercalate [' '] words
  unescaped text.length text

/-- What a command does. -/
inductive Effect where
  | write (content : Bytes)
  /-- Do nothing, with success or without. -/
  | pass (succeeds : Bool)
  /-- Complain, without success. -/
  | complain (content : Bytes)
  /-- Write what is given. -/
  | copy
  | finish

/-- What a command does. A command that waits does nothing here. -/
def effect (words : List (List Char)) : Effect :=
  match words with
  | [] => .pass true
  | name :: args =>
      match String.ofList name, args with
      | "printf", pattern :: args => .write (format pattern.length args pattern)
      | "echo", ['-', 'n'] :: args => .write (line args)
      | "echo", args => .write (line args ++ Text.encode ['\n'])
      | "cat", _ => .copy
      | "exit", _ => .finish
      | "sleep", _ | "true", _ | ":", _ => .pass true
      | "false", _ => .pass false
      | name, _ => .complain (Text.bytes ("sh: 1: " ++ name ++ ": not found\n"))

/-- Whether a command is run after the last one. -/
def Condition.holds (succeeded : Bool) : Condition → Bool
  | .always => true
  | .success => succeeded
  | .failure => ! succeeded

/-- The command in whose place the shell goes on, if a command names one. -/
def successor? : List (List Char) → Option (List (List Char))
  | name :: words => if name = "exec".toList && ! words.isEmpty then some words else none
  | [] => none

/-- What commands write when they are given an input, in addition to what has been written. -/
def run (input : Bytes) (written : Output) (succeeded : Bool) : List Command → Output
  | [] => { written with ended := true }
  | command :: rest =>
      if ! command.condition.holds succeeded then run input written succeeded rest
      else
        let write (content : Bytes) : Output :=
          if command.complaining then
            { written with complaints := written.complaints ++ content }
          else { written with out := written.out ++ content }
        let last := successor? command.words
        let goOn (written : Output) (succeeded : Bool) : Output :=
          if last.isSome then { written with ended := true } else run input written succeeded rest
        match effect (last.getD command.words) with
        | .write content => goOn (write content) true
        | .pass succeeds => goOn written succeeds
        | .complain content =>
            goOn { written with complaints := written.complaints ++ content } false
        | .copy => write input
        | .finish => { written with ended := true }

/-- Nothing written yet. -/
def silent : Output := ⟨[], [], false⟩

/-- The program for a text of commands. -/
def ofText (text : String) : Program :=
  fun input =>
    run input silent true (commands ⟨[], false, .always⟩ (tokens .plain none text.toList))

/-- The program that copies its input. -/
def copier : Program :=
  fun input => { silent with out := input }

/-- The program that runs one command with these words. -/
def ofWords (words : List String) : Program :=
  fun input => run input silent true [⟨words.map String.toList, false, .always⟩]

/-- The programs that every machine has. A shell without commands waits for them, and a sleep is
longer than anybody waits. -/
def program? (command : String) (args : List String) : Option Program :=
  match command with
  | "cat" | "/bin/cat" | "/usr/bin/cat" => some copier
  | "sh" | "/bin/sh" | "/usr/bin/sh" =>
      match args with
      | "-c" :: text :: _ => some (ofText text)
      | _ => some fun _ => silent
  | "sleep" | "/bin/sleep" | "/usr/bin/sleep" => some fun _ => silent
  | "true" | "/bin/true" | "/usr/bin/true" | "false" | "/bin/false" | "/usr/bin/false" =>
      some (ofWords [":"])
  | "echo" | "printf" => some (ofWords (command :: args))
  | _ => none

end LanguageClient.Machine.Shell
