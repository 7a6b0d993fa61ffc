import LanguageClient.Uri.Host
import LanguageClient.Uri.Segments

/-!
Reading URIs, as far as host and path go. Blanks and control characters around a URI and line
breaks and tabs inside it do not count; query and fragment are checked for nothing.
-/

namespace LanguageClient

/-- What a URI names: a host and a path. A URI without slash after its scheme has no path. -/
structure Uri where
  host : Uri.Host
  path : Option (List Char)
deriving DecidableEq, Repr

namespace Uri

/-- How the rest of a URI is read depends on its scheme. -/
inductive SchemeKind where
  | file
  | internet
  | other
deriving DecidableEq

/-- The kind of a scheme in lower case. -/
def SchemeKind.ofName (name : List Char) : SchemeKind :=
  if name = "file".toList then .file
  else if ["http", "https", "ws", "wss", "ftp"].any (·.toList = name) then .internet
  else .other

/-- Characters of a scheme after the first. -/
def isSchemeChar (c : Char) : Bool :=
  c.isAlphanum || c = '+' || c = '-' || c = '.'

/-- The scheme in lower case, and what follows the colon. -/
def scheme? (text : List Char) : Option (List Char × List Char) :=
  match text with
  | first :: _ =>
      if first.isAlpha then
        match text.span isSchemeChar with
        | (name, ':' :: rest) => some (name.map Char.toLower, rest)
        | _ => none
      else none
  | [] => none

/-- Whether a character separates segments: a slash, and a backslash in schemes that allow it. -/
def isSlash (backslash : Bool) (c : Char) : Bool :=
  c = '/' || (backslash && c = '\\')

/-- Whether a character ends the path. -/
def endsPath (c : Char) : Bool :=
  c = '?' || c = '#'

/-- The segments of a text up to the end of the path. -/
def splitPath (backslash : Bool) : List Char → List Segment
  | [] => [[]]
  | c :: rest =>
      if endsPath c then [[]]
      else if isSlash backslash c then [] :: splitPath backslash rest
      else match splitPath backslash rest with
        | first :: others => (c :: first) :: others
        | [] => [[c]]

/-- A text without the slash it may start with. -/
def dropSlash (backslash : Bool) (text : List Char) : List Char :=
  match text with
  | c :: rest => if isSlash backslash c then rest else text
  | [] => []

/-- The path of a file with one slash at its front. -/
def rooted (path : List Char) : List Char :=
  '/' :: path.dropWhile (· = '/')

/-- Read what follows the scheme of a file. A path that starts with a drive has no host. -/
def ofFile? (rest : List Char) : Option Uri :=
  let file (host : Host) (done : List Segment) (text : List Char) : Uri :=
    let path := resolve true done (splitPath true text)
    { host := if path.drive then .absent else host
      path := some (rooted (pathText path.segments)) }
  match rest with
  | first :: second :: after =>
      if isSlash true first then
        if isSlash true second then
          let (name, remaining) := after.span fun c => ! (isSlash true c || endsPath c)
          if isDrive name then some (file .absent [[]] after)
          else if name.isEmpty then some (file .absent [[]] remaining)
          else (Host.ofText? name).map fun host =>
            if host = Host.loopback then file .absent [[]] remaining
            else file host [[]] (dropSlash true remaining)
        else some (file .absent [] rest)
      else some (file .absent [[]] rest)
  | [c] => some (file .absent (if isSlash true c then [] else [[]]) rest)
  | [] => some (file .absent [[]] rest)

/-- The text after the user's name and password, and whether they are given. No host after them is
an error. -/
def skipUser? (backslash : Bool) (text : List Char) : Option (Bool × List Char) :=
  let (authority, remaining) := text.span fun c => ! (isSlash backslash c || endsPath c)
  if authority.contains '@' then
    let host := (authority.reverse.takeWhile (· ≠ '@')).reverse
    let user := authority.take (authority.length - host.length - 1)
    if host.isEmpty && user.isEmpty then
      if remaining.isEmpty then some (false, []) else none
    else some (! user.isEmpty && user ≠ [':'], host ++ remaining)
  else some (false, text)

/-- The text of the host and what follows it. Colons inside brackets belong to the host. -/
def spanHost (backslash bracketed : Bool) : List Char → List Char × List Char
  | [] => ([], [])
  | c :: rest =>
      if (c = ':' && ! bracketed) || isSlash backslash c || endsPath c then ([], c :: rest)
      else
        let bracketed := if c = '[' then true else if c = ']' then false else bracketed
        let (host, after) := spanHost backslash bracketed rest
        (c :: host, after)

/-- The text after a port, which must be below 2^16. -/
def skipPort? (text : List Char) : Option (List Char) :=
  let (digits, rest) := text.span fun c => (Text.digitValue? c).isSome
  match Text.readDigits 0 digits with
  | some port =>
      if port < 65536 && (match rest with | c :: _ => isSlash true c || endsPath c | [] => true)
      then some rest else none
  | none => none

/-- The path after a host and a port. -/
def pathAfterHost (internet : Bool) (text : List Char) : List Char :=
  if internet then
    pathText (resolve false [[]] (splitPath true (dropSlash true text))).segments
  else
    match text with
    | [] => []
    | c :: _ =>
        if endsPath c then []
        else
          let done : List Segment := if c = '/' then [] else [[]]
          pathText (resolve false done (splitPath false text)).segments

/-- Read what follows the slashes before a host. -/
def ofAuthority? (internet : Bool) (text : List Char) : Option Uri := do
  let (user, afterUser) ← skipUser? internet text
  let (name, afterHost) := spanHost internet false afterUser
  let host ← if internet then Host.ofText? name else Host.ofOpaque? name
  let afterPort ← match afterHost with
    | ':' :: rest => if host = .absent then none else skipPort? rest
    | rest => some rest
  if host = .absent && user then none
  else
    let path := pathAfterHost internet afterPort
    some { host, path := if path.isEmpty then none else some path }

/-- Read a text as a URI. -/
def parse? (text : String) : Option Uri := do
  let front := text.toList.dropWhile (·.toNat ≤ 0x20)
  let trimmed := (front.reverse.dropWhile (·.toNat ≤ 0x20)).reverse
  let (scheme, rest) ← scheme? (trimmed.filter fun c => ! ['\t', '\n', '\r'].contains c)
  match SchemeKind.ofName scheme with
  | .file => ofFile? rest
  | .internet => ofAuthority? true (rest.dropWhile (isSlash true))
  | .other =>
      match rest with
      | '/' :: '/' :: after => ofAuthority? false after
      | '/' :: after =>
          some ⟨.absent, some (pathText (resolve false [[]] (splitPath false after)).segments)⟩
      | _ => some ⟨.absent, none⟩

end Uri

end LanguageClient
