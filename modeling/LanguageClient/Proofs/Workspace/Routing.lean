import LanguageClient.Proofs.FilePattern.Levels
import LanguageClient.Proofs.Table
import LanguageClient.Proofs.Text.Order
import LanguageClient.Workspace.Routing

/-! Which server serves a file, told without an order of the servers or of what they list. The least
server that lists the extension of the file serves it, and if none lists it the least one with a
pattern for its name. A pattern that cannot be read counts for nothing; one that can be read and
not used takes the patterns from its own server and from no other.
-/

namespace LanguageClient

-----------------------------------------------------------------------------------------
-- Servers
-----------------------------------------------------------------------------------------

namespace ServerSettings

/-- All patterns of the server that can be read can be used. -/
def CanMatch (server : ServerSettings) : Prop :=
  ∀ text ∈ server.patterns, ∀ pattern,
    FilePattern.ofString? text = some pattern → pattern.isUsable = true

/-- The server has a pattern that can be read and used and matches a name. -/
def HasPatternFor (server : ServerSettings) (file : Bytes) : Prop :=
  ∃ text ∈ server.patterns, ∃ pattern,
    FilePattern.ofString? text = some pattern
    ∧ pattern.isUsable = true
    ∧ pattern.isMatch file = true

/-- Two servers list the same extensions and the same patterns that can be read, in any order, each
any number of times, among any patterns that cannot be read.
-/
structure ListsAlike (server other : ServerSettings) : Prop where
  extensions : ∀ extension, extension ∈ server.extensions ↔ extension ∈ other.extensions
  patterns : ∀ text, (FilePattern.ofString? text).isSome = true →
    (text ∈ server.patterns ↔ text ∈ other.patterns)

/-- Two servers serve the same extensions and the same names. -/
structure ServesAlike (server other : ServerSettings) : Prop where
  extensions : ∀ extension, extension ∈ server.extensions ↔ extension ∈ other.extensions
  names : ∀ file,
    server.CanMatch ∧ server.HasPatternFor file ↔ other.CanMatch ∧ other.HasPatternFor file

theorem ListsAlike.refl (server : ServerSettings) : ListsAlike server server :=
  ⟨fun _ => Iff.rfl, fun _ _ => Iff.rfl⟩

theorem ListsAlike.symm {server other : ServerSettings} (alike : ListsAlike server other)
    : ListsAlike other server :=
  ⟨fun extension => (alike.extensions extension).symm,
    fun text readable => (alike.patterns text readable).symm⟩

theorem ListsAlike.matches {server other : ServerSettings} {file : Bytes}
    (alike : ListsAlike server other) (fit : server.CanMatch ∧ server.HasPatternFor file)
    : other.CanMatch ∧ other.HasPatternFor file := by
  obtain ⟨able, text, member, pattern, read, good⟩ := fit
  have listed {text : String} {pattern : FilePattern}
      (read : FilePattern.ofString? text = some pattern)
      : text ∈ server.patterns ↔ text ∈ other.patterns :=
    alike.patterns text (by rw [read]; rfl)
  refine ⟨fun text member pattern read => ?_, text, (listed read).mp member, pattern, read, good⟩
  exact able text ((listed read).mpr member) pattern read

/-- Servers that list alike serve alike. -/
theorem ListsAlike.servesAlike {server other : ServerSettings} (alike : ListsAlike server other)
    : ServesAlike server other :=
  ⟨alike.extensions, fun _ => ⟨alike.matches, alike.symm.matches⟩⟩

theorem rel_servesAlike {one two : Option ServerSettings} (alike : Option.Rel ListsAlike one two)
    : Option.Rel ServesAlike one two := by
  cases alike with
  | some alike => exact .some alike.servesAlike
  | none => exact .none

theorem canMatch_iff (server : ServerSettings)
    : server.CanMatch
      ↔ (server.patterns.filterMap FilePattern.ofString?).all FilePattern.isUsable = true := by
  simp only [CanMatch, List.all_eq_true, List.mem_filterMap, forall_exists_index, and_imp]
  exact ⟨fun able pattern text member read => able text member pattern read,
    fun able text member pattern read => able pattern text member read⟩

theorem filePatterns_of_not_canMatch {server : ServerSettings} (unable : ¬ server.CanMatch)
    : server.filePatterns = [] := by
  rw [canMatch_iff] at unable
  exact if_neg unable

/-- A pattern of the server is tried only if all of them can be. -/
theorem any_filePatterns_iff (server : ServerSettings) (file : Bytes)
    : server.filePatterns.any (·.isMatch file) = true
      ↔ server.CanMatch ∧ server.HasPatternFor file := by
  by_cases able : server.CanMatch
  · have kept : server.filePatterns = server.patterns.filterMap FilePattern.ofString? :=
      if_pos ((canMatch_iff server).mp able)
    simp only [kept, able, true_and, HasPatternFor, List.any_eq_true, List.mem_filterMap]
    constructor
    · rintro ⟨pattern, ⟨text, member, read⟩, matched⟩
      exact ⟨text, member, pattern, read, able text member pattern read, matched⟩
    · rintro ⟨text, member, pattern, read, _, matched⟩
      exact ⟨pattern, ⟨text, member, read⟩, matched⟩
  · simp [filePatterns_of_not_canMatch able, able]

end ServerSettings

namespace Settings

-----------------------------------------------------------------------------------------
-- The server of a file
-----------------------------------------------------------------------------------------

/-- A server of this name lists an extension. -/
def Lists (settings : Settings) (extension name : String) : Prop :=
  ∃ server, settings.servers.get? name = some server ∧ extension ∈ server.extensions

/-- A server of this name can match names and has a pattern for this one. -/
def Fits (settings : Settings) (file : Bytes) (name : String) : Prop :=
  ∃ server,
    settings.servers.get? name = some server ∧ server.CanMatch ∧ server.HasPatternFor file

/-- Of the names for which something holds this one has the least bytes. -/
def IsFirst (holds : String → Prop) (name : String) : Prop :=
  holds name ∧ ∀ other, holds other → other ≠ name → Text.bytes name < Text.bytes other

/-- A file goes to a server, or to none. -/
inductive Routes (settings : Settings) (path : Path) : Option String → Prop where
  | disabled (off : settings.enabled = false) : Routes settings path none
  | byExtension {extension name : String} (on : settings.enabled = true)
      (ends : path.extension? = some extension) (first : IsFirst (settings.Lists extension) name)
      : Routes settings path (some name)
  | byName {file : Bytes} {name : String} (on : settings.enabled = true)
      (unlisted : ∀ extension, path.extension? = some extension → ∀ name,
        ¬ settings.Lists extension name)
      (named : path.fileName? = some file) (first : IsFirst (settings.Fits file) name)
      : Routes settings path (some name)
  | nowhere (on : settings.enabled = true)
      (unlisted : ∀ extension, path.extension? = some extension → ∀ name,
        ¬ settings.Lists extension name)
      (unfit : ∀ file, path.fileName? = some file → ∀ name, ¬ settings.Fits file name)
      : Routes settings path none

/-- The first server that a test accepts is found. -/
theorem find?_servers_eq_some_iff {settings : Settings} {accepts : ServerSettings → Bool}
    {holds : String → Prop}
    (same : ∀ name,
      holds name ↔ ∃ server, settings.servers.get? name = some server ∧ accepts server = true)
    {name : String}
    : (settings.servers.entries.find? fun entry => accepts entry.2).map (·.1) = some name
      ↔ IsFirst holds name := by
  simp only [Table.find?_entries_eq_some_iff, IsFirst, same, Text.bytes_lt_bytes_iff,
    forall_exists_index, and_imp]

theorem find?_servers_eq_none_iff {settings : Settings} {accepts : ServerSettings → Bool}
    {holds : String → Prop}
    (same : ∀ name,
      holds name ↔ ∃ server, settings.servers.get? name = some server ∧ accepts server = true)
    : (settings.servers.entries.find? fun entry => accepts entry.2).map (·.1) = none
      ↔ ∀ name, ¬ holds name := by
  simp only [Table.find?_entries_eq_none_iff, same, not_exists, not_and, Bool.not_eq_true]

theorem lists_iff (settings : Settings) (extension name : String)
    : settings.Lists extension name
      ↔ ∃ server,
          settings.servers.get? name = some server
          ∧ server.extensions.contains extension = true := by
  simp only [Lists, List.contains_iff_mem]

theorem fits_iff (settings : Settings) (file : Bytes) (name : String)
    : settings.Fits file name
      ↔ ∃ server,
          settings.servers.get? name = some server
          ∧ server.filePatterns.any (·.isMatch file) = true := by
  simp only [Fits, ServerSettings.any_filePatterns_iff]

theorem serverForExtension?_eq_some_iff {settings : Settings} {extension name : String}
    : settings.serverForExtension? extension = some name
      ↔ IsFirst (settings.Lists extension) name :=
  find?_servers_eq_some_iff (settings.lists_iff extension)

theorem serverForExtension?_eq_none_iff {settings : Settings} {extension : String}
    : settings.serverForExtension? extension = none
      ↔ ∀ name, ¬ settings.Lists extension name :=
  find?_servers_eq_none_iff (settings.lists_iff extension)

theorem serverForName?_eq_some_iff {settings : Settings} {file : Bytes} {name : String}
    : settings.serverForName? file = some name ↔ IsFirst (settings.Fits file) name :=
  find?_servers_eq_some_iff (settings.fits_iff file)

theorem serverForName?_eq_none_iff {settings : Settings} {file : Bytes}
    : settings.serverForName? file = none ↔ ∀ name, ¬ settings.Fits file name :=
  find?_servers_eq_none_iff (settings.fits_iff file)

/-- The answer is the server that the file goes to. -/
theorem routes_iff {settings : Settings} {path : Path} {answer : Option String}
    : Routes settings path answer ↔ settings.serverForPath? path = answer := by
  have unlisted
      : (∀ extension, path.extension? = some extension → ∀ name,
          ¬ settings.Lists extension name)
        ↔ path.extension?.bind settings.serverForExtension? = none := by
    simp only [Option.bind_eq_none_iff, serverForExtension?_eq_none_iff]
  constructor
  · intro routes
    unfold serverForPath?
    cases routes with
    | disabled off => rw [off]; rfl
    | byExtension on ends first =>
        rw [if_pos on, ends, Option.bind_some, serverForExtension?_eq_some_iff.mpr first,
          Option.some_or]
    | byName on none named first =>
        rw [if_pos on, unlisted.mp none, Option.none_or, named, Option.bind_some,
          serverForName?_eq_some_iff.mpr first]
    | nowhere on none unfit =>
        rw [if_pos on, unlisted.mp none, Option.none_or, Option.bind_eq_none_iff]
        exact fun file named => serverForName?_eq_none_iff.mpr (unfit file named)
  · rintro rfl
    unfold serverForPath?
    split
    next on =>
      cases listed : path.extension?.bind settings.serverForExtension? with
      | some name =>
          obtain ⟨extension, ends, found⟩ := Option.bind_eq_some_iff.mp listed
          exact .byExtension on ends (serverForExtension?_eq_some_iff.mp found)
      | none =>
          rw [Option.none_or]
          cases fit : path.fileName?.bind settings.serverForName? with
          | some name =>
              obtain ⟨file, named, found⟩ := Option.bind_eq_some_iff.mp fit
              exact .byName on (unlisted.mpr listed) named (serverForName?_eq_some_iff.mp found)
          | none =>
              refine .nowhere on (unlisted.mpr listed) fun file named => ?_
              exact serverForName?_eq_none_iff.mp (Option.bind_eq_none_iff.mp fit file named)
    next off => exact .disabled (Bool.eq_false_iff.mpr off)

-----------------------------------------------------------------------------------------
-- What does not count
-----------------------------------------------------------------------------------------

theorem Routes.congr {settings other : Settings} {path : Path} {answer : Option String}
    (enabled : other.enabled = settings.enabled)
    (lists : ∀ extension, settings.Lists extension = other.Lists extension)
    (fits : ∀ file, settings.Fits file = other.Fits file) (routes : Routes settings path answer)
    : Routes other path answer := by
  cases routes with
  | disabled off => exact .disabled (enabled.trans off)
  | byExtension on ends first =>
      exact .byExtension (enabled.trans on) ends (lists _ ▸ first)
  | byName on none named first =>
      exact .byName (enabled.trans on) (by simpa only [lists] using none) named (fits _ ▸ first)
  | nowhere on none unfit =>
      exact .nowhere (enabled.trans on) (by simpa only [lists] using none)
        (by simpa only [fits] using unfit)

theorem exists_iff_of_rel {alike : ServerSettings → ServerSettings → Prop}
    {holds : ServerSettings → Prop} (same : ∀ one two, alike one two → (holds one ↔ holds two))
    {one two : Option ServerSettings} (related : Option.Rel alike one two)
    : (∃ server, one = some server ∧ holds server)
      ↔ ∃ server, two = some server ∧ holds server := by
  cases related with
  | some related => simp [same _ _ related]
  | none => simp

/-- Settings whose servers serve alike by their names have the same server for a file. -/
theorem serverForPath?_congr {settings other : Settings} (path : Path)
    (enabled : other.enabled = settings.enabled)
    (alike : ∀ name,
      Option.Rel ServerSettings.ServesAlike (settings.servers.get? name)
        (other.servers.get? name))
    : other.serverForPath? path = settings.serverForPath? path := by
  refine routes_iff.mp (Routes.congr enabled (fun extension => ?_) (fun file => ?_)
    (routes_iff.mpr rfl))
  · refine funext fun name => propext (exists_iff_of_rel (fun one two alike => ?_) (alike name))
    exact alike.extensions extension
  · refine funext fun name => propext (exists_iff_of_rel (fun one two alike => ?_) (alike name))
    exact alike.names file

/-- The settings with these patterns for a server. -/
def withPatterns (settings : Settings) (name : String) (server : ServerSettings)
    (patterns : List String)
    : Settings :=
  { settings with servers := settings.servers.insert name { server with patterns } }

theorem serverForPath?_withPatterns {settings : Settings} {name : String} {server : ServerSettings}
    (found : settings.servers.get? name = some server) (path : Path) {patterns : List String}
    (alike : server.ServesAlike { server with patterns })
    : (settings.withPatterns name server patterns).serverForPath? path
      = settings.serverForPath? path := by
  refine serverForPath?_congr path rfl fun other => ?_
  rw [withPatterns, Table.get?_insert]
  split
  next same =>
    rw [same, found]
    exact .some alike
  next =>
    cases settings.servers.get? other with
    | some unchanged => exact .some (ServerSettings.ListsAlike.refl unchanged).servesAlike
    | none => exact .none

-----------------------------------------------------------------------------------------
-- A pattern with too many levels
-----------------------------------------------------------------------------------------

/-- A server with these extensions and patterns. -/
def listing (extensions patterns : List String) : ServerSettings :=
  ⟨"", [], "", extensions, patterns, [], none⟩

/-- The settings of a client with these servers. -/
def among (servers : List (String × ServerSettings)) : Settings :=
  { standard with enabled := true, servers := .ofList servers }

theorem get?_among {servers : List (String × ServerSettings)}
    (different : (servers.map (·.1)).Nodup) {name : String} {server : ServerSettings}
    : (among servers).servers.get? name = some server ↔ (name, server) ∈ servers :=
  Table.get?_ofList_eq_some_iff different

/-- A pattern that can be read, but with too many levels. -/
def deepPattern : String :=
  .ofList (FilePattern.nested FilePattern.greatestDepth)

theorem exists_deepPattern
    : ∃ pattern, FilePattern.ofString? deepPattern = some pattern ∧ pattern.isUsable = false := by
  refine ⟨_, FilePattern.ofString?_nested FilePattern.greatestDepth,
    Bool.eq_false_iff.mpr fun usable => ?_⟩
  exact Nat.lt_irrefl _ ((FilePattern.isUsable_groupedIn_iff _).mp usable)

theorem not_canMatch_of_deepPattern {server : ServerSettings}
    (listed : deepPattern ∈ server.patterns)
    : ¬ server.CanMatch := by
  obtain ⟨pattern, read, unusable⟩ := exists_deepPattern
  exact fun able => Bool.false_ne_true (unusable.symm.trans (able deepPattern listed pattern read))

-----------------------------------------------------------------------------------------
-- The least server
-----------------------------------------------------------------------------------------

/-- An extension decides before a name, and of several servers the least one serves. Neither the
order of the servers nor the order and number of what they list counts. A pattern that cannot be
read is as if it was not listed. One that can be read and not used leaves its server without
patterns, and changes nothing for others.
-/
theorem least_server_serves (settings : Settings) (path : Path)
    : (∀ answer, Routes settings path answer ↔ settings.serverForPath? path = answer)
      ∧ (∀ other : Settings,
          other.enabled = settings.enabled →
          (∀ name,
            Option.Rel ServerSettings.ListsAlike (settings.servers.get? name)
              (other.servers.get? name)) →
            other.serverForPath? path = settings.serverForPath? path)
      ∧ (∀ entries others : List (String × ServerSettings),
          settings.servers = .ofList entries → (entries.map Prod.fst).Nodup →
          entries.Perm others →
            { settings with servers := .ofList others }.serverForPath? path
            = settings.serverForPath? path)
      ∧ ∀ name server,
          settings.servers.get? name = some server →
            (∀ before text behind,
              server.patterns = before ++ text :: behind → FilePattern.ofString? text = none →
                (settings.withPatterns name server (before ++ behind)).serverForPath? path
                = settings.serverForPath? path)
            ∧ (¬ server.CanMatch →
                (settings.withPatterns name server []).serverForPath? path
                = settings.serverForPath? path) := by
  refine ⟨fun answer => routes_iff, ?lists, ?order, fun name server found => ⟨?unread, ?unused⟩⟩
  case lists =>
    intro other enabled alike
    exact serverForPath?_congr path enabled fun name => ServerSettings.rel_servesAlike (alike name)
  case order =>
    intro entries others made different perm
    rw [← Table.ofList_eq_of_perm perm different, ← made]
  case unread =>
    intro before text behind split unreadable
    refine serverForPath?_withPatterns found path (ServerSettings.ListsAlike.servesAlike
      ⟨fun _ => Iff.rfl, fun other readable => ?_⟩)
    have apart : other ≠ text := by
      rintro rfl
      rw [unreadable] at readable
      cases readable
    simp [split, apart]
  case unused =>
    intro unable
    refine serverForPath?_withPatterns found path ⟨fun _ => Iff.rfl, fun file => ?_⟩
    have none : ¬ ServerSettings.HasPatternFor { server with patterns := [] } file := by
      rintro ⟨text, member, _⟩
      cases member
    exact iff_of_false (fun fit => unable fit.1) fun fit => none fit.2

/-- The server with a star serves a file beside one with too deep a pattern, whatever the order of
the two, however often they list what they do, and with or without the patterns that do not count.
-/
theorem star_serves_beside_deep_pattern
    : let deep := listing ["rs", "rs"] [deepPattern]
      let star := listing ["rs"] ["*z", "["]
      let settings := among [("a", deep), ("b", star)]
      let other := among
        [("a", listing ["rs"] [deepPattern]), ("b", listing ["rs"] ["[", "*z", "*z"])]
      let path : Path := Text.bytes "/w/zz"
      Routes settings path (some "b")
      ∧ (∀ name,
          Option.Rel ServerSettings.ListsAlike (settings.servers.get? name)
            (other.servers.get? name))
      ∧ ¬ deep.CanMatch
      ∧ FilePattern.ofString? "[" = none
      ∧ settings.serverForPath? path = some "b"
      ∧ other.serverForPath? path = some "b"
      ∧ { settings with servers := .ofList [("b", star), ("a", deep)] }.serverForPath? path
        = some "b"
      ∧ (settings.withPatterns "b" star ["*z"]).serverForPath? path = some "b"
      ∧ (settings.withPatterns "a" deep []).serverForPath? path = some "b" := by
  intro deep star settings other path
  have unable : ¬ deep.CanMatch := not_canMatch_of_deepPattern List.mem_cons_self
  have unreadable : FilePattern.ofString? "[" = none := by cbv
  have read : FilePattern.ofString? "*z" = some ⟨[.many, .literal 'z']⟩ := by cbv
  have bare : path.extension? = none := by decide +kernel
  have servers {name : String} {server : ServerSettings}
      : settings.servers.get? name = some server
        ↔ name = "a" ∧ server = deep ∨ name = "b" ∧ server = star :=
    (get?_among (by decide)).trans (by simp)
  have routes : Routes settings path (some "b") := by
    refine .byName rfl (fun extension ends => ?unlisted) rfl ⟨?fits, ?least⟩
    case unlisted =>
      rw [bare] at ends
      cases ends
    case fits =>
      refine ⟨star, servers.mpr (.inr ⟨rfl, rfl⟩), (ServerSettings.canMatch_iff _).mpr ?_, "*z",
        List.mem_cons_self, _, read, by decide +kernel, by decide +kernel⟩
      simp only [star, listing, List.filterMap_cons, read, unreadable, List.filterMap_nil]
      decide +kernel
    case least =>
      rintro name ⟨server, found, able, _⟩ apart
      obtain ⟨_, rfl⟩ | ⟨rfl, _⟩ := servers.mp found
      · exact absurd able unable
      · exact absurd rfl apart
  have alike (name : String)
      : Option.Rel ServerSettings.ListsAlike (settings.servers.get? name)
          (other.servers.get? name) := by
    have readable {text : String} (read : (FilePattern.ofString? text).isSome = true)
        : text ≠ "[" := by
      rintro rfl
      rw [unreadable] at read
      cases read
    simp only [settings, other, among, Table.get?_ofList, List.reverse_cons, List.reverse_nil,
      List.nil_append, List.cons_append, lookup_cons_eq, List.lookup_nil]
    split
    next =>
      refine .some ⟨by simp [star, listing], fun text read => ?_⟩
      simp [star, listing, readable read]
    next =>
      split
      next => exact .some ⟨by simp [deep, listing], fun _ _ => Iff.rfl⟩
      next => exact .none
  obtain ⟨answers, lists, order, patterns⟩ := least_server_serves settings path
  have answer := (answers _).mp routes
  refine ⟨routes, alike, unable, unreadable, answer, ?_, ?_, ?_, ?_⟩
  · exact (lists other rfl alike).trans answer
  · exact (order [("a", deep), ("b", star)] _ rfl (by decide) (.swap _ _ _)).trans answer
  · have found := servers.mpr (.inr ⟨rfl, rfl⟩)
    exact ((patterns "b" star found).1 ["*z"] "[" [] rfl unreadable).trans answer
  · have found := servers.mpr (.inl ⟨rfl, rfl⟩)
    exact ((patterns "a" deep found).2 unable).trans answer

/-- Two servers have a pattern for a name. The first of them has another pattern with too many
levels, and so the second one serves the file, which the first would serve without that pattern.
-/
theorem deep_pattern_spoils_its_server
    : let first := listing [] ["zz", deepPattern]
      let settings := among [("s", first), ("t", listing [] ["*z"])]
      let path : Path := Text.bytes "/w/zz"
      settings.enabled = true
      ∧ path.extension? = none
      ∧ path.fileName? = some (Text.bytes "zz")
      ∧ IsFirst
          (fun name => ∃ server,
            settings.servers.get? name = some server ∧ server.HasPatternFor (Text.bytes "zz"))
          "s"
      ∧ (∃ pattern, FilePattern.ofString? deepPattern = some pattern ∧ pattern.isUsable = false)
      ∧ settings.serverForPath? path = some "t"
      ∧ (settings.withPatterns "s" first ["zz"]).serverForPath? path = some "s" := by
  intro first settings path
  have bare : path.extension? = none := by decide +kernel
  have unlisted (settings : Settings) (extension : String)
      (ends : path.extension? = some extension) (name : String)
      : ¬ settings.Lists extension name := by
    rw [bare] at ends
    cases ends
  have zz : FilePattern.ofString? "zz" = some ⟨[.literal 'z', .literal 'z']⟩ := by cbv
  have star : FilePattern.ofString? "*z" = some ⟨[.many, .literal 'z']⟩ := by cbv
  have servers {name : String} {server : ServerSettings}
      : settings.servers.get? name = some server
        ↔ name = "s" ∧ server = first ∨ name = "t" ∧ server = listing [] ["*z"] :=
    (get?_among (by decide)).trans (by simp)
  have before : Text.bytes "s" < Text.bytes "t" := by decide
  refine ⟨rfl, bare, rfl, ⟨?listed, ?others⟩, exists_deepPattern, ?second, ?alone⟩
  case listed =>
    exact ⟨_, servers.mpr (.inl ⟨rfl, rfl⟩), "zz", List.mem_cons_self, _, zz, by decide +kernel,
      by decide +kernel⟩
  case others =>
    rintro other ⟨server, found, _⟩ apart
    obtain ⟨rfl, _⟩ | ⟨rfl, _⟩ := servers.mp found
    · exact absurd rfl apart
    · exact before
  case second =>
    refine routes_iff.mp (.byName rfl (unlisted settings) rfl ⟨?fits, ?least⟩)
    case fits =>
      refine ⟨_, servers.mpr (.inr ⟨rfl, rfl⟩), (ServerSettings.canMatch_iff _).mpr ?_, "*z",
        List.mem_cons_self, _, star, by decide +kernel, by decide +kernel⟩
      simp only [listing, List.filterMap_cons, star, List.filterMap_nil]
      decide +kernel
    case least =>
      rintro other ⟨server, found, able, _⟩ apart
      obtain ⟨rfl, rfl⟩ | ⟨rfl, _⟩ := servers.mp found
      · exact absurd able (not_canMatch_of_deepPattern (List.mem_cons_of_mem _ List.mem_cons_self))
      · exact absurd rfl apart
  case alone =>
    refine routes_iff.mp (.byName rfl (unlisted _) rfl ⟨?fits, ?least⟩)
    case fits =>
      refine ⟨_, (Table.get?_insert _ _ _ _).trans (if_pos rfl),
        (ServerSettings.canMatch_iff _).mpr ?_, "zz", List.mem_cons_self, _, zz, by decide +kernel,
        by decide +kernel⟩
      simp only [List.filterMap_cons, zz, List.filterMap_nil]
      decide +kernel
    case least =>
      rintro other ⟨server, found, _⟩ apart
      rw [withPatterns, Table.get?_insert, if_neg apart] at found
      obtain ⟨rfl, _⟩ | ⟨rfl, _⟩ := servers.mp found
      · exact absurd rfl apart
      · exact before

end Settings

end LanguageClient
