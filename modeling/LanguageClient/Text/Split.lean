/-!
Texts taken apart at separators.
-/

namespace LanguageClient.Text

/-- The parts of a text between separators. -/
def splitOn (separator : Char) : List Char → List (List Char)
  | [] => [[]]
  | c :: rest =>
      if c = separator then [] :: splitOn separator rest
      else match splitOn separator rest with
        | first :: others => (c :: first) :: others
        | [] => [[c]]

end LanguageClient.Text
