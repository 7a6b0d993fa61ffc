import LanguageClient.FilePattern.Parser

/-! Groups in groups. Each group around a piece is read as such and adds a level, so a pattern that
can be read may have too many levels to be used.
-/

namespace LanguageClient.FilePattern

/-- A piece with that many groups around it. -/
def groupedIn : Nat → Piece → Piece
  | 0, piece => piece
  | levels + 1, piece => groupedIn levels (.alternatives [[piece]])

/-- A letter with that many groups around it, as it is written. -/
def nested (levels : Nat) : List Char :=
  List.replicate levels '\x7b' ++ 'a' :: List.replicate levels '\x7d'

/-- Each brace opens a group, in which nothing is written yet. -/
theorem read?_braces (levels : Nat) (groups : List Group) (before : Option Char) (rest : List Char)
    : read? ⟨[], groups⟩ before (List.replicate levels '\x7b' ++ 'a' :: rest)
      = read? ⟨[.literal 'a'], List.replicate levels ⟨[], []⟩ ++ groups⟩ (some 'a') rest := by
  induction levels generalizing groups before with
  | zero => simp [read?, Draft.push]
  | succ levels ih =>
      rw [List.replicate_succ, List.cons_append, read?, Draft.openGroup, ih,
        List.replicate_succ', List.append_assoc]
      rfl

/-- Each brace closes the innermost group around what was read. -/
theorem read?_closing (levels : Nat) (piece : Piece) (before : Option Char)
    : read? ⟨[piece], List.replicate levels ⟨[], []⟩⟩ before (List.replicate levels '\x7d')
      = some ⟨[groupedIn levels piece]⟩ := by
  induction levels generalizing piece before with
  | zero => simp [read?, Draft.finish?, groupedIn]
  | succ levels ih =>
      rw [List.replicate_succ, List.replicate_succ, read?, Draft.closeGroup?, groupedIn, ← ih]
      rfl

/-- Groups in groups can be read, however many there are. -/
theorem ofString?_nested (levels : Nat)
    : ofString? (String.ofList (nested levels)) = some ⟨[groupedIn levels (.literal 'a')]⟩ := by
  rw [ofString?, String.toList_ofList, nested, Draft.empty, read?_braces, List.append_nil,
    read?_closing]

/-- Each group around something that is written adds a level. -/
theorem extent_groupedIn (levels : Nat) {piece : Piece} {depth : Nat}
    (written : piece.isVoid = false) (extent : piece.extent = ⟨1, depth⟩)
    : (groupedIn levels piece).extent = ⟨1, depth + levels⟩ := by
  induction levels generalizing piece depth with
  | zero => exact extent
  | succ levels ih =>
      rw [groupedIn, Nat.add_comm levels, ← Nat.add_assoc]
      have grouped : areVoid [[piece]] = false := by
        simp [areVoid, isVoidBranch, written]
      refine ih (by simpa [Piece.isVoid] using grouped) ?_
      simp [Piece.extent, grouped, branchesExtent, isVoidBranch, written, piecesExtent, extent,
        Extent.beside, Extent.nothing, Extent.levels]

/-- With the levels of its groups a pattern reaches the greatest depth. -/
theorem isUsable_groupedIn_iff (levels : Nat)
    : isUsable ⟨[groupedIn levels (.literal 'a')]⟩ = true ↔ levels < greatestDepth := by
  have extent : (groupedIn levels (.literal 'a')).extent = ⟨1, 0 + levels⟩ :=
    extent_groupedIn levels (by simp [Piece.isVoid]) (by simp [Piece.extent]; decide)
  have depth : (piecesExtent [groupedIn levels (.literal 'a')]).depth = levels := by
    simp [piecesExtent, extent, Extent.beside, Extent.nothing]
  rw [isUsable, decide_eq_true_iff, depth]
  exact Nat.succ_le_iff

end LanguageClient.FilePattern
