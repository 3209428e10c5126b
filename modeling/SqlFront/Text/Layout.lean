import SqlFront.Str
/-!
# Fixed-width layout

Reports are tables whose cells are left-aligned in columns of a fixed width, counted in
code points, and whose sections are set off by rules: lines of one repeated character.
A cell wider than its column is written whole and pushes the rest of the line to the right.

A report is built as a list of lines and written with a line feed after each line.
-/

namespace SqlFront.Text

/-- `s` followed by spaces up to `width` code points; a longer `s` is left as it is. -/
def padRight (width : Nat) (s : Str) : Str :=
  s ++ List.replicate (width - s.length) (.char ' ')

/-- A line of `n` copies of `c`. -/
def rule (n : Nat) (c : Char) : Str :=
  List.replicate n (.char c)

/-- Cells left-aligned in columns of the given widths, separated by one space. -/
def row (cells : List (Nat × Str)) : Str :=
  (" " : Str).intercalate (cells.map fun (w, s) => padRight w s)

/-- The head of a section: an empty line, then the title between two rules of `=`. -/
def banner (width : Nat) (title : Str) : List Str :=
  [[], rule width '=', title, rule width '=']

/-- The items numbered from 1, as `1. first`, `2. second`, …. -/
def numbered (items : List Str) : List Str :=
  (List.range items.length).zipWith (fun i s => Str.ofString (toString (i + 1) ++ ". ") ++ s) items

/-- A section of numbered items under a banner, closed by a rule; nothing if there are no
items. -/
def numberedSection (width : Nat) (title : Str) (items : List Str) : List Str :=
  if items.isEmpty then [] else banner width title ++ numbered items ++ [rule width '=']

/-- The text of a list of lines, each followed by a line feed. -/
def unlines (ls : List Str) : Str :=
  (ls.map (· ++ [.char '\n'])).flatten

theorem length_padRight (width : Nat) (s : Str) :
    (padRight width s).length = max width s.length := by
  simp only [padRight, List.length_append, List.length_replicate]
  omega

@[simp] theorem unlines_nil : unlines [] = [] := rfl

theorem unlines_append (as bs : List Str) : unlines (as ++ bs) = unlines as ++ unlines bs := by
  simp [unlines]

example : padRight 6 "TYPE" = Str.ofString "TYPE  " := by decide +kernel
example : padRight 2 "LEXEME" = Str.ofString "LEXEME" := by decide +kernel

end SqlFront.Text
