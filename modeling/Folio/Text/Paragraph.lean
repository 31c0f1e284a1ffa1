import Folio.Text.Blank
import Folio.Text.Split

/-!
# Paragraphs

The form in which a description of several lines is shown.  Tabs become spaces,
the lines after the first lose the margin that they have in common, and empty
lines at both ends are dropped.
-/

namespace Folio.Text

def tabWidth : Nat := 8

/-- The text with spaces for its tabs, given the column in which it starts. -/
def expandTabs (column : Nat) : List Char → List Char
  | [] => []
  | character :: later =>
      if character = '\t' then
        let width := tabWidth - column % tabWidth
        List.replicate width ' ' ++ expandTabs (column + width) later
      else if character = '\n' ∨ character = '\r' then
        character :: expandTabs 0 later
      else character :: expandTabs (column + 1) later

/-- How many separators a line starts with, if there is anything else on it. -/
def indent? (line : List Char) : Option Nat :=
  let content := line.dropWhile fun character : Char => isSeparator character
  if content.isEmpty then none else some (line.length - content.length)

/-- The margin that lines have in common.  Lines without content have a say in
it no more than a missing line. -/
def margin (lines : List (List Char)) : Nat :=
  ((lines.filterMap indent?).min?).getD 0

def dropEmptyEnds (lines : List (List Char)) : List (List Char) :=
  ((lines.reverse.dropWhile List.isEmpty).reverse).dropWhile List.isEmpty

def tidyLines : List (List Char) → List (List Char)
  | [] => []
  | first :: later =>
      dropEmptyEnds ((first.dropWhile fun character : Char => isSeparator character) ::
        later.map (List.drop (margin later)))

def paragraph (text : String) : String :=
  String.ofList
    (joinWith '\n' (tidyLines (splitOn '\n' (expandTabs 0 text.toList))))

end Folio.Text
