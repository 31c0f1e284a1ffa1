import Folio.Text

/-!
# Blank characters

The characters with the white-space property, and the trimming of a text at both
ends.
-/

namespace Folio.Text

def isBlank (character : CodePoint) : Bool :=
  let code := character.code
  (9 ≤ code && code ≤ 13) || code == 32 || code == 0x85 || code == 0xA0 ||
    code == 0x1680 || (0x2000 ≤ code && code ≤ 0x200A) || code == 0x2028 ||
    code == 0x2029 || code == 0x202F || code == 0x205F || code == 0x3000

/-- The character separates words: it is blank or one of the four information
separators. -/
def isSeparator (character : CodePoint) : Bool :=
  isBlank character || (0x1C ≤ character.code && character.code ≤ 0x1F)

/-- The text without the characters of a class at its two ends. -/
def trimBy {α : Type} (drops : α → Bool) (characters : List α) : List α :=
  ((characters.dropWhile drops).reverse.dropWhile drops).reverse

def trim (characters : List Char) : List Char :=
  trimBy (fun character => isBlank character) characters

theorem isBlank_of_isWhitespace {character : Char}
    (whitespace : character.isWhitespace = true) :
    isBlank character = true := by
  simp only [Char.isWhitespace, Bool.or_eq_true, decide_eq_true_eq] at whitespace
  rcases whitespace with ((rfl | rfl) | rfl) | rfl <;> decide

end Folio.Text
