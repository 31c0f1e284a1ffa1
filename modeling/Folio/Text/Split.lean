/-!
# Parts of texts

The parts of a text between separators.  Main statement: joined by the separator
again, the parts give the text.
-/

namespace Folio.Text

variable {α : Type} [DecidableEq α]

def splitOn (separator : α) : List α → List (List α)
  | [] => [[]]
  | character :: later =>
      if character = separator then [] :: splitOn separator later
      else
        match splitOn separator later with
        | [] => [[character]]
        | part :: parts => (character :: part) :: parts

def joinWith (separator : α) : List (List α) → List α
  | [] => []
  | [part] => part
  | part :: parts => part ++ separator :: joinWith separator parts

theorem splitOn_ne_nil (separator : α) (characters : List α) :
    splitOn separator characters ≠ [] := by
  cases characters with
  | nil => simp [splitOn]
  | cons character later =>
      unfold splitOn
      split
      · simp
      · split <;> simp

theorem joinWith_splitOn (separator : α) (characters : List α) :
    joinWith separator (splitOn separator characters) = characters := by
  induction characters with
  | nil => rfl
  | cons character later inductionHypothesis =>
      unfold splitOn
      split
      · rename_i same
        cases parts : splitOn separator later with
        | nil => exact absurd parts (splitOn_ne_nil separator later)
        | cons part others =>
            rw [parts] at inductionHypothesis
            simp [joinWith, inductionHypothesis, same]
      · split
        · rename_i parts
          exact absurd parts (splitOn_ne_nil separator later)
        · rename_i part others parts
          rw [parts] at inductionHypothesis
          cases others with
          | nil => simpa [joinWith] using inductionHypothesis
          | cons other rest => simpa [joinWith] using inductionHypothesis

end Folio.Text
