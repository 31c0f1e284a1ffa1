/-!
# Sorting by bisection

A stable sort that puts each item after the ordered ones at a place found by
halving.  It asks only whether one item comes before another, so the result is
settled also where some items come neither before nor after each other.  Main
statement: the sorted items are a permutation of the given ones.
-/

namespace Folio.Bisection

variable {α : Type}

/-- The items that go on from the last one, and the items after those. -/
def runFrom (continues : α → α → Bool) (last : α) : List α → List α × List α
  | [] => ([], [])
  | item :: later =>
      if continues last item then
        let (run, rest) := runFrom continues item later
        (item :: run, rest)
      else ([], item :: later)

/-- The ordered items at the front, and the items after those.  Items that each
come before the last one are turned around. -/
def firstRun (before : α → α → Bool) : List α → List α × List α
  | [] => ([], [])
  | [only] => ([only], [])
  | first :: second :: later =>
      if before second first then
        let (run, rest) :=
          runFrom (fun last item => before item last) first (second :: later)
        ((first :: run).reverse, rest)
      else
        let (run, rest) :=
          runFrom (fun last item => !before item last) first (second :: later)
        (first :: run, rest)

/-- The place of an item among ordered ones, from `low` to `high`. -/
def place (before : α → α → Bool) (item : α) (ordered : List α)
    (low high : Nat) : Nat :=
  if _open : low < high then
    let middle := (low + high) / 2
    match ordered[middle]? with
    | some present =>
        if before item present then place before item ordered low middle
        else place before item ordered (middle + 1) high
    | none => low
  else low
termination_by high - low
decreasing_by
  all_goals omega

def insert (before : α → α → Bool) (ordered : List α) (item : α) : List α :=
  let index := place before item ordered 0 ordered.length
  ordered.take index ++ item :: ordered.drop index

def sort (before : α → α → Bool) (items : List α) : List α :=
  let (run, rest) := firstRun before items
  rest.foldl (insert before) run

theorem runFrom_append (continues : α → α → Bool) (last : α) (items : List α) :
    (runFrom continues last items).1 ++ (runFrom continues last items).2 =
      items := by
  induction items generalizing last with
  | nil => rfl
  | cons item later inductionHypothesis =>
      unfold runFrom
      split
      · simpa using inductionHypothesis item
      · simp

theorem firstRun_perm (before : α → α → Bool) (items : List α) :
    ((firstRun before items).1 ++ (firstRun before items).2).Perm items := by
  match items with
  | [] => exact .refl _
  | [only] => exact .refl _
  | first :: second :: later =>
      rw [firstRun]
      split
      · have whole := runFrom_append (fun last item => before item last) first
          (second :: later)
        refine ((List.reverse_perm _).append_right _).trans ?_
        rw [List.cons_append, whole]
      · have whole := runFrom_append (fun last item => !before item last) first
          (second :: later)
        rw [List.cons_append, whole]

theorem insert_perm (before : α → α → Bool) (ordered : List α) (item : α) :
    (insert before ordered item).Perm (item :: ordered) := by
  refine List.perm_middle.trans ?_
  rw [List.take_append_drop]

theorem foldl_insert_perm (before : α → α → Bool) (rest ordered : List α) :
    (rest.foldl (insert before) ordered).Perm (ordered ++ rest) := by
  induction rest generalizing ordered with
  | nil => simp
  | cons item later inductionHypothesis =>
      refine (inductionHypothesis _).trans ?_
      refine ((insert_perm before ordered item).append_right later).trans ?_
      exact List.perm_middle.symm

theorem sort_perm (before : α → α → Bool) (items : List α) :
    (sort before items).Perm items :=
  (foldl_insert_perm before _ _).trans (firstRun_perm before items)

end Folio.Bisection
