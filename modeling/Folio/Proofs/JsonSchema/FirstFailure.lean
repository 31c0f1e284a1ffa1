import Folio.Proofs.JsonSchema.Reachable

/-!
# What inlining fails for

A traversal looks at one node after the other, and comes to the next one once those
before it are done.  Inlining fails for what its traversal meets first: a reference
without a definition, or one that it has met on the way.  Where it meets nothing of the
kind it succeeds.
-/

namespace Folio.JsonSchema

open Relation

variable {definitions available : Members} {node : Json} {failure : Failure}

/-! ## What is met first -/

/-- What the traversal looks at next.  It comes to an item or a member once those before
it can be followed to an end. -/
inductive Visits (definitions : Members) : Json → Json → Prop
  | item {items earlier later : List Json} {item : Json}
      (split : items = earlier ++ item :: later)
      (done : ∀ other ∈ earlier, Resolvable definitions other) :
      Visits definitions (.arr items) item
  | member {members earlier later : Members} {name : Text} {value : Json}
      (unreferring : referenceName? members = none)
      (split : members = earlier ++ (name, value) :: later)
      (done : ∀ other ∈ earlier, Resolvable definitions other.2) :
      Visits definitions (.obj members) value
  | definition {members : Members} {name : Text} {target : Json}
      (referring : referenceName? members = some name)
      (found : Members.find? name definitions = some target) :
      Visits definitions (.obj members) target

theorem Visits.leads {child : Json} (visits : Visits definitions node child) :
    Leads definitions node child := by
  cases visits with
  | item split done => exact .item (by simp [split])
  | @member members earlier later name value unreferring split done =>
      have present : (name, child) ∈ members := by simp [split]
      exact .member unreferring present
  | definition referring found => exact .definition referring found

/-- What the traversal of a node meets where it cannot go on: a reference without a
definition, or one that it has met on the way. -/
inductive Meets (definitions : Members) (node : Json) : Failure → Prop
  | missing {reference : Json} {name : Text}
      (path : ReflTransGen (Visits definitions) node reference)
      (refers : RefersTo reference name)
      (undefined : Members.find? name definitions = none) :
      Meets definitions node (.unknownKey (.str name))
  | endless {reference : Json} {name : Text}
      (path : ReflTransGen (Visits definitions) node reference)
      (refers : RefersTo reference name)
      (loop : TransGen (Visits definitions) reference reference) :
      Meets definitions node .endlessReference

theorem Meets.head {child : Json} (visits : Visits definitions node child)
    (meets : Meets definitions child failure) : Meets definitions node failure := by
  cases meets with
  | missing path refers undefined => exact .missing (path.head visits) refers undefined
  | endless path refers loop => exact .endless (path.head visits) refers loop

/-- What may not be followed any more has been followed to the node. -/
def Followed (definitions available : Members) (node : Json) : Prop :=
  ∀ name target, Members.find? name definitions = some target →
    Members.find? name available = none → ReflTransGen (Visits definitions) target node

theorem Followed.tail {child : Json} (followed : Followed definitions available node)
    (visits : Visits definitions node child) : Followed definitions available child := by
  intro name target found unavailable
  exact (followed name target found unavailable).tail visits

theorem Followed.without {members : Members} {name : Text} {target : Json}
    (followed : Followed definitions available (.obj members))
    (referring : referenceName? members = some name)
    (found : Members.find? name definitions = some target) :
    Followed definitions (without name available) target := by
  intro other body bodyFound unavailable
  rw [find?_without] at unavailable
  split at unavailable
  · rename_i same
    subst same
    rw [Option.some.inj (found.symm.trans bodyFound)]
  · exact (followed other body bodyFound unavailable).tail (.definition referring found)

/-! ### Runs that fail -/

theorem inlineValue_obj_eq_error {members : Members}
    (unreferring : referenceName? members = none)
    (failed : inlineValue definitions available (.obj members) = .error failure) :
    inlineMembers definitions available members = .error failure := by
  cases outcome : inlineMembers definitions available members with
  | ok results =>
      have inlined := (inlineValue_obj_eq_ok_iff unreferring).mpr ⟨results, outcome, rfl⟩
      rw [inlined] at failed
      cases failed
  | error other =>
      rw [inlineValue] at failed
      split at failed
      · rename_i name referring
        rw [unreferring] at referring
        cases referring
      · simpa [outcome, Except.map] using failed

theorem inlineValue_arr_eq_error {items : List Json}
    (failed : inlineValue definitions available (.arr items) = .error failure) :
    inlineItems definitions available items = .error failure := by
  rw [inlineValue] at failed
  cases outcome : inlineItems definitions available items with
  | ok results => simp [outcome, Except.map] at failed
  | error other => simpa [outcome, Except.map] using failed

theorem inlineItems_cons_eq_error {item : Json} {later : List Json}
    (failed : inlineItems definitions available (item :: later) = .error failure) :
    inlineValue definitions available item = .error failure ∨
      (∃ result, inlineValue definitions available item = .ok result) ∧
        inlineItems definitions available later = .error failure := by
  rw [inlineItems] at failed
  cases inlined : inlineValue definitions available item with
  | error other => simpa [inlined, bind, Except.bind] using failed
  | ok result =>
      cases rest : inlineItems definitions available later with
      | error other => simpa [inlined, rest, bind, Except.bind] using failed
      | ok results => simp [inlined, rest, bind, Except.bind, pure, Except.pure] at failed

theorem inlineMembers_cons_eq_error {name : Text} {value : Json} {later : Members}
    (failed : inlineMembers definitions available ((name, value) :: later) =
      .error failure) :
    inlineValue definitions available value = .error failure ∨
      (∃ result, inlineValue definitions available value = .ok result) ∧
        inlineMembers definitions available later = .error failure := by
  rw [inlineMembers] at failed
  cases inlined : inlineValue definitions available value with
  | error other => simpa [inlined, bind, Except.bind] using failed
  | ok result =>
      cases rest : inlineMembers definitions available later with
      | error other => simpa [inlined, rest, bind, Except.bind] using failed
      | ok results => simp [inlined, rest, bind, Except.bind, pure, Except.pure] at failed

/-- What was inlined on the way can be followed to an end. -/
theorem resolvable_of_inlineValue (part : IsPartOf available definitions)
    (succeeds : ∃ result, inlineValue definitions available node = .ok result) :
    Resolvable definitions node := by
  obtain ⟨result, inlined⟩ := succeeds
  exact resolvable_of_inlineReferences ⟨result, inlineValue_of_isPartOf inlined _ part⟩

/-- A run that fails has met what it fails for. -/
theorem meets_of_inlineValue (available : Members) (node : Json) :
    IsPartOf available definitions → Followed definitions available node →
      ∀ failure, inlineValue definitions available node = .error failure →
        Meets definitions node failure := by
  apply inlineValue.induct
    (fun available node => IsPartOf available definitions →
      Followed definitions available node → ∀ failure,
        inlineValue definitions available node = .error failure →
          Meets definitions node failure)
    -- The traversal of a list is a part of that of the whole: its beginning is done.
    (fun available items => IsPartOf available definitions → ∀ earlier,
      (∀ other ∈ earlier, Resolvable definitions other) →
        Followed definitions available (.arr (earlier ++ items)) → ∀ failure,
          inlineItems definitions available items = .error failure →
            Meets definitions (.arr (earlier ++ items)) failure)
    (fun available members => IsPartOf available definitions → ∀ earlier,
      (∀ other ∈ earlier, Resolvable definitions other.2) →
        referenceName? (earlier ++ members) = none →
          Followed definitions available (.obj (earlier ++ members)) → ∀ failure,
            inlineMembers definitions available members = .error failure →
              Meets definitions (.obj (earlier ++ members)) failure)
  case case1 =>
    intro available members name referring target found inductionHypothesis part followed
      failure failed
    rw [inlineValue_reference referring found] at failed
    have defined := part name target found
    exact (inductionHypothesis (part.without name) (followed.without referring defined)
      failure failed).head (.definition referring defined)
  case case2 =>
    intro available members name referring missing part followed failure failed
    rw [inlineValue_missing referring missing, Except.error.injEq] at failed
    subst failed
    have refers : RefersTo (.obj members) name := ⟨members, rfl, referring⟩
    unfold unfollowed
    cases found : Members.find? name definitions with
    | none => exact .missing .refl refers found
    | some target =>
        exact .endless .refl refers
          (.head' (.definition referring found) (followed name target found missing))
  case case3 =>
    intro available members unreferring inductionHypothesis part followed failure failed
    exact inductionHypothesis part [] (by simp) unreferring followed failure
      (inlineValue_obj_eq_error unreferring failed)
  case case4 =>
    intro available items inductionHypothesis part followed failure failed
    exact inductionHypothesis part [] (by simp) followed failure
      (inlineValue_arr_eq_error failed)
  case case5 =>
    intro available other noObject noList part followed failure failed
    rw [inlineValue.eq_3 _ _ _ noObject noList] at failed
    cases failed
  case case6 =>
    intro available part earlier done followed failure failed
    rw [inlineItems] at failed
    cases failed
  case case7 =>
    intro available item later itemHypothesis laterHypothesis part earlier done followed
      failure failed
    have visits : Visits definitions (.arr (earlier ++ item :: later)) item := .item rfl done
    cases inlineItems_cons_eq_error failed with
    | inl itemFailed =>
        exact (itemHypothesis part (followed.tail visits) failure itemFailed).head visits
    | inr laterFailed =>
        obtain ⟨succeeds, laterFailed⟩ := laterFailed
        have doneToo : ∀ other ∈ earlier ++ [item], Resolvable definitions other :=
          List.forall_mem_append.mpr
            ⟨done, List.forall_mem_singleton.mpr (resolvable_of_inlineValue part succeeds)⟩
        have meets := laterHypothesis part (earlier ++ [item]) doneToo
          (by rwa [List.append_assoc]) failure laterFailed
        rwa [List.append_assoc] at meets
  case case8 =>
    intro available part earlier done unreferring followed failure failed
    rw [inlineMembers] at failed
    cases failed
  case case9 =>
    intro available name value later valueHypothesis laterHypothesis part earlier done
      unreferring followed failure failed
    have visits : Visits definitions (.obj (earlier ++ (name, value) :: later)) value :=
      .member unreferring rfl done
    cases inlineMembers_cons_eq_error failed with
    | inl valueFailed =>
        exact (valueHypothesis part (followed.tail visits) failure valueFailed).head visits
    | inr laterFailed =>
        obtain ⟨succeeds, laterFailed⟩ := laterFailed
        have doneToo : ∀ other ∈ earlier ++ [(name, value)],
            Resolvable definitions other.2 :=
          List.forall_mem_append.mpr
            ⟨done, List.forall_mem_singleton.mpr (resolvable_of_inlineValue part succeeds)⟩
        have meets := laterHypothesis part (earlier ++ [(name, value)]) doneToo
          (by rwa [List.append_assoc]) (by rwa [List.append_assoc]) failure laterFailed
        rwa [List.append_assoc] at meets

theorem meets_of_inlineReferences
    (failed : inlineReferences definitions node = .error failure) :
    Meets definitions node failure := by
  refine meets_of_inlineValue definitions node (.refl definitions) ?_ failure failed
  intro name target found unavailable
  rw [found] at unavailable
  cases unavailable

/-! ### One failure -/

theorem reaches_of_visits {other : Json} (path : ReflTransGen (Visits definitions) node other) :
    ReflTransGen (Leads definitions) node other :=
  ReflTransGen.mono (fun _ _ => Visits.leads) _ _ path

theorem not_resolvable_of_meets (meets : Meets definitions node failure) :
    ¬ Resolvable definitions node := by
  intro resolvable
  cases meets with
  | missing path refers undefined =>
      obtain ⟨target, found⟩ := resolvable.defined _ _ (reaches_of_visits path) refers
      rw [undefined] at found
      cases found
  | endless path refers loop =>
      exact resolvable.acyclic _ _ (reaches_of_visits path) refers
        (TransGen.mono (fun _ _ => Visits.leads) _ _ loop)

/-- Inlining succeeds exactly if all references that are reached can be followed to an
end. -/
theorem exists_inlineReferences_iff :
    (∃ result, inlineReferences definitions node = .ok result) ↔
      Resolvable definitions node := by
  constructor
  · exact resolvable_of_inlineReferences
  · intro resolvable
    cases outcome : inlineReferences definitions node with
    | ok result => exact ⟨result, rfl⟩
    | error failure =>
        exact absurd resolvable (not_resolvable_of_meets (meets_of_inlineReferences outcome))

/-- The traversal goes on where it will come to a stop. -/
def Stumbles (definitions : Members) (node child : Json) : Prop :=
  Visits definitions node child ∧ ¬ Resolvable definitions child

theorem stumbles_of_visits {other : Json} (path : ReflTransGen (Visits definitions) node other)
    (stuck : ¬ Resolvable definitions other) :
    ReflTransGen (Stumbles definitions) node other := by
  induction path with
  | refl => exact .refl
  | @tail between last _ visits inductionHypothesis =>
      have stuckBefore : ¬ Resolvable definitions between :=
        mt (fun resolvable => resolvable.of_leads visits.leads) stuck
      exact (inductionHypothesis stuckBefore).tail ⟨visits, stuck⟩

/-- Of two items with nothing but good ones before them, neither is good itself only if
they are the same. -/
theorem eq_of_first {α : Type} (good : α → Prop) {earlier later : List α} {item : α}
    (fine : ∀ before ∈ earlier, good before) (bad : ¬ good item)
    {otherEarlier otherLater : List α} {other : α}
    (otherFine : ∀ before ∈ otherEarlier, good before) (otherBad : ¬ good other)
    (same : earlier ++ item :: later = otherEarlier ++ other :: otherLater) :
    item = other := by
  induction earlier generalizing otherEarlier with
  | nil =>
      cases otherEarlier with
      | nil => exact (List.cons.inj same).1
      | cons first rest =>
          rw [(List.cons.inj same).1] at bad
          exact absurd (otherFine first List.mem_cons_self) bad
  | cons head tail inductionHypothesis =>
      cases otherEarlier with
      | nil =>
          rw [← (List.cons.inj same).1] at otherBad
          exact absurd (fine head List.mem_cons_self) otherBad
      | cons first rest =>
          exact inductionHypothesis (fun before present => fine before (.tail head present))
            (fun before present => otherFine before (.tail first present))
            (List.cons.inj same).2

theorem rightUnique_stumbles : Relator.RightUnique (Stumbles definitions) := by
  intro node left right first second
  obtain ⟨leftVisits, leftStuck⟩ := first
  obtain ⟨rightVisits, rightStuck⟩ := second
  cases leftVisits with
  | item split done =>
      cases rightVisits with
      | item otherSplit otherDone =>
          exact eq_of_first (Resolvable definitions) done leftStuck otherDone rightStuck
            (split.symm.trans otherSplit)
  | member unreferring split done =>
      cases rightVisits with
      | member _ otherSplit otherDone =>
          have same := eq_of_first (fun member => Resolvable definitions member.2) done
            leftStuck otherDone rightStuck (split.symm.trans otherSplit)
          exact congrArg Prod.snd same
      | definition referring found =>
          rw [unreferring] at referring
          cases referring
  | definition referring found =>
      cases rightVisits with
      | member unreferring _ _ =>
          rw [unreferring] at referring
          cases referring
      | definition otherReferring otherFound =>
          obtain rfl := Option.some.inj (referring.symm.trans otherReferring)
          exact Option.some.inj (found.symm.trans otherFound)

/-- Where every step is settled, a loop is never left. -/
theorem transGen_back {α : Type} {leads : α → α → Prop} (unique : Relator.RightUnique leads)
    {start other : α} (loop : TransGen leads start start)
    (path : ReflTransGen leads start other) : TransGen leads other start := by
  induction path with
  | refl => exact loop
  | @tail between last _ step inductionHypothesis =>
      obtain ⟨next, first, back⟩ := TransGen.head'_iff.mp inductionHypothesis
      obtain rfl := unique step first
      exact .trans_right back loop

theorem not_stumbles_of_undefined {reference child : Json} {name : Text}
    (refers : RefersTo reference name) (undefined : Members.find? name definitions = none) :
    ¬ Stumbles definitions reference child := by
  intro step
  obtain ⟨members, rfl, referring⟩ := refers
  have found := (leads_reference_iff referring).mp step.1.leads
  rw [undefined] at found
  cases found

theorem RefersTo.unique {reference : Json} {name other : Text}
    (refers : RefersTo reference name) (refersToo : RefersTo reference other) :
    name = other := by
  obtain ⟨members, rfl, referring⟩ := refers
  obtain ⟨otherMembers, same, otherReferring⟩ := refersToo
  cases same
  exact Option.some.inj (referring.symm.trans otherReferring)

/-- A reference without a definition is where the traversal ends, whatever else it might
come to. -/
theorem stumbles_of_undefined {reference other : Json} {name : Text}
    (path : ReflTransGen (Visits definitions) node reference) (refers : RefersTo reference name)
    (undefined : Members.find? name definitions = none)
    (otherPath : ReflTransGen (Visits definitions) node other)
    (stuck : ¬ Resolvable definitions other) :
    ReflTransGen (Stumbles definitions) other reference := by
  have missing : Meets definitions reference (.unknownKey (.str name)) :=
    .missing .refl refers undefined
  have ending := stumbles_of_visits path (not_resolvable_of_meets missing)
  have otherEnding := stumbles_of_visits otherPath stuck
  cases ReflTransGen.total_of_right_unique rightUnique_stumbles otherEnding ending with
  | inl onward => exact onward
  | inr onward =>
      cases onward.cases_head with
      | inl same => rw [same]
      | inr further =>
          obtain ⟨child, step, -⟩ := further
          exact absurd step (not_stumbles_of_undefined refers undefined)

/-- The traversal cannot both end at a reference without a definition and go around a
loop. -/
theorem not_endless_of_undefined {reference looping : Json} {name loopingName : Text}
    (path : ReflTransGen (Visits definitions) node reference) (refers : RefersTo reference name)
    (undefined : Members.find? name definitions = none)
    (loopingPath : ReflTransGen (Visits definitions) node looping)
    (loopingRefers : RefersTo looping loopingName) :
    ¬ TransGen (Visits definitions) looping looping := by
  intro loop
  have stuck := not_resolvable_of_meets (.endless .refl loopingRefers loop)
  have onward := stumbles_of_undefined path refers undefined loopingPath stuck
  obtain ⟨between, around, last⟩ := TransGen.tail'_iff.mp loop
  have stuckBefore : ¬ Resolvable definitions between :=
    mt (fun resolvable => resolvable.of_leads last.leads) stuck
  have stumblingLoop : TransGen (Stumbles definitions) looping looping :=
    .tail' (stumbles_of_visits around stuckBefore) ⟨last, stuck⟩
  obtain ⟨child, step, -⟩ :=
    TransGen.head'_iff.mp (transGen_back rightUnique_stumbles stumblingLoop onward)
  exact not_stumbles_of_undefined refers undefined step

theorem Meets.unique (meets : Meets definitions node failure) {other : Failure}
    (meetsToo : Meets definitions node other) : failure = other := by
  cases meets with
  | missing path refers undefined =>
      cases meetsToo with
      | missing otherPath otherRefers otherUndefined =>
          have stuck := not_resolvable_of_meets (.missing .refl otherRefers otherUndefined)
          have onward := stumbles_of_undefined path refers undefined otherPath stuck
          cases onward.cases_head with
          | inl same =>
              subst same
              rw [refers.unique otherRefers]
          | inr further =>
              obtain ⟨child, step, -⟩ := further
              exact absurd step (not_stumbles_of_undefined otherRefers otherUndefined)
      | endless otherPath otherRefers loop =>
          exact absurd loop
            (not_endless_of_undefined path refers undefined otherPath otherRefers)
  | endless path refers loop =>
      cases meetsToo with
      | missing otherPath otherRefers undefined =>
          exact absurd loop
            (not_endless_of_undefined otherPath otherRefers undefined path refers)
      | endless _ _ _ => rfl

/-- Inlining fails for what the traversal meets first, and only for that. -/
theorem inlineReferences_eq_error_iff :
    inlineReferences definitions node = .error failure ↔ Meets definitions node failure := by
  constructor
  · exact meets_of_inlineReferences
  · intro meets
    cases outcome : inlineReferences definitions node with
    | ok result =>
        exact absurd (resolvable_of_inlineReferences ⟨result, outcome⟩)
          (not_resolvable_of_meets meets)
    | error other => rw [(meets_of_inlineReferences outcome).unique meets]

end Folio.JsonSchema
