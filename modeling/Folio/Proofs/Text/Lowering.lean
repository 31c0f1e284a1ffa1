import Folio.Text.Case
import Mathlib.Data.List.TakeWhile

/-!
# Lowercase forms of parts of texts

The lowercase form of a part is found in that of the whole text as long as every
capital sigma of the part ends a word in the text exactly if it ends a word in the
part.  A part of which this is true in all texts is settled, and only settled parts
are found in the lowercase forms of all texts that hold them.
-/

namespace Folio.Text

theorem occursIn_iff_isInfix {needle text : List CodePoint} :
    occursIn needle text = true ↔ needle <:+: text := by
  induction text with
  | nil => simp [occursIn]
  | cons character later inductionHypothesis =>
      rw [occursIn, Bool.or_eq_true, List.isPrefixOf_iff_prefix, inductionHypothesis,
        List.infix_cons_iff]

-- Half of a surrogate pair is not found as the character that stands in for it elsewhere.
example :
    let halved : Text := .ofList [.ofNat 0xD83D, .ofChar 'X']
    occursIn (lower "\uFFFD").toList (lower halved).toList = false ∧
      occursIn (lower "x").toList (lower halved).toList = true := by
  decide +kernel

/-! ## Contexts -/

/-- The last character that is not skipped is cased. -/
def endsCased (characters : List CodePoint) : Bool :=
  characters.foldl casedAfter false

/-- A capital sigma between these characters ends a word. -/
def endsWord (before after : List CodePoint) : Bool :=
  endsCased before && !startsCased after

/-- Nothing but skipped characters. -/
def IsSkipped (characters : List CodePoint) : Prop :=
  ∀ character ∈ characters, isCaseIgnorable character = true

/-- Every capital sigma of a part of a text ends a word in the text exactly if it
ends one in the part. -/
def KeepsSigmas (before part after : List CodePoint) : Prop :=
  ∀ first later, part = first ++ capitalSigma :: later →
    endsWord (before ++ first) (later ++ after) = endsWord first later

/-- Nothing around the part decides whether a capital sigma in it ends a word: a
cased letter follows in the part, or else the part has the letter before the sigma,
and that is not cased or has company after the sigma. -/
def IsSettled (part : List CodePoint) : Prop :=
  ∀ first later, part = first ++ capitalSigma :: later →
    startsCased later = true ∨
      ¬ IsSkipped first ∧ (endsCased first = false ∨ ¬ IsSkipped later)

theorem isSettled_of_notMem {part : List CodePoint} (absent : capitalSigma ∉ part) :
    IsSettled part := by
  rintro first later rfl
  exact absurd (List.mem_append_right first List.mem_cons_self) absent

section Contexts

variable {before after first later : List CodePoint}

theorem foldl_casedAfter_of_isSkipped (skipped : IsSkipped first) (cased : Bool) :
    first.foldl casedAfter cased = cased := by
  induction first generalizing cased with
  | nil => rfl
  | cons character rest inductionHypothesis =>
      have passed := skipped character List.mem_cons_self
      rw [List.foldl_cons, casedAfter, if_pos passed]
      apply inductionHypothesis
      intro other present
      exact skipped other (List.mem_cons_of_mem _ present)

/-- What stands before a character that is not skipped is forgotten. -/
theorem foldl_casedAfter_of_not_isSkipped (kept : ¬ IsSkipped first) (cased : Bool) :
    first.foldl casedAfter cased = endsCased first := by
  induction first generalizing cased with
  | nil =>
      refine absurd ?_ kept
      intro character present
      cases present
  | cons character rest inductionHypothesis =>
      rw [endsCased, List.foldl_cons, List.foldl_cons]
      by_cases skippedRest : IsSkipped rest
      · have own : ¬ isCaseIgnorable character = true := by
          intro passed
          apply kept
          intro other present
          rcases List.mem_cons.mp present with rfl | inRest
          · exact passed
          · exact skippedRest other inRest
        rw [casedAfter, casedAfter, if_neg own, if_neg own]
      · rw [inductionHypothesis skippedRest, inductionHypothesis skippedRest]

theorem foldl_casedAfter_mono (characters : List CodePoint)
    (cased : endsCased characters = true) :
    characters.foldl casedAfter true = true := by
  by_cases skipped : IsSkipped characters
  · exact foldl_casedAfter_of_isSkipped skipped true
  · rw [foldl_casedAfter_of_not_isSkipped skipped, cased]

theorem startsCased_append_of_isSkipped (skipped : IsSkipped later)
    (after : List CodePoint) : startsCased (later ++ after) = startsCased after := by
  unfold startsCased
  rw [List.dropWhile_append, List.dropWhile_eq_nil_iff.mpr skipped]
  rfl

theorem startsCased_append_of_not_isSkipped (kept : ¬ IsSkipped later)
    (after : List CodePoint) : startsCased (later ++ after) = startsCased later := by
  unfold startsCased
  rw [List.dropWhile_append]
  cases remaining : later.dropWhile isCaseIgnorable with
  | nil => exact absurd (List.dropWhile_eq_nil_iff.mp remaining) kept
  | cons character rest => rfl

theorem startsCased_of_isSkipped (skipped : IsSkipped later) :
    startsCased later = false := by
  unfold startsCased
  rw [List.dropWhile_eq_nil_iff.mpr skipped]

theorem startsCased_append_of_startsCased (cased : startsCased later = true)
    (after : List CodePoint) : startsCased (later ++ after) = true := by
  rw [startsCased_append_of_not_isSkipped _ after, cased]
  intro skipped
  rw [startsCased_of_isSkipped skipped] at cased
  cases cased

theorem endsCased_append (before first : List CodePoint) :
    endsCased (before ++ first) = first.foldl casedAfter (endsCased before) :=
  List.foldl_append

/-- A settled part keeps its sigmas in every text. -/
theorem IsSettled.keepsSigmas {part : List CodePoint} (settled : IsSettled part)
    (before after : List CodePoint) : KeepsSigmas before part after := by
  intro first later same
  unfold endsWord
  rcases settled first later same with followed | ⟨preceded, ended | continued⟩
  · rw [followed, startsCased_append_of_startsCased followed after]
    simp
  · rw [endsCased_append, foldl_casedAfter_of_not_isSkipped preceded, ended]
    simp
  · rw [endsCased_append, foldl_casedAfter_of_not_isSkipped preceded,
      startsCased_append_of_not_isSkipped continued]

end Contexts

/-! ## Lowercase forms in a context -/

/-- The lowercase form of characters in a text: `later` is what comes after them. -/
def lowerWithin (casedBefore : Bool) (later : List CodePoint) : List CodePoint → List CodePoint
  | [] => []
  | character :: rest =>
      lowerInContext casedBefore character (rest ++ later) ++
        lowerWithin (casedAfter casedBefore character) later rest

theorem lowerFrom_append (casedBefore : Bool) (part later : List CodePoint) :
    lowerFrom casedBefore (part ++ later) =
      lowerWithin casedBefore later part ++
        lowerFrom (part.foldl casedAfter casedBefore) later := by
  induction part generalizing casedBefore with
  | nil => rfl
  | cons character rest inductionHypothesis =>
      rw [List.cons_append, lowerFrom, inductionHypothesis, lowerWithin,
        List.append_assoc, List.foldl_cons]

theorem lowerWithin_nil (casedBefore : Bool) (part : List CodePoint) :
    lowerWithin casedBefore [] part = lowerFrom casedBefore part := by
  have whole := lowerFrom_append casedBefore part []
  rw [List.append_nil, lowerFrom, List.append_nil] at whole
  exact whole.symm

theorem lowerWithin_append (casedBefore : Bool) (first second later : List CodePoint) :
    lowerWithin casedBefore later (first ++ second) =
      lowerWithin casedBefore (second ++ later) first ++
        lowerWithin (first.foldl casedAfter casedBefore) later second := by
  induction first generalizing casedBefore with
  | nil => rfl
  | cons character rest inductionHypothesis =>
      rw [List.cons_append, lowerWithin, inductionHypothesis, lowerWithin,
        List.append_assoc, List.append_assoc, List.foldl_cons]

/-- The lowercase form of a capital sigma between these characters, where
`casedBefore` summarises what comes before them. -/
def sigmaAt (casedBefore : Bool) (first later : List CodePoint) : CodePoint :=
  if first.foldl casedAfter casedBefore && !startsCased later then finalSigma
  else medialSigma

theorem lowerInContext_sigma (casedBefore : Bool) (later : List CodePoint) :
    lowerInContext casedBefore capitalSigma later = [sigmaAt casedBefore [] later] := by
  rw [lowerInContext, if_pos rfl, sigmaAt, List.foldl_nil]
  split <;> rfl

theorem sigmaAt_eq_final_iff {casedBefore : Bool} {first later : List CodePoint} :
    sigmaAt casedBefore first later = finalSigma ↔
      first.foldl casedAfter casedBefore = true ∧ startsCased later = false := by
  unfold sigmaAt
  cases first.foldl casedAfter casedBefore <;> cases startsCased later <;> decide

theorem sigmaAt_eq_medial_iff {casedBefore : Bool} {first later : List CodePoint} :
    sigmaAt casedBefore first later = medialSigma ↔
      (first.foldl casedAfter casedBefore = true → startsCased later = true) := by
  unfold sigmaAt
  cases first.foldl casedAfter casedBefore <;> cases startsCased later <;> decide

theorem lowerInContext_other {character : CodePoint} (other : character ≠ capitalSigma)
    (casedBefore : Bool) (later : List CodePoint) :
    lowerInContext casedBefore character later = lowerChar character :=
  if_neg other

section Comparison

variable {casedHere casedThere : Bool} {laterHere laterThere part : List CodePoint}

/-- The context of a part decides about nothing but its sigmas. -/
theorem lowerWithin_eq_of_sigmas
    (same : ∀ first later, part = first ++ capitalSigma :: later →
      sigmaAt casedHere first (later ++ laterHere) =
        sigmaAt casedThere first (later ++ laterThere)) :
    lowerWithin casedHere laterHere part = lowerWithin casedThere laterThere part := by
  induction part generalizing casedHere casedThere with
  | nil => rfl
  | cons character rest inductionHypothesis =>
      rw [lowerWithin, lowerWithin]
      congr 1
      · by_cases sigma : character = capitalSigma
        · subst sigma
          rw [lowerInContext_sigma, lowerInContext_sigma, same [] rest rfl]
        · rw [lowerInContext_other sigma, lowerInContext_other sigma]
      · apply inductionHypothesis
        rintro first later rfl
        exact same (character :: first) later rfl

/-- A form of sigma is as frequent in one context as in another in which no sigma
loses it. -/
theorem count_lowerWithin_le {form : CodePoint}
    (kept : ∀ first later, part = first ++ capitalSigma :: later →
      sigmaAt casedHere first (later ++ laterHere) = form →
        sigmaAt casedThere first (later ++ laterThere) = form) :
    (lowerWithin casedHere laterHere part).count form ≤
      (lowerWithin casedThere laterThere part).count form := by
  induction part generalizing casedHere casedThere with
  | nil => exact Nat.le_refl _
  | cons character rest inductionHypothesis =>
      rw [lowerWithin, lowerWithin, List.count_append, List.count_append]
      apply Nat.add_le_add
      · by_cases sigma : character = capitalSigma
        · subst sigma
          have own := kept [] rest rfl
          rw [lowerInContext_sigma, lowerInContext_sigma, List.count_singleton,
            List.count_singleton]
          split
          · rename_i here
            rw [if_pos (beq_iff_eq.mpr (own (beq_iff_eq.mp here)))]
          · exact Nat.zero_le _
        · rw [lowerInContext_other sigma, lowerInContext_other sigma]
      · apply inductionHypothesis
        rintro first later rfl
        exact kept (character :: first) later rfl

/-- A form of sigma is less frequent where a sigma does not have it that has it in the
other context. -/
theorem count_lowerWithin_lt {form : CodePoint} {first later : List CodePoint}
    (kept : ∀ first later, part = first ++ capitalSigma :: later →
      sigmaAt casedHere first (later ++ laterHere) = form →
        sigmaAt casedThere first (later ++ laterThere) = form)
    (held : part = first ++ capitalSigma :: later)
    (here : sigmaAt casedHere first (later ++ laterHere) ≠ form)
    (there : sigmaAt casedThere first (later ++ laterThere) = form) :
    (lowerWithin casedHere laterHere part).count form <
      (lowerWithin casedThere laterThere part).count form := by
  subst held
  have earlierCount :
      (lowerWithin casedHere (capitalSigma :: later ++ laterHere) first).count form ≤
        (lowerWithin casedThere (capitalSigma :: later ++ laterThere) first).count form := by
    apply count_lowerWithin_le
    rintro start rest rfl
    have keptHere := kept start (rest ++ capitalSigma :: later)
      (by rw [List.append_assoc, List.cons_append])
    rwa [List.append_assoc, List.append_assoc] at keptHere
  have laterCount :
      (lowerWithin (casedAfter (first.foldl casedAfter casedHere) capitalSigma) laterHere
          later).count form ≤
        (lowerWithin (casedAfter (first.foldl casedAfter casedThere) capitalSigma) laterThere
          later).count form := by
    apply count_lowerWithin_le
    rintro start rest rfl
    have keptHere := kept (first ++ capitalSigma :: start) rest
      (by rw [List.append_assoc, List.cons_append])
    rwa [sigmaAt, sigmaAt, List.foldl_append, List.foldl_append] at keptHere
  rw [lowerWithin_append, lowerWithin_append, lowerWithin, lowerWithin,
    lowerInContext_sigma, lowerInContext_sigma]
  have hereForm : sigmaAt (first.foldl casedAfter casedHere) [] (later ++ laterHere) ≠
      form := here
  have thereForm : sigmaAt (first.foldl casedAfter casedThere) [] (later ++ laterThere) =
      form := there
  rw [thereForm, List.count_append, List.count_append, List.count_append,
    List.count_append, List.count_singleton_self, List.count_singleton,
    if_neg (by simpa using hereForm)]
  omega

end Comparison

/-! ## Parts of texts -/

@[simp] theorem toList_lower (text : Text) :
    (lower text).toList = lowerChars text.toList :=
  rfl

theorem lowerChars_append_append (before part after : List CodePoint) :
    lowerChars (before ++ part ++ after) =
      lowerWithin false (part ++ after) before ++
        lowerWithin (endsCased before) after part ++
          lowerFrom (part.foldl casedAfter (endsCased before)) after := by
  rw [lowerChars, List.append_assoc, lowerFrom_append, lowerFrom_append,
    List.append_assoc]
  rfl

/-- A part that keeps its sigmas is lowered in the text as it is alone. -/
theorem KeepsSigmas.isInfix_lowerChars {before part after : List CodePoint}
    (keeps : KeepsSigmas before part after) :
    lowerChars part <:+: lowerChars (before ++ part ++ after) := by
  have alone : lowerChars part = lowerWithin (endsCased before) after part := by
    rw [lowerChars, ← lowerWithin_nil]
    apply lowerWithin_eq_of_sigmas
    intro first later same
    have kept := keeps first later same
    rw [endsWord, endsWord, endsCased_append] at kept
    rw [sigmaAt, sigmaAt, kept, List.append_nil, endsCased]
  rw [lowerChars_append_append, ← alone]
  exact List.infix_append _ _ _

/-! ## Parts that are not settled -/

theorem casedAfter_letter (casedBefore : Bool) : casedAfter casedBefore 'a' = true := by
  cases casedBefore <;> decide +kernel

theorem lowerFrom_letter (casedBefore : Bool) (later : List CodePoint) :
    lowerFrom casedBefore ('a' :: later) = .ofChar 'a' :: lowerFrom true later := by
  have form : lowerChar 'a' = [.ofChar 'a'] := by
    decide +kernel
  rw [lowerFrom, lowerInContext_other (by decide), form, casedAfter_letter]
  rfl

theorem startsCased_letter (later : List CodePoint) : startsCased ('a' :: later) = true := by
  have kept : isCaseIgnorable 'a' = false := by
    decide +kernel
  have cased : isCased 'a' = true := by
    decide +kernel
  rw [startsCased, List.dropWhile_cons, if_neg (by simp [kept])]
  exact cased

section Unsettled

variable {part first later : List CodePoint}

/-- A letter in front makes a sigma end a word that has nothing before it. -/
theorem not_isInfix_of_isSkipped_first (held : part = first ++ capitalSigma :: later)
    (skipped : IsSkipped first) (uncased : startsCased later = false) :
    ¬ lowerChars part <:+: lowerChars ('a' :: part) := by
  intro within
  have fewer : (lowerWithin true [] part).count medialSigma <
      (lowerWithin false [] part).count medialSigma := by
    refine count_lowerWithin_lt ?_ held ?_ ?_
    · intro start rest _ medial
      rw [sigmaAt_eq_medial_iff] at medial ⊢
      intro cased
      exact medial (foldl_casedAfter_mono start cased)
    · rw [Ne, sigmaAt_eq_medial_iff, foldl_casedAfter_of_isSkipped skipped,
        List.append_nil, uncased]
      decide
    · rw [sigmaAt_eq_medial_iff, foldl_casedAfter_of_isSkipped skipped]
      nofun
  have atMost := within.sublist.count_le medialSigma
  rw [lowerChars, lowerChars, lowerFrom_letter, ← lowerWithin_nil, ← lowerWithin_nil,
    List.count_cons_of_ne (by decide)] at atMost
  omega

/-- A letter behind makes a sigma stay inside the word that it ended. -/
theorem not_isInfix_of_isSkipped_later (held : part = first ++ capitalSigma :: later)
    (cased : endsCased first = true) (skipped : IsSkipped later) :
    ¬ lowerChars part <:+: lowerChars (part ++ [.ofChar 'a']) := by
  intro within
  have fewer : (lowerWithin false ['a'] part).count finalSigma <
      (lowerWithin false [] part).count finalSigma := by
    refine count_lowerWithin_lt ?_ held ?_ ?_
    · intro start rest _ final
      rw [sigmaAt_eq_final_iff] at final ⊢
      refine ⟨final.1, ?_⟩
      rw [List.append_nil, ← Bool.not_eq_true]
      intro followed
      have alike := startsCased_append_of_startsCased followed ['a']
      rw [final.2] at alike
      cases alike
    · rw [Ne, sigmaAt_eq_final_iff, startsCased_append_of_isSkipped skipped,
        startsCased_letter]
      rintro ⟨-, impossible⟩
      cases impossible
    · rw [sigmaAt_eq_final_iff, List.append_nil]
      exact ⟨cased, startsCased_of_isSkipped skipped⟩
  have atMost := within.sublist.count_le finalSigma
  rw [lowerChars, lowerChars, lowerFrom_append, lowerFrom_letter, ← lowerWithin_nil,
    List.count_append, List.count_cons_of_ne (by decide), lowerFrom,
    List.count_nil] at atMost
  omega

end Unsettled

/-- The settled parts are those whose lowercase form is found in that of every text
that holds them. -/
theorem isSettled_iff {part : List CodePoint} :
    IsSettled part ↔
      ∀ before after, lowerChars part <:+: lowerChars (before ++ part ++ after) := by
  constructor
  · intro settled before after
    exact (settled.keepsSigmas before after).isInfix_lowerChars
  · intro found first later held
    have front := found ['a'] []
    have back := found [] ['a']
    rw [List.append_nil] at front
    by_contra unsettled
    rw [not_or, Bool.not_eq_true] at unsettled
    obtain ⟨uncased, undecided⟩ := unsettled
    by_cases skippedFirst : IsSkipped first
    · exact not_isInfix_of_isSkipped_first held skippedFirst uncased front
    · rw [not_and, not_or, not_not, Bool.not_eq_false] at undecided
      obtain ⟨cased, skippedLater⟩ := undecided skippedFirst
      exact not_isInfix_of_isSkipped_later held cased skippedLater back

end Folio.Text
