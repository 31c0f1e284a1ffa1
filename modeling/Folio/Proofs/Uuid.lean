import Folio.Uuid
import Mathlib.Algebra.GroupWithZero.Nat
import Mathlib.Data.List.Basic
import Mathlib.Data.List.Induction

/-!
# Spellings of identifiers

An identifier is read back from the text that it is written as.  No spelling of an
identifier is empty or holds a slash, so each can be part of a path.
-/

namespace Folio

-- Powers of natural numbers, as in the definitions.
attribute [local instance (2000)] instPowNat

/-! ## Hexadecimal digits -/

namespace Text

theorem hexValue?_hexDigit {value : Nat} (small : value < 16) :
    hexValue? (hexDigit value) = some value := by
  have every : ∀ digit : Fin 16, hexValue? (hexDigit digit) = some digit.val := by
    decide
  exact every ⟨value, small⟩

theorem hexNat?_append (left : List Char) (digit : Char) :
    hexNat? (left ++ [digit]) =
      (hexNat? left).bind fun value =>
        (hexValue? digit).map fun next => 16 * value + next := by
  rw [hexNat?, List.foldl_append, ← hexNat?, List.foldl_cons, List.foldl_nil]
  cases hexNat? left with
  | none => rfl
  | some value => cases hexValue? digit <;> simp

@[simp] theorem fixedHex_length (width value : Nat) :
    (fixedHex width value).length = width := by
  induction width generalizing value with
  | zero => rfl
  | succ width inductionHypothesis => simp [fixedHex, inductionHypothesis]

/-- A number written with enough digits is read back. -/
theorem hexNat?_fixedHex (width value : Nat) :
    hexNat? (fixedHex width value) = some (value % 16 ^ width) := by
  induction width generalizing value with
  | zero => simp [fixedHex, hexNat?, Nat.mod_one]
  | succ width inductionHypothesis =>
      have split : value % 16 ^ (width + 1) =
          16 * (value / 16 % 16 ^ width) + value % 16 := by
        rw [Nat.pow_succ, Nat.mul_comm (16 ^ width) 16, Nat.mod_mul]
        omega
      rw [fixedHex, hexNat?_append, inductionHypothesis,
        hexValue?_hexDigit (Nat.mod_lt value (by decide)), split]
      rfl

theorem isSome_hexValue?_of_mem {digits : List Char} {value : Nat}
    (read : hexNat? digits = some value) {digit : Char} (present : digit ∈ digits) :
    (hexValue? digit).isSome = true := by
  induction digits using List.reverseRecOn generalizing value with
  | nil => cases present
  | append_singleton earlier last inductionHypothesis =>
      rw [hexNat?_append] at read
      obtain ⟨former, earlierRead, lastRead⟩ := Option.bind_eq_some_iff.mp read
      rcases List.mem_append.mp present with inEarlier | isLast
      · exact inductionHypothesis earlierRead inEarlier
      · obtain ⟨next, found, -⟩ := Option.map_eq_some_iff.mp lastRead
        rw [List.mem_singleton.mp isLast, found]
        rfl

end Text

namespace Uuid

/-! ## Reading back -/

theorem joinGroups?_cons {length next : Nat} {later : List Nat}
    {front back : List Char} (taken : front.length = length) :
    joinGroups? (length :: next :: later) (front ++ '-' :: back) =
      (joinGroups? (next :: later) back).map fun digits => front ++ digits := by
  rw [joinGroups?, List.drop_left' taken, List.take_left' taken]
  · rfl
  · exact List.cons_ne_nil next later

theorem joinGroups?_hyphenate {lengths : List Nat} (grouped : lengths ≠ [])
    {digits : List Char} (whole : digits.length = lengths.sum) :
    joinGroups? lengths (hyphenate lengths digits) = some digits := by
  induction lengths generalizing digits with
  | nil => exact absurd rfl grouped
  | cons length later inductionHypothesis =>
      cases later with
      | nil =>
          rw [List.sum_singleton] at whole
          rw [hyphenate, ← whole, List.take_length, joinGroups?, if_pos rfl]
      | cons next rest =>
          rw [List.sum_cons] at whole
          have taken : (digits.take length).length = length := by
            rw [List.length_take]
            omega
          have left : (digits.drop length).length = (next :: rest).sum := by
            rw [List.length_drop]
            omega
          rw [hyphenate, joinGroups?_cons taken,
            inductionHypothesis (List.cons_ne_nil next rest) left, Option.map_some,
            List.take_append_drop]
          nofun

theorem ofDigits?_fixedHex (id : Uuid) :
    ofDigits? (Text.fixedHex 32 id.bits.toNat) = some id := by
  have small : id.bits.toNat % 16 ^ 32 = id.bits.toNat :=
    Nat.mod_eq_of_lt id.bits.isLt
  rw [ofDigits?, if_pos (Text.fixedHex_length 32 _), Text.hexNat?_fixedHex, small,
    Option.map_some, BitVec.ofNat_toNat, BitVec.setWidth_eq]

theorem ofDigits?_hyphenate {digits : List Char} (whole : digits.length = 32) :
    ofDigits? (hyphenate groupLengths digits) = none := by
  have long : (hyphenate groupLengths digits).length = 36 := by
    simp [groupLengths, hyphenate, whole]
  rw [ofDigits?, if_neg]
  omega

/-- An identifier is read back from the text that it is written as. -/
theorem ofChars?_toText (id : Uuid) : ofChars? id.toText.toList = some id := by
  have whole := Text.fixedHex_length 32 id.bits.toNat
  have joined : joinGroups? groupLengths
      (hyphenate groupLengths (Text.fixedHex 32 id.bits.toNat)) =
        some (Text.fixedHex 32 id.bits.toNat) :=
    joinGroups?_hyphenate (by decide) whole
  unfold ofChars?
  rw [toText, String.toList_ofList, ofDigits?_hyphenate whole, ofHyphenated?, joined,
    Option.bind_some, ofDigits?_fixedHex]
  rfl

theorem toText_injective : Function.Injective toText := by
  intro left right same
  have read := ofChars?_toText left
  rw [same, ofChars?_toText right] at read
  exact (Option.some.inj read).symm

/-! ## Characters of spellings -/

theorem slash_notMem_of_ofDigits? {digits : List Char} {id : Uuid}
    (read : ofDigits? digits = some id) : '/' ∉ digits := by
  intro present
  unfold ofDigits? at read
  split at read
  · obtain ⟨value, found, -⟩ := Option.map_eq_some_iff.mp read
    have hexadecimal := Text.isSome_hexValue?_of_mem found present
    exact absurd hexadecimal (by decide)
  · cases read

theorem eq_or_mem_of_joinGroups? {lengths : List Nat} {characters digits : List Char}
    (joined : joinGroups? lengths characters = some digits) {character : Char}
    (present : character ∈ characters) : character = '-' ∨ character ∈ digits := by
  induction lengths generalizing characters digits with
  | nil => cases joined
  | cons length later inductionHypothesis =>
      cases later with
      | nil =>
          rw [joinGroups?] at joined
          split at joined
          · cases joined
            exact .inr present
          · cases joined
      | cons next rest =>
          rw [joinGroups?] at joined
          · split at joined
            · rename_i back dropped
              obtain ⟨others, found, rfl⟩ := Option.map_eq_some_iff.mp joined
              rw [← List.take_append_drop length characters, dropped,
                List.mem_append, List.mem_cons] at present
              rcases present with inFront | hyphen | inBack
              · exact .inr (List.mem_append_left _ inFront)
              · exact .inl hyphen
              · rcases inductionHypothesis found inBack with hyphen | digit
                · exact .inl hyphen
                · exact .inr (List.mem_append_right _ digit)
            · cases joined
          · nofun

theorem slash_notMem_of_ofHyphenated? {characters : List Char} {id : Uuid}
    (read : ofHyphenated? characters = some id) : '/' ∉ characters := by
  intro present
  obtain ⟨digits, joined, found⟩ := Option.bind_eq_some_iff.mp read
  rcases eq_or_mem_of_joinGroups? joined present with hyphen | digit
  · exact absurd hyphen (by decide)
  · exact slash_notMem_of_ofDigits? found digit

/-- No spelling of an identifier holds a slash. -/
theorem slash_notMem_of_ofChars? {characters : List Char} {id : Uuid}
    (read : ofChars? characters = some id) : '/' ∉ characters := by
  unfold ofChars? at read
  rcases Option.or_eq_some_iff.mp read with digits | ⟨-, rest⟩
  · exact slash_notMem_of_ofDigits? digits
  · rcases Option.or_eq_some_iff.mp rest with hyphenated | ⟨-, framed⟩
    · exact slash_notMem_of_ofHyphenated? hyphenated
    · split at framed
      · rename_i later
        split at framed
        · rename_i closed
          intro present
          rcases List.mem_cons.mp present with opening | inside
          · exact absurd opening (by decide)
          · have unclosing : some '/' ≠ later.getLast? := by
              rw [closed]
              decide
            exact slash_notMem_of_ofHyphenated? framed
              (List.mem_dropLast_of_mem_of_ne_getLast? inside unclosing)
        · cases framed
      · split at framed
        · rename_i named
          obtain ⟨rest, rfl⟩ := List.isPrefixOf_iff_prefix.mp named
          rw [List.drop_left] at framed
          intro present
          rcases List.mem_append.mp present with inHead | inRest
          · exact absurd inHead (by decide)
          · exact slash_notMem_of_ofHyphenated? framed inRest
        · cases framed

theorem ne_nil_of_ofChars? {characters : List Char} {id : Uuid}
    (read : ofChars? characters = some id) : characters ≠ [] := by
  rintro rfl
  cases read

end Uuid

end Folio
