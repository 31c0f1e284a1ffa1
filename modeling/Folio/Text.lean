/-!
# Texts

A text is a sequence of code points.  Halves of surrogate pairs are code points but
no characters: a text may hold them, and is then kept, compared and searched like
any other, but it cannot be encoded.  The texts that can be encoded are the strings.
-/

namespace Folio

/-- A code point of Unicode.  It may be half of a surrogate pair, which a `Char` is
not. -/
structure CodePoint where
  code : Nat
  inRange : code < 0x110000
  deriving DecidableEq

namespace CodePoint

theorem inRange_of_isValidChar {code : Nat} (valid : code.isValidChar) :
    code < 0x110000 := by
  rcases valid with low | ⟨-, high⟩
  · exact Nat.lt_trans low (by decide)
  · exact high

def ofChar (character : Char) : CodePoint where
  code := character.toNat
  inRange := inRange_of_isValidChar character.valid

instance : Coe Char CodePoint := ⟨ofChar⟩

/-- The code point with a code; zero stands in for codes that are out of range. -/
def ofNat (code : Nat) : CodePoint :=
  if inRange : code < 0x110000 then { code, inRange }
  else { code := 0, inRange := by decide }

/-- The character that a code point is, unless it is half of a surrogate pair. -/
def toChar? (point : CodePoint) : Option Char :=
  if valid : point.code.isValidChar then some (Char.ofNatAux point.code valid)
  else none

def isCharacter (point : CodePoint) : Bool :=
  point.toChar?.isSome

/-- A letter or digit of ASCII. -/
def isAlphanumeric (point : CodePoint) : Bool :=
  point.toChar?.any Char.isAlphanum

theorem eq_of_code_eq {first second : CodePoint} (same : first.code = second.code) :
    first = second := by
  cases first
  cases second
  cases same
  rfl

theorem code_ofNat {code : Nat} (inRange : code < 0x110000) :
    (ofNat code).code = code := by
  rw [ofNat, dif_pos inRange]

@[simp]
theorem ofNat_code (point : CodePoint) : ofNat point.code = point := by
  rw [ofNat, dif_pos point.inRange]

@[simp]
theorem ofChar_inj {first second : Char} :
    ofChar first = ofChar second ↔ first = second := by
  constructor
  · intro same
    exact Char.toNat_inj.mp (congrArg code same)
  · rintro rfl
    rfl

@[simp]
theorem toChar?_eq_some_iff {point : CodePoint} {character : Char} :
    point.toChar? = some character ↔ point = ofChar character := by
  constructor
  · intro known
    by_cases valid : point.code.isValidChar
    · rw [toChar?, dif_pos valid] at known
      cases known
      rfl
    · rw [toChar?, dif_neg valid] at known
      cases known
  · rintro rfl
    exact dif_pos character.valid

theorem isCharacter_iff {point : CodePoint} :
    point.isCharacter = true ↔ point.code.isValidChar := by
  unfold isCharacter toChar?
  by_cases valid : point.code.isValidChar
  · rw [dif_pos valid]
    exact iff_of_true rfl valid
  · rw [dif_neg valid]
    exact iff_of_false Bool.false_ne_true valid

@[simp]
theorem isCharacter_ofChar (character : Char) : (ofChar character).isCharacter = true := by
  rw [isCharacter, toChar?_eq_some_iff.mpr rfl, Option.isSome_some]

end CodePoint

structure Text where
  ofList ::
  toList : List CodePoint
  deriving DecidableEq

namespace Text

def ofString (string : String) : Text :=
  .ofList (string.toList.map .ofChar)

instance : Coe String Text := ⟨ofString⟩

instance : Append Text where
  append first second := .ofList (first.toList ++ second.toList)

instance : Inhabited Text := ⟨""⟩

/-- The string with the characters of a text, unless it holds half of a surrogate
pair. -/
def toString? (text : Text) : Option String :=
  (text.toList.mapM CodePoint.toChar?).map String.ofList

/-- All code points of the text are characters. -/
def isEncodable (text : Text) : Bool :=
  text.toList.all CodePoint.isCharacter

def startsWith (text beginning : Text) : Bool :=
  beginning.toList.isPrefixOf text.toList

def intercalate (separator : Text) : List Text → Text
  | [] => ""
  | [text] => text
  | text :: later => text ++ separator ++ intercalate separator later

/-- The codes of a text, by which texts are compared. -/
def codes (text : Text) : List Nat :=
  text.toList.map (·.code)

theorem toList_ofList (points : List CodePoint) : (ofList points).toList = points :=
  rfl

@[simp]
theorem ofList_toList (text : Text) : ofList text.toList = text :=
  rfl

theorem toList_injective {first second : Text} (same : first.toList = second.toList) :
    first = second :=
  congrArg ofList same

theorem toList_inj {first second : Text} :
    first.toList = second.toList ↔ first = second :=
  ⟨toList_injective, congrArg toList⟩

@[simp]
theorem toList_append (first second : Text) :
    (first ++ second).toList = first.toList ++ second.toList :=
  rfl

theorem toList_ofString (string : String) :
    (ofString string).toList = string.toList.map .ofChar :=
  rfl

@[simp]
theorem ofChar_mem_toList_ofString {character : Char} {string : String} :
    CodePoint.ofChar character ∈ (ofString string).toList ↔
      character ∈ string.toList := by
  simp [toList_ofString]

theorem codes_injective {first second : Text} (same : first.codes = second.codes) :
    first = second :=
  toList_injective
    ((List.map_inj_right fun _ _ => CodePoint.eq_of_code_eq).mp same)

theorem toList_eq_nil_iff {text : Text} : text.toList = [] ↔ text = "" := by
  rw [← toList_inj]
  rfl

/-! ## Strings -/

@[simp]
theorem ofString_inj {first second : String} :
    ofString first = ofString second ↔ first = second := by
  constructor
  · intro same
    have characters := congrArg toList same
    rw [toList_ofString, toList_ofString] at characters
    exact String.toList_injective
      ((List.map_inj_right fun _ _ => CodePoint.ofChar_inj.mp).mp characters)
  · rintro rfl
    rfl

theorem one_le_length_iff {string : String} :
    1 ≤ string.length ↔ ofString string ≠ "" := by
  rw [Nat.one_le_iff_ne_zero, ne_eq, ne_eq, String.length_eq_zero_iff, ofString_inj]

private theorem mapM_toChar?_eq_some_iff {points : List CodePoint}
    {characters : List Char} :
    points.mapM CodePoint.toChar? = some characters ↔
      points = characters.map .ofChar := by
  induction points generalizing characters with
  | nil => cases characters <;> simp
  | cons point later inductionHypothesis =>
      cases characters <;>
        simp [Option.bind_eq_some_iff, inductionHypothesis]

@[simp]
theorem toString?_eq_some_iff {text : Text} {string : String} :
    text.toString? = some string ↔ text = ofString string := by
  rw [toString?, Option.map_eq_some_iff]
  simp only [mapM_toChar?_eq_some_iff]
  constructor
  · rintro ⟨characters, points, rfl⟩
    apply toList_injective
    rw [points, toList_ofString, String.toList_ofList]
  · rintro rfl
    exact ⟨string.toList, rfl, String.ofList_toList⟩

@[simp]
theorem toString?_ofString (string : String) :
    (ofString string).toString? = some string :=
  toString?_eq_some_iff.mpr rfl

private theorem isSome_mapM_toChar? (points : List CodePoint) :
    (points.mapM CodePoint.toChar?).isSome = points.all CodePoint.isCharacter := by
  induction points with
  | nil => rfl
  | cons point later inductionHypothesis =>
      rw [List.all_cons, ← inductionHypothesis, CodePoint.isCharacter, List.mapM_cons]
      cases point.toChar? <;> cases later.mapM CodePoint.toChar? <;> rfl

theorem isEncodable_iff {text : Text} :
    text.isEncodable = true ↔ ∃ string : String, text = string := by
  simp only [← toString?_eq_some_iff, ← Option.isSome_iff_exists]
  rw [isEncodable, ← isSome_mapM_toChar?, toString?, Option.isSome_map]

@[simp]
theorem isEncodable_ofString (string : String) : (ofString string).isEncodable = true :=
  isEncodable_iff.mpr ⟨string, rfl⟩

end Text

end Folio
