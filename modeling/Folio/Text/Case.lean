import Folio.Text
import Folio.Text.CaseTable

/-!
# Letter case

Full upper-, lower- and titlecase of characters and texts.  A character may map
to several characters (`ß` to `SS`), and the capital sigma has two lowercase
forms: `ς` at the end of a word and `σ` elsewhere.  Halves of surrogate pairs have no
case.
-/

namespace Folio.Text

/-- The mapping that first consults a table of expansions, then a table of
single partners, and otherwise leaves the character to the fallback. -/
def mapCase (expansions : List (Nat × List Nat)) (runs : List CaseRun)
    (fallback : CodePoint → List CodePoint) (character : CodePoint) : List CodePoint :=
  match findExpansion? character.code expansions with
  | some codes => codes.map .ofNat
  | none =>
      match CaseRun.find? character.code runs with
      | some code => [.ofNat code]
      | none => fallback character

def upperChar : CodePoint → List CodePoint :=
  mapCase upperExpansions upperRuns fun character => [character]

def lowerChar : CodePoint → List CodePoint :=
  mapCase lowerExpansions lowerRuns fun character => [character]

def titleChar : CodePoint → List CodePoint :=
  mapCase titleExpansions titleRuns upperChar

def isCased (character : CodePoint) : Bool :=
  inIntervals character.code casedIntervals

/-- The character is skipped when the context of a letter is examined. -/
def isCaseIgnorable (character : CodePoint) : Bool :=
  inIntervals character.code caseIgnorableIntervals

def startsCased (later : List CodePoint) : Bool :=
  match later.dropWhile isCaseIgnorable with
  | [] => false
  | character :: _ => isCased character

/-- Whether the last character that is not skipped is cased, after one more
character. -/
def casedAfter (casedBefore : Bool) (character : CodePoint) : Bool :=
  if isCaseIgnorable character then casedBefore else isCased character

def capitalSigma : CodePoint := 'Σ'

/-- The lowercase form of a capital sigma inside a word. -/
def medialSigma : CodePoint := 'σ'

/-- The lowercase form of a capital sigma at the end of a word. -/
def finalSigma : CodePoint := 'ς'

def lowerInContext (casedBefore : Bool) (character : CodePoint)
    (later : List CodePoint) : List CodePoint :=
  if character = capitalSigma then
    if casedBefore && !startsCased later then [finalSigma] else [medialSigma]
  else
    lowerChar character

/-- The lowercase form of a text whose left context is summarised by
`casedBefore`. -/
def lowerFrom (casedBefore : Bool) : List CodePoint → List CodePoint
  | [] => []
  | character :: later =>
      lowerInContext casedBefore character later ++
        lowerFrom (casedAfter casedBefore character) later

def lowerChars (characters : List CodePoint) : List CodePoint :=
  lowerFrom false characters

/-- The titlecase form of a text: a letter after a cased character is lowered
and every other one is titled.  `casedBefore` is the context of a sigma and
`insideWord` says that the preceding character is cased. -/
def titleFrom (casedBefore insideWord : Bool) : List CodePoint → List CodePoint
  | [] => []
  | character :: later =>
      (if insideWord then lowerInContext casedBefore character later
        else titleChar character) ++
        titleFrom (casedAfter casedBefore character) (isCased character) later

def lower (text : Text) : Text :=
  .ofList (lowerChars text.toList)

def title (text : Text) : Text :=
  .ofList (titleFrom false false text.toList)

def occursIn (needle : List CodePoint) : List CodePoint → Bool
  | [] => needle.isEmpty
  | character :: later =>
      needle.isPrefixOf (character :: later) || occursIn needle later

end Folio.Text
