import Folio.Http.Service

/-!
# What requests ask for

The path and the method of a request decide which operation it asks for.  The
answer is that of the operation, whatever is said to other origins about it.
-/

namespace Folio.Http

/-! ## Other origins -/

namespace CrossOrigin

variable {allowed : List Text} {request : Request} {response : Response}

@[simp] theorem annotate_status :
    (annotate allowed request response).status = response.status := by
  unfold annotate
  split <;> rfl

@[simp] theorem annotate_body :
    (annotate allowed request response).body = response.body := by
  unfold annotate
  split <;> rfl

theorem preflight?_eq_none (direct : request.method ≠ "OPTIONS") :
    preflight? allowed request = none := by
  unfold preflight?
  cases request.header? "origin" with
  | none => rfl
  | some origin =>
      cases request.header? "access-control-request-method" with
      | none => rfl
      | some method => exact if_neg direct

end CrossOrigin

/-! ## Answers to operations -/

/-- What a client is told about the outcome of an operation. -/
def reply : Except Failure Response → Response
  | .ok response => response
  | .error _ => .ofAnswer .internalError

namespace Service

variable {request : Request}

theorem respond_of_direct (service : Service) (fresh : Fresh)
    (direct : CrossOrigin.preflight? service.origins request = none) :
    (service.respond fresh request).1.status =
        (reply (service.route fresh request).1).status ∧
      (service.respond fresh request).1.body =
        (reply (service.route fresh request).1).body ∧
      (service.respond fresh request).2 =
        { service with store := (service.route fresh request).2 } := by
  unfold respond
  rw [direct]
  cases service.route fresh request with
  | mk outcome store => cases outcome <;> simp [reply]

theorem route_of_target (service : Service) (fresh : Fresh) {target : Target}
    (found : findTarget request = .ok target) :
    service.route fresh request = service.perform fresh request target := by
  rw [route, found]

end Service

/-! ## Paths and methods -/

/-- The character stands for itself in a path. -/
def IsUnescaped (character : Char) : Prop :=
  character.toNat < 0x80 ∧ character ≠ '%'

instance (character : Char) : Decidable (IsUnescaped character) :=
  inferInstanceAs (Decidable (character.toNat < 0x80 ∧ character ≠ '%'))

theorem decodeOctets_toNat {characters : List Char}
    (plain : ∀ character ∈ characters, character.toNat < 0x80) :
    Text.decodeOctets none (characters.map Char.toNat) = characters := by
  induction characters with
  | nil => rw [List.map_nil, Text.decodeOctets]
  | cons character later inductionHypothesis =>
      have laterDecoded := inductionHypothesis fun other present =>
        plain other (List.mem_cons_of_mem _ present)
      rw [List.map_cons, Text.decodeOctets]
      rw [Text.decodeStart, if_pos (plain character List.mem_cons_self), laterDecoded,
        Char.ofNat_toNat]

theorem unescapeFrom_of_unescaped {characters : List Char}
    (plain : ∀ character ∈ characters, IsUnescaped character) (octets : List Nat) :
    unescapeFrom octets 0 characters =
      Text.decodeOctets none (octets.reverse ++ characters.map Char.toNat) := by
  induction characters generalizing octets with
  | nil => rw [unescapeFrom, List.map_nil, List.append_nil]
  | cons character later inductionHypothesis =>
      obtain ⟨small, unmarked⟩ := plain character List.mem_cons_self
      have itself : nextOctet character later = (character.toNat, 0) := by
        unfold nextOctet
        split
        · exact absurd rfl unmarked
        · rfl
      have laterDecoded := inductionHypothesis
        (fun other present => plain other (List.mem_cons_of_mem _ present))
        (character.toNat :: octets)
      rw [unescapeFrom]
      dsimp only
      rw [if_pos small, itself]
      dsimp only
      rw [laterDecoded, List.reverse_cons, List.append_assoc, List.map_cons]
      rfl

/-- A path without escapes is taken as it is. -/
theorem unescape_of_unescaped {characters : List Char}
    (plain : ∀ character ∈ characters, IsUnescaped character) :
    unescape characters = characters := by
  rw [unescape, unescapeFrom_of_unescaped plain, List.reverse_nil, List.nil_append]
  exact decodeOctets_toNat fun character present => (plain character present).1

theorem unescape_articlesPath :
    unescape Route.articlesPath.toList = Route.articlesPath.toList := by
  apply unescape_of_unescaped
  simp [Route.articlesPath, IsUnescaped]

section Targets

variable {request : Request}

/-- A request asks for what the first of the candidates asks for that goes by its
method. -/
theorem findTarget_eq_ok_iff {target : Target} :
    findTarget request = .ok target ↔
      ∃ route, (Route.candidates (unescape request.path.toList)).find?
          (fun candidate => candidate.1.methods.contains request.method) =
            some (route, target) := by
  unfold findTarget
  dsimp only
  split
  · rename_i route found same
    rw [same]
    constructor
    · rintro ⟨⟩
      exact ⟨route, rfl⟩
    · rintro ⟨other, ⟨⟩⟩
      rfl
  · rename_i missing
    rw [missing]
    constructor
    · split
      · nofun
      · split <;> nofun
    · nofun

theorem findTarget_list (get : request.method = "GET")
    (addressed : unescape request.path.toList = Route.articlesPath.toList) :
    findTarget request = .ok .listArticles := by
  apply findTarget_eq_ok_iff.mpr
  refine ⟨.listArticles, ?_⟩
  rw [addressed, get]
  decide

theorem findTarget_create (post : request.method = "POST")
    (addressed : unescape request.path.toList = Route.articlesPath.toList) :
    findTarget request = .ok .createArticle := by
  apply findTarget_eq_ok_iff.mpr
  refine ⟨.createArticle, ?_⟩
  rw [addressed, post]
  decide

/-- Only a POST asks for a new article. -/
theorem method_of_createArticle (found : findTarget request = .ok .createArticle) :
    request.method = "POST" := by
  obtain ⟨route, candidate⟩ := findTarget_eq_ok_iff.mp found
  have allowed := List.find?_some candidate
  have present := List.mem_of_find?_eq_some candidate
  obtain ⟨other, -, leads⟩ := List.mem_filterMap.mp present
  obtain ⟨target, asked, same⟩ := Option.map_eq_some_iff.mp leads
  cases same
  have creating : route = .createArticle := by
    cases route with
    | createArticle => rfl
    | showArticle =>
        obtain ⟨part, -, impossible⟩ := Option.map_eq_some_iff.mp asked
        cases impossible
    | _ =>
        simp only [Route.target?] at asked
        split at asked <;> cases asked
  subst creating
  simpa [Route.methods] using allowed

theorem articlePart?_append {text : String} (nonempty : text ≠ "")
    (unslashed : '/' ∉ text.toList) :
    Route.articlePart? (Route.articlesPath ++ "/" ++ text).toList = some text := by
  have path : (Route.articlesPath ++ "/" ++ text).toList =
      (Route.articlesPath ++ "/").toList ++ text.toList :=
    String.toList_append
  have some : text.toList.isEmpty = false := by
    rw [List.isEmpty_eq_false_iff]
    intro empty
    exact nonempty (String.toList_eq_nil_iff.mp empty)
  have part : text.toList.contains '/' = false := by
    simpa using unslashed
  unfold Route.articlePart?
  dsimp only
  rw [path, List.drop_left, List.isPrefixOf_iff_prefix.mpr (List.prefix_append _ _), some,
    part, String.ofList_toList]
  rfl

/-- No other route leads below the path of the articles. -/
theorem target?_below {route : Route} (other : route ≠ .showArticle) (rest : List Char) :
    route.target? ((Route.articlesPath ++ "/").toList ++ rest) = none := by
  cases route with
  | showArticle => exact absurd rfl other
  | showDocument document => cases document <;> rfl
  | _ => rfl

/-- A GET below the path of the articles asks for one of them. -/
theorem findTarget_article (get : request.method = "GET") {text : String}
    (nonempty : text ≠ "") (unslashed : '/' ∉ text.toList)
    (addressed : unescape request.path.toList =
      (Route.articlesPath ++ "/" ++ text).toList) :
    findTarget request = .ok (.showArticle text) := by
  -- The candidates are one, so that it does not matter which is the first.
  have only : ∀ route : Route, route.target? (Route.articlesPath ++ "/" ++ text).toList =
      if route = Route.showArticle then some (Target.showArticle text) else none := by
    intro route
    split
    · rename_i same
      rw [same, Route.target?, articlePart?_append nonempty unslashed, Option.map_some]
    · rename_i other
      rw [String.toList_append]
      exact target?_below other text.toList
  apply findTarget_eq_ok_iff.mpr
  refine ⟨.showArticle, ?_⟩
  rw [addressed, get, Route.candidates]
  simp only [only]
  rfl

end Targets

end Folio.Http
