import Helpdesk.Library.Outcome
import Helpdesk.Tickets.Classification

/-! # The classifier

`classify` and `classify_with_llm`. The trained models, the API, and the two conversions of the
standard library that read its answer are parameters.

**Key result**: `classify_offered`. Whatever the models say, a result is one of the options. -/

namespace Helpdesk.Tickets

/-- What `classify` raises. -/
inductive ClassifyError where
  | transient
  | unavailable
  | other
  deriving DecidableEq

/-- The name that a model predicts. -/
structure Prediction where
  name : String
  confidence : PyFloat

/-- What a call of the API comes back with. -/
inductive LlmReply where
  /-- one of `_TRANSIENT_OPENAI_ERRORS` -/
  | transientError
  | openaiError
  /-- `completion.choices[0].message.content`, if there is any -/
  | content (text : Option String)

/-- What `json.loads(text)` comes to. -/
inductive LoadsOutcome where
  | value (v : Json)
  /-- a `JSONDecodeError` or another `ValueError` -/
  | invalid
  /-- a `RecursionError`, where the text nests too deep -/
  | tooDeep

/-- What `float(v)` comes to. -/
inductive FloatOutcome where
  | value (x : PyFloat)
  /-- a `TypeError` or a `ValueError` -/
  | invalid
  /-- an `OverflowError` -/
  | overflow

/-- The models, and what the answers are read with. -/
structure ClassifierModel where
  /-- `settings.classifier_confidence_threshold` -/
  confidenceThreshold : ℚ
  /-- the embedding of the text, and the category model on it -/
  predictCategory : String → Except ClassifyError Prediction
  predictUrgency : String → Except ClassifyError Prediction
  /-- the API, if a key is configured -/
  client : Option (String → List TaxonomyOption → List TaxonomyOption → LlmReply)
  /-- `str.lower` -/
  lower : String → String
  /-- `json.loads` -/
  loads : String → LoadsOutcome
  /-- `float` -/
  float : Json → FloatOutcome

/-! ## The fallback

Each step of reading the answer is a function that may raise. The source catches what it expects of an answer
that is no good, as `unavailable`; the rest gets through. -/

/-- `_find_by_id`. -/
def findById (options : List TaxonomyOption) (id : Uuid) : Option TaxonomyOption :=
  options.find? fun option => option.id = id

/-- `_require_membership`. -/
def requireMembership (categoryId urgencyId : Uuid) (categories urgencyLevels : List TaxonomyOption) :
    Except ClassifyError (TaxonomyOption × TaxonomyOption) :=
  match findById categories categoryId, findById urgencyLevels urgencyId with
  | some category, some urgency => .ok (category, urgency)
  | _, _ => .error .unavailable

def payloadOf (m : ClassifierModel) (content : String) : Except ClassifyError Json :=
  match m.loads content with
  | .value v => .ok v
  | .invalid => .error .unavailable
  | .tooDeep => .error .other

/-- `payload[key]`, of a payload that may be no object. -/
def payloadItem (payload : Json) (key : String) : Except ClassifyError Json :=
  match payload with
  | .obj items =>
    match items.lookup key with
    | some v => .ok v
    | none => .error .unavailable
  | _ => .error .unavailable

/-- `UUID(v)` -/
def payloadUuid (v : Json) : Except ClassifyError Uuid :=
  match v with
  | .str s =>
    match parseUuid s with
    | some id => .ok id
    | none => .error .unavailable
  | _ => .error .unavailable

def payloadFloat (m : ClassifierModel) (v : Json) : Except ClassifyError PyFloat :=
  match m.float v with
  | .value x => .ok x
  | .invalid => .error .unavailable
  | .overflow => .error .other

/-- `classify_with_llm`. -/
def classifyWithLlm (m : ClassifierModel) (text : String)
    (categories urgencyLevels : List TaxonomyOption) : Except ClassifyError ClassificationResult :=
  match m.client with
  | none => .error .unavailable
  | some client =>
    match client text categories urgencyLevels with
    | .transientError => .error .transient
    | .openaiError => .error .unavailable
    | .content none => .error .unavailable
    | .content (some content) => do
      let payload ← payloadOf m content
      let categoryId ← payloadUuid (← payloadItem payload "category_id")
      let urgencyId ← payloadUuid (← payloadItem payload "urgency_id")
      let confidence ← payloadFloat m (← payloadItem payload "confidence")
      let urgencyConfidence ← payloadFloat m (← payloadItem payload "urgency_confidence")
      let (category, urgency) ← requireMembership categoryId urgencyId categories urgencyLevels
      pure
        { categoryId := category.id
          urgencyId := urgency.id
          predictedCategory := some category.name
          confidence := some confidence
          predictedUrgency := some urgency.name
          urgencyConfidence := some urgencyConfidence
          modelUsed := some .llmFallback }

/-! ## The trained models

A prediction is a name and has to be found among the organization's own; if it is not, or is not trusted, the
API is asked. -/

/-- `_find_by_name`. -/
def findByName (lower : String → String) (options : List TaxonomyOption) (name : String) :
    Option TaxonomyOption :=
  options.find? fun option => lower option.name = lower name

/-- `classify`. -/
def classify (m : ClassifierModel) (text : String) (categories urgencyLevels : List TaxonomyOption) :
    Except ClassifyError ClassificationResult := do
  let category ← m.predictCategory text
  let urgency ← m.predictUrgency text
  match findByName m.lower categories category.name, findByName m.lower urgencyLevels urgency.name with
  | some categoryMatch, some urgencyMatch =>
    if category.confidence.ge m.confidenceThreshold then
      pure
        { categoryId := categoryMatch.id
          urgencyId := urgencyMatch.id
          predictedCategory := some categoryMatch.name
          confidence := some category.confidence
          predictedUrgency := some urgencyMatch.name
          urgencyConfidence := some urgency.confidence
          modelUsed := some .sklearnV1 }
    else classifyWithLlm m text categories urgencyLevels
  | _, _ => classifyWithLlm m text categories urgencyLevels

/-- The classifier of a worker. -/
def ClassifierModel.classifier (m : ClassifierModel) : Classifier := fun text categories urgencyLevels =>
  match classify m text categories urgencyLevels with
  | .ok r => .result r
  | .error .transient => .transientError
  | .error .unavailable => .unavailableError
  | .error .other => .otherError

/-! ## What a result is

Both ways out look their result up among the options, so the ids of a result are ids that were offered. -/

section
variable {m : ClassifierModel} {text : String} {categories urgencyLevels : List TaxonomyOption}
  {r : ClassificationResult}

/-- The result is made of options that were offered. -/
def Offered (categories urgencyLevels : List TaxonomyOption) (r : ClassificationResult) : Prop :=
  (∃ option ∈ categories, option.id = r.categoryId) ∧ ∃ option ∈ urgencyLevels, option.id = r.urgencyId

theorem requireMembership_ok {categoryId urgencyId : Uuid} {category urgency : TaxonomyOption}
    (h : requireMembership categoryId urgencyId categories urgencyLevels = .ok (category, urgency)) :
    category ∈ categories ∧ urgency ∈ urgencyLevels := by
  unfold requireMembership at h
  split at h
  next hcategory hurgency =>
    cases h
    exact ⟨List.mem_of_find?_eq_some hcategory, List.mem_of_find?_eq_some hurgency⟩
  · cases h

/-- **The guard** of the fallback: an id that the API makes up is refused. -/
theorem classifyWithLlm_offered (h : classifyWithLlm m text categories urgencyLevels = .ok r) :
    Offered categories urgencyLevels r := by
  unfold classifyWithLlm at h
  split at h
  · cases h
  next client _ =>
    split at h
    · cases h
    · cases h
    · cases h
    next content _ =>
      simp only [Outcome.bind_eq_ok, Outcome.pure_eq_ok] at h
      obtain ⟨-, -, -, -, categoryId, -, -, -, urgencyId, -, -, -, confidence, -, -, -, -, -,
        ⟨category, urgency⟩, hmembers, rfl⟩ := h
      obtain ⟨hcategory, hurgency⟩ := requireMembership_ok hmembers
      exact ⟨⟨category, hcategory, rfl⟩, urgency, hurgency, rfl⟩

theorem classify_offered (h : classify m text categories urgencyLevels = .ok r) :
    Offered categories urgencyLevels r := by
  obtain ⟨category, -, h⟩ := Outcome.bind_eq_ok.mp h
  obtain ⟨urgency, -, h⟩ := Outcome.bind_eq_ok.mp h
  split at h
  next categoryMatch urgencyMatch hcategory hurgency =>
    split at h
    · cases (Outcome.pure_eq_ok _ _).mp h
      exact ⟨⟨categoryMatch, List.mem_of_find?_eq_some hcategory, rfl⟩,
        urgencyMatch, List.mem_of_find?_eq_some hurgency, rfl⟩
    · exact classifyWithLlm_offered h
  · exact classifyWithLlm_offered h

/-- What the classifier answers with is one of the options. -/
theorem classifier_offered (h : m.classifier text categories urgencyLevels = .result r) :
    Offered categories urgencyLevels r := by
  unfold ClassifierModel.classifier at h
  split at h
  next hr =>
    cases h
    exact classify_offered hr
  all_goals cases h

end

end Helpdesk.Tickets
