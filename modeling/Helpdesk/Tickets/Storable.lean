import Helpdesk.Tickets.Classifier

/-! # What the classifier answers with can be stored

An answer of a model goes through the parser, the lookup of its names or ids and the guard of the
fallback; what is left is checked by the CHECKs of `classifications`.

**`storable_iff`**: the answers for which every call ends as documented, and no job fails at what it
stores. -/

namespace Helpdesk.Tickets

/-- A confidence in [0, 1]. -/
def InUnit (x : PyFloat) : Prop := ∃ q : ℚ, x = .finite q ∧ 0 ≤ q ∧ q ≤ 1

/-- What a result has to be. -/
structure Storable (categories urgencyLevels : List TaxonomyOption) (r : ClassificationResult) : Prop where
  offered : Offered categories urgencyLevels r
  confidence : ∃ x, r.confidence = some x ∧ InUnit x
  urgencyConfidence : ∃ x, r.urgencyConfidence = some x ∧ InUnit x

/-- A documented error, or a result that can be stored. -/
def Answers (categories urgencyLevels : List TaxonomyOption) :
    Except ClassifyError ClassificationResult → Prop
  | .ok r => Storable categories urgencyLevels r
  | .error e => e ≠ .other

/-- What a job fails with because of its answer: an exception that it does not expect, an urgency that it
    does not find, or a CHECK of `classifications`. -/
def IsBadAnswer (e : Raised) : Prop :=
  e = .uncaught ∨ e = .stopIteration ∨ e = .integrityError .classificationsConfidenceRange ∨
    e = .integrityError .classificationsUrgencyConfidenceRange

/-- The job would ask about this text and these options. -/
def Asks (scope : OrgScope) (ticketId : Uuid) (db : Db) (text : String)
    (categories urgencyLevels : List TaxonomyOption) : Prop :=
  ∀ ticket, db.tickets.lookup ticketId = some ticket →
    classifiedText ticket = text ∧
      (activeCategories scope db).map (fun row => ⟨row.1, row.2.name, row.2.description⟩) = categories ∧
      (activeUrgencyLevels scope db).map (fun row => ⟨row.1, row.2.name, row.2.description⟩) = urgencyLevels

/-! ## The condition on the answers

About what the models and the API say, and how the standard library reads it. It names the answers that reach a
CHECK or an exception that nobody catches; an answer that is refused on the way may be anything. -/

def ReadsId (payload : Json) (key : String) (id : Uuid) : Prop :=
  ∃ v, payloadItem payload key = .ok v ∧ payloadUuid v = .ok id

def ReadsFloat (m : ClassifierModel) (payload : Json) (key : String) (x : FloatOutcome) : Prop :=
  ∃ v, payloadItem payload key = .ok v ∧ m.float v = x

/-- A text that nests not too deep, and of which the two numbers, where they are read, are floats in
    [0, 1]. -/
structure ContentInRange (m : ClassifierModel) (categories urgencyLevels : List TaxonomyOption)
    (content : String) : Prop where
  notTooDeep : m.loads content ≠ .tooDeep
  confidence : ∀ {payload categoryId urgencyId}, m.loads content = .value payload →
    ReadsId payload "category_id" categoryId → ReadsId payload "urgency_id" urgencyId →
    ¬ ReadsFloat m payload "confidence" .overflow
  urgencyConfidence : ∀ {payload categoryId urgencyId x}, m.loads content = .value payload →
    ReadsId payload "category_id" categoryId → ReadsId payload "urgency_id" urgencyId →
    ReadsFloat m payload "confidence" (.value x) → ¬ ReadsFloat m payload "urgency_confidence" .overflow
  inUnit : ∀ {payload categoryId urgencyId x y}, m.loads content = .value payload →
    ReadsId payload "category_id" categoryId → ReadsId payload "urgency_id" urgencyId →
    ReadsFloat m payload "confidence" (.value x) → ReadsFloat m payload "urgency_confidence" (.value y) →
    findById categories categoryId ≠ none → findById urgencyLevels urgencyId ≠ none → InUnit x ∧ InUnit y

/-- The trained models are taken. -/
def Trusts (m : ClassifierModel) (categories urgencyLevels : List TaxonomyOption)
    (category urgency : Prediction) : Prop :=
  findByName m.lower categories category.name ≠ none ∧ findByName m.lower urgencyLevels urgency.name ≠ none ∧
    category.confidence.ge m.confidenceThreshold = true

/-- The answers are in range: the API's, and those of the trained models where they are taken. -/
structure AnswersInRange (m : ClassifierModel) (text : String)
    (categories urgencyLevels : List TaxonomyOption) : Prop where
  /-- the trained models answer, or fail as documented -/
  predictCategory : m.predictCategory text ≠ .error .other
  predictUrgency : ∀ {category}, m.predictCategory text = .ok category → m.predictUrgency text ≠ .error .other
  trained : ∀ {category urgency}, m.predictCategory text = .ok category → m.predictUrgency text = .ok urgency →
    Trusts m categories urgencyLevels category urgency → InUnit category.confidence ∧ InUnit urgency.confidence
  fallback : ∀ {client content}, m.client = some client →
    client text categories urgencyLevels = .content (some content) →
    ContentInRange m categories urgencyLevels content

/-! ## The calls

`Answers` of a step is about the error it must not raise and about what comes next. The reading of an answer is
such a chain, so the condition is collected by rewriting. -/

section
variable {α : Type} {m : ClassifierModel} {text content : String} {categories urgencyLevels : List TaxonomyOption}
  {payload : Json} {categoryId urgencyId : Uuid}

theorem answers_bind {x : Except ClassifyError α} {f : α → Except ClassifyError ClassificationResult} :
    Answers categories urgencyLevels (x >>= f) ↔
      x ≠ .error .other ∧ ∀ a, x = .ok a → Answers categories urgencyLevels (f a) := by
  cases x with
  | ok a =>
    show Answers categories urgencyLevels (f a) ↔ _
    simp
  | error e =>
    show e ≠ .other ↔ _
    simp

theorem payloadItem_ne_other (payload : Json) (key : String) : payloadItem payload key ≠ .error .other := by
  unfold payloadItem
  split
  · split <;> simp
  · simp

theorem payloadUuid_ne_other (v : Json) : payloadUuid v ≠ .error .other := by
  unfold payloadUuid
  split
  · split <;> simp
  · simp

theorem payloadFloat_eq_other {v : Json} : payloadFloat m v = .error .other ↔ m.float v = .overflow := by
  unfold payloadFloat
  cases m.float v <;> simp

theorem payloadFloat_eq_ok {v : Json} {x : PyFloat} : payloadFloat m v = .ok x ↔ m.float v = .value x := by
  unfold payloadFloat
  cases m.float v <;> simp

theorem payloadOf_eq_other : payloadOf m content = .error .other ↔ m.loads content = .tooDeep := by
  unfold payloadOf
  cases m.loads content <;> simp

theorem payloadOf_eq_ok : payloadOf m content = .ok payload ↔ m.loads content = .value payload := by
  unfold payloadOf
  cases m.loads content <;> simp

theorem requireMembership_eq_ok {category urgency : TaxonomyOption} :
    requireMembership categoryId urgencyId categories urgencyLevels = .ok (category, urgency) ↔
      findById categories categoryId = some category ∧ findById urgencyLevels urgencyId = some urgency := by
  unfold requireMembership
  cases findById categories categoryId <;> cases findById urgencyLevels urgencyId <;> simp

theorem requireMembership_ne_other :
    requireMembership categoryId urgencyId categories urgencyLevels ≠ .error .other := by
  unfold requireMembership
  split <;> simp

/-- **The fallback on an answer**: each step passes what it reads to the next one. -/
theorem answers_content {client : String → List TaxonomyOption → List TaxonomyOption → LlmReply}
    (hclient : m.client = some client) (hreply : client text categories urgencyLevels = .content (some content)) :
    Answers categories urgencyLevels (classifyWithLlm m text categories urgencyLevels) ↔
      ContentInRange m categories urgencyLevels content := by
  unfold classifyWithLlm
  rw [hclient]
  dsimp only
  rw [hreply]
  dsimp only
  simp only [answers_bind, ne_eq, payloadOf_eq_other, payloadOf_eq_ok, payloadItem_ne_other, payloadUuid_ne_other,
    payloadFloat_eq_other, payloadFloat_eq_ok, requireMembership_ne_other, not_false_eq_true, true_and]
  constructor
  · rintro ⟨hdeep, h⟩
    refine ⟨hdeep, ?_, ?_, ?_⟩
    -- each field of the condition follows from the chain up to its step
    · rintro payload categoryId urgencyId hload ⟨_, hc, hc'⟩ ⟨_, hu, hu'⟩ ⟨_, hx, hoverflow⟩
      exact (h _ hload _ hc _ hc' _ hu _ hu' _ hx).1 hoverflow
    · rintro payload categoryId urgencyId x hload ⟨_, hc, hc'⟩ ⟨_, hu, hu'⟩ ⟨_, hx, hx'⟩ ⟨_, hy, hoverflow⟩
      exact ((h _ hload _ hc _ hc' _ hu _ hu' _ hx).2 _ hx' _ hy).1 hoverflow
    · rintro payload categoryId urgencyId x y hload ⟨_, hc, hc'⟩ ⟨_, hu, hu'⟩ ⟨_, hx, hx'⟩ ⟨_, hy, hy'⟩
        hcategory hurgency
      obtain ⟨category, hcategory⟩ := Option.ne_none_iff_exists'.mp hcategory
      obtain ⟨urgency, hurgency⟩ := Option.ne_none_iff_exists'.mp hurgency
      have hanswers := ((h _ hload _ hc _ hc' _ hu _ hu' _ hx).2 _ hx' _ hy).2 _ hy' (category, urgency)
        (requireMembership_eq_ok.mpr ⟨hcategory, hurgency⟩)
      obtain ⟨-, ⟨_, hxs, hunit⟩, _, hys, hunit'⟩ := (hanswers : Storable _ _ _)
      cases hxs
      cases hys
      exact ⟨hunit, hunit'⟩
  · intro h
    refine ⟨h.notTooDeep, fun payload hload vc hc categoryId hc' vu hu urgencyId hu' vx hx => ⟨?_, ?_⟩⟩
    · exact fun hoverflow => h.confidence hload ⟨vc, hc, hc'⟩ ⟨vu, hu, hu'⟩ ⟨vx, hx, hoverflow⟩
    · intro x hx' vy hy
      refine ⟨fun hoverflow => ?_, fun y hy' member hmember => ?_⟩
      · exact h.urgencyConfidence hload ⟨vc, hc, hc'⟩ ⟨vu, hu, hu'⟩ ⟨vx, hx, hx'⟩ ⟨vy, hy, hoverflow⟩
      · obtain ⟨category, urgency⟩ := member
        obtain ⟨hcategory, hurgency⟩ := requireMembership_eq_ok.mp hmember
        obtain ⟨hunit, hunit'⟩ := h.inUnit hload ⟨vc, hc, hc'⟩ ⟨vu, hu, hu'⟩ ⟨vx, hx, hx'⟩ ⟨vy, hy, hy'⟩
          (by simp [hcategory]) (by simp [hurgency])
        show Storable _ _ _
        obtain ⟨hcategory, hurgency⟩ := requireMembership_ok hmember
        exact ⟨⟨⟨category, hcategory, rfl⟩, urgency, hurgency, rfl⟩, ⟨x, rfl, hunit⟩, y, rfl, hunit'⟩

theorem answers_classifyWithLlm : Answers categories urgencyLevels (classifyWithLlm m text categories urgencyLevels) ↔
    ∀ {client content}, m.client = some client →
      client text categories urgencyLevels = .content (some content) →
      ContentInRange m categories urgencyLevels content := by
  constructor
  · intro h client content hclient hreply
    exact (answers_content hclient hreply).mp h
  · intro h
    cases hclient : m.client with
    | none =>
      unfold classifyWithLlm
      rw [hclient]
      show ClassifyError.unavailable ≠ .other
      simp
    | some client =>
      cases hreply : client text categories urgencyLevels with
      | content text =>
        cases text with
        | some content => exact (answers_content hclient hreply).mpr (h hclient hreply)
        | none =>
          unfold classifyWithLlm
          simp [hclient, hreply, Answers]
      | transientError =>
        unfold classifyWithLlm
        simp [hclient, hreply, Answers]
      | openaiError =>
        unfold classifyWithLlm
        simp [hclient, hreply, Answers]

theorem answers_classify (hfallback : Answers categories urgencyLevels (classifyWithLlm m text categories urgencyLevels)) :
    Answers categories urgencyLevels (classify m text categories urgencyLevels) ↔
      m.predictCategory text ≠ .error .other ∧
        ∀ category, m.predictCategory text = .ok category →
          m.predictUrgency text ≠ .error .other ∧
            ∀ urgency, m.predictUrgency text = .ok urgency →
              Trusts m categories urgencyLevels category urgency →
              InUnit category.confidence ∧ InUnit urgency.confidence := by
  unfold classify
  rw [answers_bind]
  refine and_congr_right fun _ => forall₂_congr fun category _ => ?_
  rw [answers_bind]
  refine and_congr_right fun _ => forall₂_congr fun urgency _ => ?_
  unfold Trusts
  cases hcategory : findByName m.lower categories category.name with
  | none => simpa using hfallback
  | some categoryMatch =>
    cases hurgency : findByName m.lower urgencyLevels urgency.name with
    | none => simpa using hfallback
    | some urgencyMatch =>
      dsimp only
      -- the models are trusted, or the API is asked
      split
      next hge =>
        constructor
        · intro hstorable _
          obtain ⟨-, ⟨_, hxs, hunit⟩, _, hys, hunit'⟩ := (hstorable : Storable _ _ _)
          cases hxs
          cases hys
          exact ⟨hunit, hunit'⟩
        · intro h
          obtain ⟨hunit, hunit'⟩ := h ⟨by simp, by simp, hge⟩
          show Storable _ _ _
          exact ⟨⟨⟨categoryMatch, List.mem_of_find?_eq_some hcategory, rfl⟩, urgencyMatch,
            List.mem_of_find?_eq_some hurgency, rfl⟩, ⟨_, rfl, hunit⟩, _, rfl, hunit'⟩
      next hge => exact iff_of_true hfallback fun h => absurd h.2.2 hge

end

/-! ## The job

An answer that is one of the options and has its confidences in range is stored; what else may fail is not for
the classifier to answer. -/

section
variable {m : ClassifierModel} {text : String} {categories urgencyLevels : List TaxonomyOption} {env : Env}
  {jobTry : Nat} {ticketId organizationId : Uuid} {db : Db}

theorem Ticket.constraint_of_check {c : TicketColumns} {k : Constraint} (h : Ticket.check c = .error k) :
    k = .ticketsClassifiedHasTaxonomy ∨ k = .ticketsClosedAtMatchesStatus ∨ k = .ticketsTitleNotBlank := by
  unfold Ticket.check at h
  split at h
  · split at h
    · split at h
      · cases h
      · cases h
        exact .inr (.inr rfl)
    · cases h
      exact .inr (.inl rfl)
  · cases h
    exact .inl rfl

theorem wp_flushTicket_any {Q : Ticket → Db → Prop} {loaded assigned : TicketColumns}
    (hQ : ∀ row db', Q row db') : Tx.wp (flushTicket ticketId loaded assigned) Q (fun e => ¬ IsBadAnswer e) db := by
  unfold flushTicket
  rw [Tx.wp_bind, Tx.wp_store]
  split
  · rw [Tx.wp_raise]
    simp [IsBadAnswer]
  · rw [Tx.wp_bind, wp_raiseConstraint]
    refine ⟨fun row _ => ?_, fun k hk => ?_⟩
    · rw [Tx.wp_ite, Tx.wp_bind, Tx.wp_write, Tx.wp_pure, Tx.wp_raise]
      exact ⟨fun _ => hQ _ _, fun _ => by simp [IsBadAnswer]⟩
    · rcases Ticket.constraint_of_check hk with rfl | rfl | rfl <;> simp [IsBadAnswer]

theorem wp_resolveSlaDueAt_any {Q : Int → Db → Prop} {urgency : UrgencyLevel} {fromTimestamp : Int}
    (hQ : ∀ due, Q due db) :
    Tx.wp (resolveSlaDueAt env organizationId urgency fromTimestamp) Q (fun e => ¬ IsBadAnswer e) db := by
  unfold resolveSlaDueAt
  rw [Tx.wp_bind]
  apply wp_getOr404
  · intro organization _ _
    have hzone : ∀ {R : Sla.Zone → Db → Prop}, (∀ zone, R zone db) →
        Tx.wp (fetchZone env urgency organization) R (fun e => ¬ IsBadAnswer e) db := by
      intro R hR
      unfold fetchZone
      rw [Tx.wp_ite, Tx.wp_orRaise, Tx.wp_pure]
      exact ⟨fun _ => ⟨fun zone _ => hR zone, fun _ => by simp [IsBadAnswer]⟩, fun _ => hR _⟩
    rw [Tx.wp_bind]
    apply hzone
    intro zone
    split
    · rw [Tx.wp_pure]
      exact hQ _
    · rw [Tx.wp_raise]
      simp [IsBadAnswer]
  · simp [IsBadAnswer]

theorem confidenceInRange_of_inUnit {x : Option PyFloat} (h : ∃ y, x = some y ∧ InUnit y) :
    confidenceInRange x = true := by
  obtain ⟨_, rfl, q, rfl, h⟩ := h
  exact decide_eq_true h

/-- An option that was offered is found among the rows. -/
theorem find_of_offered {r : ClassificationResult} {rows : List (Uuid × UrgencyLevel)}
    (h : ∃ option ∈ rows.map (fun row => (⟨row.1, row.2.name, row.2.description⟩ : TaxonomyOption)),
      option.id = r.urgencyId) : rows.find? (fun row => row.1 = r.urgencyId) ≠ none := by
  obtain ⟨option, hoption, hid⟩ := h
  obtain ⟨row, hrow, rfl⟩ := List.mem_map.mp hoption
  intro hnone
  exact absurd hid (by simpa using List.find?_eq_none.mp hnone row hrow)

/-- **The job stores what it is answered.** -/
theorem wp_classifyTicket_of_answers
    (hanswers : Answers categories urgencyLevels (classify m text categories urgencyLevels))
    (hasks : Asks (OrgScope.forBackgroundWorker organizationId) ticketId db text categories urgencyLevels) :
    Tx.wp (classifyTicket env m.classifier jobTry ticketId organizationId) (fun _ _ => True)
      (fun e => ¬ IsBadAnswer e) db := by
  unfold classifyTicket
  rw [Tx.wp_bind]
  apply wp_getOr404
  · intro ticket hticket _
    obtain ⟨rfl, rfl, rfl⟩ := hasks ticket hticket
    rw [Tx.wp_ite, Tx.wp_pure]
    refine ⟨fun _ => trivial, fun _ => ?_⟩
    rw [Tx.wp_bind, Tx.wp_store]
    unfold askClassifier ClassifierModel.classifier
    cases hclassify : classify m _ _ _ with
    | error e =>
      rw [hclassify] at hanswers
      cases e with
      | transient =>
        show Tx.wp (Tx.raise _) _ _ db
        rw [Tx.wp_raise]
        simp [IsBadAnswer]
      | unavailable =>
        show Tx.wp (pure ()) _ _ db
        rw [Tx.wp_pure]
        trivial
      | other => exact absurd rfl hanswers
    -- the urgency is found among the active ones, and both confidences are in range
    | ok r =>
      rw [hclassify] at hanswers
      obtain ⟨⟨-, hurgency⟩, hconfidence, hurgencyConfidence⟩ := (hanswers : Storable _ _ r)
      show Tx.wp (applyClassification env _ ticketId ticket r) _ _ db
      unfold applyClassification
      rw [Tx.wp_bind, Tx.wp_store, Tx.wp_bind, Tx.wp_orRaise]
      refine ⟨fun urgency _ => ?_, fun hnone => absurd hnone (find_of_offered hurgency)⟩
      rw [Tx.wp_bind]
      apply wp_resolveSlaDueAt_any
      intro slaDueAt
      rw [Tx.wp_bind]
      apply wp_flushTicket_any
      intro row db'
      unfold upsertClassification
      rw [Tx.wp_bind, Tx.wp_store, if_neg (by simp [confidenceInRange_of_inUnit hconfidence]),
        if_neg (by simp [confidenceInRange_of_inUnit hurgencyConfidence]), Tx.wp_write]
      trivial
  · simp [IsBadAnswer]

end

/-- The answers for which every call ends as documented, and no job fails at what it stores. -/
theorem storable_iff (m : ClassifierModel) (text : String) (categories urgencyLevels : List TaxonomyOption) :
    (Answers categories urgencyLevels (classify m text categories urgencyLevels) ∧
        Answers categories urgencyLevels (classifyWithLlm m text categories urgencyLevels) ∧
        ∀ (env : Env) (jobTry : Nat) (ticketId organizationId : Uuid) (db db' : Db) (e : Raised),
          Asks (OrgScope.forBackgroundWorker organizationId) ticketId db text categories urgencyLevels →
          Tx.exec (classifyTicket env m.classifier jobTry ticketId organizationId) db = (.error e, db') →
          ¬ IsBadAnswer e) ↔
      AnswersInRange m text categories urgencyLevels := by
  constructor
  · rintro ⟨hclassify, hllm, -⟩
    obtain ⟨hcategory, htrained⟩ := (answers_classify hllm).mp hclassify
    refine ⟨hcategory, ?_, ?_, answers_classifyWithLlm.mp hllm⟩
    · exact fun {category} h => (htrained category h).1
    · exact fun {category urgency} h h' => (htrained category h).2 urgency h'
  · intro h
    have hllm := answers_classifyWithLlm.mpr h.fallback
    have hclassify := (answers_classify hllm).mpr
      ⟨h.predictCategory, fun _ hc => ⟨h.predictUrgency hc, fun _ hu => h.trained hc hu⟩⟩
    refine ⟨hclassify, hllm, fun env jobTry ticketId organizationId db db' e hasks hexec => ?_⟩
    exact Tx.wp_error (E := fun e => ¬ IsBadAnswer e) (wp_classifyTicket_of_answers hclassify hasks) hexec

/-! ## Percentages

The API answers with a confidence of 95. -/

def percentAnswer : String :=
  "\x7b\"category_id\": \"00000000-0000-0000-0000-000000000001\", \"urgency_id\": " ++
    "\"00000000-0000-0000-0000-000000000002\", \"confidence\": 95, \"urgency_confidence\": 90\x7d"

/-- No trained category has the organization's name for it, and the API gives its confidence in percent. -/
def percentModel : ClassifierModel where
  confidenceThreshold := 3 / 5
  predictCategory := fun _ => .ok ⟨"Plumbing", .finite (9 / 10)⟩
  predictUrgency := fun _ => .ok ⟨"High", .finite (9 / 10)⟩
  client := some fun _ _ _ => .content (some percentAnswer)
  lower := fun s => String.ofList (s.toList.map Char.toLower)
  loads := fun text =>
    if text = percentAnswer then
      .value (.obj [("category_id", .str "00000000-0000-0000-0000-000000000001"),
        ("urgency_id", .str "00000000-0000-0000-0000-000000000002"), ("confidence", .int 95),
        ("urgency_confidence", .int 90)])
    else .invalid
  float := fun v => match v with
    | .int n => .value (.finite n)
    | _ => .invalid

/-- The fallback returns a confidence of 95, which the CHECK of the row refuses. -/
theorem not_storable :
    ∃ r, classify percentModel "The tap drips" [⟨1, "Water", none⟩] [⟨2, "High", none⟩] = .ok r ∧
      r.confidence = some (.finite 95) ∧ confidenceInRange r.confidence = false ∧
      ¬ Answers [⟨1, "Water", none⟩] [⟨2, "High", none⟩]
        (classify percentModel "The tap drips" [⟨1, "Water", none⟩] [⟨2, "High", none⟩]) := by
  have hclassify : classify percentModel "The tap drips" [⟨1, "Water", none⟩] [⟨2, "High", none⟩] =
      .ok ⟨1, 2, some "Water", some (.finite 95), some "High", some (.finite 90), some .llmFallback⟩ := by
    decide +kernel
  refine ⟨_, hclassify, rfl, by decide +kernel, ?_⟩
  rw [hclassify]
  intro hstorable
  obtain ⟨-, ⟨_, hx, q, rfl, -, hle⟩, -⟩ := (hstorable : Storable _ _ _)
  cases hx
  exact absurd hle (by decide)

end Helpdesk.Tickets
