import ParaWorks.LiveGate.CaseClaims

/-!
# Claimed cases as admitted runs

The rows of a claim against the rows of an admission for the same route, and the closing of a claimed run.
-/

namespace ParaWorks.LiveGate

open Lib Ledger

variable {authority : LedgerAuthority} {c : CaseClaim} {request : AdmissionRequest} {i : Nat} {env : Environment}

/-! ## The rows of an admission -/

/-- The rows that `create_admission` adds, with the columns it leaves to their defaults. -/
def admissionImages (authority : LedgerAuthority) (request : AdmissionRequest) (current query scope : Hmac) :
    RunImages where
  parent := {
    run := request.parent authority current query scope (request.identity authority current query scope)
    agentName := "rag_orchestrator_agent"
    promptVersion := "rag-answer:v2"
    modelName := "rag-v2-admission"
    generationProvider := none
    generationReasoningEffort := none
    generationRouteVersion := none
    generationOutputContractVersion := none
    inputTokens := 0
    outputTokens := 0
    totalTokens := 0
    permissionLevel := "restricted"
    workflowThreadId := none
    effectKey := none }
  children := request.rows

/-- The rows for the texts of the request. -/
def admittedImages (authority : LedgerAuthority) (request : AdmissionRequest) : Option RunImages :=
  (requireLowerHmac request.currentTextHmac).bind fun current =>
  (requireLowerHmac request.retrievalQueryHmac).bind fun query =>
  (requireLowerHmac request.securityScopeFingerprint).map fun scope =>
    admissionImages authority request current query scope

theorem requireLowerHmac_text (digest : Hmac) : requireLowerHmac digest.text = some digest :=
  dif_pos digest.lower

/-- An admission that succeeds on an empty database commits its rows. -/
theorem createAdmission_commits (authority : LedgerAuthority) (request : AdmissionRequest) (i : Nat) (env : Environment)
    (processHmac : Nat → Hmac) :
    wp (createAdmission authority i env request)
      (fun _ w => ∃ images, admittedImages authority request = some images ∧ w.db = some images.run)
      (fun _ _ => True) (World.initial processHmac) := by
  unfold createAdmission runtimeHealthEffect
  refine wp_seq_require trivial fun _ => ?_
  refine wp_seq_present trivial fun window hwindow => ?_
  refine wp_seq_require trivial fun _ => ?_
  refine wp_seq_present trivial fun current hcurrent => ?_
  refine wp_seq_present trivial fun query hquery => ?_
  refine wp_seq_present trivial fun scope hscope => ?_
  refine wp_seq (admitComponent_wp (fun _ => trivial) fun _ _ => ?_)
  refine wp_seq (admitComponent_wp (fun _ => trivial) fun _ _ => ?_)
  refine wp_seq_require trivial fun _ => ?_
  refine wp_seq_require trivial fun _ => ?_
  refine wp_seq_require trivial fun _ => ?_
  have himages : admittedImages authority request = some (admissionImages authority request current query scope) := by
    simp [admittedImages,hcurrent,hquery,hscope]
  unfold insertRun
  refine wp_seq (wp_seq_get ?_)
  have hdb : (World.initial processHmac).db = none := rfl
  rw [hdb]
  cases env.commit with
  | acknowledged => exact ⟨_,himages,rfl⟩
  | unacknowledged => exact trivial
  | failed => exact trivial

/-! ## Admissions of a claim -/

/-- The budget reserves what the claim does. -/
structure Reserves (value : ComponentClaim) (budget : RagAdmissionBudget) : Prop where
  input : budget.estimatedInputTokens = value.reservedInputTokens
  output : budget.maximumOutputTokens = value.reservedOutputTokens
  cost : budget.reservedCostUsd = value.reservedCostUsd

/-- The request asks for an enforced run on the surface, backend, texts, policies and reservations of the claim. -/
structure AdmissionOf (c : CaseClaim) (request : AdmissionRequest) : Prop where
  surface : request.surface = c.surface
  mode : request.mode = .enforce
  cutoverStage : request.cutoverStage = stageOf c.surface
  backend : request.configuredBackend = c.configuredBackend
  contextVersion : request.queryContextVersion = contextOf c.surface
  current : request.currentTextHmac = c.currentTextHmac.text
  retrieval : request.retrievalQueryHmac = c.retrievalQueryHmac.text
  scope : request.securityScopeFingerprint = c.securityScopeFingerprint.text
  window : request.sourceWindow = .admission .enforce c.surface c.configuredBackend
  queryPolicy : request.query.1 = c.query.policy
  answerPolicy : request.answer.1 = c.answer.policy
  query : Reserves c.query request.query.2
  answer : Reserves c.answer request.answer.2

/-- The rows where the embedding that the route has no use for is closed at once. -/
def RunImages.closeEmbedding (sign : Signers) (images : RunImages) : RunImages :=
  let children := images.children.map fun row => if row.component = .queryEmbedding then makeTerminalZero row else row
  { parent := { images.parent with
      run := { images.parent.run with
        estimatedCostUsd := totalReserved children
        metadata := { images.parent.run.metadata with
          runtimeCostSnapshotHmac := runtimeCostIdentity sign children none .admission .running .preProjection } } }
    children := children }

/-- What a claim makes of the rows of an admission. -/
def claimedImages (sign : Signers) (backend : RagRetrievalBackend) (images : RunImages) : RunImages :=
  if backend = .keyword then images.closeEmbedding sign else images

theorem Reserves.row {value : ComponentClaim} {pair : AuthorizedProviderPolicySnapshot × RagAdmissionBudget}
    (h : Reserves value pair.2) (hpolicy : pair.1 = value.policy) (component : RagPaidComponent) :
    admissionRow component pair = value.image component .notAttempted := by
  unfold admissionRow ComponentClaim.image
  rw [h.input,h.output,h.cost,hpolicy]

theorem AdmissionOf.rows (h : AdmissionOf c request) :
    request.rows = [c.query.image .queryEmbedding .notAttempted,c.answer.image .answerGeneration .notAttempted] := by
  unfold AdmissionRequest.rows
  rw [h.query.row h.queryPolicy,h.answer.row h.answerPolicy]

theorem AdmissionOf.identity (h : AdmissionOf c request) :
    request.identity authority c.currentTextHmac c.retrievalQueryHmac c.securityScopeFingerprint =
      c.admissionIdentity authority.sign := by
  unfold AdmissionRequest.identity CaseClaim.admissionIdentity
  rw [h.surface,h.mode,h.cutoverStage,h.backend,h.contextVersion,h.queryPolicy,h.answerPolicy,
    if_pos ⟨rfl,c.answered⟩]

/-- The parent of an admission for the claim, its runtime digest apart. -/
theorem AdmissionOf.parent (h : AdmissionOf c request) :
    request.parent authority c.currentTextHmac c.retrievalQueryHmac c.securityScopeFingerprint
      (c.admissionIdentity authority.sign) =
    { (runtimeImages authority.sign c).parent.run with
      estimatedCostUsd := totalReserved request.rows
      metadata := { (runtimeImages authority.sign c).parent.run.metadata with
        runtimeCostSnapshotHmac :=
          runtimeCostIdentity authority.sign request.rows none .admission .running .preProjection } } := by
  unfold AdmissionRequest.parent runtimeImages
  rw [h.surface,h.mode,h.cutoverStage,h.backend,h.contextVersion,h.window]

theorem CaseClaim.runtimeIdentity_eq (c : CaseClaim) (sign : Signers) :
    runtimeCostIdentity sign c.children none .admission .running .preProjection = c.runtimeIdentity sign := rfl

/-- Closing the unused embedding of the admission gives the rows of the claim. -/
theorem closed_children (hkeyword : c.configuredBackend = .keyword) :
    [c.query.image .queryEmbedding .notAttempted,c.answer.image .answerGeneration .notAttempted].map
      (fun row => if row.component = .queryEmbedding then makeTerminalZero row else row) = c.children := by
  obtain ⟨hinput,hcost⟩ := c.unusedEmbedding hkeyword
  unfold CaseClaim.children
  rw [if_pos hkeyword]
  simp [ComponentClaim.image,makeTerminalZero,hinput,hcost,c.embeddingOutput]

theorem AdmissionOf.images (h : AdmissionOf c request) : ∃ images, admittedImages authority request = some images ∧
    claimedImages authority.sign c.configuredBackend images = runtimeImages authority.sign c := by
  refine ⟨admissionImages authority request c.currentTextHmac c.retrievalQueryHmac c.securityScopeFingerprint,?_,?_⟩
  · simp [admittedImages,h.current,h.retrieval,h.scope,requireLowerHmac_text]
  · unfold admissionImages claimedImages
    rw [h.identity,h.parent]
    by_cases hkeyword : c.configuredBackend = .keyword
    · rw [if_pos hkeyword]
      unfold RunImages.closeEmbedding
      dsimp only
      rw [h.rows,closed_children hkeyword,c.runtimeIdentity_eq]
      rfl
    · have hchildren : c.children = request.rows := by
        unfold CaseClaim.children
        rw [if_neg hkeyword,h.rows]
      rw [if_neg hkeyword,← hchildren,c.runtimeIdentity_eq]
      rfl

/-! ## The admission of a claim -/

def ComponentClaim.budget (value : ComponentClaim) (component : RagPaidComponent) (estimatorInput : Hmac) :
    PreparedPaidCallBudget :=
  ⟨component,value.reservedInputTokens,value.reservedOutputTokens,value.reservedCostUsd,
    value.policy.authorizedPolicySnapshotHmac,estimatorInput⟩

/-- The request with a budget for each reservation of the claim. -/
def CaseClaim.admission (c : CaseClaim) : AdmissionRequest where
  surface := c.surface
  mode := .enforce
  cutoverStage := stageOf c.surface
  configuredBackend := c.configuredBackend
  queryContextVersion := contextOf c.surface
  currentTextHmac := c.currentTextHmac.text
  retrievalQueryHmac := c.retrievalQueryHmac.text
  securityScopeFingerprint := c.securityScopeFingerprint.text
  admissionCacheIdentityHmac := none
  sourceWindow := .admission .enforce c.surface c.configuredBackend
  query := (c.query.policy,.prepared (c.query.budget .queryEmbedding c.retrievalQueryHmac))
  answer := (c.answer.policy,.prepared (c.answer.budget .answerGeneration c.currentTextHmac))

theorem CaseClaim.admission_of (c : CaseClaim) : AdmissionOf c c.admission :=
  ⟨rfl,rfl,rfl,rfl,rfl,rfl,rfl,rfl,rfl,rfl,rfl,⟨rfl,rfl,rfl⟩,⟨rfl,rfl,rfl⟩⟩

/-! ## Claimed runs -/

/-- The database with the rows of a claim; no ledger knows the run. -/
def claimedWorld (processHmac : Nat → Hmac) (run : Run) : World :=
  { World.initial processHmac with db := some run, history := [.committed run] }

theorem admitComponent_prepared {component : RagPaidComponent} {policy : AuthorizedProviderPolicySnapshot}
    {budget : PreparedPaidCallBudget} {w : World} {Q : Unit → World → Prop} {E : LedgerError → World → Prop}
    (hpolicy : policy.component = component) (hbudget : budget.component = component)
    (hdigest : budget.costPolicySnapshotHmac = policy.authorizedPolicySnapshotHmac) (hq : Q () w) :
    wp (admitComponent authority request component (policy,.prepared budget)) Q E w := by
  have hav : (policy.component = component && (RagAdmissionBudget.prepared budget).component = component &&
      policy.authorizedPolicySnapshotHmac = (RagAdmissionBudget.prepared budget).costPolicySnapshotHmac) = true := by
    simp [RagAdmissionBudget.component,RagAdmissionBudget.costPolicySnapshotHmac,hpolicy,hbudget,hdigest]
  exact wp_seq_check (fun hn => Bool.noConfusion (hav.symm.trans hn)) fun _ => hq

/-- The admission of a claim succeeds on an empty database. -/
theorem admission_succeeds (c : CaseClaim) (processHmac : Nat → Hmac) (hhealthy : env.runtimeHealthy = true)
    (hcommit : env.commit = .acknowledged) :
    wp (createAdmission authority 0 env c.admission)
      (fun _ w => ∃ images, admittedImages authority c.admission = some images ∧
        w = (claimedWorld processHmac images.run).mapMemory 0 (admitted c.admission))
      (fun _ _ => False) (World.initial processHmac) := by
  have hwindow : admissionSourceWindow .enforce c.surface c.configuredBackend =
      some (.admission .enforce c.surface c.configuredBackend) := rfl
  have hroute : (c.admission.sourceWindow = .admission .enforce c.surface c.configuredBackend &&
      c.admission.routeIsActive && c.admission.contextMatchesSurface) = true := by
    unfold AdmissionRequest.routeIsActive AdmissionRequest.contextMatchesSurface CaseClaim.admission contextOf
    cases c.surface <;> cases c.configuredBackend <;> rfl
  unfold createAdmission runtimeHealthEffect
  refine wp_seq_check (fun hn => absurd (hhealthy.symm.trans hn) nofun) fun _ => ?_
  refine wp_seq_lookup (fun hn => absurd (hwindow.symm.trans hn) nofun) fun window hsome => ?_
  obtain rfl : SourceWindow.admission .enforce c.surface c.configuredBackend = window :=
    Option.some.inj (hwindow.symm.trans hsome)
  refine wp_seq_check (fun hn => absurd (hroute.symm.trans hn) nofun) fun _ => ?_
  refine wp_seq_lookup (fun hn => absurd ((requireLowerHmac_text c.currentTextHmac).symm.trans hn) nofun)
    fun current hcurrent => ?_
  refine wp_seq_lookup (fun hn => absurd ((requireLowerHmac_text c.retrievalQueryHmac).symm.trans hn) nofun)
    fun query hquery => ?_
  refine wp_seq_lookup (fun hn => absurd ((requireLowerHmac_text c.securityScopeFingerprint).symm.trans hn) nofun)
    fun scope hscope => ?_
  refine wp_seq (admitComponent_prepared c.order.1 rfl rfl ?_)
  refine wp_seq (admitComponent_prepared c.order.2 rfl rfl ?_)
  refine wp_seq_check (fun hn => by cases hn) fun _ => ?_
  refine wp_seq_check (fun hn => by cases hn) fun _ => ?_
  refine wp_seq_check (fun hn => by cases hn) fun _ => ?_
  have himages : admittedImages authority c.admission =
      some (admissionImages authority c.admission current query scope) := by
    simp [admittedImages,hcurrent,hquery,hscope]
  unfold insertRun
  refine wp_seq (wp_seq_get ?_)
  have hdb : (World.initial processHmac).db = none := rfl
  rw [hdb,hcommit]
  exact ⟨_,himages,rfl⟩

/-- A claimed pgvector run is what an admission leaves after its process is gone. -/
theorem claimedWorld_reachable (hbackend : c.configuredBackend = .pgvector) (processHmac : Nat → Hmac) :
    claimedWorld processHmac (runtimeImages authority.sign c).run =
      Lib.run (step authority) (World.initial processHmac)
        [.call 0 sampleEnvironment (.createAdmission c.admission),.restart 0 (processHmac 0)] := by
  obtain ⟨images,himages,hclaimed⟩ := @AdmissionOf.images authority _ _ c.admission_of
  rw [← hclaimed]
  have hsame : claimedImages authority.sign c.configuredBackend images = images := by
    unfold claimedImages
    rw [hbackend]
    rfl
  obtain ⟨_,images',himages',hfinal⟩ := succeeds_of_wp
    (@admission_succeeds authority sampleEnvironment c processHmac rfl rfl)
  obtain rfl : images = images' := Option.some.inj (himages.symm.trans himages')
  have hstep : step authority (World.initial processHmac) (.call 0 sampleEnvironment (.createAdmission c.admission)) =
      (claimedWorld processHmac images.run).mapMemory 0 (admitted c.admission) := hfinal
  rw [run_cons,hstep,run_cons,run_nil,hsame]
  unfold step restart claimedWorld World.mapMemory World.rollback World.initial
  simp only [World.mk.injEq,true_and,and_true,Option.filter_none]
  funext j
  by_cases hj : j = 0
  · simp [hj]
  · simp [hj]

/-! ## Closing a claimed run -/

/-- The claim with its answer dispatched. -/
def CaseClaim.dispatched (c : CaseClaim) (parent : AgentRun) (fence process : Hmac) : Run :=
  ⟨parent,[c.query.image .queryEmbedding (if c.configuredBackend = .keyword then .terminal else .notAttempted),
    claimRow fence process (c.answer.image .answerGeneration .notAttempted)]⟩

theorem dispatched_ends (c : CaseClaim) {parent : AgentRun} (hs : parent.status = .running)
    (hp : parent.runRecordPhase = .admission) (fence process : Hmac) (processHmac : Nat → Hmac)
    (hcommit : env.commit = .acknowledged) :
    wp (recoverIncompleteRun authority i env ⟨none,none,some (authority.sign.deadProcessAttestation process).text,none⟩)
      (fun _ => Ended) (fun _ _ => False) (claimedWorld processHmac (c.dispatched parent fence process)) := by
  apply deadProcess_ends hcommit rfl rfl rfl hs hp
  · simp [isIncomplete,claimRow]
  · apply expectedAttestation_eq
    · intro r hr x hx
      rcases List.mem_pair.mp hr with rfl | rfl
      · cases hx
      · exact (Option.some.inj hx).symm
    · exact ⟨_,List.mem_pair.mpr (Or.inr rfl),rfl⟩

/-- A case claim against the admission of its route. -/
structure StartsAdmission (authority : LedgerAuthority) (c : CaseClaim) : Prop where
  /-- the rows are those of the admission, but that an unused embedding is closed at once -/
  rows : ∀ request, AdmissionOf c request → ∃ images, admittedImages authority request = some images ∧
    claimedImages authority.sign c.configuredBackend images = runtimeImages authority.sign c
  /-- which are the rows that it commits -/
  committed : ∀ request processHmac i env,
    Succeeds authority (World.initial processHmac) i env (.createAdmission request) →
    (step authority (World.initial processHmac) (.call i env (.createAdmission request))).db =
      (admittedImages authority request).map RunImages.run
  admitted : ∃ request, AdmissionOf c request ∧ ∀ processHmac env, env.runtimeHealthy = true →
    env.commit = .acknowledged → Succeeds authority (World.initial processHmac) 0 env (.createAdmission request)
  /-- every state a pgvector run comes to can be closed -/
  closable : c.configuredBackend = .pgvector → ∀ processHmac processHmac' commands run i env,
    (Lib.run (step authority) (claimedWorld processHmac (runtimeImages authority.sign c).run) commands).db = some run →
    run.parent.status = .running → env.runtimeHealthy = true → env.commit = .acknowledged →
    ∃ operation, ClosingCall authority run operation ∧
      Succeeds authority ((Lib.run (step authority)
        (claimedWorld processHmac (runtimeImages authority.sign c).run) commands).lose processHmac') i env operation ∧
      Ended (step authority ((Lib.run (step authority)
        (claimedWorld processHmac (runtimeImages authority.sign c).run) commands).lose processHmac')
        (.call i env operation))
  /-- as can a keyword run once its answer is dispatched -/
  dispatched : c.configuredBackend = .keyword → ∀ parent fence process processHmac i env,
    parent.status = .running → parent.runRecordPhase = .admission → env.commit = .acknowledged →
    ∃ operation, ClosingCall authority (c.dispatched parent fence process) operation ∧
      Succeeds authority (claimedWorld processHmac (c.dispatched parent fence process)) i env operation ∧
      Ended (step authority (claimedWorld processHmac (c.dispatched parent fence process)) (.call i env operation))

/-- Each case of an accepted manifest is claimed as its admission. -/
theorem accepted_case_starts_admission (authority : LedgerAuthority) {manifest : FrozenCaseClaimManifest}
    {claims : List CaseClaim} (h : manifestPayload manifest = some claims) :
    ∀ case ∈ manifest.cases, ∃ c ∈ claims, case.read = some c ∧ StartsAdmission authority c := by
  intro case hcase
  unfold manifestPayload at h
  split at h
  · cases h
  · obtain ⟨c,hc,hread⟩ := forall₂_mem_left (mapM_eq_some_iff.mp h) hcase
    refine ⟨c,hc,hread,fun request hrequest => hrequest.images,?_,⟨c.admission,c.admission_of,?_⟩,?_,?_⟩
    · intro request processHmac i env hs
      obtain ⟨images,himages,hdb⟩ := hs.finalState (createAdmission_commits authority request i env processHmac)
      rw [himages]
      exact hdb
    · intro processHmac env hhealthy hcommit
      exact (succeeds_of_wp (P := fun _ => True)
        (wp_mono (admission_succeeds c processHmac hhealthy hcommit) (fun _ _ _ => trivial) fun _ _ he => he)).1
    · intro hbackend processHmac processHmac' commands run i env hdb hs hhealthy hcommit
      rw [claimedWorld_reachable hbackend,← run_append] at hdb ⊢
      have hreachable : Reachable authority (Lib.run (step authority) (World.initial processHmac)
          ([.call 0 sampleEnvironment (.createAdmission c.admission),.restart 0 (processHmac 0)]++commands)) :=
        ⟨processHmac,_,rfl⟩
      obtain ⟨operation,hcall,hwp⟩ := hreachable.kept.closable hdb hs processHmac' hhealthy hcommit
      exact ⟨operation,hcall,succeeds_of_wp hwp⟩
    · intro _ parent fence process processHmac i env hs hp hcommit
      refine ⟨_,.deadProcess process ?_ ?_,succeeds_of_wp
        (dispatched_ends c hs hp fence process processHmac hcommit)⟩
      · exact ⟨_,List.mem_pair.mpr (Or.inr rfl),rfl⟩
      · intro r hr x hx
        rcases List.mem_pair.mp hr with rfl | rfl
        · cases hx
        · exact (Option.some.inj hx).symm

/-! ## A keyword claim before its answer -/

section keyword

variable {processHmac : Nat → Hmac} (hkeyword : c.configuredBackend = .keyword)

include hkeyword

theorem keyword_children : c.children =
    [c.query.image .queryEmbedding .terminal,c.answer.image .answerGeneration .notAttempted] := by
  unfold CaseClaim.children
  rw [if_pos hkeyword]

theorem keyword_claim_projectionless (outcome : Outcome) (completedAt : Option Timestamp) :
    ¬Succeeds authority (claimedWorld processHmac (runtimeImages authority.sign c).run) i env
      (.finalizeProjectionlessFailure outcome completedAt) := by
  apply not_succeeds
  change wp (finalizeProjectionlessFailure authority i env outcome completedAt) _ _ _
  unfold finalizeProjectionlessFailure runtimeHealthEffect
  refine wp_seq_require trivial fun _ => ?_
  refine wp_seq_require trivial fun _ => ?_
  refine wp_seq (selectForUpdate_free rfl rfl (wp_seq (wp_seq_pure ?_)))
  refine wp_seq_require trivial fun hav => ?_
  have hall : (c.children.all fun row => row.dispatchState = .notAttempted) = true := (Bool.and_eq_true_iff.mp hav).2
  rw [keyword_children hkeyword] at hall
  cases hall

theorem keyword_claim_preSend (outcome : Outcome) (completedAt : Option Timestamp) :
    ¬Succeeds authority (claimedWorld processHmac (runtimeImages authority.sign c).run) i env
      (.finalizePreSendRefusal outcome completedAt) := by
  apply not_succeeds
  change wp (finalizePreSendRefusal authority i env outcome completedAt) _ _ _
  unfold finalizePreSendRefusal runtimeHealthEffect
  refine wp_seq_require trivial fun _ => ?_
  refine wp_seq_require trivial fun _ => ?_
  refine wp_seq (lockedRun_free rfl rfl rfl ?_)
  refine wp_seq_require trivial fun hav => ?_
  have hall : (c.children.all fun row => row.dispatchState = .notAttempted) = true := (Bool.and_eq_true_iff.mp hav).2
  rw [keyword_children hkeyword] at hall
  cases hall

theorem keyword_claim_recovery (recovery : RecoveryAuthority) :
    ¬Succeeds authority (claimedWorld processHmac (runtimeImages authority.sign c).run) i env
      (.recoverIncompleteRun recovery) := by
  apply not_succeeds
  change wp (recoverIncompleteRun authority i env recovery) _ _ _
  unfold recoverIncompleteRun
  refine wp_seq (lockedRun_free rfl rfl rfl ?_)
  refine wp_seq_require trivial fun _ => ?_
  refine (wp_ite _ _ _ _ _ _).mpr ⟨fun hpending => absurd hpending RunRecordPhase.noConfusion,fun _ => ?_⟩
  refine wp_seq_require trivial fun hav => ?_
  have hincomplete : isIncomplete c.children = true := by
    unfold deadProcessRecovery at hav
    simp only [Bool.and_eq_true] at hav
    exact hav.1.1.2
  rw [keyword_children hkeyword] at hincomplete
  cases hincomplete

end keyword

/-! ## A case of each backend -/

section samples

def otherDigest : Hmac := ⟨String.ofList (List.replicate 64 'b'),by decide⟩

def samplePolicy (component : RagPaidComponent) : FrozenPolicySnapshot :=
  ⟨component,"openai","model","config","v1",sampleDigest.text,"v1","v1","v1",sampleDigest.text,sampleDigest.text⟩

def sampleCase (ordinal : Int) (caseId : Hmac) (backend : RagRetrievalBackend) (embedding : FrozenCaseClaimComponent) :
    FrozenCaseClaimCase :=
  ⟨ordinal,caseId.text,.ask,backend,sampleDigest.text,sampleDigest.text,sampleDigest.text,
    [embedding,⟨samplePolicy .answerGeneration,10000,512,.finite 9804 (-6)⟩]⟩

def sampleManifest : FrozenCaseClaimManifest where
  cases := [sampleCase 0 sampleDigest .keyword ⟨samplePolicy .queryEmbedding,0,0,.finite 0 0⟩,
    sampleCase 1 otherDigest .pgvector ⟨samplePolicy .queryEmbedding,8000,0,.finite 160 (-6)⟩]
  contractVersion := "rag-live-case-claim-manifest:v1"
  fixtureManifestVersion := "rag-live-quality-30:v1"
  runtimeContractVersion := "rag-run:v2"
  assemblyVersion := "rag-live-case-claim-assembly:v1"
  sourceManifestHmac := none

theorem sampleManifest_accepted : (manifestPayload sampleManifest).isSome = true := by decide +kernel

theorem accepted_case_starts_admission_sample : ∃ claims, manifestPayload sampleManifest = some claims ∧
    ∀ case ∈ sampleManifest.cases, ∃ c ∈ claims, case.read = some c ∧ StartsAdmission sampleAuthority c := by
  obtain ⟨claims,hclaims⟩ := Option.isSome_iff_exists.mp sampleManifest_accepted
  exact ⟨claims,hclaims,accepted_case_starts_admission sampleAuthority hclaims⟩

/-- The keyword case of the manifest is not the run of its admission, and before its answer nothing closes it. -/
theorem keyword_claim_differs : ∃ claims, manifestPayload sampleManifest = some claims ∧ ∃ c ∈ claims,
    admittedImages sampleAuthority c.admission ≠ some (runtimeImages sampleAuthority.sign c) ∧
    ∀ (processHmac : Nat → Hmac) (i : Nat) (env : Environment) (outcome : Outcome) (completedAt : Option Timestamp)
      (recovery : RecoveryAuthority),
      ¬Succeeds sampleAuthority (claimedWorld processHmac (runtimeImages sampleAuthority.sign c).run) i env
        (.finalizeProjectionlessFailure outcome completedAt) ∧
      ¬Succeeds sampleAuthority (claimedWorld processHmac (runtimeImages sampleAuthority.sign c).run) i env
        (.finalizePreSendRefusal outcome completedAt) ∧
      ¬Succeeds sampleAuthority (claimedWorld processHmac (runtimeImages sampleAuthority.sign c).run) i env
        (.recoverIncompleteRun recovery) := by
  obtain ⟨claims,hclaims⟩ := Option.isSome_iff_exists.mp sampleManifest_accepted
  have hkeyword : claims.any (fun c => c.configuredBackend = .keyword &&
      admittedImages sampleAuthority c.admission ≠ some (runtimeImages sampleAuthority.sign c)) = true := by
    have hany : ((manifestPayload sampleManifest).any fun claims => claims.any fun c =>
        c.configuredBackend = .keyword &&
        admittedImages sampleAuthority c.admission ≠ some (runtimeImages sampleAuthority.sign c)) = true := by
      decide +kernel
    rwa [hclaims] at hany
  obtain ⟨c,hc,hkeyword⟩ := List.any_eq_true.mp hkeyword
  simp only [Bool.and_eq_true,decide_eq_true_eq] at hkeyword
  refine ⟨claims,hclaims,c,hc,hkeyword.2,?_⟩
  intro processHmac i env outcome completedAt recovery
  exact ⟨keyword_claim_projectionless hkeyword.1 outcome completedAt,
    keyword_claim_preSend hkeyword.1 outcome completedAt,keyword_claim_recovery hkeyword.1 recovery⟩

end samples

end ParaWorks.LiveGate
