import ParaWorks.Email.Turns
import ParaWorks.Lib.Transition

/-!
# Evidence in drafts

A stored message is gated when its dependencies include its origins. The path of a fresh answer stores the answer's
dependencies with the draft, the other four store none.
-/

namespace ParaWorks.Email

open Lib

section gating

variable {Evidence : Type} (authority : EvidenceAuthority Evidence) (lower : Text → Text)

/-! ## Gated messages -/

structure TracedMessage.Gated (m : TracedMessage) : Prop where
  covered : m.origins ⊆ m.message.columns.dependencies
  counted : m.message.columns.servingDependencyCount = m.message.columns.dependencies.length

def AllGated (conversation : Conversation) : Prop := ∀ m ∈ conversation, m.Gated

/-- The stored dependencies of messages. -/
def dependenciesOf (messages : Conversation) : List ServingDependency := messages.flatMap (·.message.columns.dependencies)

variable {authority} {conversation prior messages : Conversation}

theorem AllGated.append (h : AllGated conversation) {m : TracedMessage} (hm : m.Gated) : AllGated (conversation++[m]) := by
  intro n hn
  rcases List.mem_append.mp hn with hn | hn
  · exact h n hn
  · rw [List.mem_singleton.mp hn]
    exact hm

theorem AllGated.subset (h : AllGated conversation) (hsub : messages ⊆ conversation) : AllGated messages :=
  fun m hm => h m (hsub hm)

/-- The origins of gated messages are among their dependencies. -/
theorem AllGated.origins (h : AllGated messages) : originsOf messages ⊆ dependenciesOf messages := by
  intro d hd
  obtain ⟨m,hm,hmem⟩ := List.mem_flatMap.mp hd
  exact List.mem_flatMap.mpr ⟨m,hm,(h m hm).covered hmem⟩

/-- A message with a dependency that is no longer live is withheld. -/
theorem projectionIsLive_dead {e : Evidence} {message : AssistantMessage} {d : ServingDependency}
    (hcount : message.columns.servingDependencyCount = message.columns.dependencies.length)
    (hd : d ∈ message.columns.dependencies) (hdead : authority.dependencyIsLive e d = false) :
    projectionIsLive authority e message = false := by
  have hall : message.columns.dependencies.all (authority.dependencyIsLive e) = false := by
    rw [List.all_eq_false]
    exact ⟨d,hd,by simp [hdead]⟩
  have hne : message.columns.dependencies ≠ [] := List.ne_nil_of_mem hd
  unfold projectionIsLive
  split
  · rw [hall,Bool.and_false]
  · unfold unsignedIsLive
    dsimp only
    split
    · have hpositive : ¬message.columns.servingDependencyCount = 0 := by
        rw [hcount]
        exact fun h => hne (List.length_eq_zero_iff.mp h)
      simp [hpositive]
    · rw [if_neg fun h => hne h.2,hall,Bool.and_false]

/-- And a draft with such a dependency is not sent. -/
theorem sendGate_dead {e : Evidence} {message : AssistantMessage} {d : ServingDependency}
    (hcount : message.columns.servingDependencyCount = message.columns.dependencies.length)
    (hd : d ∈ message.columns.dependencies) (hdead : authority.dependencyIsLive e d = false) :
    sendGate authority e message = .refused .evidenceUnavailable := by
  have hbacked : message.evidenceBacked = true := by
    have hpositive : ¬message.columns.servingDependencyCount = 0 := by
      rw [hcount]
      exact fun h => List.ne_nil_of_mem hd (List.length_eq_zero_iff.mp h)
    simp [AssistantMessage.evidenceBacked,hpositive]
  unfold sendGate
  rw [hbacked,projectionIsLive_dead hcount hd hdead]
  rfl

/-! ## Storing -/

variable {env : TurnEnvironment Evidence} {lower}

theorem gated_assistantMessage (id : Nat) (content : Text) (citations : List Citation)
    (sourceIds sourceLinks sourceSnippets : List Text) (metadata : MessageMetadata)
    {dependencies origins : List ServingDependency} (h : origins ⊆ dependencies) :
    TracedMessage.Gated
      ⟨assistantMessage id content citations sourceIds sourceLinks sourceSnippets metadata dependencies,origins⟩ :=
  ⟨h,rfl⟩

theorem appendAssistantMessage_gated (h : AllGated conversation) {content : Text} {answer : Option RagAnswer}
    {metadata : MessageMetadata} {dependencies origins : List ServingDependency} (hsub : origins ⊆ dependencies)
    {after : Conversation} (happ : appendAssistantMessage env conversation content answer metadata dependencies origins =
      some after) : AllGated after := by
  unfold appendAssistantMessage at happ
  dsimp only at happ
  split at happ
  · cases happ
  split at happ
  · cases happ
  split at happ
  · cases happ
  · cases happ
    exact h.append (gated_assistantMessage _ _ _ _ _ _ _ hsub)

theorem stored_gated (h : AllGated conversation) {content : Text} {answer : Option RagAnswer} {metadata : MessageMetadata}
    {dependencies origins : List ServingDependency} (hsub : origins ⊆ dependencies) :
    AllGated (stored conversation
      (appendAssistantMessage env conversation content answer metadata dependencies origins)).conversation := by
  cases happ : appendAssistantMessage env conversation content answer metadata dependencies origins with
  | none => exact h
  | some after => exact appendAssistantMessage_gated h hsub happ

theorem answerFailed_gated (h : AllGated conversation) : AllGated (answerFailed env conversation).conversation :=
  stored_gated h (List.Subset.refl [])

theorem recipientClarification_gated (h : AllGated conversation) (resolution : Option RecipientResolution) :
    AllGated (recipientClarification env conversation resolution).conversation :=
  stored_gated h (List.Subset.refl [])

theorem composerClarification_gated (h : AllGated conversation) (question : Text) :
    AllGated (composerClarification env conversation question []).conversation :=
  stored_gated h (List.Subset.refl [])

theorem answerTurn_gated (h : AllGated conversation) (question : Text) :
    AllGated (answerTurn env conversation question).conversation := by
  unfold answerTurn
  split
  · exact answerFailed_gated h
  · dsimp only
    split
    · exact answerFailed_gated h
    · next after happ => exact appendAssistantMessage_gated h (List.Subset.refl _) happ

/-! ## The condition -/

variable (lower env)

def asksBack (decision : EmailActionDecision) : Prop :=
  decision.actionType = .needsClarification ∧ decision.clarificationQuestion ≠ []

/-- The decision is stored as a draft from the source or as a question. -/
def SourceWrites (decision : EmailActionDecision) (source : EmailSourceContext) (recipients : List ResolvedRecipient) :
    Prop :=
  (sourceDraft lower decision source recipients).isSome = true ∨ asksBack decision

/-- The condition on a draft that is composed for a confident intent: without a fresh answer nothing that is shown has
dependencies, with one the draft has those of the answer and the shown messages no others, and a question has none. -/
def ComposedGated (prior : Conversation) (decision : EmailActionDecision) (fresh : Option RagAnswer) : Prop :=
  match decision.toDraft,fresh with
  | some _,none => dependenciesOf (contextMessages env prior) = [] ∧ dependenciesOf (recentMessages env prior) = []
  | some _,some answer => dependenciesOf (contextMessages env prior) ⊆ answer.servingDependencies
  | none,none => asksBack decision →
    dependenciesOf (contextMessages env prior) = [] ∧ dependenciesOf (recentMessages env prior) = []
  | none,some answer => asksBack decision →
    dependenciesOf (contextMessages env prior) = [] ∧ answer.servingDependencies = []

def IntentGated (prior : Conversation) : Prop :=
  let context := renderEmailActionContext env.maxInputChars (prior.map (·.message))
  let intent := env.decide context (strip env.content)
  let question := buildContextualQuestion (prior.map (·.message)) (strip env.content)
  intent.emailIntent = true ∧ env.minConfidence ≤ intent.confidenceScore →
    let resolution := env.resolve (strip env.content) context
    if intent.requiresRagResult then
      ∀ answer, env.answer question = some answer → ComposedGated env prior
        (env.compose (intentComposerInput env prior intent (renderRagAnswerForEmail answer) resolution)) (some answer)
    else ComposedGated env prior (env.compose (intentComposerInput env prior intent
      (renderRecentAssistantContext env.maxInputChars (prior.map (·.message))) resolution)) none

def SourceGated (prior : Conversation) : Prop :=
  match buildEmailSourceContext lower (prior.map (·.message)) (strip env.content) with
  | none => IntentGated env prior
  | some source =>
    let resolution := env.resolve (strip env.content)
      (renderEmailActionContext env.maxInputChars (prior.map (·.message)))
    let recipients := mergeResolvedRecipients resolution.resolvedRecipients source
    let decision := env.compose (sourceComposerInput env prior source recipients)
    recipients ≠ [] →
      (SourceWrites lower decision source recipients → dependenciesOf (contextMessages env prior) = [] ∧
        dependenciesOf (sourceMessages prior) = []) ∧
      (¬SourceWrites lower decision source recipients → IntentGated env prior)

def generatedSource (answer : RagAnswer) : EmailSourceContext :=
  ⟨.generatedRagAnswer,answer.answer,none,none,text "generate_source_before_email"⟩

def GeneratedGated (prior : Conversation) : Prop :=
  match buildGeneratedEmailSourceRequest lower (strip env.content) with
  | none => SourceGated lower env prior
  | some question =>
    let resolution := env.resolve (strip env.content)
      (renderEmailActionContext env.maxInputChars (prior.map (·.message)))
    resolution.status = .resolved → ∀ answer, env.answer question = some answer →
      let recipients := resolution.resolvedRecipients
      let decision := env.compose (sourceComposerInput env prior (generatedSource answer) recipients)
      (SourceWrites lower decision (generatedSource answer) recipients →
        dependenciesOf (contextMessages env prior) = [] ∧ answer.servingDependencies = []) ∧
      (¬SourceWrites lower decision (generatedSource answer) recipients → SourceGated lower env prior)

variable (authority)

/-- The condition on a turn: wherever it stores the composer's words or a draft, but with the dependencies of a fresh
answer, nothing that they are made from has dependencies. -/
def TurnGated (conversation : Conversation) : Prop :=
  let prior := priorMessages authority env conversation
  strip env.content ≠ [] →
    isPendingDraftRecipientProblem lower (prior.map (·.message)) (strip env.content) = false →
    detectContactLookupRequest lower (strip env.content)
      (emailActionRows env.maxInputChars (prior.map (·.message))) = none →
    GeneratedGated lower env prior

variable {authority lower env}

/-! ## Steps -/

theorem originsOf_nil (h : AllGated messages) (hnone : dependenciesOf messages = []) : originsOf messages = [] :=
  List.subset_nil.mp (hnone ▸ h.origins)

theorem contextMessages_subset (env : TurnEnvironment Evidence) (prior : Conversation) : contextMessages env prior ⊆ prior := List.drop_subset _ _

theorem recentMessages_subset (env : TurnEnvironment Evidence) (prior : Conversation) : recentMessages env prior ⊆ prior := by
  intro m hm
  have hfilter := List.mem_of_mem_take hm
  exact List.mem_reverse.mp (List.mem_filter.mp hfilter).1

theorem sourceMessages_subset (prior : Conversation) : sourceMessages prior ⊆ prior := by
  intro m hm
  rcases List.mem_append.mp hm with hm | hm
  · exact List.mem_reverse.mp (List.mem_of_find?_eq_some (Option.mem_toList.mp hm))
  · exact List.mem_reverse.mp (List.mem_of_find?_eq_some (Option.mem_toList.mp hm))

theorem composedTurn_gated (h : AllGated conversation) (hprior : AllGated prior) (question : Text)
    {decision : EmailActionDecision} {fresh : Option RagAnswer} (hok : ComposedGated env prior decision fresh) :
    AllGated (composedTurn env conversation prior question decision fresh).conversation := by
  have hcontext := hprior.subset (contextMessages_subset env prior)
  have hrecent := hprior.subset (recentMessages_subset env prior)
  unfold ComposedGated at hok
  unfold composedTurn
  dsimp only
  cases hdraft : decision.toDraft with
  | some draft =>
    rw [hdraft] at hok
    cases fresh with
    | none =>
      apply stored_gated h
      rw [originsOf_nil hcontext hok.1,originsOf_nil hrecent hok.2]
      exact List.Subset.refl []
    | some answer =>
      apply stored_gated h
      exact List.append_subset.mpr ⟨List.Subset.trans hcontext.origins hok,List.Subset.refl _⟩
  | none =>
    rw [hdraft] at hok
    dsimp only
    split
    · next hasks =>
      cases fresh with
      | none =>
        obtain ⟨hc,hr⟩ := hok hasks
        rw [originsOf_nil hcontext hc,originsOf_nil hrecent hr]
        exact composerClarification_gated h _
      | some answer =>
        obtain ⟨hc,ha⟩ := hok hasks
        dsimp only
        rw [originsOf_nil hcontext hc,ha]
        exact composerClarification_gated h _
    · exact answerTurn_gated h question

theorem intentTurn_gated (h : AllGated conversation) (hprior : AllGated prior) (hok : IntentGated env prior) :
    AllGated (intentTurn env conversation prior).conversation := by
  unfold intentTurn
  dsimp only
  split
  · next hconfident =>
    have hcomposed := hok hconfident
    dsimp only at hcomposed
    split
    · next hrag =>
      rw [if_pos hrag] at hcomposed
      split
      · change AllGated (answerFailed env conversation).conversation
        exact answerFailed_gated h
      · next answer hanswer => exact composedTurn_gated h hprior _ (hcomposed answer hanswer)
    · next hrag =>
      rw [if_neg hrag] at hcomposed
      exact composedTurn_gated h hprior _ hcomposed
  · exact answerTurn_gated h _

/-- A draft from a source, where nothing shown and nothing of the source has dependencies. -/
theorem appendSourceEmailDraftMessage_gated (h : AllGated conversation) (hprior : AllGated prior)
    {source : EmailSourceContext} {recipients : List ResolvedRecipient} {origins : List ServingDependency}
    (horigins : SourceWrites lower (env.compose (sourceComposerInput env prior source recipients)) source recipients →
      dependenciesOf (contextMessages env prior) = [] ∧ origins = [])
    {otherwise : TurnResult}
    (hother : ¬SourceWrites lower (env.compose (sourceComposerInput env prior source recipients)) source recipients →
      AllGated otherwise.conversation) :
    AllGated ((appendSourceEmailDraftMessage lower env conversation prior source recipients origins).getD
      otherwise).conversation := by
  have hcontext := hprior.subset (contextMessages_subset env prior)
  unfold appendSourceEmailDraftMessage
  dsimp only
  generalize env.compose (sourceComposerInput env prior source recipients) = decision at *
  cases hdraft : sourceDraft lower decision source recipients with
  | some draft =>
    obtain ⟨hc,ho⟩ := horigins (Or.inl (by rw [hdraft]; rfl))
    apply stored_gated h
    rw [originsOf_nil hcontext hc,ho]
    exact List.Subset.refl []
  | none =>
    dsimp only
    split
    · next hasks =>
      obtain ⟨hc,ho⟩ := horigins (Or.inr hasks)
      rw [originsOf_nil hcontext hc,ho]
      exact composerClarification_gated h _
    · next hasks =>
      apply hother
      rintro (hs | hs)
      · rw [hdraft] at hs
        cases hs
      · exact hasks hs

theorem sourceTurn_gated (h : AllGated conversation) (hprior : AllGated prior) (hok : SourceGated lower env prior) :
    AllGated (sourceTurn lower env conversation prior).conversation := by
  unfold SourceGated at hok
  unfold sourceTurn
  split
  · next hnone =>
    rw [hnone] at hok
    exact intentTurn_gated h hprior hok
  · next source hsource =>
    rw [hsource] at hok
    dsimp only at hok ⊢
    split
    · exact recipientClarification_gated h _
    · next hrecipients =>
      obtain ⟨hwrites,hother⟩ := hok hrecipients
      apply appendSourceEmailDraftMessage_gated h hprior
      · intro hw
        obtain ⟨hc,hs⟩ := hwrites hw
        exact ⟨hc,originsOf_nil (hprior.subset (sourceMessages_subset prior)) hs⟩
      · exact fun hw => intentTurn_gated h hprior (hother hw)

theorem generatedTurn_gated (h : AllGated conversation) (hprior : AllGated prior)
    (hok : GeneratedGated lower env prior) : AllGated (generatedTurn lower env conversation prior).conversation := by
  unfold GeneratedGated at hok
  unfold generatedTurn
  split
  · next hnone =>
    rw [hnone] at hok
    exact sourceTurn_gated h hprior hok
  · next question hquestion =>
    rw [hquestion] at hok
    dsimp only at hok ⊢
    split
    · exact recipientClarification_gated h _
    · next hresolved =>
      split
      · change AllGated (answerFailed env conversation).conversation
        exact answerFailed_gated h
      · next answer hanswer =>
        obtain ⟨hwrites,hother⟩ := hok (not_not.mp hresolved) answer hanswer
        apply appendSourceEmailDraftMessage_gated h hprior hwrites
        exact fun hw => sourceTurn_gated h hprior (hother hw)

/-- A turn that meets the condition keeps every message gated. -/
theorem turn_gated (h : AllGated conversation) (hok : TurnGated authority lower env conversation) :
    AllGated (turn authority lower env conversation).conversation := by
  have hasked : AllGated (asked env conversation) := h.append ⟨List.Subset.refl [],rfl⟩
  have hprior : AllGated (priorMessages authority env conversation) := by
    apply hasked.subset
    intro m hm
    exact (List.mem_filter.mp (List.dropLast_subset _ hm)).1
  unfold turn
  dsimp only
  split
  · exact h
  · next hcontent =>
    split
    · exact recipientClarification_gated hasked none
    · next hproblem =>
      split
      · exact stored_gated hasked (List.Subset.refl [])
      · next hlookup => exact generatedTurn_gated hasked hprior (hok hcontent (by simpa using hproblem) hlookup)

/-! ## Conversations -/

variable (authority lower)

/-- A conversation after some turns. -/
def converse (turns : List (TurnEnvironment Evidence)) : Conversation :=
  run (fun conversation env => (turn authority lower env conversation).conversation) [] turns

/-- Every message with the text of some evidence has its dependencies, and once one is no longer live the message is
neither sent nor shown. -/
def EvidenceStaysGated (conversation : Conversation) : Prop :=
  ∀ m ∈ conversation, ∀ d ∈ m.origins, d ∈ m.message.columns.dependencies ∧
    ∀ e, authority.dependencyIsLive e d = false → sendGate authority e m.message = .refused .evidenceUnavailable ∧
      m.message ∉ eligibleContextMessages authority e (conversation.map (·.message))

theorem AllGated.stays (h : AllGated conversation) : EvidenceStaysGated authority conversation := by
  intro m hm d hd
  have hmem := (h m hm).covered hd
  refine ⟨hmem,?_⟩
  intro e hdead
  refine ⟨sendGate_dead (h m hm).counted hmem hdead,?_⟩
  intro heligible
  have hlive := (List.mem_filter.mp heligible).2
  rw [projectionIsLive_dead (h m hm).counted hmem hdead] at hlive
  cases hlive

/-- In a conversation whose turns meet the condition the text of evidence stays gated. -/
theorem evidence_stays_gated (turns : List (TurnEnvironment Evidence))
    (hok : RunMeets (fun conversation env => (turn authority lower env conversation).conversation)
      (fun conversation env => TurnGated authority lower env conversation) [] turns) :
    EvidenceStaysGated authority (converse authority lower turns) := by
  apply AllGated.stays
  apply run_invariant_of (P := AllGated) (fun _ _ hturn h => turn_gated h hturn) hok
  intro m hm
  cases hm

end gating

/-! ## A fresh answer mailed, and an earlier one -/

section samples

def servedDocument : ServingDependency := ⟨text "chunk:1",text "h",text "internal"⟩

def servedAnswer : RagAnswer :=
  ⟨text "The plan is ready.",[],[],[],[],text "rag_orchestrator_agent",text "rag-answer:v1",[servedDocument]⟩

def permissive : EvidenceAuthority Unit := ⟨fun _ _ => true,fun _ _ _ => true⟩

def namedRecipient : RecipientResolution :=
  ⟨.resolved,[⟨text "kim@example.com",text "kim",[],[],.conversation,100,[]⟩],text "single_match"⟩

def composedDraft : EmailActionDecision := ⟨.emailDraft,[text "kim@example.com"],text "Plan",text "The plan is ready.",[]⟩

def plainTurn (content : String) (intent : EmailIntentDecision) (decision : EmailActionDecision) : TurnEnvironment Unit where
  content := text content
  evidence := ()
  maxInputChars := 4000
  minConfidence := 70
  vectorStore := false
  resolve := fun _ _ => namedRecipient
  decide := fun _ _ => intent
  compose := fun _ => decision
  answer := fun _ => some servedAnswer
  signs := fun _ => true

def noIntent : EmailIntentDecision := ⟨false,text "none",0,false,[]⟩

def freshIntent : EmailIntentDecision := ⟨true,text "send",90,true,[]⟩

def noDraft : EmailActionDecision := ⟨.notEmail,[],[],[],[]⟩

def freshTurn : TurnEnvironment Unit := plainTurn "mail kim the plan" freshIntent composedDraft

/-- A draft from a fresh answer meets the condition: nothing was said before. -/
theorem freshTurn_gated : TurnGated permissive id freshTurn [] := by
  intro _ _ _
  have hprior : priorMessages permissive freshTurn [] = [] := by decide +kernel
  have hgenerated : buildGeneratedEmailSourceRequest id (strip freshTurn.content) = none := by decide +kernel
  have hsource : buildEmailSourceContext id (([] : Conversation).map (·.message)) (strip freshTurn.content) = none := by
    decide +kernel
  rw [hprior]
  unfold GeneratedGated
  rw [hgenerated]
  change SourceGated id freshTurn []
  unfold SourceGated
  rw [hsource]
  change IntentGated freshTurn []
  unfold IntentGated
  dsimp only
  intro _
  rw [if_pos (by rfl)]
  intro answer hanswer
  obtain rfl : servedAnswer = answer := Option.some.inj hanswer
  change dependenciesOf (contextMessages freshTurn []) ⊆ [servedDocument]
  have hcontext : contextMessages freshTurn [] = [] := List.drop_nil
  rw [hcontext]
  exact List.nil_subset _

theorem evidence_stays_gated_fresh : EvidenceStaysGated permissive (converse permissive id [freshTurn]) :=
  evidence_stays_gated permissive id [freshTurn] ⟨freshTurn_gated,trivial⟩

/-- An answer backed by a document is mailed on by reference: the draft has none of its dependencies. -/
theorem referenced_answer_loses_evidence : ¬∀ turns : List (TurnEnvironment Unit),
    EvidenceStaysGated permissive (converse permissive id turns) := by
  intro h
  have hlost : ((converse permissive id [plainTurn "What is the plan?" noIntent noDraft,
      plainTurn "send this content to kim" noIntent noDraft]).any fun m =>
      m.origins.any (· ∉ m.message.columns.dependencies)) = true := by decide +kernel
  obtain ⟨m,hm,hlost⟩ := List.any_eq_true.mp hlost
  obtain ⟨d,hd,hlost⟩ := List.any_eq_true.mp hlost
  exact of_decide_eq_true hlost (h _ m hm d hd).1

end samples

end ParaWorks.Email
