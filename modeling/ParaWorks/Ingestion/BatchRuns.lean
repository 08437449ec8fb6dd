import ParaWorks.Ingestion.Batch
import ParaWorks.Ingestion.PermissionRuns

/-!
# Runs of batches

A batch of events of distinct sources does what the events do one by one, unless one of them crosses the narrowings of
those before it.
-/

namespace ParaWorks.Ingestion

open Lib Sources

variable {p : Platform} {env : Environment p} {db db' : IngestionState} {event : SourceEvent} {batch batch' : Batch}
  {effect : Effect} {initial : IngestionState} {done : List SourceEvent}

theorem flush_rows : batch.flush.rows env = batch.rows env := rfl

theorem flush_committed (rows : List VectorRow) (corpus vector : Nat) :
    batch.flush.committed rows corpus vector = batch.committed rows corpus vector := by
  unfold Batch.committed
  exact flush_view batch.db

theorem finishIngestion_none {context : Bool} (honce : (narrowedIds batch.mutations.narrowings).Nodup)
    (hrows : batch.rows env = none) : finishIngestion env context batch = none := by
  have happly := applyVectorMutations_rows env batch.db batch.mutations.deleteIds honce
  unfold Batch.rows at hrows
  rw [hrows] at happly
  rw [finishIngestion,Option.map_eq_none_iff.mp happly]
  rfl

/-- The source of no event occurs again, nor before. -/
structure Distinct (done events : List SourceEvent) : Prop where
  fresh : ∀ e ∈ done, ∀ event ∈ events, e.sourceId ≠ event.sourceId
  nodup : (events.map (·.sourceId)).Nodup

theorem Distinct.next {events : List SourceEvent} (h : Distinct done (event::events)) : Distinct (event::done) events := by
  have hnodup := h.nodup
  rw [List.map_cons,List.nodup_cons] at hnodup
  refine ⟨?_,hnodup.2⟩
  intro e he event' hevent'
  rcases List.mem_cons.mp he with rfl | he
  · exact fun heq => hnodup.1 (heq ▸ List.mem_map_of_mem hevent')
  · exact h.fresh e he event' (List.mem_cons_of_mem _ hevent')

theorem Distinct.head {events : List SourceEvent} (h : Distinct done (event::events)) :
    ∀ e ∈ done, e.sourceId ≠ event.sourceId := fun e he => h.fresh e he event List.mem_cons_self

/-- A batch that the vector writer refuses fails whatever events follow. -/
theorem batch_refused {events : List SourceEvent} {context : Bool} (hinitial : Committed initial)
    (h : Shared env initial done batch) (hdistinct : Distinct done events) (hrows : batch.rows env = none) :
    (events.foldlM (ingestEvent env) batch).bind (finishIngestion env context) = none := by
  induction events generalizing batch done with
  | nil => exact finishIngestion_none h.once hrows
  | cons event events ih =>
    rw [foldlM_cons_option]
    cases hevent : ingestEvent env batch event with
    | none => rfl
    | some batch' =>
      obtain ⟨effect,result,heffect,happly,hresult⟩ := ingestEvent_some hevent
      have hnext := h.next hinitial hdistinct.head heffect
      have hrefused : result.rows env = none := by
        rw [hnext.rows happly,hrows]
        rfl
      rcases hresult with rfl | rfl
      · exact ih (hnext.step happly) hdistinct.next hrefused
      · exact ih (hnext.step happly).flush hdistinct.next hrefused

/-- Both fail, or both succeed with the same tables. -/
def Agree (batched alone : Option IngestionState) : Prop :=
  batched.isSome = alone.isSome ∧ ∀ db db', batched = some db → alone = some db' → SameTables db db'

/-- What the events that remain do in a batch and one by one. -/
structure Lockstep (env : Environment p) (context : Bool) (batch : Batch) (db : IngestionState) (narrowed : List Text)
    (events : List SourceEvent) : Prop where
  crossed : crossing env db narrowed events = true →
    (events.foldlM (ingestEvent env) batch).bind (finishIngestion env context) = none
  agree : crossing env db narrowed events = false →
    Agree ((events.foldlM (ingestEvent env) batch).bind (finishIngestion env context)) (ingestOneByOne env db events)

section lockstep

variable {context : Bool} {narrowed : List Text} {events : List SourceEvent}

theorem Lockstep.fail
    (hbatch : ((event::events).foldlM (ingestEvent env) batch).bind (finishIngestion env context) = none)
    (halone : ingestAlone env db event = none) : Lockstep env context batch db narrowed (event::events) := by
  refine ⟨fun _ => hbatch,fun _ => ?_⟩
  have hone : ingestOneByOne env db (event::events) = none := by
    rw [ingestOneByOne,foldlM_cons_option,halone]
    rfl
  rw [hbatch,hone]
  exact ⟨rfl,by simp⟩

theorem foldl_none (hevent : ingestEvent env batch event = none) :
    ((event::events).foldlM (ingestEvent env) batch).bind (finishIngestion env context) = none := by
  rw [foldlM_cons_option,hevent]
  rfl

theorem Lockstep.cross (hevent : ingestEvent env batch event = none) (hcross : crosses env db narrowed event = true) :
    Lockstep env context batch db narrowed (event::events) := by
  refine ⟨fun _ => foldl_none hevent,fun hfalse => ?_⟩
  rw [crossing,hcross] at hfalse
  cases hfalse

theorem Lockstep.step (hcross : crosses env db narrowed event = false)
    (hevent : ingestEvent env batch event = some batch') (halone : ingestAlone env db event = some db')
    (h : Lockstep env context batch' db' (narrowed++narrowedBy env db event) events) :
    Lockstep env context batch db narrowed (event::events) := by
  have hcrossing : crossing env db narrowed (event::events) =
      crossing env db' (narrowed++narrowedBy env db event) events := by
    rw [crossing,hcross,halone]
    rfl
  have hbatch : (event::events).foldlM (ingestEvent env) batch = events.foldlM (ingestEvent env) batch' := by
    rw [foldlM_cons_option,hevent]
    rfl
  have hone : ingestOneByOne env db (event::events) = ingestOneByOne env db' events := by
    rw [ingestOneByOne,foldlM_cons_option,halone]
    rfl
  constructor
  · rw [hcrossing,hbatch]
    exact h.crossed
  · rw [hcrossing,hbatch,hone]
    exact h.agree

/-- An event crosses the narrowings before it where the batch has an index state of theirs. -/
theorem Shared.crosses_iff (rows : List VectorRow) (corpus vector : Nat) (h : Shared env initial done batch)
    (hnarrowed : ∀ id, id ∈ narrowed ↔ id ∈ narrowedIds batch.mutations.narrowings)
    (heffect : eventEffect env (batch.committed rows corpus vector) event = some effect) :
    crosses env (batch.committed rows corpus vector) narrowed event = true ↔
      effect.refresh.isSome = true ∧ ∃ s ∈ batch.db.indexStates,
        s.documentId ∈ narrowedIds batch.mutations.narrowings := by
  rw [crosses,heffect,Bool.and_eq_true,Option.any_some,List.any_eq_true]
  apply and_congr_right
  intro _
  constructor
  · rintro ⟨s,hs,hid⟩
    exact ⟨s,(List.mem_filter.mp hs).1,(hnarrowed _).mp (by simpa using hid)⟩
  · rintro ⟨s,hs,hid⟩
    have hkept : s.documentId ∉ batch.mutations.deleteIds := fun hdeleted => h.apart _ hdeleted hid
    exact ⟨s,List.mem_filter.mpr ⟨hs,by simpa using hkept⟩,by simpa using (hnarrowed _).mpr hid⟩

theorem applyEffect_narrowings (happly : applyEffect p batch effect = some batch') :
    batch'.mutations.narrowings = addNarrowings batch.mutations.narrowings effect.narrowed := by
  rw [applyEffect_states] at happly
  obtain ⟨states,-,rfl⟩ := Option.map_eq_some_iff.mp happly
  rfl

theorem ingestEvent_apply (heffect : eventEffect env batch.db event = some effect)
    (happly : applyEffect p batch effect = some batch') :
    ingestEvent env batch event = some batch' ∨ ingestEvent env batch event = some batch'.flush := by
  rcases ingestEvent_effect env batch event with heq | heq
  · rw [heq,heffect,Option.bind_some,happly]
    exact .inl rfl
  · rw [heq,heffect,Option.bind_some,happly]
    exact .inr rfl

/-- The events that remain, in the batch and one by one. -/
theorem batch_lockstep {rows : List VectorRow} (corpus vector : Nat) (hinitial : Committed initial)
    (h : Shared env initial done batch) (hdistinct : Distinct done events) (hrows : batch.rows env = some rows)
    (hnarrowed : ∀ id, id ∈ narrowed ↔ id ∈ narrowedIds batch.mutations.narrowings)
    (hcontext : context = false → ∀ e ∈ done++events, env.canonical e = false) :
    Lockstep env context batch (batch.committed rows corpus vector) narrowed events := by
  induction events generalizing batch done rows corpus vector narrowed with
  | nil =>
    refine ⟨by simp [crossing],fun _ => ?_⟩
    obtain ⟨corpus',vector',hfinish⟩ := finishIngestion_rows env context batch h.once fun hnone => by
      have hdone : ∀ e ∈ done, env.canonical e = false := fun e he => hcontext hnone e (List.mem_append_left _ he)
      exact ⟨h.unchanged hdone,h.untracked hdone⟩
    rw [hrows] at hfinish
    change Agree (finishIngestion env context batch) (some _)
    rw [hfinish]
    refine ⟨rfl,?_⟩
    intro db db' hdb hdb'
    obtain rfl := Option.some.inj hdb
    obtain rfl := Option.some.inj hdb'
    rfl
  | cons event events ih =>
    have hview := h.effect_view hdistinct.head ⟨batch.db.indexStates.filter (·.documentId ∉ batch.mutations.deleteIds),
      rows,corpus,vector⟩
    cases heffect : eventEffect env batch.db event with
    | none =>
      rw [heffect,Option.map_none,Option.map_eq_none_iff] at hview
      have hnone : eventEffect env (batch.committed rows corpus vector) event = none := hview
      apply Lockstep.fail (foldl_none (ingestEvent_none (by rw [heffect]; rfl)))
      rw [ingestAlone_effect,hnone]
      rfl
    | some effect =>
      have hnext := h.next hinitial hdistinct.head heffect
      rw [heffect] at hview
      obtain ⟨effect₂,heffect₂,hsame⟩ := Option.map_eq_some_iff.mp hview
      have hrefresh : effect₂.refresh = effect.refresh := congrArg (·.refresh) hsame
      have hcrosses := h.crosses_iff rows corpus vector hnarrowed heffect₂
      rw [hrefresh] at hcrosses
      by_cases hcross : crosses env (batch.committed rows corpus vector) narrowed event = true
      · -- the batch refreshes an indexed document of an earlier source
        obtain ⟨hsome,s,hs,hid⟩ := hcrosses.mp hcross
        have hraises := hnext.crosses_raises hsome hs hid
        exact .cross (ingestEvent_none (by rw [heffect]; exact hraises)) hcross
      have hapart : effect.refresh.isSome = true → ∀ s ∈ batch.db.indexStates,
          s.documentId ∉ narrowedIds batch.mutations.narrowings :=
        fun hsome s hs hid => hcross (hcrosses.mpr ⟨hsome,s,hs,hid⟩)
      obtain ⟨corpus',vector',halone⟩ := hnext.alone corpus vector heffect hrows hapart
      cases happly : applyEffect p batch effect with
      | none =>
        rw [happly] at halone
        exact .fail (foldl_none (ingestEvent_none (by rw [heffect]; exact happly))) halone
      | some result =>
        rw [happly,Option.bind_some] at halone
        have hshared := hnext.step happly
        obtain ⟨batch',hevent,hshared',hrows',hcommitted,hmutations⟩ : ∃ batch', ingestEvent env batch event = some batch' ∧
            Shared env initial (event::done) batch' ∧ batch'.rows env = result.rows env ∧
            (∀ rows, batch'.committed rows corpus' vector' = result.committed rows corpus' vector') ∧
            batch'.mutations = result.mutations := by
          rcases ingestEvent_apply heffect happly with hevent | hevent
          · exact ⟨result,hevent,hshared,rfl,fun _ => rfl,rfl⟩
          · exact ⟨result.flush,hevent,hshared.flush,flush_rows,fun rows => flush_committed rows _ _,rfl⟩
        cases hresult : result.rows env with
        | none =>
          rw [hresult] at halone
          apply Lockstep.fail _ halone
          rw [foldlM_cons_option,hevent]
          exact batch_refused hinitial hshared' hdistinct.next (hrows'.trans hresult)
        | some rows' =>
          rw [hresult,Option.map_some,← hcommitted] at halone
          apply Lockstep.step (by simpa using hcross) hevent halone
          apply ih _ _ hshared' hdistinct.next (hrows'.trans hresult)
          · intro id
            have hnarrows : narrowedBy env (batch.committed rows corpus vector) event = effect.narrowed.map (·.2) := by
              have hsameNarrowed : effect₂.narrowed = effect.narrowed := congrArg (·.narrowed) hsame
              have hcommit : eventEffect env (batch.committed rows corpus vector) event = some effect₂ := heffect₂
              rw [narrowedBy,hcommit,← hsameNarrowed]
              rfl
            rw [hmutations,applyEffect_narrowings happly,hnext.ids.mem_iff,hnarrows,List.mem_append,List.mem_append,
              hnarrowed]
          · intro hnone e he
            apply hcontext hnone
            simp only [List.mem_append,List.mem_cons] at he ⊢
            tauto

end lockstep

/-! ## Calls -/

/-- Every call keeps the keys of the tables. -/
theorem ingestEventsWithResult_keyed {events : List SourceEvent} (hk : Keyed db) :
    Keyed (ingestEventsWithResult env db events).2 := by
  unfold ingestEventsWithResult
  cases hrun : ingestEventsTransaction env db events with
  | none => exact hk
  | some committed =>
    obtain ⟨batch,hloop,hfinish⟩ := Option.bind_eq_some_iff.mp hrun
    have hbatch : Keyed batch.db := by
      refine foldlM_keeps (P := fun b : Batch => Keyed b.db) ?_ hloop hk
      intro b event b' hevent hkeyed
      obtain ⟨effect,result,heffect,happly,hresult⟩ := ingestEvent_some hevent
      rw [applyEffect_states] at happly
      obtain ⟨states,-,rfl⟩ := Option.map_eq_some_iff.mp happly
      have hstates := (eventEffect_touches hkeyed heffect).keyed.withStates states
      rcases hresult with rfl | rfl
      · exact hstates
      · exact hstates.flush
    unfold finishIngestion at hfinish
    obtain ⟨⟨db',mutated⟩,hmutations,hfinish⟩ := Option.bind_eq_some_iff.mp hfinish
    have htables : db'.view ⟨[],[],0,0⟩ = batch.db.view ⟨[],[],0,0⟩ := by
      unfold applyVectorMutations at hmutations
      dsimp only at hmutations
      split at hmutations
      · rw [← (Prod.mk.inj (Option.some.inj hmutations)).1]
      · split at hmutations
        · rw [← (Prod.mk.inj (Option.some.inj hmutations)).1]
          rfl
        · obtain ⟨result,-,heq⟩ := Option.map_eq_some_iff.mp hmutations
          rw [← (Prod.mk.inj heq).1]
          rfl
    dsimp only at hfinish
    split at hfinish
    · cases hfinish
    · obtain rfl := Option.some.inj hfinish
      have hview := (hbatch.view ⟨[],[],0,0⟩)
      rw [← htables] at hview
      exact ⟨hview.sourceIds,hview.sourceKeys,hview.documentIds,hview.versionIds,hview.runIds,hview.chunkIds,
        hview.chunkSources,hview.chunkRuns,hview.currentVersions,hview.pendingVersions⟩

theorem Committed.shared (hdb : Committed db) : Shared env db [] ⟨db,.empty,[]⟩ := by
  refine ⟨hdb.keyed,by simp [Batch.ids,VectorMutations.empty,narrowedIds,narrowingPairs],by simp [hdb.flushed],
    List.nodup_nil,by simp [VectorMutations.empty],fun s hs => .inr hs,fun c hc => .inr ⟨c,hc,rfl,rfl⟩,
    fun s hs => ⟨s,hs,rfl,rfl⟩,fun _ => rfl,?_⟩
  intro _ s _ _
  simp [Batch.ids,VectorMutations.empty,narrowedIds,narrowingPairs]

theorem rows_empty : Batch.rows env ⟨db,.empty,[]⟩ = some db.vectors := by
  unfold Batch.rows vectorsAfter
  cases env.writer with
  | none => rfl
  | some writer =>
    have hall : db.vectors.filter (·.documentId ∉ ([] : List Text)) = db.vectors := by simp
    change (db.vectors.filter (·.documentId ∉ ([] : List Text))).mapM _ = _
    rw [hall]
    conv_rhs => rw [← List.map_id db.vectors,← mapM_some_map]
    rfl

/-- A batch of events of distinct sources agrees with the events one by one, exactly where those fail or no event
crosses the narrowings of those before it. -/
theorem batch_agrees_iff (env : Environment p) (db : IngestionState) (events : List SourceEvent) (hdb : Committed db)
    (hdistinct : (events.map (·.sourceId)).Nodup) : BatchAgrees env db events ↔
      ((ingestOneByOne env db events).isSome = true → crossing env db [] events = false) := by
  have hcommitted : Batch.committed ⟨db,.empty,[]⟩ db.vectors db.corpusGeneration db.vectorIndexGeneration = db := by
    have hstates : db.indexStates.filter (·.documentId ∉ ([] : List Text)) = db.indexStates := by simp
    change db.view ⟨db.indexStates.filter (·.documentId ∉ ([] : List Text)),db.vectors,_,_⟩ = db
    rw [hstates]
    exact flush_of_pending hdb.flushed
  have hlockstep : Lockstep env (events.any env.canonical) ⟨db,.empty,[]⟩ _ [] events := batch_lockstep
    db.corpusGeneration db.vectorIndexGeneration hdb hdb.shared ⟨by simp,hdistinct⟩ rows_empty (by simp [VectorMutations.empty,narrowedIds,narrowingPairs]) (by
      intro hnone e he
      simpa using List.any_eq_false.mp hnone e he)
  rw [hcommitted] at hlockstep
  have hrun : (events.foldlM (ingestEvent env) ⟨db,.empty,[]⟩).bind (finishIngestion env (events.any env.canonical)) =
      ingestEventsTransaction env db events := rfl
  obtain ⟨hcrossed,hagree⟩ := hlockstep
  rw [hrun] at hcrossed hagree
  constructor
  · intro h hone
    by_contra hcross
    have hnone := hcrossed (by simpa using hcross)
    have hsucceeds := h.succeeds
    rw [ingestEventsWithResult,hnone,hone] at hsucceeds
    cases hsucceeds
  · intro h
    cases hbatch : ingestEventsTransaction env db events with
    | none =>
      have hone : ingestOneByOne env db events = none := by
        by_contra hsome
        have hisSome := Option.isSome_iff_ne_none.mpr hsome
        have hsame := (hagree (h hisSome)).1
        rw [hbatch,hisSome] at hsame
        cases hsame
      refine ⟨?_,?_,?_⟩
      · rw [ingestEventsWithResult,hbatch,hone]
        rfl
      · simp [hone]
      · rw [ingestEventsWithResult,hbatch]
        exact fun _ => rfl
    | some committed =>
      have hcross : crossing env db [] events = false := by
        by_contra htrue
        rw [hcrossed (by simpa using htrue)] at hbatch
        cases hbatch
      obtain ⟨hsame,htables⟩ := hagree hcross
      rw [hbatch] at hsame htables
      refine ⟨?_,?_,?_⟩
      · rw [ingestEventsWithResult,hbatch]
        exact hsame
      · intro db' hone
        rw [ingestEventsWithResult,hbatch]
        exact htables committed db' rfl hone
      · rw [ingestEventsWithResult,hbatch]
        intro hfalse
        cases hfalse

theorem emptyState_committed : Committed emptyState := by
  refine ⟨⟨List.nodup_nil,List.nodup_nil,List.nodup_nil,List.nodup_nil,List.nodup_nil,List.nodup_nil,?_,?_,?_,?_⟩,rfl,?_⟩ <;>
    simp [emptyState,IngestionState.allChunks]

def mailOf (sourceId level : Text) : SourceEvent := { mail (text "a") level with sourceId := sourceId }

theorem batch_agrees_new_mails : BatchAgrees sampleEnvironment emptyState
    [mailOf (text "gmail:1") (text "public"),mailOf (text "gmail:2") (text "public")] :=
  (batch_agrees_iff sampleEnvironment emptyState _ emptyState_committed (by decide)).mpr fun _ => by decide +kernel

/-- Two public mails with an index state for the chunk of each. -/
def indexedMails : IngestionState :=
  { (ingestEventsWithResult sampleEnvironment emptyState
      [mailOf (text "gmail:1") (text "public"),mailOf (text "gmail:2") (text "public")]).2 with
    indexStates := [⟨1,text "chunk:1",text "model",text "old",text "indexed",none,none⟩,
      ⟨2,text "chunk:2",text "model",text "old",text "indexed",none,none⟩] }

theorem indexedMails_committed : Committed indexedMails :=
  ⟨(ingestEventsWithResult_keyed emptyState_committed.keyed).withStates _,List.isEmpty_iff.mp (by decide +kernel),by
    intro s hs htracked
    simp only [indexedMails,List.mem_cons,List.not_mem_nil,or_false] at hs
    rcases hs with rfl | rfl <;> cases htracked⟩

def restrictedMails : List SourceEvent :=
  [mailOf (text "gmail:1") (text "restricted"),mailOf (text "gmail:2") (text "restricted")]

/-- The second narrowing of a batch refreshes the first against its own source and raises. -/
theorem batch_raises_on_two_narrowings : Committed indexedMails ∧ (restrictedMails.map (·.sourceId)).Nodup ∧
    (ingestOneByOne sampleEnvironment indexedMails restrictedMails).isSome = true ∧
    (ingestEventsWithResult sampleEnvironment indexedMails restrictedMails).1 = false ∧
    ¬BatchAgrees sampleEnvironment indexedMails restrictedMails := by
  have hone : (ingestOneByOne sampleEnvironment indexedMails restrictedMails).isSome = true := by decide +kernel
  have hbatch : (ingestEventsWithResult sampleEnvironment indexedMails restrictedMails).1 = false := by decide +kernel
  refine ⟨indexedMails_committed,by decide,hone,hbatch,fun h => ?_⟩
  have hsucceeds := h.succeeds
  rw [hone,hbatch] at hsucceeds
  cases hsucceeds

end ParaWorks.Ingestion
