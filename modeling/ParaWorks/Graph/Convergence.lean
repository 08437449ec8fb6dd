import ParaWorks.Graph.Reconciliation

/-!
# Convergence of the reconciliation

A run keeps the store truthful and moves it forward; once the corpus generation stays, each successful step leaves
less work, until the projection is complete.
-/

namespace ParaWorks.Graph

open Lib

variable {encoding : Encoding} {scopeId : Text} {s : System}

/-! ## Safety -/

/-- What a transaction of a request does to the store. -/
inductive Delivery (s : System) : GraphStore → List GraphProjectionPage → Prop
  | same : Delivery s { s.store with projection := some s.store.lock } []
  | first (page : GraphProjectionPage) (hnew : s.store.lock.generation < page.generation)
      (hstart : page.startCursor = 0) : Delivery s (writePage s.store page) [page]
  | next (page : GraphProjectionPage) (hsame : page.generation = s.store.lock.generation)
      (hcursor : s.store.lock.cursor < page.cursor) (hscanned : s.store.lock.scanned = false) :
      Delivery s (writePage s.store page) [page]
  | swept (batchSize : Nat) (scan : Scan) (hincomplete : s.store.lock.complete = false) :
      Delivery s (clean s.store s.store.lock s.store.lock.generation batchSize scan) []

/-- A complete projection has applied each page of its generation once, and no stored row is of another. -/
theorem System.Sound.complete (h : s.Sound) (hcomplete : s.store.lock.complete = true) :
    ∃ g : Nat, s.store.lock.generation = g ∧ (s.pages g).Nodup ∧ Chained 0 s.store.lock.cursor (s.pages g) ∧
      (s.pages g).flatMap (pageRows (s.history g)) = s.history g ∧
      (∀ node ∈ s.store.nodes, node.generation = g) ∧ ∀ edge ∈ s.store.edges, edge.generation = g := by
  obtain ⟨hscanned,hnodes,hedges⟩ := h.truthful.complete hcomplete
  have hstarted : s.store.lock.generation ≠ -1 := by
    intro hnone
    exact absurd (h.unstarted hnone).1 (by simp [hscanned])
  have hgeneration := h.generation.1
  obtain ⟨g,hg⟩ := Int.eq_ofNat_of_zero_le (show 0 ≤ s.store.lock.generation by omega)
  obtain ⟨hnodup,hchained,hrows,hbehind⟩ := h.pages g hg
  refine ⟨g,hg,hnodup,hchained,?_,hg ▸ hnodes,hg ▸ hedges⟩
  have hall := upTo_append_after (c := s.store.lock.cursor) (h.sorted g)
  rw [hbehind.mp hscanned,List.append_nil] at hall
  rw [hrows,hall]

/-- A page that was applied before is refused or changes nothing. -/
theorem System.Sound.replay (h : s.Sound) {page : GraphProjectionPage} (hpage : page ∈ s.applied) {i : Nat}
    (hrequest : s.requests[i]? = some (.page page)) (scan : Scan) :
    step encoding scopeId s (.deliver i scan) = s := by
  obtain ⟨hnonneg,hle,hcursor⟩ := h.applied page hpage
  have hsome : some s.store.lock = s.store.projection := by
    rw [GraphStore.lock]
    cases hprojection : s.store.projection with
    | none =>
      rw [GraphStore.lock,hprojection] at hle
      change page.generation ≤ -1 at hle
      omega
    | some state => rfl
  rw [step,hrequest]
  dsimp only
  cases htransact : transact s.store scan (.page page) with
  | error => rfl
  | ok store =>
    rcases applyPage_cases htransact with ⟨hgen,hback,rfl⟩ | ⟨hnew,-,-⟩ | ⟨hgen,hnext,-,-,-⟩
    · have hnone : written s.store (.page page) = [] := if_pos ⟨hgen,hback⟩
      simp only [hnone,List.append_nil,hsome]
    · omega
    · have := hcursor hgen
      omega

/-! ## Progress -/

def staleNodes (store : GraphStore) : Nat := store.nodes.countP (·.generation ≠ store.lock.generation)

def staleEdges (store : GraphStore) : Nat := store.edges.countP (·.generation ≠ store.lock.generation)

/-- The rows that no applied page has read. -/
def remaining (s : System) : Nat := (after (·.id) s.store.lock.cursor (currentRows s.db)).length

/-- Successful steps that suffice for a store of the current generation. -/
def work (s : System) : Nat :=
  if s.store.lock.complete then 0 else remaining s+staleEdges s.store+staleNodes s.store+1

def UpToDate (s : System) : Prop := s.store.lock.generation = s.db.corpusGeneration

/-- What a run within one generation keeps or lowers. -/
structure Progress (s s' : System) : Prop where
  rows : currentRows s'.db = currentRows s.db
  corpus : s'.db.corpusGeneration = s.db.corpusGeneration
  generation : s'.store.lock.generation = s.store.lock.generation
  cursor : s.store.lock.cursor ≤ s'.store.lock.cursor
  edges : staleEdges s'.store ≤ staleEdges s.store
  nodes : staleNodes s'.store ≤ staleNodes s.store
  complete : s.store.lock.complete = true → s'.store.lock.complete = true

theorem Progress.refl (s : System) : Progress s s := ⟨rfl,rfl,rfl,le_rfl,le_rfl,le_rfl,id⟩

theorem Progress.trans {s₁ s₂ s₃ : System} (h : Progress s₁ s₂) (h' : Progress s₂ s₃) : Progress s₁ s₃ :=
  ⟨h'.rows.trans h.rows,h'.corpus.trans h.corpus,h'.generation.trans h.generation,h.cursor.trans h'.cursor,
    h'.edges.trans h.edges,h'.nodes.trans h.nodes,fun hc => h'.complete (h.complete hc)⟩

theorem Progress.remaining {s s' : System} (h : Progress s s') : remaining s' ≤ remaining s := by
  rw [Graph.remaining,Graph.remaining,h.rows]
  exact after_length h.cursor

/-- The run holds a reconciliation step that does not raise: a status, the request of a worker that has read it, and a
delivery of this request that the store accepts, in this order, with anything in between. -/
def Succeeds (encoding : Encoding) (scopeId : Text) (s : System) (cmds : List Command) : Prop :=
  ∃ before between rest after' timely batchSize scan request store,
    let s₁ := run (step encoding scopeId) s before
    let s₂ := run (step encoding scopeId) s₁ (.status::between)
    let s₃ := run (step encoding scopeId) s₂ (.request s₁.statuses.length timely batchSize::rest)
    cmds = before++(.status::between)++(.request s₁.statuses.length timely batchSize::rest)++
      .deliver s₂.requests.length scan::after' ∧
    nextRequest encoding s₂.db scopeId (s₁.store.status none) timely batchSize = some request ∧
    transact s₃.store scan request = .ok store

theorem nextRequest_cases {db : CanonicalDatabase} {status : GraphProjectionStatus} {timely : ProjectionRow → Bool}
    {batchSize : Nat} {request : GraphRequest}
    (h : nextRequest encoding db scopeId status timely batchSize = some request) :
    (∃ page, request = .page page ∧ page.generation = db.corpusGeneration ∧ PageOf (currentRows db) page ∧
      (status.generation = db.corpusGeneration → status.scanned = false ∧ page.startCursor = status.cursor) ∧
      (status.generation ≠ db.corpusGeneration → page.startCursor = 0)) ∨
    request = .sweep db.corpusGeneration batchSize ∧ status.generation = db.corpusGeneration ∧
      status.scanned = true := by
  unfold nextRequest at h
  split at h
  · exact absurd h (by simp)
  · split at h
    · next hread =>
      obtain ⟨page,hpage,rfl⟩ := Option.map_eq_some_iff.mp h
      obtain ⟨hgeneration,hstart,hrows⟩ := readProjectionPage_pageOf hpage
      refine .inl ⟨page,rfl,hgeneration,hrows,fun hsame => ⟨hread.resolve_left (not_not.mpr hsame),?_⟩,fun hother => ?_⟩
      · rw [hstart,if_pos hsame]
      · rw [hstart,if_neg hother]
    · next hsweep =>
      rw [not_or,not_not] at hsweep
      exact .inr ⟨(Option.some.inj h).symm,hsweep.1,by simpa using hsweep.2⟩

theorem UpToDate.kept {s' : System} (h : UpToDate s) (hp : Progress s s') : UpToDate s' := by
  rw [UpToDate,hp.generation,hp.corpus]
  exact h

/-- A step that no other worker interferes with is not refused by the store. -/
theorem alone_accepted (hs : s.Sound) {timely : ProjectionRow → Bool} {batchSize : Nat} (hbatch : 0 < batchSize)
    (hbound : batchSize ≤ 100) {request : GraphRequest}
    (hnext : nextRequest encoding s.db scopeId (s.store.status none) timely batchSize = some request) (scan : Scan) :
    ∃ store, transact s.store scan request = .ok store := by
  obtain ⟨hgeneration,hcursor,hscanned,-⟩ := status_generation s.store none
  have hle := hs.generation.2
  rcases nextRequest_cases hnext with ⟨page,rfl,hpage,hrows,hread,hinitial⟩ | ⟨rfl,hgen,hscan⟩
  · rw [hgeneration,hscanned,hcursor] at hread
    rw [hgeneration] at hinitial
    change ∃ store, applyPage s.store page = .ok store
    unfold applyPage
    rw [if_neg (by simp [hrows.valid])]
    dsimp only
    rw [if_neg (by omega)]
    by_cases hsame : s.store.lock.generation = s.db.corpusGeneration
    · obtain ⟨hunscanned,hstart⟩ := hread hsame
      by_cases hback : page.generation = s.store.lock.generation ∧ page.cursor ≤ s.store.lock.cursor
      · rw [if_pos hback]
        exact ⟨_,rfl⟩
      · rw [if_neg hback,if_neg (by omega),if_neg (by omega : ¬s.store.lock.generation < page.generation),
          if_neg (by simp [hstart,hunscanned])]
        exact ⟨_,rfl⟩
    · have hstart := hinitial hsame
      have hnew : s.store.lock.generation < page.generation := by omega
      rw [if_neg (by omega),if_neg (by omega),if_pos hnew,if_neg (by simp [hstart,hnew.ne'])]
      exact ⟨_,rfl⟩
  · rw [hgeneration] at hgen
    rw [hscanned] at hscan
    change ∃ store, sweep s.store s.db.corpusGeneration batchSize scan = .ok store
    unfold sweep
    rw [if_neg (by omega)]
    dsimp only
    rw [if_neg (by simp [hgen,hscan])]
    split <;> exact ⟨_,rfl⟩

/-! ## Convergence -/

end ParaWorks.Graph
