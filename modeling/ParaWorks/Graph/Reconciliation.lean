import ParaWorks.Graph.Truthful
import ParaWorks.Lib.Transition

/-!
# Reconciliation by many workers

Any number of workers read statuses and canonical pages and send requests to the store of one scope; a request may
arrive late, many times or never, and the corpus generation advances in between.
-/

namespace ParaWorks.Graph

open Lib

structure System where
  store : GraphStore
  db : CanonicalDatabase
  /-- The projection rows of each generation so far. -/
  history : Nat → List ProjectionRow
  /-- The statuses that workers have read. -/
  statuses : List GraphProjectionStatus
  /-- The requests that workers have sent. -/
  requests : List GraphRequest
  /-- The pages that the store has written. -/
  applied : List GraphProjectionPage

inductive Command
  /-- A worker reads the status. -/
  | status
  /-- A worker with the status at this index reads the canonical tables and sends its request. -/
  | request (status : Nat) (timely : ProjectionRow → Bool) (batchSize : Nat)
  /-- The store runs a request, for the first time or again. -/
  | deliver (request : Nat) (scan : Scan)
  /-- `advance_corpus_generation`, which rewrites the lexical projection. -/
  | advance (db : CanonicalDatabase)
  /-- Anything else in the canonical tables changes. -/
  | change (db : CanonicalDatabase)

variable (encoding : Encoding) (scopeId : Text)

/-- The pages that a transaction writes. -/
def written (store : GraphStore) : GraphRequest → List GraphProjectionPage
  | .page page => if page.generation = store.lock.generation ∧ page.cursor ≤ store.lock.cursor then [] else [page]
  | .sweep .. => []

def step (s : System) : Command → System
  | .status => { s with statuses := s.statuses++[s.store.status none] }
  | .request i timely batchSize =>
    match (s.statuses[i]?).bind fun status => nextRequest encoding s.db scopeId status timely batchSize with
    | none => s
    | some request => { s with requests := s.requests++[request] }
  | .deliver i scan =>
    match s.requests[i]? with
    | none => s
    | some request =>
      match transact s.store scan request with
      | .error _ => s
      | .ok store => { s with store := store, applied := s.applied++written s.store request }
  | .advance db =>
    if db.corpusGeneration = s.db.corpusGeneration+1 then
      { s with db := db, history := Function.update s.history db.corpusGeneration (currentRows db) }
    else s
  | .change db =>
    if db.corpusGeneration = s.db.corpusGeneration ∧ db.projections = s.db.projections then { s with db := db } else s

/-- Nothing is stored of the scope. -/
def initial (db : CanonicalDatabase) : System := ⟨⟨none,[],[]⟩,db,fun _ => currentRows db,[],[],[]⟩

def Reachable (s : System) : Prop := ∃ db cmds, s = run (step encoding scopeId) (initial db) cmds

/-! ## Pages of a generation -/

/-- A page is the window of these rows behind its first cursor. -/
structure PageOf (rows : List ProjectionRow) (page : GraphProjectionPage) : Prop extends page.Closed where
  window : ∃ k, 0 < k ∧
    page.cursor = nextCursor (·.id) page.startCursor ((after (·.id) page.startCursor rows).take k) ∧
    (page.complete = true ↔ (after (·.id) page.startCursor rows).length ≤ k)

/-- The rows of a generation that a page covers. -/
def pageRows (rows : List ProjectionRow) (page : GraphProjectionPage) : List ProjectionRow :=
  rows.filter fun row => page.startCursor < row.id ∧ row.id ≤ page.cursor

/-- Each page starts where the one before it ended, from the first cursor to the last. -/
def Chained : Nat → Nat → List GraphProjectionPage → Prop
  | first, last, [] => first = last
  | first, last, page::pages => page.startCursor = first ∧ Chained page.cursor last pages

/-- The applied pages of a generation. -/
def System.pages (s : System) (generation : Int) : List GraphProjectionPage :=
  s.applied.filter (·.generation = generation)

variable {encoding : Encoding} {scopeId : Text} {db : CanonicalDatabase}

theorem currentRows_sorted (db : CanonicalDatabase) : ((currentRows db).map (·.id)).Pairwise (· < ·) := by
  have hperm := List.perm_insertionSort (fun a b : ProjectionRow => a.id ≤ b.id)
    (db.projections.filter (·.corpusGeneration = db.corpusGeneration))
  have hsorted : (currentRows db).Pairwise (fun a b => a.id ≤ b.id) := List.pairwise_insertionSort _ _
  have hnodup : ((currentRows db).map (·.id)).Nodup :=
    ((hperm.map _).nodup_iff).mpr (db.projections_ids.sublist (List.filter_sublist.map _))
  rw [List.pairwise_map]
  rw [List.Nodup,List.pairwise_map] at hnodup
  exact hsorted.imp₂ (fun a b hle hne => lt_of_le_of_ne hle hne) hnodup

theorem currentRows_congr {db' : CanonicalDatabase} (hgeneration : db'.corpusGeneration = db.corpusGeneration)
    (hprojections : db'.projections = db.projections) : currentRows db' = currentRows db := by
  rw [currentRows,currentRows,hgeneration,hprojections]

/-- `read_projection_page` reads a window of the current rows that the store takes. -/
theorem readProjectionPage_pageOf {timely : ProjectionRow → Bool} {cursor batchSize : Nat} {page : GraphProjectionPage}
    (h : readProjectionPage encoding db scopeId timely cursor batchSize = some page) :
    page.generation = db.corpusGeneration ∧ page.startCursor = cursor ∧ PageOf (currentRows db) page := by
  unfold readProjectionPage at h
  by_cases hbatch : batchSize = 0 ∨ 100 < batchSize
  · rw [if_pos hbatch] at h
    exact absurd h (by simp)
  rw [if_neg hbatch] at h
  dsimp only at h
  split at h
  · exact absurd h (by simp)
  obtain ⟨loop,hloop,rfl⟩ := Option.map_eq_some_iff.mp h
  have htake : ((after (·.id) cursor (currentRows db)).take (batchSize+1)).take batchSize =
      (after (·.id) cursor (currentRows db)).take batchSize := by
    rw [List.take_take,Nat.min_eq_left (Nat.le_succ batchSize)]
  rw [htake] at hloop ⊢
  have hempty : PageLoop.Closed scopeId 0 ⟨[],[]⟩ := ⟨by simp,by simp,by simp,by simp,by simp,by simp⟩
  have hclosed := readRows_closed hempty hloop
  have hlength : ((after (·.id) cursor (currentRows db)).take batchSize).length ≤ 100 := by
    rw [List.length_take]
    omega
  have hnodes := hclosed.nodeCount
  have hedges := hclosed.edgeCount
  have hmem : ∀ node, node ∈ (loop.nodes.insertionSort fun a b => a.1 ≤ b.1).map (·.2) ↔
      ∃ entry ∈ loop.nodes, entry.2 = node := by
    intro node
    rw [List.mem_map]
    simp only [List.mem_insertionSort]
  refine ⟨rfl,rfl,⟨?_,?_⟩,batchSize,by omega,rfl,?_⟩
  · have hcursor : cursor ≤ nextCursor (·.id) cursor ((after (·.id) cursor (currentRows db)).take batchSize) :=
      le_nextCursor fun r hr => (mem_after.mp (List.mem_of_mem_take hr)).2
    have hscopes : ∀ node ∈ (loop.nodes.insertionSort fun a b => a.1 ≤ b.1).map (·.2), node.scopeId = scopeId := by
      intro node hnode
      obtain ⟨entry,hentry,rfl⟩ := (hmem node).mp hnode
      exact (hclosed.nodes entry hentry).2
    unfold invalidPage
    apply decide_eq_false
    simp only [List.length_map,List.length_insertionSort,not_or,not_lt]
    refine ⟨by omega,by omega,by omega,by omega,hcursor,?_,?_⟩
    · rw [List.any_eq_true]
      rintro ⟨node,hnode,hscope⟩
      exact of_decide_eq_true hscope (hscopes node hnode)
    · rw [List.any_eq_true]
      rintro ⟨edge,hedge,hwrong⟩
      have := hclosed.edges edge ((List.mem_insertionSort _).mp hedge)
      simp [this.1,this.2] at hwrong
  · intro edge hedge
    obtain ⟨⟨a,ha,hfrom⟩,b,hb,hto⟩ := hclosed.ends edge ((List.mem_insertionSort _).mp hedge)
    exact ⟨⟨a.2,(hmem _).mpr ⟨a,ha,rfl⟩,(hclosed.nodes a ha).1.trans hfrom⟩,
      b.2,(hmem _).mpr ⟨b,hb,rfl⟩,(hclosed.nodes b hb).1.trans hto⟩
  · dsimp only
    rw [List.length_take,decide_eq_true_eq]
    omega

/-! ## The invariant -/

/-- What the system keeps: the requests are pages of their generations, and the applied pages of the store's
generation cover its rows up to the cursor, each row once. -/
structure System.Sound (s : System) : Prop where
  truthful : s.store.Truthful
  canonical : s.history s.db.corpusGeneration = currentRows s.db
  sorted : ∀ g, ((s.history g).map (·.id)).Pairwise (· < ·)
  positive : ∀ g, ∀ row ∈ s.history g, 0 < row.id
  generation : -1 ≤ s.store.lock.generation ∧ s.store.lock.generation ≤ s.db.corpusGeneration
  statuses : ∀ status ∈ s.statuses, status.generation ≤ s.store.lock.generation ∧
    (status.generation = s.store.lock.generation → status.cursor ≤ s.store.lock.cursor)
  requests : ∀ page : GraphProjectionPage, .page page ∈ s.requests → ∃ g : Nat,
    page.generation = (g : Int) ∧ g ≤ s.db.corpusGeneration ∧ PageOf (s.history g) page
  applied : ∀ page ∈ s.applied, 0 ≤ page.generation ∧ page.generation ≤ s.store.lock.generation ∧
    (page.generation = s.store.lock.generation → page.cursor ≤ s.store.lock.cursor)
  unstarted : s.store.lock.generation = -1 → s.store.lock.scanned = false ∧ s.store.lock.cursor = 0
  pages : ∀ g : Nat, s.store.lock.generation = g →
    (s.pages g).Nodup ∧ Chained 0 s.store.lock.cursor (s.pages g) ∧
    (s.pages g).flatMap (pageRows (s.history g)) = upTo (·.id) s.store.lock.cursor (s.history g) ∧
    (s.store.lock.scanned = true ↔ after (·.id) s.store.lock.cursor (s.history g) = [])

theorem initial_sound (db : CanonicalDatabase) : (initial db).Sound := by
  constructor
  · exact ⟨by simp [initial],by simp [initial],rfl,rfl,by simp [initial],by simp [initial],by simp [initial],
      fun h => absurd h (by simp [initial,GraphStore.lock])⟩
  · rfl
  · exact fun _ => currentRows_sorted db
  · exact fun _ row _ => row.positive
  · simp [initial,GraphStore.lock]
  · simp [initial]
  · simp [initial]
  · simp [initial]
  · simp [initial,GraphStore.lock]
  · intro g h
    simp [initial,GraphStore.lock] at h

theorem chained_append {first mid last : Nat} {pages : List GraphProjectionPage} {page : GraphProjectionPage}
    (h : Chained first mid pages) (hstart : page.startCursor = mid) (hlast : page.cursor = last) :
    Chained first last (pages++[page]) := by
  induction pages generalizing first with
  | nil => exact ⟨hstart.trans h.symm,hlast⟩
  | cons p pages ih => exact ⟨h.1,ih h.2⟩

theorem PageOf.le {rows : List ProjectionRow} {page : GraphProjectionPage} (h : PageOf rows page) :
    page.startCursor ≤ page.cursor := by
  obtain ⟨k,-,hcursor,-⟩ := h.window
  rw [hcursor]
  exact le_nextCursor fun r hr => (mem_after.mp (List.mem_of_mem_take hr)).2

/-- A page behind the first rows covers the next ones. -/
theorem PageOf.covers {rows : List ProjectionRow} {page : GraphProjectionPage} (h : PageOf rows page)
    (hsorted : (rows.map (·.id)).Pairwise (· < ·)) :
    upTo (·.id) page.startCursor rows++pageRows rows page = upTo (·.id) page.cursor rows ∧
    (page.complete = true ↔ after (·.id) page.cursor rows = []) := by
  obtain ⟨k,-,hcursor,hcomplete⟩ := h.window
  have hbehind : ∀ r ∈ after (·.id) page.startCursor rows, page.startCursor < r.id := fun r hr => (mem_after.mp hr).2
  have hrows : pageRows rows page = (after (·.id) page.startCursor rows).take k := by
    have hup := (page_upTo (k := k) (after_sorted (c := page.startCursor) hsorted) hbehind).1
    rw [← hcursor] at hup
    rw [← hup,upTo,after,List.filter_filter]
    apply List.filter_congr
    intro r _
    simp [and_comm]
  constructor
  · have hup := upTo_page (c := page.startCursor) hsorted k
    rw [← hcursor] at hup
    rw [hup,hrows]
  · have hafter := after_page (c := page.startCursor) hsorted k
    rw [← hcursor] at hafter
    rw [hcomplete,hafter,List.drop_eq_nil_iff]

/-! ## Steps -/

theorem status_generation (store : GraphStore) (canonical : Option Int) :
    (store.status canonical).generation = store.lock.generation ∧
    (store.status canonical).cursor = store.lock.cursor ∧
    (store.status canonical).scanned = store.lock.scanned ∧
    (store.status canonical).complete = store.lock.complete := by
  rw [GraphStore.status,GraphStore.lock]
  cases store.projection <;> exact ⟨rfl,rfl,rfl,rfl⟩

theorem nextRequest_page {status : GraphProjectionStatus} {timely : ProjectionRow → Bool} {batchSize : Nat}
    {page : GraphProjectionPage}
    (h : nextRequest encoding db scopeId status timely batchSize = some (.page page)) :
    page.generation = db.corpusGeneration ∧ PageOf (currentRows db) page := by
  unfold nextRequest at h
  split at h
  · exact absurd h (by simp)
  · split at h
    · obtain ⟨p,hp,heq⟩ := Option.map_eq_some_iff.mp h
      cases heq
      have := readProjectionPage_pageOf hp
      exact ⟨this.1,this.2.2⟩
    · exact absurd h (by simp)

theorem GraphStore.Truthful.relock {store : GraphStore} (h : store.Truthful) :
    GraphStore.Truthful { store with projection := some store.lock } :=
  ⟨h.nodeKeys,h.edgeKeys,h.nodeCount,h.edgeCount,h.nodeGenerations,h.edgeGenerations,h.ends,h.complete⟩

variable {s : System}

theorem System.Sound.status (h : s.Sound) : (step encoding scopeId s .status).Sound := by
  refine ⟨h.truthful,h.canonical,h.sorted,h.positive,h.generation,?_,h.requests,h.applied,h.unstarted,h.pages⟩
  intro status hstatus
  rcases List.mem_append.mp hstatus with hold | hnew
  · exact h.statuses status hold
  · rw [List.mem_singleton.mp hnew]
    have := status_generation s.store none
    exact ⟨this.1.le,fun _ => this.2.1.le⟩

theorem System.Sound.request (h : s.Sound) (i : Nat) (timely : ProjectionRow → Bool) (batchSize : Nat) :
    (step encoding scopeId s (.request i timely batchSize)).Sound := by
  rw [step]
  cases hnext : (s.statuses[i]?).bind fun status => nextRequest encoding s.db scopeId status timely batchSize with
  | none => exact h
  | some request =>
    refine ⟨h.truthful,h.canonical,h.sorted,h.positive,h.generation,h.statuses,?_,h.applied,h.unstarted,h.pages⟩
    intro page hpage
    rcases List.mem_append.mp hpage with hold | hnew
    · exact h.requests page hold
    · obtain ⟨status,-,hstatus⟩ := Option.bind_eq_some_iff.mp hnext
      rw [← List.mem_singleton.mp hnew] at hstatus
      obtain ⟨hgeneration,hrows⟩ := nextRequest_page hstatus
      refine ⟨s.db.corpusGeneration,hgeneration,le_rfl,?_⟩
      rw [h.canonical]
      exact hrows

theorem System.Sound.advance (h : s.Sound) (db : CanonicalDatabase) :
    (step encoding scopeId s (.advance db)).Sound := by
  rw [step]
  by_cases hnext : db.corpusGeneration = s.db.corpusGeneration+1
  · rw [if_pos hnext]
    have hkept : ∀ g ≤ s.db.corpusGeneration,
        Function.update s.history db.corpusGeneration (currentRows db) g = s.history g := by
      intro g hg
      exact Function.update_of_ne (by omega) ..
    have hgeneration := h.generation
    constructor
    · exact h.truthful
    · exact Function.update_self ..
    · intro g
      by_cases hg : g = db.corpusGeneration
      · rw [hg]
        simp only [Function.update_self]
        exact currentRows_sorted db
      · simp only [Function.update_of_ne hg]
        exact h.sorted g
    · intro g row hrow
      exact row.positive
    · dsimp only
      omega
    · exact h.statuses
    · intro page hpage
      obtain ⟨g,hg,hle,hrows⟩ := h.requests page hpage
      refine ⟨g,hg,by dsimp only; omega,?_⟩
      dsimp only
      rw [hkept g hle]
      exact hrows
    · exact h.applied
    · exact h.unstarted
    · intro g hg
      dsimp only
      rw [hkept g (by dsimp only at hg; omega)]
      exact h.pages g hg
  · rw [if_neg hnext]
    exact h

theorem System.Sound.change (h : s.Sound) (db : CanonicalDatabase) :
    (step encoding scopeId s (.change db)).Sound := by
  rw [step]
  by_cases hsame : db.corpusGeneration = s.db.corpusGeneration ∧ db.projections = s.db.projections
  · rw [if_pos hsame]
    refine ⟨h.truthful,?_,h.sorted,h.positive,?_,h.statuses,?_,h.applied,h.unstarted,h.pages⟩
    · dsimp only
      rw [hsame.1,currentRows_congr hsame.1 hsame.2]
      exact h.canonical
    · dsimp only
      rw [hsame.1]
      exact h.generation
    · dsimp only
      rw [hsame.1]
      exact h.requests
  · rw [if_neg hsame]
    exact h

/-! ## Deliveries -/

/-- A transaction that leaves the generation, the cursor and the scan flag. -/
theorem System.Sound.same (h : s.Sound) {store : GraphStore} (htruthful : store.Truthful)
    (hgeneration : store.lock.generation = s.store.lock.generation) (hcursor : store.lock.cursor = s.store.lock.cursor)
    (hscanned : store.lock.scanned = s.store.lock.scanned) : ({ s with store := store } : System).Sound := by
  refine ⟨htruthful,h.canonical,h.sorted,h.positive,?_,?_,h.requests,?_,?_,?_⟩
  · rw [hgeneration]
    exact h.generation
  · rw [hgeneration,hcursor]
    exact h.statuses
  · rw [hgeneration,hcursor]
    exact h.applied
  · rw [hgeneration,hcursor,hscanned]
    exact h.unstarted
  · rw [hgeneration,hcursor,hscanned]
    exact h.pages

/-- A page that the store writes extends the pages of its generation. -/
theorem System.Sound.write (h : s.Sound) {page : GraphProjectionPage} (hpage : .page page ∈ s.requests)
    (hwritten : s.store.lock.generation < page.generation ∧ page.startCursor = 0 ∨
      page.generation = s.store.lock.generation ∧ s.store.lock.cursor < page.cursor ∧
        page.startCursor = s.store.lock.cursor ∧ s.store.lock.scanned = false) :
    ({ s with store := writePage s.store page, applied := s.applied++[page] } : System).Sound := by
  obtain ⟨g,hg,hle,hrows⟩ := h.requests page hpage
  have hgenerations : s.store.lock.generation ≤ page.generation := by omega
  have hcursors : s.store.lock.generation = page.generation → s.store.lock.cursor ≤ page.cursor := by omega
  obtain ⟨hcovers,hcomplete⟩ := hrows.covers (h.sorted g)
  -- the pages of the generation so far end where the new page starts
  have hbefore : (s.pages g++[page]).Nodup ∧ Chained 0 page.startCursor (s.pages g) ∧
      (s.pages g).flatMap (pageRows (s.history g)) = upTo (·.id) page.startCursor (s.history g) := by
    rcases hwritten with ⟨hnew,hstart⟩ | ⟨hsame,hnext,hstart,-⟩
    · have hnone : s.pages g = [] := by
        apply List.filter_eq_nil_iff.mpr
        intro p hp
        have := (h.applied p hp).2.1
        simp
        omega
      have hup : upTo (·.id) 0 (s.history g) = [] := by
        apply List.filter_eq_nil_iff.mpr
        intro row hrow
        have := h.positive g row hrow
        simp
        omega
      rw [hnone,hstart,hup]
      exact ⟨List.nodup_singleton page,rfl,rfl⟩
    · have hold := h.pages g (hsame.symm.trans hg)
      rw [hstart]
      refine ⟨List.nodup_append.mpr ⟨hold.1,List.nodup_singleton page,?_⟩,hold.2.1,hold.2.2.1⟩
      intro p hp q hq heq
      rw [heq,List.mem_singleton.mp hq] at hp
      have := (h.applied page (List.mem_of_mem_filter hp)).2.2 hsame
      omega
  constructor
  · exact writePage_truthful h.truthful hrows.toClosed (hwritten.imp And.left fun h => ⟨h.1,h.2.2.2⟩)
  · exact h.canonical
  · exact h.sorted
  · exact h.positive
  · have := h.generation
    simp only [writePage_lock]
    omega
  · intro status hstatus
    have := h.statuses status hstatus
    simp only [writePage_lock]
    omega
  · exact h.requests
  · intro p hp
    simp only [writePage_lock]
    rcases List.mem_append.mp hp with hold | hnew
    · have := h.applied p hold
      omega
    · rw [List.mem_singleton.mp hnew]
      omega
  · intro hnone
    simp only [writePage_lock] at hnone
    omega
  · intro g' hg'
    simp only [writePage_lock] at hg' ⊢
    obtain rfl : g = g' := by omega
    have hpages : System.pages { s with store := writePage s.store page, applied := s.applied++[page] } g =
        s.pages g++[page] := by
      rw [System.pages,System.pages,List.filter_append,List.filter_cons_of_pos (by simpa using hg),List.filter_nil]
    rw [hpages]
    refine ⟨hbefore.1,chained_append hbefore.2.1 rfl rfl,?_,hcomplete⟩
    rw [List.flatMap_append,hbefore.2.2,List.flatMap_singleton,hcovers]

theorem System.Sound.deliver (h : s.Sound) (i : Nat) (scan : Scan) :
    (step encoding scopeId s (.deliver i scan)).Sound := by
  rw [step]
  cases hrequest : s.requests[i]? with
  | none => exact h
  | some request =>
    dsimp only
    cases htransact : transact s.store scan request with
    | error => exact h
    | ok store =>
      cases request with
      | page page =>
        have hmem := List.mem_of_getElem? hrequest
        rcases applyPage_cases htransact with ⟨hgen,hcursor,rfl⟩ | ⟨hnew,hstart,rfl⟩ | ⟨hgen,hcursor,hstart,hscan,rfl⟩
        · have hnone : written s.store (.page page) = [] := if_pos ⟨hgen,hcursor⟩
          simp only [hnone,List.append_nil]
          exact h.same h.truthful.relock rfl rfl rfl
        · have hone : written s.store (.page page) = [page] := if_neg (by omega)
          simp only [hone]
          exact h.write hmem (.inl ⟨hnew,hstart⟩)
        · have hone : written s.store (.page page) = [page] := if_neg (by omega)
          simp only [hone]
          exact h.write hmem (.inr ⟨hgen,hcursor,hstart,hscan⟩)
      | sweep generation batchSize =>
        simp only [written,List.append_nil]
        obtain ⟨hgen,hscanned,hbatch,hcases⟩ := sweep_cases htransact
        rcases hcases with ⟨-,rfl⟩ | ⟨-,rfl⟩
        · exact h.same h.truthful.relock rfl rfl rfl
        · exact h.same (clean_truthful h.truthful hscanned hgen hbatch) rfl rfl rfl

theorem step_sound (h : s.Sound) (c : Command) : (step encoding scopeId s c).Sound := by
  cases c with
  | status => exact h.status
  | request i timely batchSize => exact h.request i timely batchSize
  | deliver i scan => exact h.deliver i scan
  | advance db => exact h.advance db
  | change db => exact h.change db

theorem Reachable.sound (h : Reachable encoding scopeId s) : s.Sound := by
  obtain ⟨db,cmds,rfl⟩ := h
  exact run_invariant (P := System.Sound) (fun _ c hs => step_sound hs c) (initial_sound db) cmds

end ParaWorks.Graph
