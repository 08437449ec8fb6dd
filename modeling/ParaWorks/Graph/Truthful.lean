import ParaWorks.Graph.Store

/-!
# Truthful stores

The counts of a store are the numbers of its rows, and a complete store holds no stale row; each transaction keeps this.
-/

namespace ParaWorks.Graph

open Lib

/-- What the `PwProjection` row says about the stored nodes and edges. -/
structure GraphStore.Truthful (store : GraphStore) : Prop where
  nodeKeys : (store.nodes.map StoredNode.documentId).Nodup
  edgeKeys : (store.edges.map StoredEdge.key).Nodup
  nodeCount : store.lock.nodeCount = store.nodes.length
  edgeCount : store.lock.edgeCount = store.edges.length
  nodeGenerations : ∀ node ∈ store.nodes, node.generation ≤ store.lock.generation
  edgeGenerations : ∀ edge ∈ store.edges, edge.generation ≤ store.lock.generation
  ends : ∀ edge ∈ store.edges, edge.generation = store.lock.generation →
    (∃ node ∈ store.nodes, node.documentId = edge.row.fromId ∧ node.generation = store.lock.generation) ∧
    ∃ node ∈ store.nodes, node.documentId = edge.row.toId ∧ node.generation = store.lock.generation
  complete : store.lock.complete = true → store.lock.scanned = true ∧
    (∀ node ∈ store.nodes, node.generation = store.lock.generation) ∧
    ∀ edge ∈ store.edges, edge.generation = store.lock.generation

/-- The valid page holds both ends of its edges. -/
structure GraphProjectionPage.Closed (page : GraphProjectionPage) : Prop where
  valid : invalidPage page = false
  ends : ∀ edge ∈ page.edges,
    (∃ node ∈ page.nodes, node.documentId = edge.fromId) ∧ ∃ node ∈ page.nodes, node.documentId = edge.toId

variable {store store' : GraphStore} {page : GraphProjectionPage} {scan : Scan} {generation : Int} {batchSize : Nat}

@[simp] theorem lock_some (state : ProjectionState) (nodes : List StoredNode) (edges : List StoredEdge) :
    GraphStore.lock ⟨some state,nodes,edges⟩ = state := rfl

/-! ## What the transactions do -/

theorem applyPage_cases (h : applyPage store page = .ok store') :
    (page.generation = store.lock.generation ∧ page.cursor ≤ store.lock.cursor ∧
      store' = { store with projection := some store.lock }) ∨
    (store.lock.generation < page.generation ∧ page.startCursor = 0 ∧ store' = writePage store page) ∨
    (page.generation = store.lock.generation ∧ store.lock.cursor < page.cursor ∧
      page.startCursor = store.lock.cursor ∧ store.lock.scanned = false ∧ store' = writePage store page) := by
  unfold applyPage at h
  by_cases hinvalid : invalidPage page
  · rw [if_pos hinvalid] at h
    exact absurd h (by simp)
  rw [if_neg hinvalid] at h
  dsimp only at h
  by_cases hstale : page.generation < store.lock.generation
  · rw [if_pos hstale] at h
    exact absurd h (by simp)
  rw [if_neg hstale] at h
  by_cases hreplay : page.generation = store.lock.generation ∧ page.cursor ≤ store.lock.cursor
  · rw [if_pos hreplay] at h
    exact .inl ⟨hreplay.1,hreplay.2,(Except.ok.inj h).symm⟩
  rw [if_neg hreplay] at h
  by_cases hinitial : store.lock.generation < page.generation ∧ page.startCursor ≠ 0
  · rw [if_pos hinitial] at h
    exact absurd h (by simp)
  rw [if_neg hinitial] at h
  by_cases hnew : store.lock.generation < page.generation
  · rw [if_pos hnew] at h
    have hstart : page.startCursor = 0 := by_contra fun hne => hinitial ⟨hnew,hne⟩
    rw [if_neg (by simp [hstart,hnew.ne'])] at h
    exact .inr (.inl ⟨hnew,hstart,(Except.ok.inj h).symm⟩)
  · rw [if_neg hnew] at h
    have hgen : page.generation = store.lock.generation := by omega
    by_cases hconflict : page.startCursor ≠ store.lock.cursor ∨
        store.lock.scanned = true ∧ page.generation = store.lock.generation
    · rw [if_pos hconflict] at h
      exact absurd h (by simp)
    rw [if_neg hconflict] at h
    rw [not_or,not_not] at hconflict
    refine .inr (.inr ⟨hgen,?_,hconflict.1,?_,(Except.ok.inj h).symm⟩)
    · by_contra hle
      exact hreplay ⟨hgen,by omega⟩
    · by_contra hscanned
      exact hconflict.2 ⟨by simpa using hscanned,hgen⟩

theorem sweep_cases (h : sweep store generation batchSize scan = .ok store') :
    store.lock.generation = generation ∧ store.lock.scanned = true ∧ 0 < batchSize ∧
    ((store.lock.complete = true ∧ store' = { store with projection := some store.lock }) ∨
      (store.lock.complete = false ∧ store' = clean store store.lock generation batchSize scan)) := by
  unfold sweep at h
  by_cases hbatch : batchSize = 0 ∨ 100 < batchSize
  · rw [if_pos hbatch] at h
    exact absurd h (by simp)
  rw [if_neg hbatch] at h
  dsimp only at h
  by_cases hscan : store.lock.generation ≠ generation ∨ store.lock.scanned = false
  · rw [if_pos hscan] at h
    exact absurd h (by simp)
  rw [if_neg hscan] at h
  rw [not_or,not_not] at hscan
  refine ⟨hscan.1,by simpa using hscan.2,by omega,?_⟩
  by_cases hcomplete : store.lock.complete
  · rw [if_pos hcomplete] at h
    exact .inl ⟨hcomplete,(Except.ok.inj h).symm⟩
  · rw [if_neg hcomplete] at h
    exact .inr ⟨by simpa using hcomplete,(Except.ok.inj h).symm⟩

/-! ## Pages -/

@[simp] theorem writePage_lock : (writePage store page).lock = { store.lock with
    generation := page.generation
    cursor := page.cursor
    scanned := page.complete
    complete := if store.lock.generation < page.generation then false else store.lock.complete
    nodeCount := store.lock.nodeCount+((mergeNodes store.nodes page).length-store.nodes.length)
    edgeCount := store.lock.edgeCount+
      ((mergeEdges (mergeNodes store.nodes page) store.edges page).length-store.edges.length) } := rfl

@[simp] theorem writePage_nodes : (writePage store page).nodes = mergeNodes store.nodes page := rfl

@[simp] theorem writePage_edges :
    (writePage store page).edges = mergeEdges (mergeNodes store.nodes page) store.edges page := rfl

theorem mem_mergeNodes {nodes : List StoredNode} {node : StoredNode} (h : node ∈ mergeNodes nodes page) :
    node.generation = page.generation ∨ node ∈ nodes := by
  rcases mem_mergeRows h with hnew | ⟨hold,-⟩
  · obtain ⟨row,-,rfl⟩ := List.mem_map.mp hnew
    exact .inl rfl
  · exact .inr hold

theorem mem_mergeEdges {nodes : List StoredNode} {edges : List StoredEdge} {edge : StoredEdge}
    (h : edge ∈ mergeEdges nodes edges page) :
    (edge.generation = page.generation ∧ edge.row ∈ page.edges) ∨ edge ∈ edges := by
  rcases mem_mergeRows h with hnew | ⟨hold,-⟩
  · obtain ⟨row,hrow,rfl⟩ := List.mem_map.mp hnew
    exact .inl ⟨rfl,List.mem_of_mem_filter hrow⟩
  · exact .inr hold

theorem mergeNodes_new (nodes : List StoredNode) {row : GraphNodeDependency} (h : row ∈ page.nodes) :
    ∃ node ∈ mergeNodes nodes page, node.documentId = row.documentId ∧ node.generation = page.generation := by
  have hrow : (⟨row,page.generation⟩ : StoredNode) ∈ page.nodes.map (⟨·,page.generation⟩) := List.mem_map_of_mem h
  obtain ⟨node,hmem,hnew,hkey⟩ := mergeRows_mem StoredNode.documentId nodes hrow
  obtain ⟨_,-,rfl⟩ := List.mem_map.mp hnew
  exact ⟨_,hmem,hkey,rfl⟩

/-- A node of the page's generation stays one. -/
theorem mergeNodes_old {nodes : List StoredNode} {node : StoredNode} (h : node ∈ nodes)
    (hgeneration : node.generation = page.generation) :
    ∃ node' ∈ mergeNodes nodes page, node'.documentId = node.documentId ∧ node'.generation = page.generation := by
  by_cases hnew : ∃ row ∈ page.nodes, row.documentId = node.documentId
  · obtain ⟨row,hrow,hid⟩ := hnew
    obtain ⟨node',hmem,hkey,hgen⟩ := mergeNodes_new nodes hrow
    exact ⟨node',hmem,hkey.trans hid,hgen⟩
  · refine ⟨node,mergeRows_keeps h ?_,rfl,hgeneration⟩
    intro new hmem heq
    obtain ⟨row,hrow,rfl⟩ := List.mem_map.mp hmem
    exact hnew ⟨row,hrow,heq⟩

theorem writePage_truthful (h : store.Truthful) (hpage : page.Closed)
    (hgen : store.lock.generation < page.generation ∨
      page.generation = store.lock.generation ∧ store.lock.scanned = false) :
    (writePage store page).Truthful := by
  have hle : store.lock.generation ≤ page.generation := by omega
  have hnodes := h.nodeCount
  have hedges := h.edgeCount
  constructor
  · exact mergeRows_keys h.nodeKeys
  · exact mergeRows_keys h.edgeKeys
  · rw [writePage_lock,writePage_nodes]
    dsimp only
    omega
  · rw [writePage_lock,writePage_edges]
    dsimp only
    omega
  · intro node hnode
    rcases mem_mergeNodes hnode with hnew | hold
    · exact hnew.le
    · exact (h.nodeGenerations node hold).trans hle
  · intro edge hedge
    rcases mem_mergeEdges hedge with ⟨hnew,-⟩ | hold
    · exact hnew.le
    · exact (h.edgeGenerations edge hold).trans hle
  · intro edge hedge hcurrent
    rcases mem_mergeEdges hedge with ⟨-,hrow⟩ | hold
    · obtain ⟨⟨a,ha,hfrom⟩,b,hb,hto⟩ := hpage.ends edge.row hrow
      obtain ⟨na,hna,hka,hga⟩ := mergeNodes_new store.nodes ha
      obtain ⟨nb,hnb,hkb,hgb⟩ := mergeNodes_new store.nodes hb
      exact ⟨⟨na,hna,hka.trans hfrom,hga⟩,nb,hnb,hkb.trans hto,hgb⟩
    · -- the edge is of the page's generation, so the store is as well
      have hsame : page.generation = store.lock.generation :=
        le_antisymm (hcurrent.symm.le.trans (h.edgeGenerations edge hold)) hle
      obtain ⟨⟨a,ha,hfrom,hga⟩,b,hb,hto,hgb⟩ := h.ends edge hold (hcurrent.trans hsame)
      obtain ⟨na,hna,hka,hga'⟩ := mergeNodes_old ha (hga.trans hsame.symm)
      obtain ⟨nb,hnb,hkb,hgb'⟩ := mergeNodes_old hb (hgb.trans hsame.symm)
      exact ⟨⟨na,hna,hka.trans hfrom,hga'⟩,nb,hnb,hkb.trans hto,hgb'⟩
  · intro hcomplete
    rw [writePage_lock] at hcomplete
    dsimp only at hcomplete
    rcases hgen with hnew | ⟨hsame,hscanned⟩
    · rw [if_pos hnew] at hcomplete
      exact absurd hcomplete (by simp)
    · rw [if_neg (by omega)] at hcomplete
      exact absurd (h.complete hcomplete).1 (by simp [hscanned])

/-! ## Sweeps -/

/-- The stale edges that a sweep deletes. -/
def sweptEdges (store : GraphStore) (generation : Int) (batchSize : Nat) (scan : Scan) : List StoredEdge :=
  (scan.edges (store.edges.filter (·.generation ≠ generation))).take batchSize

/-- The stale nodes that a sweep deletes once there is no stale edge. -/
def sweptNodes (store : GraphStore) (generation : Int) (batchSize : Nat) (scan : Scan) : List StoredNode :=
  let edges := sweptEdges store generation batchSize scan
  if edges.length = 0 then
    (scan.nodes (store.nodes.filter fun node => node.generation ≠ generation ∧
      attached (store.edges.filter (· ∉ edges)) node = false)).take batchSize
  else []

theorem clean_eq (state : ProjectionState) : clean store state generation batchSize scan =
    let edges := sweptEdges store generation batchSize scan
    let nodes := sweptNodes store generation batchSize scan
    let complete := edges.length = 0 ∧ nodes.length = 0
    ⟨some { state with
      nodeCount := state.nodeCount-nodes.length
      edgeCount := state.edgeCount-edges.length
      complete := complete
      completedGeneration := if complete then some state.generation else state.completedGeneration },
      store.nodes.filter (· ∉ nodes),store.edges.filter (· ∉ edges)⟩ := rfl

theorem mem_sweptEdges {edge : StoredEdge} (h : edge ∈ sweptEdges store generation batchSize scan) :
    edge ∈ store.edges ∧ edge.generation ≠ generation := by
  have := (scan.edges_perm _).mem_iff.mp (List.mem_of_mem_take h)
  simpa using this

theorem mem_sweptNodes {node : StoredNode} (h : node ∈ sweptNodes store generation batchSize scan) :
    node ∈ store.nodes ∧ node.generation ≠ generation := by
  unfold sweptNodes at h
  dsimp only at h
  split at h
  · have := (scan.nodes_perm _).mem_iff.mp (List.mem_of_mem_take h)
    rw [List.mem_filter,decide_eq_true_eq] at this
    exact ⟨this.1,this.2.1⟩
  · exact absurd h (by simp)

theorem GraphStore.Truthful.nodes_nodup (h : store.Truthful) : store.nodes.Nodup := h.nodeKeys.of_map _

theorem GraphStore.Truthful.edges_nodup (h : store.Truthful) : store.edges.Nodup := h.edgeKeys.of_map _

theorem sweptEdges_nodup (h : store.Truthful) (generation : Int) (batchSize : Nat) (scan : Scan) :
    (sweptEdges store generation batchSize scan).Nodup :=
  (((scan.edges_perm _).nodup_iff).mpr (h.edges_nodup.filter _)).sublist (List.take_sublist ..)

theorem sweptNodes_nodup (h : store.Truthful) (generation : Int) (batchSize : Nat) (scan : Scan) :
    (sweptNodes store generation batchSize scan).Nodup := by
  unfold sweptNodes
  dsimp only
  split
  · exact (((scan.nodes_perm _).nodup_iff).mpr (h.nodes_nodup.filter _)).sublist (List.take_sublist ..)
  · exact List.nodup_nil

theorem no_sweptEdges (hbatch : 0 < batchSize) (h : (sweptEdges store generation batchSize scan).length = 0) :
    ∀ edge ∈ store.edges, edge.generation = generation := by
  unfold sweptEdges at h
  rw [List.length_take,(scan.edges_perm _).length_eq] at h
  have hnone : (store.edges.filter (·.generation ≠ generation)).length = 0 := by omega
  intro edge hedge
  by_contra hne
  have hmem : edge ∈ store.edges.filter (·.generation ≠ generation) := by simp [hedge,hne]
  rw [List.length_eq_zero_iff.mp hnone] at hmem
  exact absurd hmem (by simp)

/-- Where a sweep finds nothing, no row is stale: a stale node has no current edge. -/
theorem no_sweptNodes (h : store.Truthful) (hgen : store.lock.generation = generation) (hbatch : 0 < batchSize)
    (hedges : (sweptEdges store generation batchSize scan).length = 0)
    (hnodes : (sweptNodes store generation batchSize scan).length = 0) :
    ∀ node ∈ store.nodes, node.generation = generation := by
  have hcurrent := no_sweptEdges hbatch hedges
  intro node hnode
  by_contra hne
  unfold sweptNodes at hnodes
  dsimp only at hnodes
  rw [if_pos hedges,List.length_take,(scan.nodes_perm _).length_eq] at hnodes
  have hnone : (store.nodes.filter fun node => node.generation ≠ generation ∧
      attached (store.edges.filter (· ∉ sweptEdges store generation batchSize scan)) node = false).length = 0 := by
    omega
  have hattached : attached (store.edges.filter (· ∉ sweptEdges store generation batchSize scan)) node = false := by
    apply List.any_eq_false.mpr
    intro edge hedge hend
    have hmem := List.mem_of_mem_filter hedge
    obtain ⟨⟨a,ha,hfrom,hga⟩,b,hb,hto,hgb⟩ := h.ends edge hmem ((hcurrent edge hmem).trans hgen.symm)
    have hsame : ∀ n ∈ store.nodes, n.documentId = node.documentId → n = node := fun n hn hid =>
      List.inj_on_of_nodup_map h.nodeKeys hn hnode hid
    rcases of_decide_eq_true hend with hend | hend
    · exact hne ((hsame a ha (hfrom.trans hend) ▸ hga).trans hgen)
    · exact hne ((hsame b hb (hto.trans hend) ▸ hgb).trans hgen)
  have hmem : node ∈ store.nodes.filter fun node => node.generation ≠ generation ∧
      attached (store.edges.filter (· ∉ sweptEdges store generation batchSize scan)) node = false :=
    List.mem_filter.mpr ⟨hnode,decide_eq_true ⟨hne,hattached⟩⟩
  rw [List.length_eq_zero_iff.mp hnone] at hmem
  exact absurd hmem (by simp)

theorem clean_truthful (h : store.Truthful) (hscanned : store.lock.scanned = true)
    (hgen : store.lock.generation = generation) (hbatch : 0 < batchSize) :
    (clean store store.lock generation batchSize scan).Truthful := by
  rw [clean_eq]
  dsimp only
  have hnodes := removed_length h.nodes_nodup (sweptNodes_nodup h generation batchSize scan)
    fun node hnode => (mem_sweptNodes hnode).1
  have hedges := removed_length h.edges_nodup (sweptEdges_nodup h generation batchSize scan)
    fun edge hedge => (mem_sweptEdges hedge).1
  have hnodeCount := h.nodeCount
  have hedgeCount := h.edgeCount
  constructor
  · exact h.nodeKeys.sublist (List.filter_sublist.map _)
  · exact h.edgeKeys.sublist (List.filter_sublist.map _)
  · simp only [lock_some]
    omega
  · simp only [lock_some]
    omega
  · exact fun node hnode => h.nodeGenerations node (List.mem_of_mem_filter hnode)
  · exact fun edge hedge => h.edgeGenerations edge (List.mem_of_mem_filter hedge)
  · intro edge hedge hcurrent
    have hkept : ∀ node ∈ store.nodes, node.generation = store.lock.generation →
        node ∈ store.nodes.filter (· ∉ sweptNodes store generation batchSize scan) := by
      intro node hnode hgeneration
      refine List.mem_filter.mpr ⟨hnode,decide_eq_true ?_⟩
      exact fun hswept => (mem_sweptNodes hswept).2 (hgeneration.trans hgen)
    obtain ⟨⟨a,ha,hfrom,hga⟩,b,hb,hto,hgb⟩ := h.ends edge (List.mem_of_mem_filter hedge) hcurrent
    exact ⟨⟨a,hkept a ha hga,hfrom,hga⟩,b,hkept b hb hgb,hto,hgb⟩
  · intro hcomplete
    obtain ⟨hnoedges,hnonodes⟩ := of_decide_eq_true hcomplete
    refine ⟨hscanned,?_,?_⟩
    · exact fun node hnode =>
        (no_sweptNodes h hgen hbatch hnoedges hnonodes node (List.mem_of_mem_filter hnode)).trans hgen.symm
    · exact fun edge hedge => (no_sweptEdges hbatch hnoedges edge (List.mem_of_mem_filter hedge)).trans hgen.symm

end ParaWorks.Graph
