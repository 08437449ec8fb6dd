import ParaWorks.Graph.Projection

/-!
# What a page of the projection holds

A page stays within the bounds of the store, and holds both ends of each of its edges.
-/

namespace ParaWorks.Graph

open Lib

section merging

variable {α : Type} {entries : List (Text × α)} {key : Text} {value : α}

theorem setItem_mem {entry : Text × α} (h : entry ∈ setItem entries key value) :
    entry = (key,value) ∨ entry ∈ entries :=
  (mem_mergeRow h).imp id And.left

theorem setItem_key (entries : List (Text × α)) (value : α) {k : Text} (h : k = key ∨ ∃ entry ∈ entries, entry.1 = k) :
    ∃ entry ∈ setItem entries key value, entry.1 = k := by
  by_cases hk : k = key
  · exact ⟨(key,value),mergeRow_mem,hk.symm⟩
  · obtain ⟨entry,hentry,rfl⟩ := h.resolve_left hk
    exact ⟨entry,mergeRow_keeps hentry hk,rfl⟩

theorem setItem_keys (h : (entries.map (·.1)).Nodup) : ((setItem entries key value).map (·.1)).Nodup :=
  mergeRow_keys h

theorem setItem_length (entries : List (Text × α)) (key : Text) (value : α) :
    (setItem entries key value).length ≤ entries.length+1 := by
  unfold setItem mergeRow
  split <;> simp

/-- `d.update(other)`. -/
theorem foldl_setItem (new entries : List (Text × α)) :
    (∀ entry ∈ new.foldl (fun nodes n => setItem nodes n.1 n.2) entries, entry ∈ new ∨ entry ∈ entries) ∧
    (∀ k, (∃ entry ∈ new++entries, entry.1 = k) →
      ∃ entry ∈ new.foldl (fun nodes n => setItem nodes n.1 n.2) entries, entry.1 = k) ∧
    ((entries.map (·.1)).Nodup → ((new.foldl (fun nodes n => setItem nodes n.1 n.2) entries).map (·.1)).Nodup) ∧
    (new.foldl (fun nodes n => setItem nodes n.1 n.2) entries).length ≤ new.length+entries.length := by
  induction new generalizing entries with
  | nil => simp
  | cons n new ih =>
    obtain ⟨hmem,hkeys,hnodup,hlength⟩ := ih (setItem entries n.1 n.2)
    rw [List.foldl_cons]
    refine ⟨?_,?_,fun h => hnodup (setItem_keys h),?_⟩
    · intro entry hentry
      rcases hmem entry hentry with h | h
      · exact .inl (List.mem_cons_of_mem _ h)
      · rcases setItem_mem h with rfl | h
        · exact .inl List.mem_cons_self
        · exact .inr h
    · rintro k ⟨entry,hentry,rfl⟩
      apply hkeys
      rw [List.cons_append] at hentry
      rcases List.mem_cons.mp hentry with rfl | hentry
      · obtain ⟨e,he,hkey⟩ := setItem_key entries entry.2 (.inl rfl)
        exact ⟨e,List.mem_append_right _ he,hkey⟩
      · rcases List.mem_append.mp hentry with h | h
        · exact ⟨entry,List.mem_append_left _ h,rfl⟩
        · obtain ⟨e,he,hkey⟩ := setItem_key entries n.2 (.inr ⟨entry,h,rfl⟩)
          exact ⟨e,List.mem_append_right _ he,hkey⟩
    · have := setItem_length entries n.1 n.2
      simp only [List.length_cons]
      omega

end merging

variable {encoding : Encoding} {db : CanonicalDatabase} {scopeId : Text}

/-- The nodes under their ids and the edges of `n` rows, both ends of an edge among the nodes. -/
structure PageLoop.Closed (scopeId : Text) (n : Nat) (loop : PageLoop) : Prop where
  keys : (loop.nodes.map (·.1)).Nodup
  nodes : ∀ entry ∈ loop.nodes, entry.2.documentId = entry.1 ∧ entry.2.scopeId = scopeId
  edges : ∀ edge ∈ loop.edges, edge.scopeId = scopeId ∧ edge.relation = text "SUPPORTED_BY"
  ends : ∀ edge ∈ loop.edges,
    (∃ entry ∈ loop.nodes, entry.1 = edge.fromId) ∧ ∃ entry ∈ loop.nodes, entry.1 = edge.toId
  nodeCount : loop.nodes.length ≤ 51*n
  edgeCount : loop.edges.length ≤ 50*n

/-- The nodes and edges of the first links of an approval. -/
structure PageLoop.Paths (scopeId from_ : Text) (n : Nat) (paths : PageLoop) : Prop where
  nodes : ∀ entry ∈ paths.nodes, entry.2.documentId = entry.1 ∧ entry.2.scopeId = scopeId
  edges : ∀ edge ∈ paths.edges, edge.scopeId = scopeId ∧ edge.relation = text "SUPPORTED_BY"
  ends : ∀ edge ∈ paths.edges, edge.fromId = from_ ∧ ∃ entry ∈ paths.nodes, entry.1 = edge.toId
  nodeCount : paths.nodes.length ≤ n
  edgeCount : paths.edges.length ≤ n

theorem childNode_scope {pairs : List (Text × Text)} {child : TrustedEvidenceLink} {chunk : Nat}
    {node : GraphNodeDependency} (h : childNode encoding db scopeId pairs child = some (chunk,node)) :
    node.scopeId = scopeId := by
  unfold childNode at h
  obtain ⟨authority,-,h⟩ := Option.bind_eq_some_iff.mp h
  split at h
  · exact absurd h (by simp)
  · obtain ⟨found,-,h⟩ := Option.bind_eq_some_iff.mp h
    obtain ⟨evidence,-,h⟩ := Option.map_eq_some_iff.mp h
    rw [Prod.mk.injEq] at h
    rw [← h.2]
    rfl

theorem PageLoop.Paths.next {from_ : Text} {n : Nat} {paths : PageLoop} (h : paths.Paths scopeId from_ n)
    {node : GraphNodeDependency} {edge : GraphEdgeDependency} (hnode : node.scopeId = scopeId)
    (hedge : edge.scopeId = scopeId ∧ edge.relation = text "SUPPORTED_BY")
    (hfrom : edge.fromId = from_) (hto : edge.toId = node.documentId) :
    (PageLoop.mk (setItem paths.nodes node.documentId node) (paths.edges++[edge])).Paths scopeId from_ (n+1) := by
  constructor
  · intro entry hentry
    rcases setItem_mem hentry with rfl | hentry
    · exact ⟨rfl,hnode⟩
    · exact h.nodes entry hentry
  · intro e he
    rcases List.mem_append.mp he with he | he
    · exact h.edges e he
    · rw [List.mem_singleton.mp he]
      exact hedge
  · intro e he
    rcases List.mem_append.mp he with he | he
    · exact ⟨(h.ends e he).1,setItem_key _ _ (.inr (h.ends e he).2)⟩
    · rw [List.mem_singleton.mp he]
      exact ⟨hfrom,setItem_key _ _ (.inl hto)⟩
  · exact (setItem_length ..).trans (Nat.succ_le_succ h.nodeCount)
  · simpa using h.edgeCount

theorem PageLoop.Paths.foldlM {from_ : Text} {f : PageLoop → TrustedEvidenceLink → Option PageLoop}
    (hf : ∀ paths child next n, paths.Paths scopeId from_ n → f paths child = some next →
      next.Paths scopeId from_ (n+1)) (links : List TrustedEvidenceLink) :
    ∀ (start : PageLoop) (n : Nat) (paths : PageLoop), start.Paths scopeId from_ n →
      links.foldlM f start = some paths → paths.Paths scopeId from_ (n+links.length) := by
  induction links with
  | nil =>
    intro start n paths hstart h
    rw [List.foldlM_nil] at h
    cases h
    exact hstart
  | cons child links ih =>
    intro start n paths hstart h
    rw [List.foldlM_cons] at h
    obtain ⟨next,hnext,h⟩ := Option.bind_eq_some_iff.mp h
    have := ih next (n+1) paths (hf start child next n hstart hnext) h
    rwa [Nat.add_assoc,Nat.add_comm 1] at this

theorem approvalPaths_closed {evidence : ServingEvidence} {provenance : ExplicitApprovalProvenance}
    {pairs : List (Text × Text)} {paths : PageLoop}
    (h : approvalPaths encoding db scopeId evidence provenance pairs = some paths) :
    paths.Paths scopeId evidence.servingDocumentId provenance.evidenceLinks.length := by
  rw [←Nat.zero_add provenance.evidenceLinks.length]
  apply PageLoop.Paths.foldlM _ provenance.evidenceLinks ⟨[],[]⟩ 0 paths
    ⟨by simp,by simp,by simp,by simp,by simp⟩ h
  intro paths child next n hpaths hnext
  obtain ⟨⟨chunk,node⟩,hchild,rfl⟩ := Option.map_eq_some_iff.mp hnext
  exact hpaths.next (childNode_scope hchild) ⟨rfl,rfl⟩ rfl rfl

theorem PageLoop.Closed.node {n : Nat} {loop : PageLoop} (h : loop.Closed scopeId n) (node : GraphNodeDependency)
    (hnode : node.scopeId = scopeId) :
    (setItem loop.nodes node.documentId node).length ≤ 51*n+1 ∧
    PageLoop.Closed scopeId (n+1) { loop with nodes := setItem loop.nodes node.documentId node } := by
  have hlength := setItem_length loop.nodes node.documentId node
  have hcount := h.nodeCount
  have hedges := h.edgeCount
  refine ⟨by omega,setItem_keys h.keys,?_,h.edges,?_,?_,?_⟩
  · intro entry hentry
    rcases setItem_mem hentry with rfl | hentry
    · exact ⟨rfl,hnode⟩
    · exact h.nodes entry hentry
  · intro edge hedge
    exact ⟨setItem_key _ _ (.inr (h.ends edge hedge).1),setItem_key _ _ (.inr (h.ends edge hedge).2)⟩
  · dsimp only
    omega
  · dsimp only
    omega

theorem PageLoop.Closed.next {n : Nat} {loop : PageLoop} (h : loop.Closed scopeId n) : loop.Closed scopeId (n+1) := by
  have hcount := h.nodeCount
  have hedges := h.edgeCount
  exact ⟨h.keys,h.nodes,h.edges,h.ends,by omega,by omega⟩

/-- An approval adds at most fifty nodes and edges; its document is among the nodes. -/
theorem readApproval_closed {n : Nat} {loop loop' : PageLoop} (h : loop.Closed scopeId (n+1))
    (hnodes : loop.nodes.length ≤ 51*n+1) (hedges : loop.edges.length ≤ 50*n)
    {evidence : ServingEvidence} {provenance : ExplicitApprovalProvenance}
    (hdocument : ∃ entry ∈ loop.nodes, entry.1 = evidence.servingDocumentId)
    (hrun : readApproval encoding db scopeId loop evidence provenance = some loop') : loop'.Closed scopeId (n+1) := by
  unfold readApproval at hrun
  obtain ⟨item,-,hrun⟩ := Option.bind_eq_some_iff.mp hrun
  by_cases hpairs : item.1.length ≠ item.2.length
  · rw [if_pos hpairs] at hrun
    exact absurd hrun (by simp)
  rw [if_neg hpairs] at hrun
  by_cases hmany : 50 < provenance.evidenceLinks.length
  · rw [if_pos hmany] at hrun
    cases hrun
    exact h
  rw [if_neg hmany] at hrun
  cases hpaths : approvalPaths encoding db scopeId evidence provenance (item.1.zip item.2) with
  | none =>
    rw [hpaths] at hrun
    cases hrun
    exact h
  | some paths =>
    rw [hpaths] at hrun
    cases hrun
    have hclosed := approvalPaths_closed hpaths
    have hn := hclosed.nodeCount
    have he := hclosed.edgeCount
    obtain ⟨hmem,hkeys,hnodup,hlength⟩ := foldl_setItem paths.nodes loop.nodes
    constructor
    · exact hnodup h.keys
    · intro entry hentry
      rcases hmem entry hentry with hentry | hentry
      · exact hclosed.nodes entry hentry
      · exact h.nodes entry hentry
    · intro edge hedge
      rcases List.mem_append.mp hedge with hedge | hedge
      · exact h.edges edge hedge
      · exact hclosed.edges edge hedge
    · intro edge hedge
      have hold : ∀ k, (∃ entry ∈ loop.nodes, entry.1 = k) → ∃ entry ∈ paths.nodes++loop.nodes, entry.1 = k := by
        rintro k ⟨entry,hentry,hk⟩
        exact ⟨entry,List.mem_append_right _ hentry,hk⟩
      rcases List.mem_append.mp hedge with hedge | hedge
      · exact ⟨hkeys _ (hold _ (h.ends edge hedge).1),hkeys _ (hold _ (h.ends edge hedge).2)⟩
      · obtain ⟨hfrom,entry,hentry,hto⟩ := hclosed.ends edge hedge
        rw [hfrom]
        exact ⟨hkeys _ (hold _ hdocument),hkeys _ ⟨entry,List.mem_append_left _ hentry,hto⟩⟩
    · dsimp only
      omega
    · dsimp only
      rw [List.length_append]
      omega

theorem readRow_closed {n : Nat} {loop loop' : PageLoop} {row : ProjectionRow} (h : loop.Closed scopeId n)
    (hrow : readRow encoding db scopeId loop row = some loop') : loop'.Closed scopeId (n+1) := by
  unfold readRow at hrow
  by_cases hchunk : row.kind = text "chunk"
  · rw [if_pos hchunk] at hrow
    split at hrow
    · cases hrow
      exact h.next
    · cases hraw : db.rawProjection row.identifier with
      | none =>
        rw [hraw] at hrow
        cases hrow
        exact h.next
      | some evidence =>
        rw [hraw] at hrow
        cases hrow
        have hid : row.documentId = (graphNode encoding scopeId evidence).documentId := by
          rw [ProjectionRow.documentId,hchunk]
          exact (db.rawProjection_id _ _ hraw).symm
        rw [hid]
        exact (h.node _ rfl).2
  · rw [if_neg hchunk] at hrow
    split at hrow
    · cases hrow
      exact h.next
    · cases htrusted : db.trustedEnvelope row.kind row.identifier with
      | none =>
        rw [htrusted] at hrow
        cases hrow
        exact h.next
      | some envelope =>
        rw [htrusted] at hrow
        have hid : row.documentId = (graphNode encoding scopeId envelope.evidence).documentId :=
          (db.trustedEnvelope_id _ _ _ htrusted).symm
        rw [hid] at hrow
        obtain ⟨hlength,hnode⟩ := h.node (graphNode encoding scopeId envelope.evidence) rfl
        dsimp only at hrow
        cases hexplicit : envelope.explicitApproval with
        | none =>
          rw [hexplicit] at hrow
          cases hrow
          exact hnode
        | some provenance =>
          rw [hexplicit] at hrow
          exact readApproval_closed hnode hlength h.edgeCount (setItem_key _ _ (.inl rfl)) hrow

theorem readRows_closed {rows : List ProjectionRow} {loop loop' : PageLoop} {n : Nat} (h : loop.Closed scopeId n)
    (hrows : rows.foldlM (readRow encoding db scopeId) loop = some loop') : loop'.Closed scopeId (n+rows.length) := by
  induction rows generalizing loop n with
  | nil =>
    rw [List.foldlM_nil] at hrows
    cases hrows
    exact h
  | cons row rows ih =>
    rw [List.foldlM_cons] at hrows
    obtain ⟨next,hnext,hrows⟩ := Option.bind_eq_some_iff.mp hrows
    have := ih (readRow_closed h hnext) hrows
    rwa [Nat.add_assoc,Nat.add_comm 1] at this

end ParaWorks.Graph
