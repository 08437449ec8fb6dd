import ParaWorks.Graph.Pages

/-!
# The graph store

The projection of one scope in the graph database: a page is applied, or stale rows are swept, in one transaction.
-/

namespace ParaWorks.Graph

open Lib

structure StoredNode where
  row : GraphNodeDependency
  generation : Int
  deriving DecidableEq

structure StoredEdge where
  row : GraphEdgeDependency
  generation : Int
  deriving DecidableEq

/-- The `PwProjection` row of a scope, less its fence and times; the values are those of `_lock` on creation. -/
structure ProjectionState where
  generation : Int := -1
  cursor : Nat := 0
  scanned : Bool := false
  complete : Bool := false
  nodeCount : Int := 0
  edgeCount : Int := 0
  completedGeneration : Option Int := none
  deriving DecidableEq

/-- What the graph database holds of one scope. -/
structure GraphStore where
  projection : Option ProjectionState
  nodes : List StoredNode
  edges : List StoredEdge
  deriving DecidableEq

structure GraphProjectionStatus where
  generation : Int
  cursor : Nat
  scanned : Bool
  complete : Bool
  nodeCount : Int
  edgeCount : Int
  generationLag : Int
  deriving DecidableEq

inductive GraphError
  | staleGraphGeneration (message : Text)
  | valueError (message : Text)
  deriving DecidableEq

def StoredNode.documentId (node : StoredNode) : Text := node.row.documentId

/-- What MERGE finds a relationship by: its ends and its id. -/
def StoredEdge.key (edge : StoredEdge) : Text × Text × Text := (edge.row.fromId,edge.row.toId,edge.row.edgeId)

namespace GraphStore

variable (store : GraphStore)

def status (canonicalGeneration : Option Int) : GraphProjectionStatus :=
  match store.projection with
  | none => ⟨-1,0,false,false,0,0,max 0 (canonicalGeneration.getD 0)⟩
  | some state => ⟨state.generation,state.cursor,state.scanned,state.complete,state.nodeCount,state.edgeCount,
      max 0 (canonicalGeneration.getD state.generation-state.completedGeneration.getD 0)⟩

/-- The row that `_lock` returns. -/
def lock : ProjectionState := store.projection.getD {}

end GraphStore

def invalidPage (page : GraphProjectionPage) : Bool :=
  5100 < page.nodes.length ∨ 5000 < page.edges.length ∨ 100 < page.scannedCount ∨ page.generation < 0 ∨
  page.cursor < page.startCursor ∨ page.nodes.any (·.scopeId ≠ page.scopeId) ∨
  page.edges.any fun edge => edge.scopeId ≠ page.scopeId ∨ edge.relation ≠ text "SUPPORTED_BY"

/-- Both ends of an edge are stored. -/
def matched (nodes : List StoredNode) (edge : GraphEdgeDependency) : Bool :=
  nodes.any (·.documentId = edge.fromId) && nodes.any (·.documentId = edge.toId)

def mergeNodes (nodes : List StoredNode) (page : GraphProjectionPage) : List StoredNode :=
  mergeRows StoredNode.documentId nodes (page.nodes.map (⟨·,page.generation⟩))

def mergeEdges (nodes : List StoredNode) (edges : List StoredEdge) (page : GraphProjectionPage) : List StoredEdge :=
  mergeRows StoredEdge.key edges ((page.edges.filter (matched nodes)).map (⟨·,page.generation⟩))

/-- The statements of `apply_page` behind its checks. -/
def writePage (store : GraphStore) (page : GraphProjectionPage) : GraphStore :=
  let state := store.lock
  let nodes := mergeNodes store.nodes page
  let edges := mergeEdges nodes store.edges page
  ⟨some { state with
    generation := page.generation
    cursor := page.cursor
    scanned := page.complete
    complete := if state.generation < page.generation then false else state.complete
    nodeCount := state.nodeCount+(nodes.length-store.nodes.length)
    edgeCount := state.edgeCount+(edges.length-store.edges.length) },nodes,edges⟩

/-- `apply_page`. -/
def applyPage (store : GraphStore) (page : GraphProjectionPage) : Except GraphError GraphStore :=
  if invalidPage page then .error (.valueError (text "invalid graph projection page"))
  else
    let state := store.lock
    if page.generation < state.generation then .error (.staleGraphGeneration (text "stale graph generation"))
    else if page.generation = state.generation ∧ page.cursor ≤ state.cursor then
      -- a replay after a lost response
      .ok { store with projection := some state }
    else if state.generation < page.generation ∧ page.startCursor ≠ 0 then
      .error (.staleGraphGeneration (text "new generation requires initial cursor"))
    else
      let cursor := if state.generation < page.generation then 0 else state.cursor
      if page.startCursor ≠ cursor ∨ state.scanned ∧ page.generation = state.generation then
        .error (.staleGraphGeneration (text "projection cursor conflict"))
      else .ok (writePage store page)

/-- The order in which the graph database finds the rows that a statement matches. -/
structure Scan where
  edges : List StoredEdge → List StoredEdge
  nodes : List StoredNode → List StoredNode
  edges_perm : ∀ rows, (edges rows).Perm rows
  nodes_perm : ∀ rows, (nodes rows).Perm rows

def attached (edges : List StoredEdge) (node : StoredNode) : Bool :=
  edges.any fun edge => edge.row.fromId = node.documentId ∨ edge.row.toId = node.documentId

/-- The statements of `sweep` behind its checks. -/
def clean (store : GraphStore) (state : ProjectionState) (generation : Int) (batchSize : Nat) (scan : Scan) :
    GraphStore :=
  let edges := (scan.edges (store.edges.filter (·.generation ≠ generation))).take batchSize
  let rest := store.edges.filter (· ∉ edges)
  let nodes := if edges.length = 0 then
      (scan.nodes (store.nodes.filter fun node => node.generation ≠ generation ∧ attached rest node = false)).take batchSize
    else []
  let complete := edges.length = 0 ∧ nodes.length = 0
  ⟨some { state with
    nodeCount := state.nodeCount-nodes.length
    edgeCount := state.edgeCount-edges.length
    complete := complete
    completedGeneration := if complete then some state.generation else state.completedGeneration },
    store.nodes.filter (· ∉ nodes),rest⟩

/-- `sweep`. -/
def sweep (store : GraphStore) (generation : Int) (batchSize : Nat) (scan : Scan) : Except GraphError GraphStore :=
  if batchSize = 0 ∨ 100 < batchSize then .error (.valueError (text "sweep batch outside bounds"))
  else
    let state := store.lock
    if state.generation ≠ generation ∨ state.scanned = false then
      .error (.staleGraphGeneration (text "sweep requires completed current scan"))
    else if state.complete then .ok { store with projection := some state }
    else .ok (clean store state generation batchSize scan)

/-! ## One reconciliation step -/

/-- What a worker sends to the store. -/
inductive GraphRequest
  | page (page : GraphProjectionPage)
  | sweep (generation : Int) (batchSize : Nat)

/-- A transaction of the store. -/
def transact (store : GraphStore) (scan : Scan) : GraphRequest → Except GraphError GraphStore
  | .page page => applyPage store page
  | .sweep generation batchSize => sweep store generation batchSize scan

variable (encoding : Encoding) (db : CanonicalDatabase) (scopeId : Text)

/-- The request of `reconcile_graph_step` after the status it has read; none where it raises before. -/
def nextRequest (status : GraphProjectionStatus) (timely : ProjectionRow → Bool) (batchSize : Nat) :
    Option GraphRequest :=
  if db.corpusGeneration < status.generation then none
  else if status.generation ≠ db.corpusGeneration ∨ status.scanned = false then
    let cursor := if status.generation = db.corpusGeneration then status.cursor else 0
    (readProjectionPage encoding db scopeId timely cursor batchSize).map .page
  else some (.sweep db.corpusGeneration batchSize)

end ParaWorks.Graph
