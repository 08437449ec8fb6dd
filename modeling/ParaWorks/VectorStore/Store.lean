import ParaWorks.Answers.Candidates
import ParaWorks.Lib.SessionEvents
import Mathlib.Data.List.Sort

/-!
# The vector store in memory

Its deletions and its narrowings of permissions wait in the session until the outermost transaction commits.
-/

namespace ParaWorks.VectorStore

open Lib Answers SessionEvents

/-! ## Documents -/

/-- The documents of a store under their ids. -/
@[ext] structure Documents where
  get : Text → Option VectorDocument
  keyed : ∀ id d, get id = some d → d.documentId = id

namespace Documents

/-- `documents.pop(document_id, None)`. -/
def pop (documents : Documents) (documentId : Text) : Documents where
  get := Function.update documents.get documentId none
  keyed id d h := by
    by_cases hid : id = documentId
    · subst hid
      simp at h
    · rw [Function.update_of_ne hid] at h
      exact documents.keyed id d h

/-- `documents[document.document_id] = document`. -/
def put (documents : Documents) (document : VectorDocument) : Documents where
  get := Function.update documents.get document.documentId (some document)
  keyed id d h := by
    by_cases hid : id = document.documentId
    · subst hid
      rw [Function.update_self,Option.some.injEq] at h
      exact h ▸ rfl
    · rw [Function.update_of_ne hid] at h
      exact documents.keyed id d h

/-- The document of that id with another permission, where there is one. -/
def relabel (permissionLevel : Text) (documents : Documents) (documentId : Text) : Documents :=
  match documents.get documentId with
  | none => documents
  | some d => documents.put { d with permissionLevel := permissionLevel }

end Documents

/-! ## Mutations -/

/-- `_MemoryMutation`. -/
inductive MemoryMutation where
  | delete (documentIds : List Text)
  | narrow (documentIds : List Text) (permissionLevel : Text)
  deriving DecidableEq

/-- `_MemoryMutation.apply`. -/
def MemoryMutation.apply (documents : Documents) : MemoryMutation → Documents
  | delete documentIds => documentIds.foldl Documents.pop documents
  | narrow documentIds permissionLevel => documentIds.foldl (Documents.relabel permissionLevel) documents

structure QueuedMemoryMutation where
  store : Nat
  transactionIdentity : Nat
  mutation : MemoryMutation
  deriving DecidableEq

/-- The documents of the stores of one session, and what the session remembers for them. -/
structure StoreInfo where
  documents : Nat → Documents
  mutations : List QueuedMemoryMutation
  committing : List Nat
  listening : Bool

/-- The mutations of one store in a queue. -/
def mutationsOf (store : Nat) (queue : List QueuedMemoryMutation) : List MemoryMutation :=
  (queue.filter (·.store = store)).map (·.mutation)

/-- Each store after its mutations. -/
def applyAll (documents : Nat → Documents) (queue : List QueuedMemoryMutation) (store : Nat) : Documents := (mutationsOf store queue).foldl MemoryMutation.apply (documents store)

/-! ## Listeners -/

def markCommitting (transactions : List Nat) (info : StoreInfo) : StoreInfo :=
  if info.listening then
    match transactions with
    | [] => info
    | t::_ => { info with committing := info.committing.insert t }
  else info

/-- `finish_transaction`. -/
def finishTransaction (transaction : Nat) (parents : List Nat) (info : StoreInfo) : StoreInfo :=
  if info.listening then
    if transaction ∈ info.committing then
      let info := { info with committing := info.committing.filter (· ≠ transaction) }
      if parents = [] then { info with documents := applyAll info.documents info.mutations, mutations := [] } else info
    else info
  else info

/-- `discard_soft_rollback`. -/
def discardSoftRollback (transaction : Nat) (parents : List Nat) (info : StoreInfo) : StoreInfo :=
  if info.listening then
    if parents = [] then { info with mutations := [], committing := [] }
    else { info with mutations := info.mutations.filter (·.transactionIdentity ≠ transaction) }
  else info

def hooks : Hooks StoreInfo where
  beforeCommit := markCommitting
  afterCommit _ info := info
  afterTransactionEnd := finishTransaction
  afterSoftRollback := discardSoftRollback

/-! ## Calls -/

/-- `_permission_rank`, none where it raises. -/
def permissionRank (permissionLevel : Text) : Option Nat :=
  if permissionLevel = text "public" then some 0
  else if permissionLevel = text "internal" then some 1
  else if permissionLevel = text "restricted" then some 2
  else none

/-- `sorted(set(document_ids))`. -/
def normalized (documentIds : List Text) : List Text := documentIds.dedup.insertionSort (· ≤ ·)

/-- The mutation that a deletion queues where these documents are current. -/
def deletion (current : Documents) (documentIds : List Text) : MemoryMutation :=
  .delete ((normalized documentIds).filter fun id => (current.get id).isSome)

/-- The mutation that a narrowing queues where these documents are current, none where it raises. -/
def narrowing (current : Documents) (documentIds : List Text) (permissionLevel : Text) :
    Option MemoryMutation := do
  let targetRank ← permissionRank permissionLevel
  let documents := (normalized documentIds).filterMap current.get
  let ranks ← documents.mapM fun d => permissionRank d.permissionLevel
  if ranks.any (targetRank < ·) then none else some (.narrow (documents.map (·.documentId)) permissionLevel)

/-- What an application asks of the stores and of their session. -/
inductive StoreCommand where
  | upsert (store : Nat) (document : VectorDocument)
  /-- The identity is that of a transaction that begins where there is none. -/
  | deleteMany (store : Nat) (documentIds : List Text) (identity : Nat)
  | narrowPermissions (store : Nat) (documentIds : List Text) (permissionLevel : Text) (identity : Nat)
  | session (command : Command)

abbrev StoreSession := Session StoreInfo

/-- `_transaction_documents`. -/
def transactionDocuments (s : StoreSession) (store : Nat) : Documents :=
  applyAll s.info.documents s.info.mutations store

/-- `_queue_after_commit`. -/
def queueAfterCommit (s : StoreSession) (store identity : Nat) (mutation : MemoryMutation) : StoreSession :=
  let s := begin identity s
  match s.transactions with
  | [] => s
  | t::_ => { s with info := { s.info with
      mutations := s.info.mutations++[⟨store,t,mutation⟩]
      listening := true } }

def step (s : StoreSession) : StoreCommand → StoreSession
  | .upsert store document =>
    { s with info := { s.info with
      documents := Function.update s.info.documents store ((s.info.documents store).put document) } }
  | .deleteMany store documentIds identity =>
    queueAfterCommit s store identity (deletion (transactionDocuments s store) documentIds)
  | .narrowPermissions store documentIds permissionLevel identity =>
    match narrowing (transactionDocuments s store) documentIds permissionLevel with
    | none => s
    | some mutation => queueAfterCommit s store identity mutation
  | .session command => SessionEvents.step hooks s command

/-- A session that no one has used yet. -/
def freshSession (documents : Nat → Documents) : StoreSession := ⟨[],documents,[],[],false⟩

def run (documents : Nat → Documents) (commands : List StoreCommand) : StoreSession :=
  commands.foldl step (freshSession documents)

end ParaWorks.VectorStore
