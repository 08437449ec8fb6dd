import ParaWorks.VectorStore.Transactions

/-!
# Runs of the vector store

Where every command keeps to the scopes, the stores are those of the scopes after every run, and no mutation that waits
gives a document a less strict permission.
-/

namespace ParaWorks.VectorStore

open Lib Answers SessionEvents

/-! ## Permissions -/

/-- No document is less strict after the mutation. -/
def Narrows (documents : Documents) : MemoryMutation → Prop
  | .delete _ => True
  | .narrow documentIds permissionLevel => ∀ id ∈ documentIds, ∀ d, documents.get id = some d →
    ∃ rank target, permissionRank d.permissionLevel = some rank ∧ permissionRank permissionLevel = some target ∧
      rank ≤ target

/-- Each mutation of the queue narrows the documents that those before it leave. -/
def NeverBroadens (documents : Nat → Documents) (queue : List QueuedMemoryMutation) : Prop :=
  ∀ front e back, queue = front++e::back → Narrows (applyAll documents front e.store) e.mutation

theorem neverBroadens_nil (documents : Nat → Documents) : NeverBroadens documents [] := by
  intro front e back h
  simp at h

theorem NeverBroadens.front {documents : Nat → Documents} {queue rest : List QueuedMemoryMutation}
    (h : NeverBroadens documents (queue++rest)) : NeverBroadens documents queue := by
  intro front e back hqueue
  apply h front e (back++rest)
  rw [hqueue,List.append_assoc,List.cons_append]

theorem NeverBroadens.concat {documents : Nat → Documents} {queue : List QueuedMemoryMutation} {e : QueuedMemoryMutation}
    (h : NeverBroadens documents queue) (he : Narrows (applyAll documents queue e.store) e.mutation) :
    NeverBroadens documents (queue++[e]) := by
  intro front f back hsplit
  obtain rfl | ⟨back',u,rfl⟩ := List.eq_nil_or_concat back
  · obtain ⟨rfl,hlast⟩ := List.append_inj' hsplit rfl
    obtain rfl : e = f := by simpa using hlast
    exact he
  · rw [List.concat_eq_append,← List.cons_append,← List.append_assoc] at hsplit
    obtain ⟨hqueue,-⟩ := List.append_inj' hsplit rfl
    exact h front f back' hqueue

theorem narrows_deletion (documents : Documents) (documentIds : List Text) :
    Narrows documents (deletion documents documentIds) := trivial

/-- A list of known permissions. -/
theorem ranks_known {ds : List VectorDocument} {ranks : List Nat}
    (h : ds.mapM (fun d => permissionRank d.permissionLevel) = some ranks) {d : VectorDocument} (hd : d ∈ ds) :
    ∃ rank ∈ ranks, permissionRank d.permissionLevel = some rank := by
  induction ds generalizing ranks with
  | nil => simp at hd
  | cons e ds ih =>
    rw [List.mapM_cons] at h
    obtain ⟨rank,hrank,h⟩ := Option.bind_eq_some_iff.mp h
    obtain ⟨others,hothers,h⟩ := Option.bind_eq_some_iff.mp h
    obtain rfl : rank::others = ranks := by simpa using h
    obtain rfl | hd := List.mem_cons.mp hd
    · exact ⟨rank,List.mem_cons_self,hrank⟩
    · obtain ⟨other,hother,hsome⟩ := ih hothers hd
      exact ⟨other,List.mem_cons_of_mem _ hother,hsome⟩

theorem narrows_narrowing {documents : Documents} {documentIds : List Text} {permissionLevel : Text}
    {mutation : MemoryMutation} (h : narrowing documents documentIds permissionLevel = some mutation) :
    Narrows documents mutation := by
  unfold narrowing at h
  obtain ⟨target,htarget,h⟩ := Option.bind_eq_some_iff.mp h
  obtain ⟨ranks,hranks,h⟩ := Option.bind_eq_some_iff.mp h
  split_ifs at h with hbroader
  obtain rfl := Option.some.inj h
  intro id hid d hd
  obtain ⟨e,he,hkey⟩ := List.mem_map.mp hid
  obtain ⟨wanted,-,hwanted⟩ := List.mem_filterMap.mp he
  -- The queued id is the one under which the document is kept.
  have hsame : wanted = id := (documents.keyed wanted e hwanted).symm.trans hkey
  rw [hsame,hd] at hwanted
  obtain rfl := Option.some.inj hwanted
  obtain ⟨rank,hrank,hsome⟩ := ranks_known hranks he
  refine ⟨rank,target,hsome,htarget,?_⟩
  by_contra hless
  exact hbroader (List.any_eq_true.mpr ⟨rank,hrank,by simpa using hless⟩)

/-! ## One command -/

namespace ScopedStores

variable {s : ScopedStores}

theorem neverBroadens_add (h : NeverBroadens s.documents s.entries) {store identity : Nat} {mutation : MemoryMutation}
    (hmutation : Narrows (s.visible store) mutation) :
    NeverBroadens (s.add store identity mutation).documents (s.add store identity mutation).entries := by
  obtain ⟨t,hentries⟩ := entries_add s store identity mutation
  rw [hentries,documents_add]
  exact h.concat hmutation

theorem neverBroadens_commitAll : NeverBroadens s.commitAll.documents s.commitAll.entries := neverBroadens_nil _

theorem neverBroadens_drop (h : NeverBroadens s.documents s.entries) (depth : Nat) :
    NeverBroadens s.documents (entriesOf (s.scopes.drop depth)) := by
  have hsplit : s.entries = entriesOf (s.scopes.drop depth)++entriesOf (s.scopes.take depth) := entriesOf_split s.scopes depth
  rw [hsplit] at h
  exact h.front

theorem neverBroadens_release (h : NeverBroadens s.documents s.entries) (depth : Nat) :
    NeverBroadens (s.release depth).documents (s.release depth).entries := by
  unfold release
  cases hdrop : s.scopes.drop (depth+1) with
  | nil => exact neverBroadens_commitAll
  | cons scope scopes =>
    have hsame : entriesOf ({ scope with entries := scope.entries++entriesOf (s.scopes.take (depth+1)) }::scopes) =
        s.entries := by
      rw [entries,entriesOf_split s.scopes (depth+1),hdrop,entriesOf_cons,entriesOf_cons,List.append_assoc]
    change NeverBroadens s.documents (entriesOf (_::scopes))
    rw [hsame]
    exact h

theorem neverBroadens_stepSession (h : NeverBroadens s.documents s.entries) (command : Command) :
    NeverBroadens (s.stepSession command).documents (s.stepSession command).entries := by
  have hbegin : ∀ identity, NeverBroadens (begin identity s).documents (begin identity s).entries := by
    intro identity
    rw [documents_begin,entries_begin]
    exact h
  cases command with
  | begin identity => exact hbegin identity
  | beginNested outermost identity =>
    change NeverBroadens (begin outermost s).documents (entriesOf (⟨identity,[]⟩::(begin outermost s).scopes))
    rw [entriesOf_cons,List.append_nil]
    exact hbegin outermost
  | commitAt depth =>
    unfold stepSession
    dsimp only
    split_ifs
    · exact neverBroadens_release h depth
    · exact h
  | rollbackAt depth =>
    unfold stepSession
    dsimp only
    split_ifs
    · exact neverBroadens_drop h (depth+1)
    · exact h
  | commit identity => exact neverBroadens_commitAll
  | rollback => exact neverBroadens_nil _
  | close => exact neverBroadens_nil _

theorem neverBroadens_step (h : NeverBroadens s.documents s.entries) (command : StoreCommand) :
    NeverBroadens (s.step command).documents (s.step command).entries := by
  cases command with
  | upsert store document =>
    unfold step
    dsimp only
    split_ifs with hs
    · change NeverBroadens _ (entriesOf s.scopes)
      rw [hs]
      exact neverBroadens_nil _
    · exact h
  | deleteMany store documentIds identity => exact neverBroadens_add h (narrows_deletion _ _)
  | narrowPermissions store documentIds permissionLevel identity =>
    unfold step
    dsimp only
    cases hnarrowing : narrowing (s.visible store) documentIds permissionLevel with
    | none => exact h
    | some mutation => exact neverBroadens_add h (narrows_narrowing hnarrowing)
  | session command => exact neverBroadens_stepSession h command

end ScopedStores

/-! ## Runs -/

theorem follows_fresh (documents : Nat → Documents) : Follows (freshSession documents) ⟨documents,[]⟩ :=
  ⟨rfl,rfl,rfl,rfl,fun _ => rfl⟩

theorem follows_run {c : StoreSession} {s : ScopedStores} {commands : List StoreCommand} (h : Follows c s)
    (hbroadens : NeverBroadens s.documents s.entries) (hkept : KeptThrough s commands) :
    Follows (commands.foldl step c) (commands.foldl ScopedStores.step s) ∧
      NeverBroadens (commands.foldl ScopedStores.step s).documents (commands.foldl ScopedStores.step s).entries := by
  induction commands generalizing c s with
  | nil => exact ⟨h,hbroadens⟩
  | cons command commands ih => exact ih (h.step hkept.1) (ScopedStores.neverBroadens_step hbroadens command) hkept.2

/-- After every run whose commands keep to the scopes, the stores are as the scopes have them, what waits is what the open
scopes hold, none waits where no scope is open, and none of what waits broadens a permission. -/
theorem mutations_follow_scopes (documents : Nat → Documents) (commands : List StoreCommand)
    (h : KeptThrough ⟨documents,[]⟩ commands) :
    (run documents commands).info.documents = (ScopedStores.run documents commands).documents ∧
      (run documents commands).info.mutations = (ScopedStores.run documents commands).entries ∧
      ((run documents commands).transactions = [] → (run documents commands).info.mutations = []) ∧
      NeverBroadens (run documents commands).info.documents (run documents commands).info.mutations := by
  obtain ⟨hfollows,hbroadens⟩ := follows_run (follows_fresh documents) (neverBroadens_nil documents) h
  refine ⟨hfollows.documents,hfollows.mutations,?_,?_⟩
  · intro hclosed
    have hscopes : (commands.foldl ScopedStores.step ⟨documents,[]⟩).scopes = [] :=
      List.map_eq_nil_iff.mp (hfollows.transactions.symm.trans hclosed)
    refine hfollows.mutations.trans ?_
    rw [ScopedStores.entries,hscopes]
    rfl
  · change NeverBroadens (commands.foldl step (freshSession documents)).info.documents _
    rw [hfollows.documents]
    change NeverBroadens _ (commands.foldl step (freshSession documents)).info.mutations
    rw [hfollows.mutations]
    exact hbroadens

section samples

/-- A store of no documents. -/
def noDocuments : Documents := ⟨fun _ => none,by simp⟩

def sampleDocument : VectorDocument := ⟨text "a",text "t",text "u",text "s",text "public",[]⟩

/-- A deletion in a savepoint that is released, and the commit. -/
def releasedDeletion : List StoreCommand :=
  [.upsert 0 sampleDocument,.session (.beginNested 1 2),.deleteMany 0 [text "a"] 9,.session (.commitAt 0),.session (.commit 9)]

theorem releasedDeletion_applied :
    KeptThrough ⟨fun _ => noDocuments,[]⟩ releasedDeletion ∧
      (run (fun _ => noDocuments) releasedDeletion).info.documents =
        (ScopedStores.run (fun _ => noDocuments) releasedDeletion).documents ∧
      (((run (fun _ => noDocuments) releasedDeletion).info.documents 0).get (text "a")).isNone = true := by
  have hkept : KeptThrough ⟨fun _ => noDocuments,[]⟩ releasedDeletion :=
    ⟨Or.inl rfl,trivial,trivial,fun _ => Or.inl rfl,trivial,trivial⟩
  exact ⟨hkept,(mutations_follow_scopes (fun _ => noDocuments) releasedDeletion hkept).1,by decide +kernel⟩

/-- A deletion in a savepoint that is released inside one that is rolled back, and the commit. -/
def returnedDeletion : List StoreCommand :=
  [.upsert 0 sampleDocument,.session (.beginNested 1 2),.session (.beginNested 1 3),.deleteMany 0 [text "a"] 9,
    .session (.commitAt 0),.session (.rollbackAt 0),.session (.commit 9)]

/-- The document is gone though the savepoint around its deletion was rolled back. -/
theorem returnedDeletion_applied :
    (((run (fun _ => noDocuments) returnedDeletion).info.documents 0).get (text "a")).isNone = true ∧
      (run (fun _ => noDocuments) returnedDeletion).info.documents ≠
        (ScopedStores.run (fun _ => noDocuments) returnedDeletion).documents := by
  refine ⟨by decide +kernel,?_⟩
  intro h
  have hsame : (((run (fun _ => noDocuments) returnedDeletion).info.documents 0).get (text "a")).isNone =
      (((ScopedStores.run (fun _ => noDocuments) returnedDeletion).documents 0).get (text "a")).isNone := by rw [h]
  revert hsame
  decide +kernel

end samples

end ParaWorks.VectorStore
