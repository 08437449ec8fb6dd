import ParaWorks.VectorStore.Store

/-!
# Scopes

What the mutations of a session should do: those of a released savepoint belong to the scope around it, those of one that
is rolled back are gone, and the others are applied in order when the outermost transaction commits.
-/

namespace ParaWorks.VectorStore

open Lib Answers SessionEvents

/-! ## The scopes of a session -/

/-- A transaction with the mutations that were made in it and in the savepoints released inside it. -/
structure Scope where
  identity : Nat
  entries : List QueuedMemoryMutation
  deriving DecidableEq

/-- The stores as they were when the outermost transaction began, and its scopes from the innermost one out. -/
structure ScopedStores where
  documents : Nat → Documents
  scopes : List Scope

namespace ScopedStores

/-- The mutations of the scopes in the order of their calls. -/
def entriesOf (scopes : List Scope) : List QueuedMemoryMutation := (scopes.map (·.entries)).reverse.flatten

def entries (s : ScopedStores) : List QueuedMemoryMutation := entriesOf s.scopes

/-- A scope is opened where there is none. -/
def begin (identity : Nat) (s : ScopedStores) : ScopedStores :=
  if s.scopes = [] then { s with scopes := [⟨identity,[]⟩] } else s

/-- A mutation is made in the innermost scope. -/
def add (s : ScopedStores) (store identity : Nat) (mutation : MemoryMutation) : ScopedStores :=
  let s := begin identity s
  match s.scopes with
  | [] => s
  | scope::scopes => { s with scopes := { scope with entries := scope.entries++[⟨store,scope.identity,mutation⟩] }::scopes }

/-- All mutations are applied. -/
def commitAll (s : ScopedStores) : ScopedStores := ⟨applyAll s.documents s.entries,[]⟩

/-- The scopes up to a depth are released into the one around them. -/
def release (depth : Nat) (s : ScopedStores) : ScopedStores :=
  match s.scopes.drop (depth+1) with
  | [] => commitAll s
  | scope::scopes =>
    { s with scopes := { scope with entries := scope.entries++entriesOf (s.scopes.take (depth+1)) }::scopes }

/-- The scopes up to a depth are dropped. -/
def dropScopes (depth : Nat) (s : ScopedStores) : ScopedStores := { s with scopes := s.scopes.drop (depth+1) }

def visible (s : ScopedStores) (store : Nat) : Documents := applyAll s.documents s.entries store

def stepSession (s : ScopedStores) : Command → ScopedStores
  | .begin identity => begin identity s
  | .beginNested outermost identity =>
    let begun := begin outermost s
    { begun with scopes := ⟨identity,[]⟩::begun.scopes }
  | .commitAt depth => if depth < s.scopes.length then release depth s else s
  | .rollbackAt depth => if depth < s.scopes.length then dropScopes depth s else s
  | .commit _ => commitAll s
  | .rollback => { s with scopes := [] }
  | .close => { s with scopes := [] }

def step (s : ScopedStores) : StoreCommand → ScopedStores
  | .upsert store document =>
    if s.scopes = [] then { s with documents := Function.update s.documents store ((s.documents store).put document) }
    else s
  | .deleteMany store documentIds identity => add s store identity (deletion (visible s store) documentIds)
  | .narrowPermissions store documentIds permissionLevel identity =>
    match narrowing (visible s store) documentIds permissionLevel with
    | none => s
    | some mutation => add s store identity mutation
  | .session command => stepSession s command

def run (documents : Nat → Documents) (commands : List StoreCommand) : ScopedStores :=
  commands.foldl step ⟨documents,[]⟩

end ScopedStores

/-! ## Where the listeners keep to the scopes -/

/-- The handle of the outermost transaction commits by itself, the mutations under the identity of a savepoint that is
rolled back are those made since it was opened, none wait when the session is closed, and no document is written while a
transaction is open. -/
def Kept (s : ScopedStores) : StoreCommand → Prop
  | .upsert store document =>
    s.scopes = [] ∨ (s.documents store).put document = s.documents store
  | .session (.commitAt depth) => depth+1 = s.scopes.length → depth = 0 ∨ s.entries = []
  | .session (.rollbackAt depth) => depth+1 < s.scopes.length →
    ∀ scope ∈ (s.scopes.drop depth).head?,
      (∀ e ∈ ScopedStores.entriesOf (s.scopes.take (depth+1)), e.transactionIdentity = scope.identity) ∧
      ∀ e ∈ ScopedStores.entriesOf (s.scopes.drop (depth+1)), e.transactionIdentity ≠ scope.identity
  | .session .close => s.entries = []
  | _ => True

/-- Every command of the list meets the condition where it comes. -/
def KeptThrough (s : ScopedStores) : List StoreCommand → Prop
  | [] => True
  | c::cs => Kept s c ∧ KeptThrough (s.step c) cs

/-! ## What the listeners do -/

/-- The queue, the transactions and the stores of the session are those of the scopes. -/
structure Follows (c : StoreSession) (s : ScopedStores) : Prop where
  documents : c.info.documents = s.documents
  transactions : c.transactions = s.scopes.map (·.identity)
  mutations : c.info.mutations = s.entries
  committing : c.info.committing = []
  listening : c.info.listening = false → c.info.mutations = []

section events

variable {info : StoreInfo} {t : Nat} {ts front : List Nat}

/-- What the end of the outermost commit leaves. -/
def StoreInfo.applied (info : StoreInfo) : StoreInfo :=
  { info with documents := applyAll info.documents info.mutations, mutations := [] }

theorem applyAll_nil (documents : Nat → Documents) : applyAll documents [] = documents := rfl

theorem applied_of_nil (h : info.mutations = []) : info.applied = info := by
  cases info
  simp only [StoreInfo.applied] at *
  rw [h,applyAll_nil]

theorem closeTop_eq (hcommitting : info.committing = []) : closeTop hooks ⟨t::ts,info⟩ = ⟨ts,info⟩ := by
  change (⟨ts,finishTransaction t ts info⟩ : StoreSession) = _
  congr 1
  unfold finishTransaction
  simp [hcommitting]

theorem commitTop_eq (hcommitting : info.committing = []) (hlistening : info.listening = false → info.mutations = []) :
    commitTop hooks ⟨t::ts,info⟩ = ⟨ts,if ts = [] then info.applied else info⟩ := by
  change (⟨ts,finishTransaction t ts (markCommitting (t::ts) info)⟩ : StoreSession) = _
  congr 1
  cases hl : info.listening with
  | false =>
    have hnone := hlistening hl
    simp [finishTransaction,markCommitting,hl,applied_of_nil hnone]
  | true =>
    have hmark : markCommitting (t::ts) info = { info with committing := [t] } := by
      simp [markCommitting,hl,hcommitting]
    rw [hmark]
    unfold finishTransaction
    cases info
    simp_all [StoreInfo.applied]

/-- Inner transactions commit without a trace. -/
theorem commitTop_iterate (hcommitting : info.committing = [])
    (hlistening : info.listening = false → info.mutations = []) (hts : ts ≠ []) :
    (commitTop hooks)^[front.length] ⟨front++ts,info⟩ = ⟨ts,info⟩ := by
  induction front with
  | nil => rfl
  | cons t front ih =>
    have hne : front++ts ≠ [] := by simp [hts]
    rw [List.length_cons,Function.iterate_succ_apply,List.cons_append,commitTop_eq hcommitting hlistening,if_neg hne,ih]

theorem commitAll_eq (hcommitting : info.committing = []) (hlistening : info.listening = false → info.mutations = []) :
    (commitTop hooks)^[(t::ts).length] ⟨t::ts,info⟩ = ⟨[],info.applied⟩ := by
  obtain ⟨front,u,hfront⟩ : ∃ front u, t::ts = front++[u] :=
    ⟨_,_,(List.dropLast_append_getLast (List.cons_ne_nil t ts)).symm⟩
  rw [hfront,List.length_append,List.length_singleton,Nat.add_comm,Function.iterate_add_apply,
    commitTop_iterate hcommitting hlistening (List.cons_ne_nil u []),Function.iterate_one,
    commitTop_eq hcommitting hlistening,if_pos rfl]

theorem commitAt_eq (hcommitting : info.committing = []) (hlistening : info.listening = false → info.mutations = []) :
    commitAt hooks front.length ⟨front++t::ts,info⟩ =
      ⟨ts,if ts = [] ∧ front = [] then info.applied else info⟩ := by
  cases front with
  | nil =>
    rw [List.length_nil,List.nil_append]
    change commitTop hooks ⟨t::ts,info⟩ = _
    rw [commitTop_eq hcommitting hlistening]
    simp
  | cons u front =>
    have htwice : commitTop hooks (announce hooks ⟨u::(front++t::ts),info⟩) = ⟨front++t::ts,info⟩ := by
      have hmark : markCommitting (u::(front++t::ts)) (markCommitting (u::(front++t::ts)) info) =
          markCommitting (u::(front++t::ts)) info := by
        unfold markCommitting
        cases hl : info.listening <;> simp [hl]
      have hsame : announce hooks (announce hooks ⟨u::(front++t::ts),info⟩) = announce hooks ⟨u::(front++t::ts),info⟩ :=
        congrArg (Session.mk (u::(front++t::ts))) hmark
      have hne : front++t::ts ≠ [] := by simp
      have hone : commitTop hooks ⟨u::(front++t::ts),info⟩ = ⟨front++t::ts,info⟩ := by
        rw [commitTop_eq hcommitting hlistening,if_neg hne]
      rw [← hone]
      change settle hooks (announce hooks (announce hooks ⟨u::(front++t::ts),info⟩)) = _
      rw [hsame]
      rfl
    rw [commitAt,List.length_cons,Function.iterate_succ_apply,List.cons_append,htwice,
      commitTop_iterate hcommitting hlistening (List.cons_ne_nil t ts)]
    change closeTop hooks ⟨t::ts,info⟩ = _
    rw [closeTop_eq hcommitting]
    simp

theorem closeTop_iterate (hcommitting : info.committing = []) :
    (closeTop hooks)^[front.length] ⟨front++ts,info⟩ = ⟨ts,info⟩ := by
  induction front with
  | nil => rfl
  | cons t front ih => rw [List.length_cons,Function.iterate_succ_apply,List.cons_append,closeTop_eq hcommitting,ih]

theorem rollbackAt_eq (hcommitting : info.committing = []) :
    rollbackAt hooks front.length ⟨front++t::ts,info⟩ = ⟨ts,discardSoftRollback t ts info⟩ := by
  rw [rollbackAt,closeTop_iterate hcommitting]
  change (⟨(closeTop hooks ⟨t::ts,info⟩).transactions,
    discardSoftRollback t ts (closeTop hooks ⟨t::ts,info⟩).info⟩ : StoreSession) = _
  rw [closeTop_eq hcommitting]

theorem rollbackAll_eq (hcommitting : info.committing = []) (hlistening : info.listening = false → info.mutations = []) :
    (rollbackTop hooks)^[(t::ts).length] ⟨t::ts,info⟩ = ⟨[],{ info with mutations := [] }⟩ := by
  induction ts generalizing t info with
  | nil =>
    change rollbackAt hooks ([] : List Nat).length ⟨[]++[t],info⟩ = _
    rw [rollbackAt_eq hcommitting]
    congr 1
    obtain ⟨documents,mutations,committing,listening⟩ := info
    cases listening <;> simp_all [discardSoftRollback]
  | cons u ts ih =>
    rw [List.length_cons,Function.iterate_succ_apply]
    change (rollbackTop hooks)^[_] (rollbackAt hooks ([] : List Nat).length ⟨[]++t::u::ts,info⟩) = _
    rw [rollbackAt_eq hcommitting,ih]
    · congr 1
      obtain ⟨documents,mutations,committing,listening⟩ := info
      cases listening <;> simp [discardSoftRollback]
    · unfold discardSoftRollback
      cases info.listening <;> simp [hcommitting]
    · unfold discardSoftRollback
      cases hl : info.listening <;> simp_all

end events

/-! ## One command -/

namespace ScopedStores

theorem entriesOf_nil : entriesOf [] = [] := rfl

theorem entriesOf_cons (scope : Scope) (scopes : List Scope) :
    entriesOf (scope::scopes) = entriesOf scopes++scope.entries := by simp [entriesOf]

theorem entriesOf_append (front scopes : List Scope) : entriesOf (front++scopes) = entriesOf scopes++entriesOf front := by
  simp [entriesOf]

theorem entriesOf_split (scopes : List Scope) (depth : Nat) :
    entriesOf scopes = entriesOf (scopes.drop depth)++entriesOf (scopes.take depth) := by
  rw [← entriesOf_append,List.take_append_drop]

theorem entries_begin (s : ScopedStores) (identity : Nat) : (begin identity s).entries = s.entries := by
  unfold begin
  split_ifs with h
  · simp [entries,h,entriesOf]
  · rfl

theorem documents_begin (s : ScopedStores) (identity : Nat) : (begin identity s).documents = s.documents := by
  unfold begin
  split_ifs <;> rfl

theorem begin_ne_nil (s : ScopedStores) (identity : Nat) : (begin identity s).scopes ≠ [] := by
  unfold begin
  split_ifs with h
  · simp
  · exact h

theorem entries_add (s : ScopedStores) (store identity : Nat) (mutation : MemoryMutation) :
    ∃ t, (add s store identity mutation).entries = s.entries++[⟨store,t,mutation⟩] := by
  have hbegin := entries_begin s identity
  unfold add
  dsimp only
  split
  · next h => exact absurd h (begin_ne_nil s identity)
  · next scope scopes h =>
    refine ⟨scope.identity,?_⟩
    rw [← hbegin,entries,entries,h,entriesOf_cons,entriesOf_cons,List.append_assoc]

theorem documents_add (s : ScopedStores) (store identity : Nat) (mutation : MemoryMutation) :
    (add s store identity mutation).documents = s.documents := by
  have hbegin := documents_begin s identity
  unfold add
  dsimp only
  split <;> exact hbegin

end ScopedStores

section follows

open ScopedStores

variable {c : StoreSession} {s : ScopedStores}

theorem Follows.begin (h : Follows c s) (identity : Nat) :
    Follows (SessionEvents.begin identity c) (ScopedStores.begin identity s) := by
  have hnil : c.transactions = [] ↔ s.scopes = [] := by rw [h.transactions,List.map_eq_nil_iff]
  unfold SessionEvents.begin ScopedStores.begin
  by_cases hs : s.scopes = []
  · rw [if_pos hs,if_pos (hnil.mpr hs)]
    refine ⟨h.documents,rfl,?_,h.committing,h.listening⟩
    rw [h.mutations,entries,hs]
    rfl
  · rw [if_neg hs,if_neg (fun hc => hs (hnil.mp hc))]
    exact h

theorem Follows.visible (h : Follows c s) (store : Nat) : transactionDocuments c store = s.visible store := by
  rw [transactionDocuments,ScopedStores.visible,h.documents,h.mutations]

theorem Follows.queue (h : Follows c s) (store identity : Nat) (mutation : MemoryMutation) :
    Follows (queueAfterCommit c store identity mutation) (s.add store identity mutation) := by
  have hb := h.begin identity
  unfold queueAfterCommit ScopedStores.add
  dsimp only
  cases hscopes : (ScopedStores.begin identity s).scopes with
  | nil => exact absurd hscopes (begin_ne_nil s identity)
  | cons scope scopes =>
    have htransactions := hb.transactions
    rw [hscopes,List.map_cons] at htransactions
    have hentries : (ScopedStores.begin identity s).entries = entriesOf (scope::scopes) := congrArg entriesOf hscopes
    rw [htransactions]
    dsimp only
    refine ⟨hb.documents,rfl,?_,hb.committing,fun hl => Bool.noConfusion hl⟩
    change (SessionEvents.begin identity c).info.mutations++_ = entriesOf _
    rw [hb.mutations,hentries,entriesOf_cons,entriesOf_cons,List.append_assoc]

/-- A session in the fields of its scopes. -/
theorem Follows.eq (h : Follows c s) : c = ⟨s.scopes.map (·.identity),c.info⟩ := by
  rw [← h.transactions]

theorem Follows.applied (h : Follows c s) : c.info.applied.documents = applyAll s.documents s.entries ∧
    c.info.applied.mutations = [] ∧ c.info.applied.committing = [] := by
  refine ⟨?_,rfl,h.committing⟩
  rw [← h.documents,← h.mutations]
  rfl

/-- All of a commit. -/
theorem Follows.commitAll (h : Follows c s) (hopen : s.scopes ≠ []) :
    Follows ((commitTop hooks)^[c.transactions.length] c) s.commitAll := by
  obtain ⟨scope,scopes,hscopes⟩ := List.exists_cons_of_ne_nil hopen
  have heq := h.eq
  rw [hscopes,List.map_cons] at heq
  rw [heq,commitAll_eq h.committing h.listening]
  obtain ⟨hdocuments,hmutations,hcommitting⟩ := h.applied
  exact ⟨hdocuments,rfl,hmutations,hcommitting,fun _ => hmutations⟩

theorem take_split {scopes front rest : List Scope} {scope : Scope} (h : scopes = front++scope::rest) :
    scopes.take (front.length+1) = front++[scope] ∧ scopes.drop (front.length+1) = rest := by
  rw [h]
  constructor
  · rw [List.take_append]
    simp
  · rw [List.drop_append]
    simp

theorem Follows.release (h : Follows c s) {depth : Nat} (hdepth : depth < s.scopes.length)
    (hkept : depth+1 = s.scopes.length → depth = 0 ∨ s.entries = []) :
    Follows (commitAt hooks depth c) (s.release depth) := by
  obtain ⟨front,scope,rest,hscopes,rfl⟩ : ∃ front scope rest, s.scopes = front++scope::rest ∧ front.length = depth :=
    ⟨s.scopes.take depth,s.scopes[depth],s.scopes.drop (depth+1),by simp,by simp; omega⟩
  obtain ⟨htake,hdrop⟩ := take_split hscopes
  have heq := h.eq
  rw [hscopes,List.map_append,List.map_cons] at heq
  have hcommit : commitAt hooks front.length c = ⟨rest.map (·.identity),
      if rest.map (·.identity) = [] ∧ front.map (·.identity) = [] then c.info.applied else c.info⟩ := by
    rw [heq,← List.length_map (f := (·.identity)),commitAt_eq h.committing h.listening]
  rw [hcommit,ScopedStores.release,hdrop]
  obtain ⟨hdocuments,hmutations,hcommitting⟩ := h.applied
  cases rest with
  | nil =>
    dsimp only
    by_cases hfront : front = []
    · subst hfront
      rw [if_pos (by simp)]
      exact ⟨hdocuments,rfl,hmutations,hcommitting,fun _ => hmutations⟩
    · have hnone : s.entries = [] := by
        apply (hkept (by rw [hscopes]; simp)).resolve_left
        simpa using hfront
      have hsame : applyAll s.documents s.entries = s.documents := by rw [hnone,applyAll_nil]
      rw [if_neg (by simpa using hfront)]
      refine ⟨h.documents.trans hsame.symm,rfl,h.mutations.trans hnone,h.committing,h.listening⟩
  | cons outer rest =>
    rw [if_neg (by simp)]
    refine ⟨h.documents,rfl,?_,h.committing,h.listening⟩
    have hmoved : entriesOf s.scopes = entriesOf ({ outer with
        entries := outer.entries++entriesOf (s.scopes.take (front.length+1)) }::rest) := by
      rw [htake,hscopes]
      simp [entriesOf_append,entriesOf_cons,entriesOf_nil]
    exact h.mutations.trans hmoved

theorem Follows.drop (h : Follows c s) {depth : Nat} (hdepth : depth < s.scopes.length)
    (hkept : Kept s (.session (.rollbackAt depth))) : Follows (rollbackAt hooks depth c) (s.dropScopes depth) := by
  obtain ⟨front,scope,rest,hscopes,rfl⟩ : ∃ front scope rest, s.scopes = front++scope::rest ∧ front.length = depth :=
    ⟨s.scopes.take depth,s.scopes[depth],s.scopes.drop (depth+1),by simp,by simp; omega⟩
  obtain ⟨htake,hdrop⟩ := take_split hscopes
  have heq := h.eq
  rw [hscopes,List.map_append,List.map_cons] at heq
  have hrollback : rollbackAt hooks front.length c =
      ⟨rest.map (·.identity),discardSoftRollback scope.identity (rest.map (·.identity)) c.info⟩ := by
    rw [heq,← List.length_map (f := (·.identity)),rollbackAt_eq h.committing]
  have hentries : c.info.mutations = entriesOf rest++entriesOf (front++[scope]) := by
    rw [h.mutations,entries,entriesOf_split s.scopes (front.length+1),htake,hdrop]
  rw [hrollback,ScopedStores.dropScopes,hdrop]
  cases rest with
  | nil =>
    unfold discardSoftRollback
    cases hl : c.info.listening with
    | false => exact ⟨h.documents,rfl,h.listening hl,h.committing,fun _ => h.listening hl⟩
    | true => exact ⟨h.documents,rfl,rfl,rfl,fun _ => rfl⟩
  | cons outer rest =>
    have hhead : (s.scopes.drop front.length).head? = some scope := by
      rw [hscopes,List.drop_left]
      rfl
    have htags := hkept (by rw [hscopes]; simp) scope hhead
    rw [htake,hdrop] at htags
    unfold discardSoftRollback
    cases hl : c.info.listening with
    | false =>
      have hnone := h.listening hl
      rw [hnone] at hentries
      refine ⟨h.documents,rfl,?_,h.committing,fun _ => hnone⟩
      exact hnone.trans (List.append_eq_nil_iff.mp hentries.symm).1.symm
    | true =>
      refine ⟨h.documents,rfl,?_,h.committing,fun hfalse => absurd hfalse (by simp)⟩
      change c.info.mutations.filter _ = entriesOf (outer::rest)
      rw [hentries,List.filter_append]
      have hgone : (entriesOf (front++[scope])).filter (·.transactionIdentity ≠ scope.identity) = [] := by
        apply List.filter_eq_nil_iff.mpr
        intro e he
        simpa using htags.1 e he
      have hstay : (entriesOf (outer::rest)).filter (·.transactionIdentity ≠ scope.identity) = entriesOf (outer::rest) := by
        apply List.filter_eq_self.mpr
        intro e he
        simpa using htags.2 e he
      rw [hgone,hstay,List.append_nil]

theorem Follows.emptied (h : Follows c s) : Follows ⟨[],{ c.info with mutations := [] }⟩ { s with scopes := [] } :=
  ⟨h.documents,rfl,rfl,h.committing,fun _ => rfl⟩

/-- The listeners keep to the scopes for one more command. -/
theorem Follows.step (h : Follows c s) {command : StoreCommand} (hkept : Kept s command) :
    Follows (step c command) (s.step command) := by
  cases command with
  | upsert store document =>
    change Follows _ (if s.scopes = [] then _ else s)
    split_ifs with hs
    · refine ⟨?_,h.transactions,h.mutations,h.committing,h.listening⟩
      exact congrArg (fun d => Function.update d store ((d store).put document)) h.documents
    · have hsame := hkept.resolve_left hs
      refine ⟨?_,h.transactions,h.mutations,h.committing,h.listening⟩
      change Function.update c.info.documents store ((c.info.documents store).put document) = _
      rw [h.documents,hsame,Function.update_eq_self]
  | deleteMany store documentIds identity =>
    change Follows (queueAfterCommit c store identity (deletion (transactionDocuments c store) documentIds)) _
    rw [h.visible]
    exact h.queue store identity _
  | narrowPermissions store documentIds permissionLevel identity =>
    unfold VectorStore.step ScopedStores.step
    dsimp only
    rw [h.visible]
    cases narrowing (s.visible store) documentIds permissionLevel with
    | none => exact h
    | some mutation => exact h.queue store identity mutation
  | session command =>
    have hlength : c.transactions.length = s.scopes.length := by rw [h.transactions,List.length_map]
    cases command with
    | begin identity => exact h.begin identity
    | beginNested outermost identity =>
      have hb := h.begin outermost
      refine ⟨hb.documents,?_,?_,hb.committing,hb.listening⟩
      · exact congrArg (identity::·) hb.transactions
      · change (SessionEvents.begin outermost c).info.mutations = entriesOf (⟨identity,[]⟩::_)
        rw [hb.mutations,entriesOf_cons,List.append_nil]
        rfl
    | commitAt depth =>
      change Follows (if depth < c.transactions.length then _ else c) (if depth < s.scopes.length then _ else s)
      rw [hlength]
      split_ifs with hdepth
      · exact h.release hdepth hkept
      · exact h
    | rollbackAt depth =>
      change Follows (if depth < c.transactions.length then _ else c) (if depth < s.scopes.length then _ else s)
      rw [hlength]
      split_ifs with hdepth
      · exact h.drop hdepth hkept
      · exact h
    | commit identity =>
      have hb := (h.begin identity).commitAll (begin_ne_nil s identity)
      have hall : (ScopedStores.begin identity s).commitAll = s.commitAll := by
        rw [ScopedStores.commitAll,ScopedStores.commitAll,entries_begin,documents_begin]
      rw [hall] at hb
      exact hb
    | rollback =>
      change Follows ((rollbackTop hooks)^[c.transactions.length] c) { s with scopes := [] }
      have heq := h.eq
      cases hscopes : s.scopes with
      | nil =>
        rw [hlength,hscopes]
        refine ⟨h.documents,h.transactions.trans (by rw [hscopes]),?_,h.committing,h.listening⟩
        change c.info.mutations = entriesOf []
        rw [h.mutations,entries,hscopes]
      | cons scope scopes =>
        rw [hscopes,List.map_cons] at heq
        rw [heq,rollbackAll_eq h.committing h.listening]
        exact h.emptied
    | close =>
      change Follows ((closeTop hooks)^[c.transactions.length] c) { s with scopes := [] }
      have hclose : (closeTop hooks)^[c.transactions.length] ⟨c.transactions++[],c.info⟩ = ⟨[],c.info⟩ :=
        closeTop_iterate h.committing
      have hself : (⟨c.transactions++[],c.info⟩ : StoreSession) = c := by rw [List.append_nil]
      rw [hself] at hclose
      rw [hclose]
      exact ⟨h.documents,rfl,h.mutations.trans hkept,h.committing,h.listening⟩

end follows

end ParaWorks.VectorStore
