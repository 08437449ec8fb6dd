import ParaWorks.Generation.Seals
import ParaWorks.Lexical.Projection
import ParaWorks.Lib.Partial

/-!
# Refresh and read agree

What a refresh leaves under each document id, and that the reader takes exactly this.
-/

namespace ParaWorks.Lexical

open Lib Retrieval Answers Generation Fingerprints

/-! ## Document ids -/

theorem ServingState.keys_nodup (state : ServingState) : state.keys.Nodup := by
  have hsorted : ∀ ids : List Nat, ids.Nodup → (orderBy id ids).Nodup := by
    intro ids h
    exact (List.mergeSort_perm ids _).nodup_iff.mpr h
  have hchunk := (hsorted _ state.chunkIds).map fun _ _ h => DocumentKey.chunk.inj h
  have hknow : ∀ t, ((orderBy id ((state.knowledge t).map (·.id))).map (DocumentKey.knowledge t)).Nodup := by
    intro t
    exact (hsorted _ (state.knowledgeIds t)).map fun _ _ h => (DocumentKey.knowledge.inj h).2
  rw [ServingState.keys,List.nodup_append]
  refine ⟨hchunk,?_,?_⟩
  · rw [List.nodup_flatMap]
    refine ⟨fun t _ => hknow t,?_⟩
    have htypes : knowledgeTypes.Nodup := by decide
    apply htypes.imp
    intro t t' hne key hkey hkey'
    obtain ⟨i,_,rfl⟩ := List.mem_map.mp hkey
    obtain ⟨j,_,hj⟩ := List.mem_map.mp hkey'
    exact hne (DocumentKey.knowledge.inj hj).1.symm
  · intro a ha b hb hab
    obtain ⟨i,_,rfl⟩ := List.mem_map.mp ha
    obtain ⟨t,_,hb⟩ := List.mem_flatMap.mp hb
    obtain ⟨j,_,rfl⟩ := List.mem_map.mp hb
    cases hab

theorem KnowledgeType.colon_not_mem_name (t : KnowledgeType) : ofChar ':' ∉ t.name := by
  cases t <;> decide

theorem KnowledgeType.name_ne_chunk (t : KnowledgeType) : t.name ≠ text "chunk" := by
  cases t <;> decide

theorem KnowledgeType.name_injective : Function.Injective KnowledgeType.name := by
  intro t t' h
  cases t <;> cases t' <;> first | rfl | exact absurd h (by decide)

theorem colon_not_mem_kind (key : DocumentKey) : ofChar ':' ∉ key.kind := by
  cases key with
  | chunk id =>
    change ofChar ':' ∉ text "chunk"
    decide
  | knowledge t id => exact t.colon_not_mem_name

theorem kind_inj {key key' : DocumentKey} (h : key.kind = key'.kind) (hid : key.rowId = key'.rowId) : key = key' := by
  cases key with
  | chunk id =>
    cases key' with
    | chunk id' => exact congrArg _ hid
    | knowledge t id' => exact absurd h.symm t.name_ne_chunk
  | knowledge t id =>
    cases key' with
    | chunk id' => exact absurd h t.name_ne_chunk
    | knowledge t' id' =>
      obtain rfl : id = id' := hid
      obtain rfl := KnowledgeType.name_injective h
      rfl

theorem documentId_injective : Function.Injective DocumentKey.documentId := by
  intro key key' h
  have hsplit := congrArg (splitOnce (ofChar ':')) h
  unfold DocumentKey.documentId at hsplit
  rw [splitOnce_append (colon_not_mem_kind key),splitOnce_append (colon_not_mem_kind key'),Option.some.injEq,
    Prod.mk.injEq] at hsplit
  have hdigits := Json.digits_inj hsplit.2
  exact kind_inj hsplit.1 (by simpa using hdigits)

section documents

variable {signing : Signing} {state : ServingState}

theorem vectorDocument_id {sourcePk : Option Nat} {key : DocumentKey} {r : Resolved} {d : VectorDocument}
    (h : vectorDocument signing sourcePk key r = some d) : d.documentId = key.documentId := by
  unfold vectorDocument at h
  obtain ⟨contentHmac,_,h⟩ := Option.bind_eq_some_iff.mp h
  obtain ⟨citationHmac,_,h⟩ := Option.bind_eq_some_iff.mp h
  obtain ⟨versionFingerprint,_,h⟩ := Option.bind_eq_some_iff.mp h
  obtain ⟨identityHmac,_,h⟩ := Option.bind_eq_some_iff.mp h
  obtain rfl := Option.some.inj h
  rfl

theorem documentOf_id {key : DocumentKey} {d : VectorDocument} (h : documentOf signing state key = some d) :
    d.documentId = key.documentId := by
  cases key with
  | chunk id =>
    obtain ⟨r,_,h⟩ := Option.bind_eq_some_iff.mp h
    obtain ⟨chunk,_,h⟩ := Option.bind_eq_some_iff.mp h
    obtain ⟨source,_,h⟩ := Option.bind_eq_some_iff.mp h
    exact vectorDocument_id h
  | knowledge t id =>
    obtain ⟨r,_,h⟩ := Option.bind_eq_some_iff.mp h
    exact vectorDocument_id h

/-- No document is built twice. -/
theorem documents_nodup : ((documents signing state).map (·.documentId)).Nodup := by
  have hsub : ((documents signing state).map (·.documentId)).Sublist (state.keys.map DocumentKey.documentId) := by
    rw [documents,List.map_filterMap]
    apply filterMap_sublist_map
    intro key id h
    obtain ⟨d,hd,rfl⟩ := Option.map_eq_some_iff.mp h
    exact documentOf_id hd
  exact (state.keys_nodup.map documentId_injective).sublist hsub

end documents

/-! ## What a refresh leaves -/

/-- A row without its times. -/
def projected (row : LexicalRow) : LexicalRow := { row with createdAt := 0, updatedAt := 0 }

section refresh

variable (platform : Platform) (settings : Settings) (state : ServingState) (generation : Nat)

/-- What a refresh writes for a document, none where it cannot be projected. -/
def projectedRow (d : VectorDocument) : Option LexicalRow :=
  match documentTitle state d.documentId,projectionHmacFields d with
  | some title,some fields => some (writtenRow platform settings generation d title fields 0 0)
  | _,_ => none

variable {platform settings state generation} {now : Nat} {rows : List LexicalRow} {d : VectorDocument}

theorem find?_projectDocument_self :
    ((projectDocument platform settings state generation now rows d).find? (·.servingDocumentId = d.documentId)).map
      projected = projectedRow platform settings state generation d := by
  have hgone : (rows.filter (·.servingDocumentId ≠ d.documentId)).find? (·.servingDocumentId = d.documentId) = none := by
    rw [find?_none_iff]
    intro row hrow
    simpa using (List.mem_filter.mp hrow).2
  unfold projectDocument projectedRow
  cases documentTitle state d.documentId with
  | none => exact congrArg _ hgone
  | some title =>
    cases projectionHmacFields d with
    | none => exact congrArg _ hgone
    | some fields =>
      let row := writtenRow platform settings generation d title fields
        (((rows.find? (·.servingDocumentId = d.documentId)).map (·.createdAt)).getD now) now
      have hself := @find?_mergeRow_self _ _ _ LexicalRow.servingDocumentId rows row
      exact congrArg (Option.map projected) hself

theorem find?_projectDocument_ne {k : Text} (hk : k ≠ d.documentId) :
    (projectDocument platform settings state generation now rows d).find? (·.servingDocumentId = k) =
      rows.find? (·.servingDocumentId = k) := by
  unfold projectDocument
  split
  · exact find?_mergeRow_ne hk
  · rw [List.find?_filter]
    congr 1
    funext row
    by_cases hrow : row.servingDocumentId = k <;> simp [hrow,hk]

/-- The loop leaves under each id what is written for the document of that id. -/
theorem find?_projectDocuments {ds : List VectorDocument} (hn : (ds.map (·.documentId)).Nodup) (k : Text) :
    ((ds.foldl (projectDocument platform settings state generation now) rows).find? (·.servingDocumentId = k)).map
      projected = if k ∈ ds.map (·.documentId) then
        (ds.find? (·.documentId = k)).bind (projectedRow platform settings state generation)
      else (rows.find? (·.servingDocumentId = k)).map projected := by
  induction ds generalizing rows with
  | nil => rfl
  | cons d ds ih =>
    rw [List.map_cons,List.nodup_cons] at hn
    rw [List.foldl_cons,ih hn.2,List.map_cons,List.find?_cons]
    by_cases hk : d.documentId = k
    · subst hk
      rw [if_neg hn.1,if_pos List.mem_cons_self,find?_projectDocument_self]
      simp
    · have hmem : (k ∈ d.documentId::ds.map (·.documentId)) ↔ k ∈ ds.map (·.documentId) := by
        rw [List.mem_cons]
        exact or_iff_right (Ne.symm hk)
      simp only [hmem,hk,decide_false,find?_projectDocument_ne (Ne.symm hk)]

theorem find?_refreshedRows (k : Text) :
    ((refreshedRows platform settings state generation now rows).find? (·.servingDocumentId = k)).map projected =
      ((documents settings.signing state).find? (·.documentId = k)).bind
        (projectedRow platform settings state generation) := by
  unfold refreshedRows
  dsimp only
  rw [find?_projectDocuments documents_nodup]
  by_cases hk : k ∈ (documents settings.signing state).map (·.documentId)
  · rw [if_pos hk]
  · have hgone : (rows.filter (·.servingDocumentId ∈ (documents settings.signing state).map (·.documentId))).find?
        (·.servingDocumentId = k) = none := by
      rw [find?_none_iff]
      rintro row hrow rfl
      exact hk (by simpa using (List.mem_filter.mp hrow).2)
    have hnone : (documents settings.signing state).find? (·.documentId = k) = none := by
      rw [find?_none_iff]
      rintro d hd rfl
      exact hk (List.mem_map_of_mem hd)
    rw [if_neg hk,hgone,hnone]
    rfl

end refresh

/-! ## What a reader takes -/

section reading

variable {platform : Platform} {settings : Settings} {state : ServingState} {generation : Nat}

/-- The reader takes a row for current when it is what a refresh would write for its document. -/
theorem rowIsExact_iff {row : LexicalRow} {d : VectorDocument} :
    (rowIsSelected settings generation row = true ∧ row.servingDocumentId = d.documentId ∧
      rowIsExact platform state row d = true) ↔
      projectedRow platform settings state generation d = some (projected row) := by
  unfold rowIsExact projectedRow
  cases documentTitle state d.documentId with
  | none => simp
  | some title =>
    cases projectionHmacFields d with
    | none => simp
    | some fields =>
      simp only [rowIsSelected,Bool.and_eq_true,decide_eq_true_iff,Option.some.injEq,projected,writtenRow,
        LexicalRow.mk.injEq,and_true]
      constructor
      · rintro ⟨⟨⟨⟨hg,hc⟩,hv⟩,hm⟩,hid,⟨⟨⟨⟨⟨⟨⟨⟨h1,h2⟩,h3⟩,h4⟩,h5⟩,h6⟩,h7⟩,h8⟩,h9⟩⟩
        exact ⟨hid.symm,hg.symm,h1.symm,h2.symm,h3.symm,h4.symm,h5.symm,h6.symm,h7.symm,h8.symm,h9.symm,hc.symm,hv.symm,
          hm.symm⟩
      · rintro ⟨hid,hg,h1,h2,h3,h4,h5,h6,h7,h8,h9,hc,hv,hm⟩
        exact ⟨⟨⟨⟨hg.symm,hc.symm⟩,hv.symm⟩,hm.symm⟩,hid.symm,
          ⟨⟨⟨⟨⟨⟨⟨⟨h1.symm,h2.symm⟩,h3.symm⟩,h4.symm⟩,h5.symm⟩,h6.symm⟩,h7.symm⟩,h8.symm⟩,h9.symm⟩⟩

theorem mem_current {tables : LexicalTables} (hg : tables.corpusGeneration = some generation) {row : LexicalRow} :
    row ∈ currentRagLexicalProjections platform settings state tables ↔ row ∈ tables.rows ∧
      ((documents settings.signing state).find? (·.documentId = row.servingDocumentId)).bind
        (projectedRow platform settings state generation) = some (projected row) := by
  simp only [currentRagLexicalProjections,hg,List.mem_filter,List.mem_mergeSort,Option.any_eq_true,
    Option.bind_eq_some_iff,and_assoc,← rowIsExact_iff]
  constructor
  · rintro ⟨hrow,hsel,d,hd,hexact⟩
    have hid : d.documentId = row.servingDocumentId := by simpa using List.find?_some hd
    exact ⟨hrow,d,hd,hsel,hid.symm,hexact⟩
  · rintro ⟨hrow,d,hd,hsel,_,hexact⟩
    exact ⟨hrow,hsel,d,hd,hexact⟩

theorem current_nodup (tables : LexicalTables) :
    ((currentRagLexicalProjections platform settings state tables).map (·.servingDocumentId)).Nodup := by
  unfold currentRagLexicalProjections
  cases tables.corpusGeneration with
  | none => exact List.nodup_nil
  | some generation =>
    have hselected := tables.documentIds.sublist ((List.filter_sublist (p := rowIsSelected settings generation)).map _)
    have hsorted := ((List.mergeSort_perm (tables.rows.filter (rowIsSelected settings generation)) fun a b =>
      platform.collate a.servingDocumentId b.servingDocumentId).map (·.servingDocumentId)).nodup_iff.mpr hselected
    exact hsorted.sublist (List.filter_sublist.map _)

/-! ## Agreement -/

/-- A document with a title and all its fields. -/
def Projectable (state : ServingState) (d : VectorDocument) : Bool :=
  (documentTitle state d.documentId).isSome && (projectionHmacFields d).isSome

theorem projectedRow_isSome {d : VectorDocument} :
    (projectedRow platform settings state generation d).isSome = Projectable state d := by
  unfold projectedRow Projectable
  cases documentTitle state d.documentId <;> cases projectionHmacFields d <;> rfl

theorem refresh_some {now : Nat} {tables tables' : LexicalTables}
    (h : refreshRagLexicalProjections platform settings state generation now tables = some tables') :
    tables.corpusGeneration = some generation ∧ tables'.corpusGeneration = some generation ∧
      tables'.rows = refreshedRows platform settings state generation now tables.rows := by
  unfold refreshRagLexicalProjections at h
  split at h
  · cases h
  · next hg =>
    simp only at h
    split_ifs at h
    obtain rfl := Option.some.inj h
    exact ⟨not_not.mp hg,not_not.mp hg,rfl⟩

/-- What is found under an id after a refresh. -/
theorem find?_refresh {now : Nat} {tables tables' : LexicalTables}
    (h : refreshRagLexicalProjections platform settings state generation now tables = some tables') (k : Text) :
    (tables'.rows.find? (·.servingDocumentId = k)).map projected =
      ((documents settings.signing state).find? (·.documentId = k)).bind
        (projectedRow platform settings state generation) := by
  rw [(refresh_some h).2.2]
  exact find?_refreshedRows k

/-- After a refresh every row is current. -/
theorem mem_current_refresh {now : Nat} {tables tables' : LexicalTables}
    (h : refreshRagLexicalProjections platform settings state generation now tables = some tables') {row : LexicalRow} :
    row ∈ currentRagLexicalProjections platform settings state tables' ↔ row ∈ tables'.rows := by
  rw [mem_current (refresh_some h).2.1]
  constructor
  · exact fun hrow => hrow.1
  · intro hrow
    refine ⟨hrow,?_⟩
    rw [← find?_refresh h,find?_of_nodup tables'.documentIds hrow]
    rfl

/-- The rows read after a refresh are one for each document that can be projected. -/
theorem current_perm {now : Nat} {tables tables' : LexicalTables}
    (h : refreshRagLexicalProjections platform settings state generation now tables = some tables') :
    ((currentRagLexicalProjections platform settings state tables').map (·.servingDocumentId)).Perm
      (((documents settings.signing state).filter (Projectable state)).map (·.documentId)) := by
  have hdocs : ((documents settings.signing state).map (·.documentId)).Nodup := documents_nodup
  rw [List.perm_ext_iff_of_nodup (current_nodup tables') (hdocs.sublist (List.filter_sublist.map _))]
  intro k
  have hfind := find?_refresh h k
  constructor
  · intro hk
    obtain ⟨row,hrow,rfl⟩ := List.mem_map.mp hk
    rw [find?_of_nodup tables'.documentIds ((mem_current_refresh h).mp hrow)] at hfind
    obtain ⟨d,hd,hproj⟩ := Option.bind_eq_some_iff.mp hfind.symm
    obtain ⟨hmem,hid⟩ := find?_spec hd
    refine List.mem_map.mpr ⟨d,List.mem_filter.mpr ⟨hmem,?_⟩,by simpa using hid⟩
    rw [← projectedRow_isSome,hproj]
    rfl
  · intro hk
    obtain ⟨d,hd,rfl⟩ := List.mem_map.mp hk
    obtain ⟨hmem,hproj⟩ := List.mem_filter.mp hd
    rw [← projectedRow_isSome] at hproj
    obtain ⟨projection,hprojection⟩ := Option.isSome_iff_exists.mp hproj
    rw [find?_of_nodup hdocs hmem,Option.bind_some,hprojection] at hfind
    obtain ⟨row,hrow,_⟩ := Option.map_eq_some_iff.mp hfind
    obtain ⟨hrow,hid⟩ := find?_spec hrow
    exact List.mem_map.mpr ⟨row,(mem_current_refresh h).mpr hrow,by simpa using hid⟩

end reading

/-! ## Changes -/

section changes

variable {signing : Signing}

theorem documents_mem {state : ServingState} {d : VectorDocument} (h : d ∈ documents signing state) :
    ∃ key, documentOf signing state key = some d := by
  obtain ⟨key,_,hkey⟩ := List.mem_filterMap.mp h
  exact ⟨key,hkey⟩

/-- The hmac of the content that a built document carries is that of its text. -/
theorem vectorDocument_content {sourcePk : Option Nat} {key : DocumentKey} {r : Resolved} {d : VectorDocument}
    {fields : ProjectionFields} (h : vectorDocument signing sourcePk key r = some d)
    (hfields : projectionHmacFields d = some fields) :
    modelContentHmac signing key.servingKind d.text = some fields.modelContentHmac := by
  unfold vectorDocument at h
  obtain ⟨contentHmac,hcontent,h⟩ := Option.bind_eq_some_iff.mp h
  obtain ⟨citationHmac,_,h⟩ := Option.bind_eq_some_iff.mp h
  obtain ⟨versionFingerprint,_,h⟩ := Option.bind_eq_some_iff.mp h
  obtain ⟨identityHmac,_,h⟩ := Option.bind_eq_some_iff.mp h
  obtain rfl := Option.some.inj h
  unfold projectionHmacFields at hfields
  obtain ⟨_,_,hfields⟩ := Option.bind_eq_some_iff.mp hfields
  obtain ⟨_,_,hfields⟩ := Option.bind_eq_some_iff.mp hfields
  obtain ⟨_,_,hfields⟩ := Option.bind_eq_some_iff.mp hfields
  obtain ⟨_,_,hfields⟩ := Option.bind_eq_some_iff.mp hfields
  obtain ⟨hmac,hhmac,hfields⟩ := Option.bind_eq_some_iff.mp hfields
  obtain ⟨_,_,hfields⟩ := Option.bind_eq_some_iff.mp hfields
  obtain rfl := Option.some.inj hfields
  have hne : text "canonical_citation_projection_hmac" ≠ text "model_content_hmac" := by decide
  have hne' : text "index_policy_version" ≠ text "model_content_hmac" := by decide
  simp only [metadataText,List.cons_append,List.find?_cons,hne,hne',decide_false,decide_true] at hhmac
  split_ifs at hhmac
  rw [← Option.some.inj hhmac]
  exact hcontent

theorem documentOf_content {state : ServingState} {key : DocumentKey} {d : VectorDocument} {fields : ProjectionFields}
    (h : documentOf signing state key = some d) (hfields : projectionHmacFields d = some fields) :
    modelContentHmac signing key.servingKind d.text = some fields.modelContentHmac := by
  cases key with
  | chunk id =>
    obtain ⟨r,_,h⟩ := Option.bind_eq_some_iff.mp h
    obtain ⟨chunk,_,h⟩ := Option.bind_eq_some_iff.mp h
    obtain ⟨source,_,h⟩ := Option.bind_eq_some_iff.mp h
    exact vectorDocument_content h hfields
  | knowledge t id =>
    obtain ⟨r,_,h⟩ := Option.bind_eq_some_iff.mp h
    exact vectorDocument_content h hfields

/-- The bytes that are signed for a content. -/
def contentBytes (signing : Signing) (kind : ServingKind) (content : Text) : Option ByteArray := do
  let bytes ← exactUtf8Bytes content
  (keyedPayload signing.nfc signing.limits (text "rag-model-content:v1") (text "rag-serving-evidence:v1")
    (.dict [(text "serving_kind",.str (kindText kind)),(text "model_content_bytes",bytes)])).toOption

/-- No signature stands for two of these contents. -/
def NoForgery (signing : Signing) (contents : List Text) : Prop :=
  Set.InjOn (signing.hexdigest signing.secret)
    {bytes | ∃ kind, ∃ content ∈ contents, contentBytes signing kind content = some bytes}

theorem modelContentHmac_eq {kind : ServingKind} {content hmac : Text}
    (h : modelContentHmac signing kind content = some hmac) :
    ∃ bytes, contentBytes signing kind content = some bytes ∧ hmac = signing.hexdigest signing.secret bytes := by
  unfold modelContentHmac at h
  obtain ⟨j,hj,h⟩ := Option.bind_eq_some_iff.mp h
  obtain ⟨bytes,hbytes,hhmac⟩ := keyedFingerprint_ok (ok_of_toOption h)
  refine ⟨bytes,?_,hhmac⟩
  simp [contentBytes,hj,hbytes,Except.toOption]

theorem contentBytes_inj (ascii : KeepsAscii signing) {kind kind' : ServingKind} {content content' : Text}
    {bytes : ByteArray} (h : contentBytes signing kind content = some bytes)
    (h' : contentBytes signing kind' content' = some bytes) : content = content' := by
  obtain ⟨j,hj,h⟩ := Option.bind_eq_some_iff.mp h
  obtain ⟨j',hj',h'⟩ := Option.bind_eq_some_iff.mp h'
  have hkeyed := ok_of_toOption h
  have hkeys := keyedPayload_every hkeyed
  have hsame := (keyedPayload_inj hkeyed (ok_of_toOption h')).2.2
  have hnodup := hkeys _ (.refl _)
  simp only [Json.mapText,Json.mapEntries] at hsame hnodup
  have hvalues := hsame.values hnodup rfl
  simp only [List.map_cons,List.forall₂_cons] at hvalues
  refine content_of_same ascii hj hj' ?_ hvalues.2.1
  intro w hw
  refine hkeys w (.entry (e := (signing.nfc (text "model_content_bytes"),j.mapText signing.nfc)) ?_ hw)
  simp [Json.mapEntries]

/-- Documents of one id that carry the same fields have the same text. -/
theorem text_of_fields (ascii : KeepsAscii signing) {state state' : ServingState} {d d' : VectorDocument}
    {fields : ProjectionFields} (hd : d ∈ documents signing state) (hd' : d' ∈ documents signing state')
    (forgery : NoForgery signing [d.text,d'.text])
    (hfields : projectionHmacFields d = some fields) (hfields' : projectionHmacFields d' = some fields) :
    d.text = d'.text := by
  obtain ⟨key,hkey⟩ := documents_mem hd
  obtain ⟨key',hkey'⟩ := documents_mem hd'
  obtain ⟨bytes,hbytes,hhmac⟩ := modelContentHmac_eq (documentOf_content hkey hfields)
  obtain ⟨bytes',hbytes',hhmac'⟩ := modelContentHmac_eq (documentOf_content hkey' hfields')
  have hmem : ∃ kind, ∃ content ∈ [d.text,d'.text], contentBytes signing kind content = some bytes :=
    ⟨_,_,by simp,hbytes⟩
  have hmem' : ∃ kind, ∃ content ∈ [d.text,d'.text], contentBytes signing kind content = some bytes' :=
    ⟨_,_,by simp,hbytes'⟩
  obtain rfl := forgery hmem hmem' (hhmac.symm.trans hhmac')
  exact contentBytes_inj ascii hbytes hbytes'

end changes

section agreement

variable {platform : Platform} {settings : Settings} {state : ServingState} {generation : Nat}

/-- Something that the reader compares is not the same. -/
def Differs (platform : Platform) (state state' : ServingState) (d d' : VectorDocument) : Prop :=
  (documentTitle state d.documentId).map platform.lower ≠ (documentTitle state' d'.documentId).map platform.lower ∨
    d.text ≠ d'.text ∨ d.permissionLevel ≠ d'.permissionLevel ∨ projectionHmacFields d ≠ projectionHmacFields d'

theorem projectedRow_eq {d : VectorDocument} {row : LexicalRow} :
    projectedRow platform settings state generation d = some row ↔ ∃ title fields,
      documentTitle state d.documentId = some title ∧ projectionHmacFields d = some fields ∧
        writtenRow platform settings generation d title fields 0 0 = row := by
  unfold projectedRow
  cases documentTitle state d.documentId with
  | none => simp
  | some title =>
    cases projectionHmacFields d with
    | none => simp
    | some fields => simp

/-- One row that is right for two documents makes them agree in all that is compared. -/
theorem not_differs_of_row (ascii : KeepsAscii settings.signing) {state' : ServingState} {generation' : Nat}
    {d d' : VectorDocument} {row : LexicalRow} (hd : d ∈ documents settings.signing state)
    (hd' : d' ∈ documents settings.signing state') (forgery : NoForgery settings.signing [d.text,d'.text])
    (h : projectedRow platform settings state generation d = some row)
    (h' : projectedRow platform settings state' generation' d' = some row) : ¬Differs platform state state' d d' := by
  obtain ⟨title,fields,htitle,hfields,hrow⟩ := projectedRow_eq.mp h
  obtain ⟨title',fields',htitle',hfields',hrow'⟩ := projectedRow_eq.mp h'
  have hsame := hrow.trans hrow'.symm
  simp only [writtenRow,LexicalRow.mk.injEq] at hsame
  obtain ⟨-,-,h1,h2,hpermission,h3,h4,h5,h6,hlower,-⟩ := hsame
  obtain rfl : fields = fields' := by
    cases fields
    cases fields'
    simp_all
  have htext := text_of_fields ascii hd hd' forgery hfields hfields'
  rintro (hne | hne | hne | hne)
  · apply hne
    rw [htitle,htitle']
    exact congrArg some hlower
  · exact hne htext
  · exact hne hpermission
  · exact hne (hfields.trans hfields'.symm)

/-- A row that a refresh has left is not read once its document differs. -/
theorem stale_not_current (ascii : KeepsAscii settings.signing) {now : Nat} {tables tables' later : LexicalTables}
    (h : refreshRagLexicalProjections platform settings state generation now tables = some tables')
    (hrows : later.rows = tables'.rows) {state' : ServingState} {d : VectorDocument}
    (hd : d ∈ documents settings.signing state)
    (hchanged : ∀ d' ∈ documents settings.signing state', d'.documentId = d.documentId →
      NoForgery settings.signing [d.text,d'.text] ∧ Differs platform state state' d d') :
    d.documentId ∉ (currentRagLexicalProjections platform settings state' later).map (·.servingDocumentId) := by
  intro hid
  obtain ⟨row,hrow,hid⟩ := List.mem_map.mp hid
  cases hg : later.corpusGeneration with
  | none => simp [currentRagLexicalProjections,hg] at hrow
  | some generation' =>
    obtain ⟨hmem,hnew⟩ := (mem_current hg).mp hrow
    rw [hrows] at hmem
    have hold := find?_refresh h row.servingDocumentId
    have hdocs : ((documents settings.signing state).map (·.documentId)).Nodup := documents_nodup
    rw [find?_of_nodup tables'.documentIds hmem,hid,find?_of_nodup hdocs hd] at hold
    obtain ⟨d',hd',hnew⟩ := Option.bind_eq_some_iff.mp hnew
    obtain ⟨hd',hid'⟩ := find?_spec hd'
    obtain ⟨forgery,hdiffers⟩ := hchanged d' hd' ((of_decide_eq_true hid').trans hid)
    exact not_differs_of_row ascii hd hd' forgery hold.symm hnew hdiffers

/-- What a refresh leaves is what is read: a row for each document that can be projected, the same after another
refresh, and none for a document that has changed since. -/
theorem refresh_and_read_agree (platform : Platform) (settings : Settings) (ascii : KeepsAscii settings.signing)
    (state : ServingState) (generation now : Nat) (tables tables' : LexicalTables)
    (h : refreshRagLexicalProjections platform settings state generation now tables = some tables') :
    ((currentRagLexicalProjections platform settings state tables').map (·.servingDocumentId)).Perm
        (((documents settings.signing state).filter (Projectable state)).map (·.documentId)) ∧
      (∀ row ∈ currentRagLexicalProjections platform settings state tables', row.corpusGeneration = generation) ∧
      (∀ now' tables'', refreshRagLexicalProjections platform settings state generation now' tables' = some tables'' →
        ∀ k, (tables''.rows.find? (·.servingDocumentId = k)).map projected =
          (tables'.rows.find? (·.servingDocumentId = k)).map projected) ∧
      ∀ (state' : ServingState) (later : LexicalTables), later.rows = tables'.rows →
        ∀ d ∈ documents settings.signing state,
          (∀ d' ∈ documents settings.signing state', d'.documentId = d.documentId →
            NoForgery settings.signing [d.text,d'.text] ∧ Differs platform state state' d d') →
          d.documentId ∉ (currentRagLexicalProjections platform settings state' later).map (·.servingDocumentId) := by
  refine ⟨current_perm h,?_,?_,?_⟩
  · intro row hrow
    obtain ⟨hmem,hproj⟩ := (mem_current (refresh_some h).2.1).mp hrow
    obtain ⟨d,_,hd⟩ := Option.bind_eq_some_iff.mp hproj
    obtain ⟨_,_,_,_,hwritten⟩ := projectedRow_eq.mp hd
    exact (congrArg LexicalRow.corpusGeneration hwritten).symm
  · intro now' tables'' h' k
    rw [find?_refresh h,find?_refresh h']
  · exact fun state' later hrows d hd hchanged => stale_not_current ascii h hrows hd hchanged

end agreement

/-! ## A sample -/

/-- One chunk of a source under a title. -/
def planState (title : Text) : ServingState where
  chunks := [⟨1,1⟩]
  sources := [⟨1,title⟩]
  knowledge _ := []
  resolveChunk id := if id = 1 then
    some ⟨text "C1",some (text "slack"),text "Friday",text "public",text "u",text "Friday",text "source",
      fun _ _ => .dict []⟩ else none
  resolveTrusted _ _ := none
  chunkIds := List.nodup_singleton 1
  sourceIds := List.nodup_singleton 1
  knowledgeIds _ := List.nodup_nil

def asciiPlatform : Platform where
  lower t := t.map fun c => if 65 ≤ c.val ∧ c.val ≤ 90 then c+32 else c
  accepts _ _ := true
  collate a b := decide (a.map (·.val) ≤ b.map (·.val))

def planSettings : Settings := ⟨roomyModel.signing,text "k1",zeros⟩

/-- The table before its first refresh. -/
def planTables : LexicalTables := ⟨some 1,[],List.nodup_nil⟩

def planRefresh : Option LexicalTables :=
  refreshRagLexicalProjections asciiPlatform planSettings (planState (text "Plan")) 1 0 planTables

/-- The chunk is read under each title. -/
def planIsRead (tables : LexicalTables) (title : Text) : Bool :=
  text "chunk:1" ∈ (currentRagLexicalProjections asciiPlatform planSettings (planState title) tables).map
    (·.servingDocumentId)

set_option maxRecDepth 50000 in
theorem planRefresh_read : ∃ tables', planRefresh = some tables' ∧ planIsRead tables' (text "Plan") = true ∧
    planIsRead tables' (text "plan") = true := by
  have hrun : (planRefresh.any fun tables => planIsRead tables (text "Plan") && planIsRead tables (text "plan")) = true := by
    decide +kernel
  obtain ⟨tables',hrefresh,hread⟩ := (Option.any_eq_true _ _).mp hrun
  rw [Bool.and_eq_true] at hread
  exact ⟨tables',hrefresh,hread.1,hread.2⟩

/-- A title that changes in case only leaves the row of the old title current. -/
theorem case_of_title_unseen : ∃ tables', planRefresh = some tables' ∧ planIsRead tables' (text "Plan") = true ∧
    planIsRead tables' (text "plan") = true ∧
    documentTitle (planState (text "Plan")) (text "chunk:1") ≠ documentTitle (planState (text "plan")) (text "chunk:1") := by
  obtain ⟨tables',hrefresh,hold,hnew⟩ := planRefresh_read
  exact ⟨tables',hrefresh,hold,hnew,by decide⟩

theorem refresh_and_read_agree_sample : ∃ tables', planRefresh = some tables' ∧
    (currentRagLexicalProjections asciiPlatform planSettings (planState (text "Plan")) tables').length = 1 := by
  obtain ⟨tables',hrefresh,-⟩ := planRefresh_read
  have hperm := (refresh_and_read_agree asciiPlatform planSettings (fun _ _ => rfl) (planState (text "Plan")) 1 0
    planTables tables' hrefresh).1
  have hone : ((documents planSettings.signing (planState (text "Plan"))).filter
      (Projectable (planState (text "Plan")))).length = 1 := by decide +kernel
  refine ⟨tables',hrefresh,?_⟩
  simpa [hone] using hperm.length_eq

end ParaWorks.Lexical
