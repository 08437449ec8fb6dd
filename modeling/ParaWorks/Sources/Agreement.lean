import ParaWorks.Sources.Authority

/-!
# The two source authorities

The SQL predicate and the Python function agree unless a null column or a missing key decides.
-/

namespace ParaWorks.Sources

open Lib

/-! ## Chunk indices -/

section indices

variable {xs : List Int} {n : Nat}

theorem nodup_range (n : Nat) : ((List.range n).map Int.ofNat).Nodup :=
  List.nodup_range.map fun a b h => by simpa using h

theorem mem_range_iff {i : Int} : i ∈ (List.range n).map Int.ofNat ↔ 0 ≤ i ∧ i < n := by
  rw [List.mem_map]
  constructor
  · rintro ⟨k,hk,rfl⟩
    have hlt := List.mem_range.mp hk
    simp only [Int.ofNat_eq_natCast]
    omega
  · rintro ⟨hle,hlt⟩
    refine ⟨i.toNat,List.mem_range.mpr (by omega),?_⟩
    simp only [Int.ofNat_eq_natCast]
    omega

/-- Counting the distinct indices in the range tests for exactly the indices of the range. -/
theorem count_distinct_iff (hlength : xs.length = n) :
    (xs.filter fun i => 0 ≤ i && i < (n : Int)).dedup.length = n ↔ xs.Perm ((List.range n).map Int.ofNat) := by
  constructor
  · intro hcount
    have hnodup := List.nodup_dedup (xs.filter fun i => 0 ≤ i && i < (n : Int))
    have hmem : ∀ i ∈ (xs.filter fun i => 0 ≤ i && i < (n : Int)).dedup, i ∈ xs ∧ 0 ≤ i ∧ i < n := by
      intro i hi
      simpa using hi
    have hxs : ((xs.filter fun i => 0 ≤ i && i < (n : Int)).dedup).Perm xs :=
      (List.subperm_of_subset hnodup fun i hi => (hmem i hi).1).perm_of_length_le (by omega)
    have hrange : ((xs.filter fun i => 0 ≤ i && i < (n : Int)).dedup).Perm ((List.range n).map Int.ofNat) := by
      apply (List.subperm_of_subset hnodup fun i hi => mem_range_iff.mpr (hmem i hi).2).perm_of_length_le
      simp [hcount]
    exact hxs.symm.trans hrange
  · intro hperm
    have hall : xs.filter (fun i => 0 ≤ i && i < (n : Int)) = xs := by
      rw [List.filter_eq_self]
      intro i hi
      have hi' := mem_range_iff.mp (hperm.mem_iff.mp hi)
      simp [hi']
    rw [hall, (hperm.nodup_iff.mpr (nodup_range n)).dedup, hlength]

theorem orderedChunks_perm (chunks : List DocumentChunk) : (orderedChunks chunks).Perm chunks :=
  List.mergeSort_perm ..

theorem orderedChunks_sorted (chunks : List DocumentChunk) :
    ((orderedChunks chunks).map (·.chunkIndex)).Pairwise (· ≤ ·) := by
  rw [List.pairwise_map]
  have hsorted : (orderedChunks chunks).Pairwise fun a b =>
      a.chunkIndex < b.chunkIndex || a.chunkIndex = b.chunkIndex && a.id ≤ b.id :=
    List.pairwise_mergeSort (fun a b c hab hbc => by simp at hab hbc ⊢; omega) (fun a b => by simp; omega) chunks
  apply hsorted.imp
  intro a b hab
  simp at hab
  omega

theorem range_sorted (n : Nat) : ((List.range n).map Int.ofNat).Pairwise (· ≤ ·) := by
  rw [List.pairwise_map]
  apply List.pairwise_lt_range.imp
  intro a b hab
  simp only [Int.ofNat_eq_natCast]
  omega

/-- The ordered chunks carry the indices `0, 1, …` exactly when the chunks do in some order. -/
theorem orderedChunks_indices (chunks : List DocumentChunk) :
    (orderedChunks chunks).map (·.chunkIndex) = (List.range chunks.length).map Int.ofNat ↔
      (chunks.map (·.chunkIndex)).Perm ((List.range chunks.length).map Int.ofNat) := by
  have hperm := (orderedChunks_perm chunks).map (·.chunkIndex)
  constructor
  · intro h
    rw [← h]
    exact hperm.symm
  · intro h
    exact (hperm.trans h).eq_of_pairwise (fun a b _ _ hab hba => by omega) (orderedChunks_sorted chunks)
      (range_sorted _)

end indices

/-! ## Metadata -/

theorem render_ne_active {v : Json} (hv : ∀ t, v ≠ .str t) : v.render ≠ text "active" := by
  intro h
  have hkind := Json.kindOf_render v []
  rw [List.append_nil, h] at hkind
  cases v with
  | int n =>
    -- an integer starts with a sign or a digit
    rw [Json.render, Json.renderInt] at h
    split at h
    · exact absurd (List.head_eq_of_cons_eq h) (by decide)
    · obtain ⟨c,t,hc,hdigit⟩ := Json.digits_eq_cons n
      rw [hc] at h
      obtain rfl : c = ofChar 'a' := List.head_eq_of_cons_eq h
      exact absurd hdigit (by decide)
  | str t => exact hv t rfl
  | null => exact absurd hkind (by decide)
  | bool b => exact absurd hkind (by simp [Json.kind, show Json.kindOf (text "active") = 3 by decide])
  | list items => exact absurd hkind (by simp [Json.kind, show Json.kindOf (text "active") = 3 by decide])
  | dict entries => exact absurd hkind (by simp [Json.kind, show Json.kindOf (text "active") = 3 by decide])

theorem slackActive_iff (source : Source) :
    slackActive source = true ↔ source.rawMetadata.text (Lib.text "slack_state") = some (Lib.text "active") := by
  unfold slackActive Metadata.text
  cases source.rawMetadata.get (Lib.text "slack_state") with
  | none => simp
  | some v =>
    cases v with
    | str t => simp
    | null => simp
    | bool b => simpa using render_ne_active (v := .bool b) (by simp)
    | int n => simpa using render_ne_active (v := .int n) (by simp)
    | list items => simpa using render_ne_active (v := .list items) (by simp)
    | dict entries => simpa using render_ne_active (v := .dict entries) (by simp)

section mime

variable {letters : CaseMap} {source : Source}

/-- `mime_type` is absent or a normalised string. -/
def NormalisedMime (letters : CaseMap) (source : Source) : Prop :=
  source.rawMetadata.get (text "mime_type") = none ∨
    ∃ t, source.rawMetadata.get (text "mime_type") = some (.str t) ∧ strip t = t ∧ letters.lower t = t

theorem dropWhile_eq_self_of_length {p : CodePoint → Bool} {t : Text} (h : t.length ≤ (t.dropWhile p).length) :
    t.dropWhile p = t :=
  (List.dropWhile_suffix p).eq_of_length_le h

/-- A text without outer white space has no outer blanks. -/
theorem trim_of_strip {t : Text} (h : strip t = t) : trim t = t := by
  have hfront : t.dropWhile isSpace = t := by
    apply dropWhile_eq_self_of_length
    have hlength := congrArg List.length h
    rw [strip, List.length_reverse] at hlength
    have hle := (List.dropWhile_suffix isSpace (l := (t.dropWhile isSpace).reverse)).length_le
    rw [List.length_reverse] at hle
    omega
  have hback : t.reverse.dropWhile isSpace = t.reverse := by
    have hreverse := congrArg List.reverse h
    rw [strip, hfront, List.reverse_reverse] at hreverse
    exact hreverse
  have hblank : ∀ u : Text, u.dropWhile isSpace = u → u.dropWhile (· = 32) = u := by
    intro u hu
    cases u with
    | nil => rfl
    | cons c u =>
      have hc : isSpace c = false := by
        by_contra hspace
        rw [Bool.not_eq_false] at hspace
        rw [List.dropWhile_cons_of_pos hspace] at hu
        have hle := (List.dropWhile_suffix isSpace (l := u)).length_le
        have hlength := congrArg List.length hu
        rw [List.length_cons] at hlength
        omega
      rw [List.dropWhile_cons_of_neg]
      intro hblank
      rw [decide_eq_true_eq] at hblank
      rw [hblank] at hc
      exact absurd hc (by decide)
  rw [trim, hblank t hfront, hblank _ hback, List.reverse_reverse]

/-- Both sides expect the same mime type. -/
theorem expectedMime_eq (h : NormalisedMime letters source) : ∃ mime,
    expectedMime letters source = some mime ∧
      normalizedMimeType letters source.sourceType (source.rawMetadata.get (text "mime_type")) = some mime := by
  unfold normalizedMimeType expectedMime Metadata.text
  split
  · exact ⟨_,rfl,rfl⟩
  split
  · exact ⟨_,rfl,rfl⟩
  rcases h with hnone | ⟨t,hsome,hstrip,hlower⟩
  · rw [hnone]
    refine ⟨octetStream,?_,rfl⟩
    have hempty : letters.lower (trim []) = [] := letters.lower_nil
    simp only [Option.getD_none, hempty]
    rw [if_neg (by decide)]
  · rw [hsome]
    simp only [hstrip, hlower, trim_of_strip hstrip, Option.getD_some, Option.map_some]
    refine ⟨_,?_,rfl⟩
    split <;> rfl

/-- A normalised mime type passes the type check of the metadata. -/
theorem mimeType_checked (dialect : Dialect) (h : NormalisedMime letters source) :
    Truth.or (.or (.not (.isIn (some source.sourceType) [text "gmail_attachment",text "drive"]))
      (.isNull (source.rawMetadata.typeof dialect (text "mime_type"))))
      (.isIn (source.rawMetadata.typeof dialect (text "mime_type")) ["null",stringJsonType dialect]) = .holds := by
  unfold Metadata.typeof
  rcases h with hnone | ⟨t,hsome,-,-⟩
  · simp [hnone]
  · rw [hsome]
    cases dialect <;> simp [stringJsonType]

end mime

/-! ## What both authorities ask for -/

/-- What is asked of the parser run. -/
structure RunExact (letters : CaseMap) (source : Source) (run : DocumentParserRun) : Prop where
  schema : run.serverContentSignatureSchema = some serverSourceContentSignatureSchema
  signature : run.serverContentSignature = source.serverContentSignature
  content : some run.contentSignature = source.serverContentSignature
  policy : run.parserPolicyVersion = some serverParserPolicyVersion
  name : run.parserName = text "server_"++source.sourceType++text "_source_event"
  status : run.parserStatus = text "parsed"
  reason : run.parserStatusReason = none
  version : run.parserVersion = some serverParserVersion
  chunkPolicy : run.chunkPolicyVersion = some serverChunkPolicyVersion
  mime : some run.mimeType = expectedMime letters source

/-- What is asked of the rows of the source, a null parser run of a chunk aside. -/
structure BundleExact (letters : CaseMap) (db : SourceTables) (source : Source) (ref : Text) (document : Document)
    (version : DocumentVersion) (run : DocumentParserRun) : Prop where
  documents : db.documentsOf source = [document]
  current : document.currentDocumentVersionId = some version.id
  mem : version ∈ db.versions
  owner : version.documentId = document.id
  runs : db.runsOf source document version = [run]
  matched : RunExact letters source run
  label : run.documentVersionLabel = version.version
  nonempty : db.chunksOf version ≠ []
  count : run.chunkCount = (db.chunksOf version).length
  indices : ((db.chunksOf version).map (·.chunkIndex)).Perm
    ((List.range (db.chunksOf version).length).map Int.ofNat)
  owned : ∀ c ∈ db.chunksOf version, c.sourceId = source.id ∧ (c.parserRunId = none ∨ c.parserRunId = some run.id)
  reference : source.serverContentSignature = some ref ∨ run.revisionId = some ref ∧ ref ≠ []

/-- What is asked of the source and its rows, nulls aside. -/
structure OtherwiseExact (letters : CaseMap) (db : SourceTables) (source : Source) (ref : Text) : Prop where
  supported : source.sourceType ∈ sourceTypes
  signed : source.serverContentSignature ≠ none
  schema : source.serverContentSignatureSchema = none ∨
    source.serverContentSignatureSchema = some serverSourceContentSignatureSchema
  slack : source.sourceType = text "slack" → source.rawMetadata.text (text "slack_state") = none ∨
    source.rawMetadata.text (text "slack_state") = some (text "active")
  bundle : ∃ document version run, BundleExact letters db source ref document version run

/-- The schema of the source is set, and its Slack state if it is a Slack source. -/
def SourceSet (source : Source) : Prop :=
  source.serverContentSignatureSchema ≠ none ∧
    (source.sourceType = text "slack" → source.rawMetadata.text (text "slack_state") ≠ none)

/-- Every chunk of the current version of the source names its parser run. -/
def ChunksSet (db : SourceTables) (source : Source) : Prop :=
  ∀ document ∈ db.documentsOf source, ∀ version ∈ db.versions,
    document.currentDocumentVersionId = some version.id → ∀ c ∈ db.chunksOf version, c.parserRunId ≠ none

section agreement

variable {letters : CaseMap} {db : SourceTables} {source : Source} {ref : Text}

theorem serverParserRunMatchesAuthority_iff (hmime : NormalisedMime letters source) {run : DocumentParserRun} :
    serverParserRunMatchesAuthority letters source run = true ↔
      source.serverContentSignatureSchema = some serverSourceContentSignatureSchema ∧
        source.serverContentSignature ≠ none ∧ source.sourceType ∈ sourceTypes ∧ RunExact letters source run := by
  obtain ⟨mime,hsql,hpython⟩ := expectedMime_eq hmime
  unfold serverParserRunMatchesAuthority serverParserPolicyForSource
  by_cases hset : source.serverContentSignatureSchema ≠ some serverSourceContentSignatureSchema ∨
      source.serverContentSignature = none
  · rw [if_pos hset]
    constructor
    · exact fun h => absurd h Bool.false_ne_true
    · rintro ⟨hschema,hsigned,-⟩
      rcases hset with hset | hset
      · exact absurd hschema hset
      · exact absurd hset hsigned
  rw [if_neg hset]
  simp only [not_or, not_not] at hset
  by_cases htype : source.sourceType ∈ sourceTypes
  · rw [if_neg (not_not.mpr htype), hpython]
    simp only [Option.map_some, Bool.and_eq_true, decide_eq_true_eq]
    constructor
    · rintro ⟨⟨⟨⟨⟨⟨⟨⟨⟨h1,h2⟩,h3⟩,h4⟩,h5⟩,h6⟩,h7⟩,h8⟩,h9⟩,h10⟩
      exact ⟨hset.1,hset.2,htype,h1,h2,h3,h4,h5,h6,h7,h8,h9,by rw [hsql, h10]⟩
    · rintro ⟨-,-,-,h1,h2,h3,h4,h5,h6,h7,h8,h9,h10⟩
      rw [hsql] at h10
      exact ⟨⟨⟨⟨⟨⟨⟨⟨⟨h1,h2⟩,h3⟩,h4⟩,h5⟩,h6⟩,h7⟩,h8⟩,h9⟩,Option.some.inj h10⟩
  · rw [if_pos htype]
    constructor
    · exact fun h => absurd h Bool.false_ne_true
    · exact fun h => absurd h.2.2.1 htype

/-- The version a document points at is the only one with its key. -/
theorem find_version_iff {document : Document} {version : DocumentVersion} {id : Nat} :
    (db.versions.find? fun v => v.id = id && v.documentId = document.id) = some version ↔
      version ∈ db.versions ∧ version.id = id ∧ version.documentId = document.id := by
  constructor
  · intro h
    have hfound := List.find?_some h
    rw [Bool.and_eq_true, decide_eq_true_eq, decide_eq_true_eq] at hfound
    exact ⟨List.mem_of_find?_eq_some h,hfound⟩
  · rintro ⟨hmem,hid,howner⟩
    cases h : db.versions.find? fun v => v.id = id && v.documentId = document.id with
    | none =>
      have hnone := List.find?_eq_none.mp h version hmem
      simp [hid, howner] at hnone
    | some v =>
      have hfound := List.find?_some h
      rw [Bool.and_eq_true, decide_eq_true_eq, decide_eq_true_eq] at hfound
      rw [List.inj_on_of_nodup_map db.versionIds (List.mem_of_find?_eq_some h) hmem (hfound.1.trans hid.symm)]

/-- The chunk checks of `resolve_exact_source_authority`. -/
def ChunksExact (source : Source) (run : DocumentParserRun) (chunks : List DocumentChunk) : Prop :=
  chunks ≠ [] ∧ run.chunkCount = chunks.length ∧
    (chunks.map (·.chunkIndex)).Perm ((List.range chunks.length).map Int.ofNat) ∧
    ∀ c ∈ chunks, c.sourceId = source.id ∧ c.parserRunId = some run.id

theorem chunks_refused_iff {run : DocumentParserRun} {chunks : List DocumentChunk} :
    (orderedChunks chunks = [] ∨ run.chunkCount ≠ (orderedChunks chunks).length ∨
      (orderedChunks chunks).map (·.chunkIndex) ≠ (List.range (orderedChunks chunks).length).map Int.ofNat ∨
      (orderedChunks chunks).any (fun c => c.sourceId ≠ source.id || c.parserRunId ≠ some run.id) = true) ↔
      ¬ChunksExact source run chunks := by
  have hperm := orderedChunks_perm chunks
  have hnil : orderedChunks chunks = [] ↔ chunks = [] := by
    rw [← List.length_eq_zero_iff, hperm.length_eq, List.length_eq_zero_iff]
  have hany : (orderedChunks chunks).any (fun c => c.sourceId ≠ source.id || c.parserRunId ≠ some run.id) = true ↔
      ¬∀ c ∈ chunks, c.sourceId = source.id ∧ c.parserRunId = some run.id := by
    rw [List.any_eq_true]
    simp only [hperm.mem_iff, Bool.or_eq_true, decide_eq_true_eq, not_forall, not_and_or, exists_prop]
  unfold ChunksExact
  rw [hnil, hperm.length_eq, hany, ne_eq ((orderedChunks chunks).map _), orderedChunks_indices]
  tauto

theorem resolveExactSourceAuthority_iff {a : ExactSourceAuthority} :
    resolveExactSourceAuthority letters db source = some a ↔
      (source.sourceType = text "slack" → slackActive source = true) ∧ currentContentSignature source ≠ none ∧
      db.documentsOf source = [a.document] ∧ a.document.currentDocumentVersionId = some a.version.id ∧
      a.version ∈ db.versions ∧ a.version.documentId = a.document.id ∧
      db.runsOf source a.document a.version = [a.parserRun] ∧
      a.parserRun.documentVersionLabel = a.version.version ∧
      serverParserRunMatchesAuthority letters source a.parserRun = true ∧
      ChunksExact source a.parserRun (db.chunksOf a.version) ∧
      a.source = source ∧ a.chunks = orderedChunks (db.chunksOf a.version) := by
  unfold resolveExactSourceAuthority
  constructor
  · intro h
    split at h
    · cases h
    next hslack =>
    split at h
    · cases h
    next hsignature =>
    split at h
    next document hdocuments =>
      split at h
      · cases h
      next versionId hcurrent =>
      split at h
      · cases h
      next version hversion =>
      obtain ⟨hmem,rfl,howner⟩ := find_version_iff.mp hversion
      split at h
      next run hruns =>
        split at h
        · cases h
        next hrun =>
        dsimp only at h
        split at h
        · cases h
        next hchunks =>
        rw [chunks_refused_iff, not_not] at hchunks
        rw [not_or, not_not, Bool.not_eq_false] at hrun
        obtain rfl := Option.some.inj h
        refine ⟨fun htype => ?_,hsignature,hdocuments,hcurrent,hmem,howner,hruns,hrun.1,hrun.2,hchunks,rfl,rfl⟩
        simpa [htype] using hslack
      · cases h
    · cases h
  · rintro ⟨hslack,hsignature,hdocuments,hcurrent,hmem,howner,hruns,hlabel,hrun,hchunks,hsource,hordered⟩
    rw [if_neg (by rintro ⟨htype,hactive⟩; simp [hslack htype] at hactive), if_neg hsignature, hdocuments]
    dsimp only
    rw [hcurrent]
    dsimp only
    rw [find_version_iff.mpr ⟨hmem,rfl,howner⟩]
    dsimp only
    rw [hruns]
    dsimp only
    rw [if_neg (by simp [hlabel, hrun]), if_neg (by rw [chunks_refused_iff]; exact not_not.mpr hchunks)]
    obtain ⟨asource,document,version,run,chunks⟩ := a
    dsimp only at hsource hordered
    rw [hsource, hordered]

/-- The signature of the source is null or 64 lower-case hex digits. -/
def SignatureShaped (source : Source) : Prop := ∀ s, source.serverContentSignature = some s → LowerHex64 s

theorem currentContentSignature_ne_none (hshape : SignatureShaped source) : currentContentSignature source ≠ none ↔
    source.serverContentSignatureSchema = some serverSourceContentSignatureSchema ∧
      source.serverContentSignature ≠ none := by
  unfold currentContentSignature
  by_cases hschema : source.serverContentSignatureSchema = some serverSourceContentSignatureSchema
  · rw [if_neg (not_not.mpr hschema)]
    cases hs : source.serverContentSignature with
    | none => simp
    | some t => simp [hschema, Option.filter, hshape t hs]
  · simp [hschema]

/-- What a resolved authority makes of a reference. -/
theorem canonicalEvidenceVersionIsCurrent_resolved {authority : ExactSourceAuthority}
    (h : resolveExactSourceAuthority letters db source = some authority) :
    canonicalEvidenceVersionIsCurrent letters db source ref = true ↔
      source.serverContentSignature = some ref ∨ authority.parserRun.revisionId = some ref ∧ ref ≠ [] := by
  simp only [canonicalEvidenceVersionIsCurrent,h]
  cases hrevision : authority.parserRun.revisionId with
  | none => simp [eq_comm]
  | some r =>
    simp only [Bool.or_eq_true, Bool.and_eq_true, decide_eq_true_eq, Option.some.injEq, ne_eq]
    constructor
    · rintro (hsig | ⟨hne,rfl⟩)
      · exact .inl hsig.symm
      · exact .inr ⟨rfl,hne⟩
    · rintro (hsig | ⟨rfl,hne⟩)
      · exact .inl hsig.symm
      · exact .inr ⟨hne,rfl⟩

theorem canonicalEvidenceVersionIsCurrent_iff (hshape : SignatureShaped source) (hmime : NormalisedMime letters source) :
    canonicalEvidenceVersionIsCurrent letters db source ref = true ↔
      OtherwiseExact letters db source ref ∧ SourceSet source ∧ ChunksSet db source := by
  constructor
  · intro h
    obtain ⟨a,ha⟩ : ∃ a, resolveExactSourceAuthority letters db source = some a := by
      apply Option.ne_none_iff_exists'.mp
      intro hnone
      simp [canonicalEvidenceVersionIsCurrent,hnone] at h
    obtain ⟨hslack,hsignature,hdocuments,hcurrent,hmem,howner,hruns,hlabel,hrun,hchunks,-,-⟩ :=
      resolveExactSourceAuthority_iff.mp ha
    obtain ⟨hschema,hsigned,hsupported,hexact⟩ := (serverParserRunMatchesAuthority_iff hmime).mp hrun
    obtain ⟨hnonempty,hcount,hindices,howned⟩ := hchunks
    have hactive : source.sourceType = text "slack" →
        source.rawMetadata.text (text "slack_state") = some (text "active") :=
      fun htype => (slackActive_iff source).mp (hslack htype)
    refine ⟨⟨hsupported,hsigned,.inr hschema,fun htype => .inr (hactive htype),a.document,a.version,a.parserRun,
      hdocuments,hcurrent,hmem,howner,hruns,hexact,hlabel,hnonempty,hcount,hindices,
      fun c hc => ⟨(howned c hc).1,.inr (howned c hc).2⟩,(canonicalEvidenceVersionIsCurrent_resolved ha).mp h⟩,
      ⟨by simp [hschema],fun htype => ?_⟩,?_⟩
    · simp [hactive htype]
    · intro document hdocument version hversion hpoints c hc
      rw [hdocuments, List.mem_singleton] at hdocument
      subst hdocument
      have hid := Option.some.inj (hcurrent.symm.trans hpoints)
      obtain rfl := List.inj_on_of_nodup_map db.versionIds hmem hversion hid
      simp [(howned c hc).2]
  · rintro ⟨⟨hsupported,hsigned,hschema,hslack,document,version,run,hbundle⟩,⟨hset,hstate⟩,hchunks⟩
    have hschema' := hschema.resolve_left hset
    have hresolved : resolveExactSourceAuthority letters db source =
        some ⟨source,document,version,run,orderedChunks (db.chunksOf version)⟩ := by
      refine resolveExactSourceAuthority_iff.mpr ⟨fun htype => ?_,?_,hbundle.documents,hbundle.current,hbundle.mem,
        hbundle.owner,hbundle.runs,hbundle.label,?_,⟨hbundle.nonempty,hbundle.count,hbundle.indices,fun c hc => ?_⟩,rfl,rfl⟩
      · exact (slackActive_iff source).mpr ((hslack htype).resolve_left (hstate htype))
      · exact (currentContentSignature_ne_none hshape).mpr ⟨hschema',hsigned⟩
      · exact (serverParserRunMatchesAuthority_iff hmime).mpr ⟨hschema',hsigned,hsupported,hbundle.matched⟩
      · have hnamed := hchunks document (by simp [hbundle.documents]) version hbundle.mem hbundle.current c hc
        exact ⟨(hbundle.owned c hc).1,(hbundle.owned c hc).2.resolve_left hnamed⟩
    exact (canonicalEvidenceVersionIsCurrent_resolved hresolved).mpr hbundle.reference

theorem singleton_of_count {α : Type} {rows : List α} {p : α → Bool} {row : α} (hmem : row ∈ rows) (hp : p row = true)
    (hcount : (rows.filter p).length = 1) : rows.filter p = [row] := by
  obtain ⟨other,hother⟩ := List.length_eq_one_iff.mp hcount
  have hrow : row ∈ rows.filter p := List.mem_filter.mpr ⟨hmem,hp⟩
  rw [hother, List.mem_singleton] at hrow
  rw [hother, hrow]

/-- A chunk the predicate does not call bad. -/
theorem good_chunk_iff {run : DocumentParserRun} {c : DocumentChunk} :
    ¬Truth.or (.ne (some c.sourceId) (some source.id)) (.ne c.parserRunId (some run.id)) = .holds ↔
      c.sourceId = source.id ∧ (c.parserRunId = none ∨ c.parserRunId = some run.id) := by
  rw [Truth.or_eq_holds, not_or, Truth.ne, Truth.ne, Truth.not_eq_holds, Truth.not_eq_holds]
  cases c.parserRunId <;> simp [Truth.eq]

theorem revision_iff {run : DocumentParserRun} :
    Truth.or (.eq (some ref) source.serverContentSignature)
      (.and (.isNotNull run.revisionId) (.and (.ne run.revisionId (some [])) (.and (.eq (some ref) run.revisionId)
        .holds))) = .holds ↔
      source.serverContentSignature = some ref ∨ run.revisionId = some ref ∧ ref ≠ [] := by
  rw [Truth.or_eq_holds, Truth.and_eq_holds, Truth.and_eq_holds, Truth.and_eq_holds, Truth.eq_some_left,
    Truth.eq_some_left, Truth.ne, Truth.not_eq_holds, Truth.eq_eq_fails, Truth.isNotNull_eq_holds]
  constructor
  · rintro (hsig | ⟨-,⟨r,e,hr,he,hne⟩,href,-⟩)
    · exact .inl hsig
    · rw [hr, Option.some.injEq] at href
      rw [Option.some.injEq] at he
      subst href he
      exact .inr ⟨hr,hne⟩
  · rintro (hsig | ⟨hr,hne⟩)
    · exact .inl hsig
    · exact .inr ⟨by simp [hr],⟨ref,[],hr,rfl,hne⟩,hr,rfl⟩

theorem exactBundleSql_iff (hsigned : source.serverContentSignature ≠ none) :
    (db.documentsOf source).length = 1 ∧ exactBundleSql letters db source (some ref) none = .holds ↔
      ∃ document version run, BundleExact letters db source ref document version run := by
  unfold exactBundleSql
  simp only [Truth.exist_eq_holds, List.append_nil, Truth.all_append, Truth.all_cons, Truth.all_nil, Truth.and_eq_holds,
    Truth.eq_some_left, Truth.eq_some_right, Truth.not_eq_holds, Truth.exist_eq_fails, good_chunk_iff,
    Truth.isNull_eq_holds, Truth.ofBool_eq_holds, decide_eq_true_eq, Option.some.injEq, revision_iff, and_true]
  constructor
  · rintro ⟨hone,document,hdocument,version,hversion,run,hrun,⟨hcurrent,howner,hrunDocument,hrunVersion,hrunSource,
      hsource,hruns,hschema,hsignature,hcontent,hpolicy,hname,hstatus,hreason,hparser,hchunkPolicy,hmime,hlabel,
      hpositive,hcount,howned,hdistinct⟩,hreference⟩
    obtain ⟨s,hrunSignature,hs⟩ := Truth.eq_eq_holds.mp hsignature
    refine ⟨document,version,run,?_,hcurrent,hversion,howner,?_,⟨hschema,?_,hcontent.symm,hpolicy,hname,hstatus,
      hreason,hparser,hchunkPolicy,hmime.symm⟩,hlabel,?_,hcount.symm,?_,howned,hreference⟩
    · exact singleton_of_count hdocument (by simp [hsource]) hone
    · exact singleton_of_count hrun (by simp [hrunDocument, hrunVersion, hrunSource]) hruns
    · rw [hrunSignature, hs]
    · intro hnil
      rw [hnil] at hcount
      simp at hcount
      omega
    · rw [← hcount] at hdistinct
      exact (count_distinct_iff (List.length_map _)).mp (by exact_mod_cast hdistinct)
  · rintro ⟨document,version,run,h⟩
    obtain ⟨s,hs⟩ := Option.ne_none_iff_exists'.mp hsigned
    have hdocument : document ∈ db.documentsOf source := by simp [h.documents]
    have hrun : run ∈ db.runsOf source document version := by simp [h.runs]
    rw [SourceTables.documentsOf, List.mem_filter] at hdocument
    simp only [SourceTables.runsOf, List.mem_filter, Bool.and_eq_true, decide_eq_true_eq] at hdocument hrun
    have hpositive : 0 < (db.chunksOf version).length := List.length_pos_iff.mpr h.nonempty
    have hdistinct := (count_distinct_iff (List.length_map _)).mpr h.indices
    refine ⟨by simp [h.documents],document,hdocument.1,version,h.mem,run,hrun.1,⟨h.current,h.owner,hrun.2.1.2,
      hrun.2.2,hrun.2.1.1,hdocument.2,by simp [h.runs],h.matched.schema,?_,h.matched.content.symm,h.matched.policy,
      h.matched.name,h.matched.status,h.matched.reason,h.matched.version,h.matched.chunkPolicy,h.matched.mime.symm,
      h.label,?_,h.count.symm,h.owned,?_⟩,h.reference⟩
    · exact Truth.eq_eq_holds.mpr ⟨s,h.matched.signature.trans hs,hs⟩
    · have hcount := h.count
      omega
    · rw [h.count]
      exact_mod_cast hdistinct

/-! ## Agreement -/

/-- The condition on the source that is not known before its nulls are. -/
theorem slack_condition : Truth.or (.ne (some source.sourceType) (some (text "slack")))
      (.eq (source.rawMetadata.text (text "slack_state")) (some (text "active"))) ≠ .fails ↔
      (source.sourceType = text "slack" → source.rawMetadata.text (text "slack_state") = none ∨
        source.rawMetadata.text (text "slack_state") = some (text "active")) := by
  rw [ne_eq, Truth.or_eq_fails, Truth.ne, Truth.not_eq_fails, Truth.eq_some_left, Option.some.injEq,
    Truth.eq_eq_fails]
  cases source.rawMetadata.text (text "slack_state") with
  | none => simp
  | some t =>
    simp only [Option.some.injEq, reduceCtorEq, false_or]
    constructor
    · intro h htype
      by_contra hne
      exact h ⟨htype.symm,t,text "active",rfl,rfl,hne⟩
    · rintro h ⟨htype,u,v,rfl,rfl,hne⟩
      exact hne (h htype.symm)

theorem slack_holds : Truth.or (.ne (some source.sourceType) (some (text "slack")))
      (.eq (source.rawMetadata.text (text "slack_state")) (some (text "active"))) = .holds ↔
      (source.sourceType = text "slack" → source.rawMetadata.text (text "slack_state") = some (text "active")) := by
  rw [Truth.or_eq_holds, Truth.eq_some_right, Truth.ne, Truth.not_eq_holds, Truth.eq_eq_fails]
  simp only [Option.some.injEq]
  constructor
  · rintro (⟨a,b,rfl,rfl,hne⟩ | hactive) htype
    · exact absurd htype hne
    · exact hactive
  · intro h
    by_cases htype : source.sourceType = text "slack"
    · exact .inr (h htype)
    · exact .inl ⟨_,_,rfl,rfl,htype⟩

theorem schema_ne_fails : Truth.eq source.serverContentSignatureSchema (some serverSourceContentSignatureSchema) ≠ .fails ↔
    source.serverContentSignatureSchema = none ∨
      source.serverContentSignatureSchema = some serverSourceContentSignatureSchema := by
  rw [ne_eq, Truth.eq_eq_fails]
  cases source.serverContentSignatureSchema with
  | none => simp
  | some t => simp [eq_comm]

theorem sql_ne_fails_iff (dialect : Dialect) (hmime : NormalisedMime letters source) :
    postgresExactSourceAuthoritySql letters dialect db source (some ref) none ≠ .fails ↔
      OtherwiseExact letters db source ref := by
  have hcount : Truth.eq (some (db.documentsOf source).length) (some 1) ≠ .fails ↔
      (db.documentsOf source).length = 1 := by
    rw [ne_eq, Truth.eq, Truth.ofBool_eq_fails, decide_eq_false_iff_not, not_not]
  have hbundle : exactBundleSql letters db source (some ref) none ≠ .fails ↔
      exactBundleSql letters db source (some ref) none = .holds := by
    cases h : exactBundleSql letters db source (some ref) none with
    | holds => simp
    | fails => simp
    | unknown => exact absurd h Truth.exist_ne_unknown
  have hsigned : Truth.isNotNull source.serverContentSignature ≠ .fails ↔ source.serverContentSignature ≠ none := by
    rw [Truth.isNotNull, ne_eq, Truth.ofBool_eq_fails, Option.isSome_eq_false_iff, Option.isNone_iff_eq_none]
  have hsupported : Truth.isIn (some source.sourceType) sourceTypes ≠ .fails ↔ source.sourceType ∈ sourceTypes := by
    rw [ne_eq, Truth.isIn, Truth.ofBool_eq_fails, decide_eq_false_iff_not, not_not]
  unfold postgresExactSourceAuthoritySql
  simp only [Truth.all_cons, Truth.all_nil, ne_eq, Truth.and_eq_fails, mimeType_checked dialect hmime, not_or]
  simp only [← ne_eq, schema_ne_fails, hsigned, hsupported, slack_condition, hcount, hbundle]
  constructor
  · rintro ⟨hschema,hsigned,hsupported,hslack,-,hone,hholds,-⟩
    exact ⟨hsupported,hsigned,hschema,hslack,(exactBundleSql_iff hsigned).mp ⟨hone,hholds⟩⟩
  · intro h
    obtain ⟨hone,hholds⟩ := (exactBundleSql_iff h.signed).mpr h.bundle
    exact ⟨h.schema,h.signed,h.supported,h.slack,Truth.noConfusion,hone,hholds,Truth.noConfusion⟩

theorem sql_holds_iff (dialect : Dialect) (hmime : NormalisedMime letters source) :
    postgresExactSourceAuthoritySql letters dialect db source (some ref) none = .holds ↔
      OtherwiseExact letters db source ref ∧ SourceSet source := by
  have hsupported : Truth.isIn (some source.sourceType) sourceTypes = .holds ↔ source.sourceType ∈ sourceTypes := by
    rw [Truth.isIn_eq_holds]
    constructor
    · rintro ⟨t,ht,heq⟩
      rwa [Option.some.inj heq]
    · exact fun h => ⟨_,h,rfl⟩
  unfold postgresExactSourceAuthoritySql
  simp only [Truth.all_cons, Truth.all_nil, Truth.and_eq_holds, mimeType_checked dialect hmime, Truth.eq_some_right,
    Truth.isNotNull_eq_holds, slack_holds, hsupported, Option.some.injEq, true_and, and_true]
  constructor
  · rintro ⟨hschema,hsigned,hsupported,hslack,hone,hholds⟩
    refine ⟨⟨hsupported,hsigned,.inr hschema,fun htype => .inr (hslack htype),(exactBundleSql_iff hsigned).mp ⟨hone,hholds⟩⟩,
      by simp [hschema],fun htype => by simp [hslack htype]⟩
  · rintro ⟨h,hset,hstate⟩
    obtain ⟨hone,hholds⟩ := (exactBundleSql_iff h.signed).mpr h.bundle
    exact ⟨h.schema.resolve_left hset,h.signed,h.supported,fun htype => (h.slack htype).resolve_left (hstate htype),hone,
      hholds⟩

/-- The predicate holds where the evidence is current and its negation holds everywhere else. -/
def Agrees (letters : CaseMap) (dialect : Dialect) (db : SourceTables) (source : Source) (ref : Text) : Prop :=
  (postgresExactSourceAuthoritySql letters dialect db source (some ref) none = .holds ↔
    canonicalEvidenceVersionIsCurrent letters db source ref = true) ∧
  (canonicalEvidenceVersionIsCurrent letters db source ref = false →
    Truth.not (postgresExactSourceAuthoritySql letters dialect db source (some ref) none) = .holds)

/-- The authorities agree unless a null schema, a missing Slack state or a chunk without a parser run is all that
is wrong with the evidence. -/
theorem authorities_agree_iff (dialect : Dialect) (hshape : SignatureShaped source)
    (hmime : NormalisedMime letters source) :
    Agrees letters dialect db source ref ↔
      (OtherwiseExact letters db source ref → SourceSet source ∧ ChunksSet db source) := by
  have hcurrent : canonicalEvidenceVersionIsCurrent letters db source ref = true ↔
      OtherwiseExact letters db source ref ∧ SourceSet source ∧ ChunksSet db source :=
    canonicalEvidenceVersionIsCurrent_iff hshape hmime
  have hholds : postgresExactSourceAuthoritySql letters dialect db source (some ref) none = .holds ↔
      OtherwiseExact letters db source ref ∧ SourceSet source := sql_holds_iff dialect hmime
  have hfails : postgresExactSourceAuthoritySql letters dialect db source (some ref) none = .fails ↔
      ¬OtherwiseExact letters db source ref := by
    rw [← sql_ne_fails_iff dialect hmime, not_not]
  unfold Agrees
  rw [hholds, ← Bool.not_eq_true, hcurrent, Truth.not_eq_holds, hfails]
  tauto

end agreement

/-! ## Two sources they disagree on -/

def sampleSignature : Text := List.replicate 64 (ofChar 'a')

def sampleLetters : CaseMap := ⟨id,rfl⟩

def sampleSource (sourceType : Text) : Source :=
  ⟨1,sourceType,text "C1:1.000000",text "internal",some [],some serverSourceContentSignatureSchema,some sampleSignature⟩

def sampleRun (sourceType mimeType : Text) : DocumentParserRun :=
  ⟨1,1,1,1,text "server_"++sourceType++text "_source_event",text "parsed",none,mimeType,text "v1",none,sampleSignature,
    some serverSourceContentSignatureSchema,some sampleSignature,some serverParserPolicyVersion,
    some serverParserVersion,some serverChunkPolicyVersion,1⟩

/-- One document with one version, run and chunk. -/
def sampleTables (sourceType mimeType : Text) (parserRunId : Option Nat) : SourceTables where
  sources := [sampleSource sourceType]
  documents := [⟨1,1,some 1⟩]
  versions := [⟨1,1,text "v1"⟩]
  parserRuns := [sampleRun sourceType mimeType]
  chunks := [⟨1,1,1,parserRunId,0,text "internal"⟩]
  versionIds := by decide

/-- A Slack source without a Slack state, and a Gmail source whose chunk names no parser run. -/
def slackTables : SourceTables := sampleTables (text "slack") octetStream (some 1)

def gmailTables : SourceTables := sampleTables (text "gmail") (text "message/rfc822") none

theorem sample_shaped (sourceType : Text) : SignatureShaped (sampleSource sourceType) := by
  rintro s hs
  obtain rfl := Option.some.inj hs
  exact ⟨List.length_replicate,fun c hc => by rw [List.eq_of_mem_replicate hc]; decide⟩

theorem sample_otherwise {sourceType mimeType : Text} {parserRunId : Option Nat} (htype : sourceType ∈ sourceTypes)
    (hmime : some mimeType = expectedMime sampleLetters (sampleSource sourceType))
    (hrun : parserRunId = none ∨ parserRunId = some 1) :
    OtherwiseExact sampleLetters (sampleTables sourceType mimeType parserRunId) (sampleSource sourceType)
      sampleSignature := by
  refine ⟨htype,Option.some_ne_none _,.inr rfl,fun _ => .inl rfl,⟨1,1,some 1⟩,⟨1,1,text "v1"⟩,
    sampleRun sourceType mimeType,?_⟩
  refine ⟨rfl,rfl,List.mem_singleton.mpr rfl,rfl,rfl,⟨rfl,rfl,rfl,rfl,rfl,rfl,rfl,rfl,rfl,hmime⟩,rfl,?_,rfl,?_,?_,.inl rfl⟩
  · exact List.cons_ne_nil _ _
  · exact List.Perm.refl _
  · intro c hc
    obtain rfl := List.mem_singleton.mp hc
    exact ⟨rfl,hrun⟩

theorem authorities_agree_iff_slack : Agrees sampleLetters .postgresql slackTables (sampleSource (text "slack"))
      sampleSignature ↔
    (OtherwiseExact sampleLetters slackTables (sampleSource (text "slack")) sampleSignature →
      SourceSet (sampleSource (text "slack")) ∧ ChunksSet slackTables (sampleSource (text "slack"))) :=
  authorities_agree_iff .postgresql (sample_shaped _) (.inl rfl)

/-- The stale Slack evidence escapes the negated predicate, and the Gmail evidence passes the predicate while the
Python authority refuses it. -/
theorem authorities_disagree :
    (canonicalEvidenceVersionIsCurrent sampleLetters slackTables (sampleSource (text "slack")) sampleSignature = false ∧
      Truth.not (postgresExactSourceAuthoritySql sampleLetters .postgresql slackTables (sampleSource (text "slack"))
        (some sampleSignature) none) ≠ .holds) ∧
    canonicalEvidenceVersionIsCurrent sampleLetters gmailTables (sampleSource (text "gmail")) sampleSignature = false ∧
      postgresExactSourceAuthoritySql sampleLetters .postgresql gmailTables (sampleSource (text "gmail"))
        (some sampleSignature) none = .holds := by
  have hslack : OtherwiseExact sampleLetters slackTables (sampleSource (text "slack")) sampleSignature :=
    sample_otherwise (by decide) (by decide) (.inr rfl)
  have hgmail : OtherwiseExact sampleLetters gmailTables (sampleSource (text "gmail")) sampleSignature :=
    sample_otherwise (by decide) (by decide) (.inl rfl)
  refine ⟨⟨?_,?_⟩,?_,?_⟩
  · rw [← Bool.not_eq_true, canonicalEvidenceVersionIsCurrent_iff (sample_shaped _) (.inl rfl)]
    rintro ⟨-,⟨-,hstate⟩,-⟩
    exact hstate rfl rfl
  · rw [ne_eq, Truth.not_eq_holds]
    exact (sql_ne_fails_iff .postgresql (.inl rfl)).mpr hslack
  · rw [← Bool.not_eq_true, canonicalEvidenceVersionIsCurrent_iff (sample_shaped _) (.inl rfl)]
    rintro ⟨-,-,hchunks⟩
    exact hchunks _ (List.mem_singleton.mpr rfl) _ (List.mem_singleton.mpr rfl) rfl _ (List.mem_singleton.mpr rfl) rfl
  · exact (sql_holds_iff .postgresql (.inl rfl)).mpr ⟨hgmail,Option.some_ne_none _,fun htype => absurd htype (by decide)⟩

end ParaWorks.Sources
