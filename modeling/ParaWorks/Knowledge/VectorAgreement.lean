import ParaWorks.Knowledge.VectorSupport

/-!
# The vector store against the serving authority

On which legacy rows the SQL condition of the vector store and the Python authority differ.
-/

namespace ParaWorks.Knowledge

open Lib Sources Rollout

variable {letters : CaseMap} {db : VectorTables} {row : VectorRow} {target : Target}

/-! ## Chunks -/

/-- The row's id, as Python reads it, names a chunk of a source. -/
structure ReadsChunk (db : VectorTables) (row : VectorRow) (chunk : DocumentChunk) (source : Source) : Prop where
  read : ∃ rawId key, splitOnce (ofChar ':') row.documentId = some (text "chunk",rawId) ∧ parseInt rawId = some key ∧
    db.chunkByKey key = some chunk
  found : db.sources.source chunk.sourceId = some source

/-- The row's id, as Python reads it, names a target under a type or an alias of it. -/
structure ReadsTarget (db : VectorTables) (row : VectorRow) (knowledgeType : Text) (target : Target) : Prop where
  read : ∃ rawId, splitOnce (ofChar ':') row.documentId = some (knowledgeType,rawId) ∧
    parseInt rawId = some (target.id : Int)
  model : knowledgeModelForType knowledgeType = some target.type
  found : db.target target.type target.id = some target

theorem ReadsChunk.mem {chunk : DocumentChunk} {source : Source} (h : ReadsChunk db row chunk source) :
    chunk ∈ db.sources.chunks := by
  obtain ⟨rawId,key,hsplit,hparse,hchunk⟩ := h.read
  exact (find?_spec hchunk).1

theorem ReadsTarget.mem {knowledgeType : Text} (h : ReadsTarget db row knowledgeType target) : target ∈ db.targets :=
  (find?_spec h.found).1

end ParaWorks.Knowledge
