import ParaWorks.Lib.Integers
import ParaWorks.Knowledge.VectorSql

/-!
# What the vector store's condition accepts

The condition on a knowledge row and on a chunk, without three-valued logic, beside what the Python authority
asks of them.
-/

namespace ParaWorks.Knowledge

open Lib Sources Rollout

variable {letters : CaseMap} {db : VectorTables} {row : VectorRow}

/-! ## Permissions -/

theorem permissionRank_le {p : Text} {i : Nat} (h : permissionRank p = some i) : i ≤ 2 := by
  unfold permissionRank at h
  split_ifs at h <;> simp at h <;> omega

end ParaWorks.Knowledge
