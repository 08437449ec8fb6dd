import ParaWorks.Retrieval.KeywordPredicate

/-!
# Rules for keyword predicates

When a predicate that does not raise is true, constructor by constructor.
-/

namespace ParaWorks.Retrieval

open Lib

theorem keywordSqlAnd_eq_holds {values : List Truth} : keywordSqlAnd values = .holds ↔ ∀ v ∈ values, v = .holds := by
  unfold keywordSqlAnd
  constructor
  · intro h v hv
    split at h
    · cases h
    next hfails =>
    split at h
    · cases h
    next hunknown =>
    cases v
    · rfl
    · exact absurd hv hfails
    · exact absurd hv hunknown
  · intro h
    have hfails : Truth.fails ∉ values := fun hm => by cases h _ hm
    have hunknown : Truth.unknown ∉ values := fun hm => by cases h _ hm
    rw [if_neg hfails,if_neg hunknown]

theorem keywordSqlOr_eq_holds {values : List Truth} : keywordSqlOr values = .holds ↔ .holds ∈ values := by
  unfold keywordSqlOr
  constructor
  · intro h
    split at h
    · assumption
    · split at h
      · cases h
      · cases h
  · exact fun h => if_pos h

theorem holds_eq_ofBool {b : Bool} : Truth.holds = Truth.ofBool b ↔ b = true := by
  rw [eq_comm,Truth.ofBool_eq_holds]

section rules

variable {candidate : PostgresKeywordResourceCandidate} {bindValues : Text → Option KeywordValue}
  {context : RelationContext} {p : KeywordPredicate} {ps : List KeywordPredicate} {P Q : Prop}

/-- The predicate does not raise, and is true exactly when `P` holds. -/
def Evaluates (candidate : PostgresKeywordResourceCandidate) (bindValues : Text → Option KeywordValue)
    (context : RelationContext) (p : KeywordPredicate) (P : Prop) : Prop :=
  ∃ t, evaluatePostgresKeywordPredicate candidate bindValues p context = some t ∧ (t = .holds ↔ P)

theorem Evaluates.iff (h : Evaluates candidate bindValues context p P) :
    evaluatePostgresKeywordPredicate candidate bindValues p context = some .holds ↔ P := by
  obtain ⟨t,ht,hP⟩ := h
  rw [ht,Option.some.injEq,hP]

theorem Evaluates.congr (h : Evaluates candidate bindValues context p P) (hPQ : P ↔ Q) :
    Evaluates candidate bindValues context p Q := by
  obtain ⟨t,ht,hP⟩ := h
  exact ⟨t,ht,hP.trans hPQ⟩

theorem Evaluates.rule {name : Text} (h : Evaluates candidate bindValues context p P) :
    Evaluates candidate bindValues context (.rule name p) P := by
  obtain ⟨t,ht,hP⟩ := h
  exact ⟨t,by rwa [evaluatePostgresKeywordPredicate],hP⟩

theorem children_nil : evaluateKeywordChildren candidate bindValues [] context = some [] := by
  rw [evaluateKeywordChildren]

theorem children_cons {t : Truth} {ts : List Truth}
    (h : evaluatePostgresKeywordPredicate candidate bindValues p context = some t)
    (hs : evaluateKeywordChildren candidate bindValues ps context = some ts) :
    evaluateKeywordChildren candidate bindValues (p::ps) context = some (t::ts) := by
  rw [evaluateKeywordChildren,h,hs]

theorem boolean_children {operator : KeywordBooleanOperator} {t : Truth}
    (h : evaluatePostgresKeywordPredicate candidate bindValues (.boolean operator ps) context = some t) :
    ∃ ts, evaluateKeywordChildren candidate bindValues ps context = some ts ∧ keywordSqlBoolean operator ts = t := by
  rw [evaluatePostgresKeywordPredicate] at h
  exact Option.map_eq_some_iff.mp h

theorem Evaluates.and_nil : Evaluates candidate bindValues context (.boolean .and []) True :=
  ⟨.holds,by rw [evaluatePostgresKeywordPredicate,children_nil]; rfl,by simp⟩

theorem Evaluates.and_cons (h : Evaluates candidate bindValues context p P)
    (hs : Evaluates candidate bindValues context (.boolean .and ps) Q) :
    Evaluates candidate bindValues context (.boolean .and (p::ps)) (P ∧ Q) := by
  obtain ⟨t,ht,hP⟩ := h
  obtain ⟨u,hu,hQ⟩ := hs
  obtain ⟨ts,hts,rfl⟩ := boolean_children hu
  refine ⟨keywordSqlAnd (t::ts),?_,?_⟩
  · rw [evaluatePostgresKeywordPredicate,children_cons ht hts]
    rfl
  · rw [keywordSqlBoolean,keywordSqlAnd_eq_holds] at hQ
    rw [keywordSqlAnd_eq_holds,List.forall_mem_cons,hP,hQ]

theorem Evaluates.or_nil : Evaluates candidate bindValues context (.boolean .or []) False :=
  ⟨.fails,by rw [evaluatePostgresKeywordPredicate,children_nil]; rfl,by simp⟩

theorem Evaluates.or_cons (h : Evaluates candidate bindValues context p P)
    (hs : Evaluates candidate bindValues context (.boolean .or ps) Q) :
    Evaluates candidate bindValues context (.boolean .or (p::ps)) (P ∨ Q) := by
  obtain ⟨t,ht,hP⟩ := h
  obtain ⟨u,hu,hQ⟩ := hs
  obtain ⟨ts,hts,rfl⟩ := boolean_children hu
  refine ⟨keywordSqlOr (t::ts),?_,?_⟩
  · rw [evaluatePostgresKeywordPredicate,children_cons ht hts]
    rfl
  · rw [keywordSqlBoolean,keywordSqlOr_eq_holds] at hQ
    rw [keywordSqlOr_eq_holds,List.mem_cons,← hP,← hQ,eq_comm]

/-! ## Existence -/

/-- Scanning rows stops at the first on which the condition is true. -/
theorem scan_rows {rows : List PostgresKeywordRelationRow} {value : PostgresKeywordRelationRow → Option Truth}
    {R : PostgresKeywordRelationRow → Prop} (h : ∀ row ∈ rows, ∃ t, value row = some t ∧ (t = .holds ↔ R row)) :
    ∃ found, rows.foldr (fun row rest => scanRow (value row) rest) (some false) = some found ∧ (found = true ↔ ∃ row ∈ rows, R row) := by
  induction rows with
  | nil => exact ⟨false,rfl,by simp⟩
  | cons row rows ih =>
    rw [List.forall_mem_cons] at h
    obtain ⟨⟨t,ht,hR⟩,hrest⟩ := h
    obtain ⟨found,hfound,hiff⟩ := ih hrest
    rw [List.foldr_cons,ht]
    cases t with
    | holds => exact ⟨true,rfl,by simp [hR.mp rfl]⟩
    | fails =>
      have hno : ¬R row := fun hrow => by cases hR.mpr hrow
      exact ⟨found,hfound,by rw [hiff,List.exists_mem_cons_iff]; simp [hno]⟩
    | unknown =>
      have hno : ¬R row := fun hrow => by cases hR.mpr hrow
      exact ⟨found,hfound,by rw [hiff,List.exists_mem_cons_iff]; simp [hno]⟩

variable {α : Type} {rows : List α} {encode : α → PostgresKeywordRelationRow} {table binding : Text} {R : α → Prop}

/-- The rows of a table, scanned under the binding of the relation. -/
theorem scan_table (hrows : ∀ r, r ∈ candidate.relationRows ∧ r.relation = table ↔ ∃ a ∈ rows, r = encode a)
    (h : ∀ a ∈ rows, Evaluates candidate bindValues (Function.update context binding (some (encode a))) p (R a)) :
    ∃ found, (candidate.relationRows.filter (·.relation = table)).foldr (fun row rest => scanRow
        (evaluatePostgresKeywordPredicate candidate bindValues p (Function.update context binding (some row))) rest)
      (some false) = some found ∧ (found = true ↔ ∃ a ∈ rows, R a) := by
  have hmem : ∀ r, r ∈ candidate.relationRows.filter (·.relation = table) ↔ ∃ a ∈ rows, r = encode a := by
    intro r
    rw [List.mem_filter,decide_eq_true_eq,hrows]
  have hscan : ∀ r ∈ candidate.relationRows.filter (·.relation = table), ∃ t,
      evaluatePostgresKeywordPredicate candidate bindValues p (Function.update context binding (some r)) = some t ∧
        (t = .holds ↔ evaluatePostgresKeywordPredicate candidate bindValues p
          (Function.update context binding (some r)) = some .holds) := by
    intro r hr
    obtain ⟨a,ha,rfl⟩ := (hmem r).mp hr
    obtain ⟨t,ht,-⟩ := h a ha
    exact ⟨t,ht,by rw [ht,Option.some.injEq]⟩
  obtain ⟨found,hfound,hiff⟩ := scan_rows hscan
  refine ⟨found,hfound,hiff.trans ?_⟩
  constructor
  · rintro ⟨r,hr,hholds⟩
    obtain ⟨a,ha,rfl⟩ := (hmem r).mp hr
    exact ⟨a,ha,(h a ha).iff.mp hholds⟩
  · rintro ⟨a,ha,hR⟩
    exact ⟨encode a,(hmem _).mpr ⟨a,ha,rfl⟩,(h a ha).iff.mpr hR⟩

theorem Evaluates.exist (hrows : ∀ r, r ∈ candidate.relationRows ∧ r.relation = table ↔ ∃ a ∈ rows, r = encode a)
    (h : ∀ a ∈ rows, Evaluates candidate bindValues (Function.update context binding (some (encode a))) p (R a)) :
    Evaluates candidate bindValues context (.existence ⟨table,binding⟩ p .exist) (∃ a ∈ rows, R a) := by
  obtain ⟨found,hfound,hiff⟩ := scan_table hrows h
  refine ⟨.ofBool found,?_,by rw [Truth.ofBool_eq_holds,hiff]⟩
  rw [evaluatePostgresKeywordPredicate]
  change Option.map _ ((candidate.relationRows.filter (·.relation = table)).foldr _ (some false)) = _
  rw [hfound]
  simp

theorem Evaluates.notExist (hrows : ∀ r, r ∈ candidate.relationRows ∧ r.relation = table ↔ ∃ a ∈ rows, r = encode a)
    (h : ∀ a ∈ rows, Evaluates candidate bindValues (Function.update context binding (some (encode a))) p (R a)) :
    Evaluates candidate bindValues context (.existence ⟨table,binding⟩ p .notExist) (¬∃ a ∈ rows, R a) := by
  obtain ⟨found,hfound,hiff⟩ := scan_table hrows h
  refine ⟨.ofBool !found,?_,by rw [Truth.ofBool_eq_holds,Bool.not_eq_true',← Bool.not_eq_true,hiff]⟩
  rw [evaluatePostgresKeywordPredicate]
  change Option.map _ ((candidate.relationRows.filter (·.relation = table)).foldr _ (some false)) = _
  rw [hfound]
  simp

/-! ## Comparisons -/

/-- The scalars made by `f` are the same in Python exactly when they are equal. -/
def Faithful {α : Type} [DecidableEq α] (f : α → KeywordScalar) : Prop := ∀ a b, (f a).same (f b) = decide (a = b)

theorem faithful_str : Faithful KeywordScalar.str := fun _ _ => rfl

theorem faithful_int : Faithful KeywordScalar.int := by
  intro a b
  simp [KeywordScalar.same,KeywordScalar.number]

section comparisons

variable {β : Type} [DecidableEq β] {f : β → KeywordScalar} {left right : KeywordExpression} {v w : Option β} {ts : List β}

/-- The expression evaluates to a nullable scalar. -/
def Reads (candidate : PostgresKeywordResourceCandidate) (bindValues : Text → Option KeywordValue)
    (context : RelationContext) (e : KeywordExpression) (f : β → KeywordScalar) (v : Option β) : Prop :=
  evaluateKeywordExpression candidate bindValues e context = some (v.map fun b => .scalar (f b))

def ReadsTuple (candidate : PostgresKeywordResourceCandidate) (bindValues : Text → Option KeywordValue)
    (context : RelationContext) (e : KeywordExpression) (f : β → KeywordScalar) (ts : List β) : Prop :=
  evaluateKeywordExpression candidate bindValues e context = some (some (.tuple (ts.map fun b => some (f b))))

theorem Evaluates.eq (hf : Faithful f) (hleft : Reads candidate bindValues context left f v)
    (hright : Reads candidate bindValues context right f w) :
    Evaluates candidate bindValues context (.comparison left .eq (some right)) (∃ b, v = some b ∧ w = some b) := by
  unfold Reads at hleft hright
  cases v with
  | none =>
    refine ⟨.unknown,?_,by simp⟩
    cases w <;> simp [evaluatePostgresKeywordPredicate,evaluateKeywordComparison,hleft,hright]
  | some b =>
    cases w with
    | none =>
      refine ⟨.unknown,?_,by simp⟩
      simp [evaluatePostgresKeywordPredicate,evaluateKeywordComparison,hleft,hright]
    | some c =>
      refine ⟨.ofBool (decide (b = c)),?_,by rw [Truth.ofBool_eq_holds,decide_eq_true_eq]; simp [eq_comm]⟩
      simp [evaluatePostgresKeywordPredicate,evaluateKeywordComparison,hleft,hright,KeywordValue.same,hf b c]

theorem Evaluates.ne (hf : Faithful f) (hleft : Reads candidate bindValues context left f v)
    (hright : Reads candidate bindValues context right f w) :
    Evaluates candidate bindValues context (.comparison left .ne (some right))
      (∃ b c, v = some b ∧ w = some c ∧ b ≠ c) := by
  unfold Reads at hleft hright
  cases v with
  | none =>
    refine ⟨.unknown,?_,by simp⟩
    cases w <;> simp [evaluatePostgresKeywordPredicate,evaluateKeywordComparison,hleft,hright]
  | some b =>
    cases w with
    | none =>
      refine ⟨.unknown,?_,by simp⟩
      simp [evaluatePostgresKeywordPredicate,evaluateKeywordComparison,hleft,hright]
    | some c =>
      refine ⟨.ofBool !decide (b = c),?_,by simp⟩
      simp [evaluatePostgresKeywordPredicate,evaluateKeywordComparison,hleft,hright,KeywordValue.same,hf b c]

theorem same_mem_iff (hf : Faithful f) {b : β} : (ts.any fun c => (f b).same (f c)) = true ↔ b ∈ ts := by
  simp [hf b]

theorem Evaluates.isIn (hf : Faithful f) (hleft : Reads candidate bindValues context left f v)
    (hright : ReadsTuple candidate bindValues context right f ts) :
    Evaluates candidate bindValues context (.comparison left .isIn (some right)) (∃ b ∈ ts, v = some b) := by
  unfold Reads at hleft
  unfold ReadsTuple at hright
  cases v with
  | none =>
    refine ⟨.unknown,?_,by simp⟩
    simp [evaluatePostgresKeywordPredicate,evaluateKeywordComparison,hleft,hright]
  | some b =>
    refine ⟨.ofBool (ts.any fun c => (f b).same (f c)),?_,?_⟩
    · by_cases hany : (ts.any fun c => (f b).same (f c)) = true
      · have hsome : ∃ c ∈ ts, (f b).same (f c) = true := List.any_eq_true.mp hany
        simp [evaluatePostgresKeywordPredicate,evaluateKeywordComparison,hleft,hright,KeywordValue.same,hany,hsome,Truth.ofBool]
      · have hnone : ¬∃ c ∈ ts, (f b).same (f c) = true := fun h => hany (List.any_eq_true.mpr h)
        rw [Bool.not_eq_true] at hany
        simp [evaluatePostgresKeywordPredicate,evaluateKeywordComparison,hleft,hright,KeywordValue.same,hany,hnone,Truth.ofBool]
    · rw [Truth.ofBool_eq_holds,same_mem_iff hf]
      simp

theorem Evaluates.equalAny (hf : Faithful f) (hleft : Reads candidate bindValues context left f v)
    (hright : ReadsTuple candidate bindValues context right f ts) :
    Evaluates candidate bindValues context (.comparison left .equalAny (some right)) (∃ b ∈ ts, v = some b) := by
  unfold Reads at hleft
  unfold ReadsTuple at hright
  cases ts with
  | nil =>
    refine ⟨.fails,?_,by simp⟩
    simp [evaluatePostgresKeywordPredicate,evaluateKeywordComparison,hright]
  | cons c ts =>
    refine ⟨keywordSqlOr (compareItems false (v.map fun b => .scalar (f b)) ((c::ts).map fun b => some (f b))),?_,?_⟩
    · simp [evaluatePostgresKeywordPredicate,evaluateKeywordComparison,hleft,hright]
    · rw [keywordSqlOr_eq_holds]
      cases v with
      | none => simp [compareItems]
      | some b => simp [compareItems,KeywordValue.same,hf b,holds_eq_ofBool,eq_comm]

theorem Evaluates.notEqualAll (hf : Faithful f) (hleft : Reads candidate bindValues context left f v)
    (hright : ReadsTuple candidate bindValues context right f ts) :
    Evaluates candidate bindValues context (.comparison left .notEqualAll (some right))
      (ts = [] ∨ ∃ b, v = some b ∧ b ∉ ts) := by
  unfold Reads at hleft
  unfold ReadsTuple at hright
  cases ts with
  | nil =>
    refine ⟨.holds,?_,by simp⟩
    simp [evaluatePostgresKeywordPredicate,evaluateKeywordComparison,hright]
  | cons c ts =>
    refine ⟨keywordSqlAnd (compareItems true (v.map fun b => .scalar (f b)) ((c::ts).map fun b => some (f b))),?_,?_⟩
    · simp [evaluatePostgresKeywordPredicate,evaluateKeywordComparison,hleft,hright]
    · rw [keywordSqlAnd_eq_holds]
      cases v with
      | none => simp [compareItems]
      | some b =>
        have hall : (∀ a ∈ ts, ¬b = a) ↔ b ∉ ts := ⟨fun h hb => h b hb rfl,fun h a ha hba => h (hba ▸ ha)⟩
        simp [compareItems,KeywordValue.same,hf b,hall]

theorem Evaluates.isTrue {value : Option KeywordValue}
    (hleft : evaluateKeywordExpression candidate bindValues left context = some value) :
    Evaluates candidate bindValues context (.comparison left .isTrue none) (value = some (.scalar (.bool true))) :=
  ⟨.ofBool (value = some (.scalar (.bool true))),
    by simp [evaluatePostgresKeywordPredicate,evaluateKeywordComparison,hleft],by simp⟩

theorem Evaluates.isNotNull {value : Option KeywordValue}
    (hleft : evaluateKeywordExpression candidate bindValues left context = some value) :
    Evaluates candidate bindValues context (.comparison left .isNotNull none) (value.isSome = true) :=
  ⟨.ofBool value.isSome,by simp [evaluatePostgresKeywordPredicate,evaluateKeywordComparison,hleft],by simp⟩

end comparisons

end rules

end ParaWorks.Retrieval
