import ParaWorks.Lib.Sql
import ParaWorks.Retrieval.Scope

/-!
# The keyword resource predicate

The declarative predicate over a candidate and the rows that relate to it, its evaluation in three-valued logic
and the bind values it reads.
-/

namespace ParaWorks.Retrieval

open Lib

/-! ## Values -/

inductive KeywordScalar where
  | str (t : Text)
  | int (n : Int)
  | bool (b : Bool)
  deriving DecidableEq

/-- A value that is not null. -/
inductive KeywordValue where
  | scalar (s : KeywordScalar)
  | tuple (items : List (Option KeywordScalar))
  deriving DecidableEq

def KeywordScalar.number : KeywordScalar → Option Int
  | str _ => none
  | int n => some n
  | bool b => some (if b then 1 else 0)

/-- `==` of Python: a boolean is the number it is a subtype of. -/
def KeywordScalar.same : KeywordScalar → KeywordScalar → Bool
  | str t, str u => t = u
  | str _, _ => false
  | _, str _ => false
  | a, b => a.number = b.number

def sameItem : Option KeywordScalar → Option KeywordScalar → Bool
  | none, none => true
  | some a, some b => a.same b
  | _, _ => false

def KeywordValue.same : KeywordValue → KeywordValue → Bool
  | scalar a, scalar b => a.same b
  | tuple xs, tuple ys => xs.length = ys.length && (xs.zip ys).all fun p => sameItem p.1 p.2
  | _, _ => false

/-! ## Syntax -/

inductive KeywordFunctionName where
  | splitPart
  | cardinality

inductive KeywordExpression where
  | column (table name : Text)
  | parameter (name : Text)
  | literal (value : Option KeywordValue)
  | function (name : KeywordFunctionName) (arguments : List KeywordExpression)
  | cast (expression : KeywordExpression) (sqlType : Text)

inductive KeywordComparisonOperator where
  | eq
  | ne
  | isIn
  | equalAny
  | notEqualAll
  | isTrue
  | isNotNull
  deriving DecidableEq

inductive KeywordBooleanOperator where
  | and
  | or

inductive KeywordExistence where
  | exist
  | notExist
  deriving DecidableEq

structure KeywordRelation where
  table : Text
  binding : Text

inductive KeywordPredicate where
  | constant (truth : Truth)
  | comparison (left : KeywordExpression) (operator : KeywordComparisonOperator) (right : Option KeywordExpression)
  | boolean (operator : KeywordBooleanOperator) (children : List KeywordPredicate)
  | existence (relation : KeywordRelation) (condition : KeywordPredicate) (polarity : KeywordExistence)
  | rule (name : Text) (predicate : KeywordPredicate)

/-! ## Rows -/

structure PostgresKeywordRelationRow where
  relation : Text
  columns : List (Text × Option KeywordScalar)

structure PostgresKeywordResourceCandidate where
  servingDocumentId : Text
  servingKind : Text
  relationRows : List PostgresKeywordRelationRow

/-- A null where the row does not have the column exactly once. -/
def keywordRelationValue (row : PostgresKeywordRelationRow) (columnName : Text) : Option KeywordScalar :=
  match row.columns.filter (·.1 = columnName) with
  | [(_,value)] => value
  | _ => none

def projectionValue (candidate : PostgresKeywordResourceCandidate) (name : Text) : Option KeywordScalar :=
  if name = text "serving_document_id" then some (.str candidate.servingDocumentId)
  else if name = text "serving_kind" then some (.str candidate.servingKind)
  else none

/-! ## Evaluation -/

/-- A function on arguments that are not null; none where it raises. -/
def applyKeywordFunction : KeywordFunctionName → List KeywordValue → Option KeywordValue
  | .splitPart, [.scalar (.str value),.scalar (.str [delimiter]),.scalar (.int index)] =>
    let parts := value.splitOn delimiter
    some (.scalar (.str (if 1 ≤ index then parts.getD (index-1).toNat [] else [])))
  | .cardinality, [.tuple items] => some (.scalar (.int items.length))
  | .cardinality, [.scalar (.str t)] => some (.scalar (.int t.length))
  | _, _ => none

def castKeyword (sqlType : Text) : KeywordValue → Option KeywordValue
  | .scalar (.str t) =>
    if sqlType = text "bigint" then (parseInt t).map fun n => .scalar (.int n)
    else if sqlType = text "text" then some (.scalar (.str t)) else none
  | .scalar (.int n) =>
    if sqlType = text "bigint" then some (.scalar (.int n))
    else if sqlType = text "text" then some (.scalar (.str (Json.renderInt n))) else none
  | _ => none

def keywordSqlAnd (values : List Truth) : Truth :=
  if .fails ∈ values then .fails else if .unknown ∈ values then .unknown else .holds

def keywordSqlOr (values : List Truth) : Truth :=
  if .holds ∈ values then .holds else if .unknown ∈ values then .unknown else .fails

def keywordSqlBoolean : KeywordBooleanOperator → List Truth → Truth
  | .and, values => keywordSqlAnd values
  | .or, values => keywordSqlOr values

/-- One row of a scan that stops at the first row on which the condition is true or raises. -/
def scanRow (condition : Option Truth) (rest : Option Bool) : Option Bool :=
  match condition with
  | none => none
  | some .holds => some true
  | some _ => rest

/-- A comparison of a value with each item of an array. -/
def compareItems (different : Bool) (left : Option KeywordValue) (items : List (Option KeywordScalar)) : List Truth :=
  items.map fun item => match left, item with
    | some value, some s => .ofBool (value.same (.scalar s) != different)
    | _, _ => .unknown

section evaluate

variable (candidate : PostgresKeywordResourceCandidate) (bindValues : Text → Option KeywordValue)

abbrev RelationContext := Text → Option PostgresKeywordRelationRow

mutual
/-- `_evaluate_keyword_expression`: the value or null; none where it raises. -/
def evaluateKeywordExpression : KeywordExpression → RelationContext → Option (Option KeywordValue)
  | .column table name, context =>
    if table = text "projection" then some ((projectionValue candidate name).map .scalar)
    else some (((context table).bind fun row => keywordRelationValue row name).map .scalar)
  | .parameter name, _ => some (bindValues name)
  | .literal value, _ => some value
  | .function name arguments, context =>
    match evaluateKeywordArguments arguments context with
    | none => none
    | some values =>
      if values.any (·.isNone) then some none
      else (applyKeywordFunction name (values.filterMap id)).map some
  | .cast expression sqlType, context =>
    match evaluateKeywordExpression expression context with
    | none => none
    | some none => some none
    | some (some value) => (castKeyword sqlType value).map some

def evaluateKeywordArguments : List KeywordExpression → RelationContext → Option (List (Option KeywordValue))
  | [], _ => some []
  | e::es, context =>
    match evaluateKeywordExpression e context, evaluateKeywordArguments es context with
    | some value, some values => some (value::values)
    | _, _ => none
end

/-- `_evaluate_keyword_comparison`; none where it raises. -/
def evaluateKeywordComparison (left : KeywordExpression) (operator : KeywordComparisonOperator)
    (right : Option KeywordExpression) (context : RelationContext) : Option Truth :=
  match operator, right with
  | .isTrue, _ => (evaluateKeywordExpression candidate bindValues left context).map fun value =>
      .ofBool (value = some (.scalar (.bool true)))
  | .isNotNull, _ => (evaluateKeywordExpression candidate bindValues left context).map fun value => .ofBool value.isSome
  | _, none => none
  | operator, some right => do
    let rightValue ← evaluateKeywordExpression candidate bindValues right context
    match operator, rightValue with
    | .equalAny, none => some .unknown
    | .notEqualAll, none => some .unknown
    | .equalAny, some (.tuple []) => some .fails
    | .notEqualAll, some (.tuple []) => some .holds
    | .equalAny, some (.tuple items) =>
      (evaluateKeywordExpression candidate bindValues left context).map fun value =>
        keywordSqlOr (compareItems false value items)
    | .notEqualAll, some (.tuple items) =>
      (evaluateKeywordExpression candidate bindValues left context).map fun value =>
        keywordSqlAnd (compareItems true value items)
    | .equalAny, some (.scalar _) => none
    | .notEqualAll, some (.scalar _) => none
    | operator, rightValue =>
      (evaluateKeywordExpression candidate bindValues left context).bind fun leftValue =>
        match operator, leftValue, rightValue with
        | .eq, some value, some right => some (.ofBool (value.same right))
        | .ne, some value, some right => some (.ofBool !value.same right)
        | .isIn, some value, some (.tuple items) =>
          some (if items.any fun item => item.any fun s => value.same (.scalar s) then .holds
            else if none ∈ items then .unknown else .fails)
        | .isIn, some _, some (.scalar _) => none
        | _, _, _ => some .unknown

mutual
/-- `evaluate_postgres_keyword_predicate`; none where it raises. -/
def evaluatePostgresKeywordPredicate : KeywordPredicate → RelationContext → Option Truth
  | .rule _ predicate, context => evaluatePostgresKeywordPredicate predicate context
  | .constant truth, _ => some truth
  | .comparison left operator right, context =>
    evaluateKeywordComparison candidate bindValues left operator right context
  | .boolean operator children, context =>
    (evaluateKeywordChildren children context).map (keywordSqlBoolean operator)
  | .existence relation condition polarity, context =>
    let rows := candidate.relationRows.filter (·.relation = relation.table)
    (rows.foldr (fun row rest => scanRow
        (evaluatePostgresKeywordPredicate condition (Function.update context relation.binding (some row))) rest)
      (some false)).map fun found => .ofBool (found != decide (polarity = .notExist))

def evaluateKeywordChildren : List KeywordPredicate → RelationContext → Option (List Truth)
  | [], _ => some []
  | p::ps, context =>
    match evaluatePostgresKeywordPredicate p context, evaluateKeywordChildren ps context with
    | some value, some values => some (value::values)
    | _, _ => none
end

-- the equations of the evaluator, once for all the proofs that rewrite with them
attribute [local simp] evaluateKeywordExpression evaluateKeywordArguments evaluateKeywordComparison
  evaluatePostgresKeywordPredicate evaluateKeywordChildren

end evaluate

end ParaWorks.Retrieval
