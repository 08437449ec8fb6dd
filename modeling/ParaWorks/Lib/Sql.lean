import Mathlib

/-!
# SQL truth values

Conditions over nullable columns hold, fail or are unknown. A `WHERE` clause keeps the rows whose
condition holds, so an unknown condition and its negation both keep nothing.
-/

namespace ParaWorks.Lib

inductive Truth where
  | holds
  | fails
  | unknown
  deriving DecidableEq

namespace Truth

def ofBool (b : Bool) : Truth := if b then holds else fails

def and : Truth → Truth → Truth
  | fails, _ => fails
  | _, fails => fails
  | holds, holds => holds
  | _, _ => unknown

def or : Truth → Truth → Truth
  | holds, _ => holds
  | _, holds => holds
  | fails, fails => fails
  | _, _ => unknown

def not : Truth → Truth
  | holds => fails
  | fails => holds
  | unknown => unknown

variable {α β : Type} [DecidableEq α]

/-- `a = b` of nullable values. -/
def eq : Option α → Option α → Truth
  | some a, some b => ofBool (a = b)
  | _, _ => unknown

/-- `a <> b`. -/
def ne (a b : Option α) : Truth := not (eq a b)

def isNull (a : Option β) : Truth := ofBool a.isNone

def isNotNull (a : Option β) : Truth := ofBool a.isSome

/-- `a IN (…)` for a list without nulls. -/
def isIn : Option α → List α → Truth
  | some a, values => ofBool (a ∈ values)
  | none, _ => unknown

/-- `AND` over a list of conditions. -/
def all (conditions : List Truth) : Truth := conditions.foldr and holds

/-- `EXISTS (SELECT 1 FROM rows WHERE …)`. -/
def exist (rows : List β) (condition : β → Truth) : Truth := ofBool (rows.any fun r => condition r = holds)

@[simp] theorem ofBool_eq_holds {b : Bool} : ofBool b = holds ↔ b = true := by cases b <;> simp [ofBool]

@[simp] theorem ofBool_eq_fails {b : Bool} : ofBool b = fails ↔ b = false := by cases b <;> simp [ofBool]

@[simp] theorem ofBool_ne_unknown {b : Bool} : ofBool b ≠ unknown := by cases b <;> simp [ofBool]

@[simp] theorem and_eq_holds {a b : Truth} : and a b = holds ↔ a = holds ∧ b = holds := by
  cases a <;> cases b <;> simp [and]

@[simp] theorem and_eq_fails {a b : Truth} : and a b = fails ↔ a = fails ∨ b = fails := by
  cases a <;> cases b <;> simp [and]

@[simp] theorem or_eq_holds {a b : Truth} : or a b = holds ↔ a = holds ∨ b = holds := by
  cases a <;> cases b <;> simp [or]

@[simp] theorem or_eq_fails {a b : Truth} : or a b = fails ↔ a = fails ∧ b = fails := by
  cases a <;> cases b <;> simp [or]

@[simp] theorem not_eq_holds {a : Truth} : not a = holds ↔ a = fails := by cases a <;> simp [not]

@[simp] theorem not_eq_fails {a : Truth} : not a = fails ↔ a = holds := by cases a <;> simp [not]

theorem eq_some_left {a : α} {b : Option α} : eq (some a) b = holds ↔ b = some a := by
  cases b with
  | none => simp [eq]
  | some b =>
    rw [eq, ofBool_eq_holds, decide_eq_true_eq, Option.some.injEq]
    exact eq_comm

theorem eq_some_right {a : Option α} {b : α} : eq a (some b) = holds ↔ a = some b := by
  cases a <;> simp [eq]

@[simp] theorem eq_eq_holds {a b : Option α} : eq a b = holds ↔ ∃ x, a = some x ∧ b = some x := by
  cases a with
  | none => simp [eq]
  | some x =>
    cases b with
    | none => simp [eq]
    | some y =>
      rw [eq, ofBool_eq_holds, decide_eq_true_eq]
      constructor
      · rintro rfl
        exact ⟨x,rfl,rfl⟩
      · rintro ⟨z,hx,hy⟩
        exact Option.some.inj (hx.trans hy.symm)

@[simp] theorem eq_eq_fails {a b : Option α} : eq a b = fails ↔ ∃ x y, a = some x ∧ b = some y ∧ x ≠ y := by
  cases a <;> cases b <;> simp [eq]

@[simp] theorem isNull_eq_holds {a : Option β} : isNull a = holds ↔ a = none := by simp [isNull]

@[simp] theorem isNotNull_eq_holds {a : Option β} : isNotNull a = holds ↔ a ≠ none := by
  simp [isNotNull, Option.isSome_iff_ne_none]

@[simp] theorem isIn_eq_holds {a : Option α} {values : List α} :
    isIn a values = holds ↔ ∃ x ∈ values, a = some x := by
  cases a <;> simp [isIn]

@[simp] theorem exist_eq_holds {rows : List β} {condition : β → Truth} :
    exist rows condition = holds ↔ ∃ r ∈ rows, condition r = holds := by
  simp [exist]

@[simp] theorem exist_eq_fails {rows : List β} {condition : β → Truth} :
    exist rows condition = fails ↔ ∀ r ∈ rows, condition r ≠ holds := by
  simp [exist]

@[simp] theorem exist_ne_unknown {rows : List β} {condition : β → Truth} : exist rows condition ≠ unknown :=
  ofBool_ne_unknown

@[simp] theorem all_nil : all [] = holds := rfl

@[simp] theorem all_cons (c : Truth) (cs : List Truth) : all (c::cs) = and c (all cs) := rfl

theorem all_append (cs ds : List Truth) : all (cs++ds) = and (all cs) (all ds) := by
  induction cs with
  | nil => cases h : all ds <;> simp [h, and]
  | cons c cs ih =>
    rw [List.cons_append, all_cons, all_cons, ih]
    cases c <;> cases all cs <;> cases all ds <;> rfl

/-- A condition that is known and does not hold has a negation that does. -/
theorem not_eq_holds_of_known {a : Truth} (hknown : a ≠ unknown) (h : a ≠ holds) : not a = holds := by
  cases a <;> simp_all [not]

end Truth

end ParaWorks.Lib
