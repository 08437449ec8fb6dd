import ParaWorks.Lib.Integers
import ParaWorks.Lib.Strings

/-!
# Security scopes

The permissions, projects and sources that a principal may read, with the checks of the constructor.
-/

namespace ParaWorks.Retrieval

open Lib

inductive ResourceScopeMode where
  | allCurrentScope
  | constrained
  deriving DecidableEq

structure SecurityScope where
  contractVersion : Text
  principalSubject : Text
  workspaceScopeId : Text
  resourceScopeMode : ResourceScopeMode
  projectConstraints : List Text
  sourceConstraints : List Text
  allowedPermissionLevels : List Text
  authPolicyVersion : Text
  permissionPolicyVersion : Text
  deriving DecidableEq

/-- `StrictUnicodeScalarValidator.validate`. -/
def strictUnicode (t : Text) : Bool := t.all fun c => c.val ≠ 0 && !(0xD800 ≤ c.val && c.val ≤ 0xDFFF)

/-- `_require_nonblank_exact`. -/
def nonblankExact (t : Text) : Bool := strictUnicode t && strip t ≠ [] && t = strip t

def permissionLevels : List Text := [text "public",text "internal",text "restricted"]

def projectPrefix : Text := text "project_key:"

def sourcePrefix : Text := text "source_pk:"

/-- `t.removeprefix(p)`. -/
def removePrefix (p t : Text) : Text := if p.isPrefixOf t then t.drop p.length else t

/-- The identifier of a source constraint: canonical positive decimal digits. -/
def sourceIdentifier (value : Text) : Option Int :=
  if strictUnicode value && sourcePrefix.isPrefixOf value then
    let rawIdentifier := removePrefix sourcePrefix value
    if rawIdentifier ≠ [] && rawIdentifier.all Json.isDigit then
      (parseInt rawIdentifier).filter fun identifier => 0 < identifier && Json.renderInt identifier = rawIdentifier
    else none
  else none

section checks

variable (nfc : Text → Text)

def projectConstraintValid (value : Text) : Bool :=
  strictUnicode value && projectPrefix.isPrefixOf value && removePrefix projectPrefix value ≠ [] &&
    value = projectPrefix++nfc (removePrefix projectPrefix value)

def projectConstraintsValid (values : List Text) : Bool :=
  values.all (projectConstraintValid nfc) && values.insertionSort (· ≤ ·) = values && values.Nodup

def sourceConstraintsValid (values : List Text) : Bool :=
  match values.mapM sourceIdentifier with
  | none => false
  | some identifiers => identifiers.insertionSort (· ≤ ·) = identifiers && identifiers.Nodup

/-- `SecurityScope.__post_init__`. -/
def SecurityScope.postInit (scope : SecurityScope) : Bool :=
  scope.contractVersion = text "rag-security-scope:v1" &&
    nonblankExact scope.principalSubject && nonblankExact scope.workspaceScopeId &&
    nonblankExact scope.authPolicyVersion && nonblankExact scope.permissionPolicyVersion &&
    scope.authPolicyVersion = text "demo-auth:v1" &&
    scope.permissionPolicyVersion = text "rag-permission-policy:v1" &&
    projectConstraintsValid nfc scope.projectConstraints &&
    sourceConstraintsValid scope.sourceConstraints &&
    scope.allowedPermissionLevels = permissionLevels.filter (· ∈ scope.allowedPermissionLevels) &&
    (decide (scope.resourceScopeMode = .allCurrentScope) =
      (scope.projectConstraints.isEmpty && scope.sourceConstraints.isEmpty))

end checks

/-! ## Constraints -/

theorem removePrefix_append (p t : Text) : removePrefix p (p++t) = t := by
  have hprefix : p.isPrefixOf (p++t) = true := List.isPrefixOf_iff_prefix.mpr (List.prefix_append p t)
  rw [removePrefix,if_pos hprefix,List.drop_left]

theorem eq_append_removePrefix {p t : Text} (h : p.isPrefixOf t = true) : t = p++removePrefix p t := by
  obtain ⟨u,rfl⟩ := List.isPrefixOf_iff_prefix.mp h
  rw [removePrefix_append]

theorem sourceIdentifier_spec {value : Text} {identifier : Int} (h : sourceIdentifier value = some identifier) :
    value = sourcePrefix++Json.renderInt identifier ∧ parseInt (removePrefix sourcePrefix value) = some identifier ∧
      0 < identifier := by
  unfold sourceIdentifier at h
  split at h
  · next hvalue =>
    rw [Bool.and_eq_true] at hvalue
    dsimp only at h
    split at h
    · obtain ⟨hparse,hcanonical⟩ := Option.filter_eq_some_iff.mp h
      simp only [Bool.and_eq_true,decide_eq_true_eq] at hcanonical
      refine ⟨?_,hparse,hcanonical.1⟩
      rw [hcanonical.2]
      exact eq_append_removePrefix hvalue.2
    · cases h
  · cases h

section valid

variable {nfc : Text → Text} {scope : SecurityScope}

structure SecurityScope.Valid (scope : SecurityScope) : Prop where
  projects : ∀ value ∈ scope.projectConstraints, ∃ key, value = projectPrefix++key
  sources : ∃ identifiers, scope.sourceConstraints.mapM sourceIdentifier = some identifiers
  mode : scope.resourceScopeMode = .allCurrentScope ↔ scope.projectConstraints = [] ∧ scope.sourceConstraints = []

theorem SecurityScope.valid (h : scope.postInit nfc = true) : scope.Valid := by
  simp only [SecurityScope.postInit,Bool.and_eq_true,decide_eq_true_eq] at h
  obtain ⟨⟨⟨⟨-,hprojects⟩,hsources⟩,-⟩,hmode⟩ := h
  refine ⟨fun value hvalue => ?_,?_,?_⟩
  · simp only [projectConstraintsValid,Bool.and_eq_true,List.all_eq_true] at hprojects
    have hvalid := hprojects.1.1 value hvalue
    simp only [projectConstraintValid,Bool.and_eq_true,decide_eq_true_eq] at hvalid
    exact ⟨_,hvalid.2⟩
  · unfold sourceConstraintsValid at hsources
    split at hsources
    · cases hsources
    next identifiers hidentifiers => exact ⟨identifiers,hidentifiers⟩
  · have hiff := congrArg (· = true) hmode
    simpa using hiff

end valid

end ParaWorks.Retrieval
