import ParaWorks.Lib.Partial
import ParaWorks.Lib.Text

/-!
# Details of a provider's usage

The objects that a provider response is made of, which may contain themselves, and the walk that keeps token counts out
of everything but their own places. The walk refuses exactly what does not unfold to few values in few levels.
-/

namespace ParaWorks.ProviderUsage

open Lib

/-! ## Objects -/

/-- The identity of an object. -/
abbrev Address := Nat

/-- The items that a mapping yields. A key is none where it is not exactly a `str`. -/
abbrev Items := List (Option Text × Address)

abbrev Entries := List (Text × Address)

/-- What the parser sees of an object. A reading of a mapping is none where it raises or yields anything but pairs; only a
`dict` is not read again. -/
inductive Object where
  | int (n : Int)
  | sequence (items : List Address)
  | mapping (items : Option Items) (again : Option (Option Items))
  | otherSequence
  | other

abbrev Heap := Address → Object

def tokenFieldNames : List Text :=
  [text "input_tokens",text "prompt_tokens",text "output_tokens",text "completion_tokens",text "total_tokens"]

def usageWrapperNames : List Text := [text "token_usage",text "usage"]

def allAuthorityNames : List Text := tokenFieldNames++usageWrapperNames

def maxDetailDepth : Nat := 32

def maxDetailNodes : Nat := 4096

/-- `validated_items` of one reading. -/
def validatedItems (reading : Option Items) : Option Entries :=
  reading.bind fun items =>
    if items.length ≤ maxDetailNodes ∧ (items.map (·.1)).Nodup then items.mapM fun item => item.1.map (·,item.2) else none

/-- `_mapping_snapshot` -/
def mappingSnapshot : Object → Option Entries
  | .mapping items none => validatedItems items
  | .mapping items (some again) =>
    (validatedItems items).bind fun first =>
      (validatedItems again).bind fun second => if first = second then some first else none
  | _ => none

/-- `_reject_nested_authority` with so many levels left inside the active containers: the nodes that remain, or none. -/
def rejectNestedAuthority (heap : Heap) : Nat → List Address → Address → Nat → Option Nat
  | 0, _, _, _ => none
  | _+1, _, _, 0 => none
  | levels+1, active, address, remaining+1 =>
    match heap address with
    | .mapping items again =>
      if address ∈ active then none
      else
        match mappingSnapshot (.mapping items again) with
        | none => none
        | some nested =>
          if nested.any (·.1 ∈ allAuthorityNames) then none
          else (nested.map (·.2)).foldlM (fun left a => rejectNestedAuthority heap levels (address::active) a left) remaining
    | .sequence items =>
      if address ∈ active ∨ remaining < items.length then none
      else items.foldlM (fun left a => rejectNestedAuthority heap levels (address::active) a left) remaining
    | .otherSequence => none
    | .int _ => some remaining
    | .other => some remaining

/-- The values of a mapping that have no authority. -/
def details (values : Entries) (allowed : List Text) : List Address :=
  (values.filter (·.1 ∉ allowed)).map (·.2)

/-- `_validate_non_authoritative_details` -/
def validateNonAuthoritativeDetails (heap : Heap) (values : Entries) (allowed : List Text) : Bool :=
  ((details values allowed).foldlM (fun left a => rejectNestedAuthority heap (maxDetailDepth+1) [] a left)
    maxDetailNodes).isSome

/-! ## Unfolding -/

/-- An object that may stand in the details: a mapping without a token count or a usage wrapper, a list, a tuple, or no
container. -/
def Plain (object : Object) : Prop :=
  match object with
  | .mapping _ _ => ∃ entries, mappingSnapshot object = some entries ∧ ∀ e ∈ entries, e.1 ∉ allAuthorityNames
  | .otherSequence => False
  | _ => True

/-- What an object contains, none where it is not plain. -/
def contents (object : Object) : Option (List Address) :=
  match object with
  | .mapping _ _ =>
    (mappingSnapshot object).bind fun entries =>
      if entries.any (·.1 ∈ allAuthorityNames) then none else some (entries.map (·.2))
  | .sequence items => some items
  | .otherSequence => none
  | _ => some []

/-- The second object is so many containments below the first. -/
inductive Below (heap : Heap) : Nat → Address → Address → Prop
  | self (a : Address) : Below heap 0 a a
  | inside {a b c : Address} {n : Nat} {items : List Address} (ha : contents (heap a) = some items) (hb : b ∈ items)
      (hc : Below heap n b c) : Below heap (n+1) a c

/-- How many values an object unfolds to, none where it does not within so many levels. -/
def unfolded (heap : Heap) : Nat → Address → Option Nat
  | 0, _ => none
  | levels+1, a =>
    (contents (heap a)).bind fun items => (items.mapM fun b => unfolded heap levels b).map fun counts => counts.sum+1

section unfolding

variable {heap : Heap} {levels n k : Nat} {a b c : Address} {items : List Address}

theorem contents_isSome_iff {object : Object} : (contents object).isSome = true ↔ Plain object := by
  cases object with
  | mapping items again =>
    unfold contents Plain
    cases mappingSnapshot (.mapping items again) with
    | none => simp
    | some entries => simp
  | _ => simp [contents,Plain]

theorem Below.snoc (h : Below heap n a b) (hb : contents (heap b) = some items) (hc : c ∈ items) :
    Below heap (n+1) a c := by
  induction h with
  | self a => exact .inside hb hc (.self c)
  | inside ha hmem _ ih => exact .inside ha hmem (ih hb)

theorem unfolded_succ : unfolded heap (levels+1) a =
    (contents (heap a)).bind fun items => (items.mapM fun b => unfolded heap levels b).map fun counts => counts.sum+1 := rfl

/-- More levels change nothing. -/
theorem unfolded_mono (h : unfolded heap levels a = some n) : unfolded heap (levels+1) a = some n := by
  induction levels generalizing a n with
  | zero => cases h
  | succ levels ih =>
    rw [unfolded_succ] at h ⊢
    obtain ⟨items,hitems,h⟩ := Option.bind_eq_some_iff.mp h
    obtain ⟨counts,hcounts,rfl⟩ := Option.map_eq_some_iff.mp h
    rw [hitems,Option.bind_some,Option.map_eq_some_iff]
    rw [mapM_eq_some_iff] at hcounts
    exact ⟨counts,mapM_eq_some_iff.mpr (hcounts.imp fun _ _ => ih),rfl⟩

theorem unfolded_le {levels' : Nat} (hle : levels ≤ levels') (h : unfolded heap levels a = some n) :
    unfolded heap levels' a = some n := by
  induction hle with
  | refl => exact h
  | step _ ih => exact unfolded_mono ih

theorem unfolded_unique {levels' m : Nat} (h : unfolded heap levels a = some n) (h' : unfolded heap levels' a = some m) :
    n = m := by
  have hn := unfolded_le (Nat.le_max_left levels levels') h
  have hm := unfolded_le (Nat.le_max_right levels levels') h'
  exact Option.some.inj (hn.symm.trans hm)

theorem sum_le_of_forall₂ {xs : List Address} {counts : List Nat} {r : Address → Nat → Prop}
    (h : List.Forall₂ r xs counts) {x : Address} (hx : x ∈ xs) : ∃ m ∈ counts, r x m ∧ m ≤ counts.sum := by
  obtain ⟨m,hm,hr⟩ := forall₂_mem_left h hx
  exact ⟨m,hm,hr,List.single_le_sum (fun _ _ => Nat.zero_le _) m hm⟩

/-- What is inside unfolds to fewer values. -/
theorem unfolded_inside (h : unfolded heap (levels+1) a = some n) (ha : contents (heap a) = some items) (hb : b ∈ items) :
    ∃ m, unfolded heap levels b = some m ∧ m < n := by
  rw [unfolded_succ,ha,Option.bind_some] at h
  obtain ⟨counts,hcounts,rfl⟩ := Option.map_eq_some_iff.mp h
  obtain ⟨m,-,hm,hle⟩ := sum_le_of_forall₂ (mapM_eq_some_iff.mp hcounts) hb
  exact ⟨m,hm,by omega⟩

theorem unfolded_below (h : unfolded heap levels a = some n) (hb : Below heap (k+1) a b) :
    ∃ levels' m, unfolded heap levels' b = some m ∧ m < n := by
  generalize hk : k+1 = j at hb
  induction hb generalizing levels n k with
  | self a => omega
  | @inside a b c j items ha hmem hc ih =>
    cases levels with
    | zero => cases h
    | succ levels =>
      obtain ⟨m,hm,hlt⟩ := unfolded_inside h ha hmem
      cases j with
      | zero =>
        cases hc
        exact ⟨levels,m,hm,hlt⟩
      | succ j =>
        obtain ⟨levels',m',hm',hlt'⟩ := ih hm rfl
        exact ⟨levels',m',hm',by omega⟩

/-- Nothing that unfolds contains itself. -/
theorem not_below_self (h : unfolded heap levels a = some n) : ¬Below heap (k+1) a a := by
  intro hself
  obtain ⟨levels',m,hm,hlt⟩ := unfolded_below h hself
  have hsame := unfolded_unique h hm
  omega

/-- An object unfolds within so many levels exactly when only plain objects are below it, none of them deeper. -/
theorem unfolded_isSome_iff : (unfolded heap levels a).isSome = true ↔
    ∀ n b, Below heap n a b → n < levels ∧ Plain (heap b) := by
  induction levels generalizing a with
  | zero =>
    constructor
    · intro h
      cases h
    · intro h
      exact absurd (h 0 a (.self a)).1 (Nat.lt_irrefl 0)
  | succ levels ih =>
    constructor
    · intro h n b hb
      obtain ⟨count,hcount⟩ := Option.isSome_iff_exists.mp h
      cases hb with
      | self =>
        rw [unfolded_succ] at hcount
        obtain ⟨items,hitems,-⟩ := Option.bind_eq_some_iff.mp hcount
        exact ⟨Nat.succ_pos _,contents_isSome_iff.mp (Option.isSome_iff_exists.mpr ⟨items,hitems⟩)⟩
      | inside ha hmem hc =>
        obtain ⟨m,hm,-⟩ := unfolded_inside hcount ha hmem
        obtain ⟨hlt,hplain⟩ := ih.mp (Option.isSome_iff_exists.mpr ⟨m,hm⟩) _ _ hc
        exact ⟨by omega,hplain⟩
    · intro h
      obtain ⟨items,hitems⟩ := Option.isSome_iff_exists.mp (contents_isSome_iff.mpr (h 0 a (.self a)).2)
      have hinside : ∀ b ∈ items, ∃ m, unfolded heap levels b = some m := by
        intro b hb
        apply Option.isSome_iff_exists.mp
        apply ih.mpr
        intro n c hc
        obtain ⟨hlt,hplain⟩ := h (n+1) c (.inside hitems hb hc)
        exact ⟨by omega,hplain⟩
      obtain ⟨counts,hcounts⟩ := exists_mapM_eq_some hinside
      rw [unfolded_succ,hitems,Option.bind_some,hcounts]
      rfl

/-! ## The walk -/

/-- What is left of a number of nodes after so many of them. -/
def spend (remaining n : Nat) : Option Nat := if n ≤ remaining then some (remaining-n) else none

theorem spend_add {remaining m : Nat} : spend remaining (n+m) = (spend remaining n).bind fun left => spend left m := by
  unfold spend
  by_cases hfirst : n ≤ remaining
  · rw [if_pos hfirst,Option.bind_some]
    by_cases hrest : m ≤ remaining-n
    · rw [if_pos (by omega),if_pos hrest,Nat.sub_add_eq]
    · rw [if_neg (by omega),if_neg hrest]
  · rw [if_neg hfirst,if_neg (by omega),Option.bind_none]

theorem spend_isSome_iff {remaining : Nat} : (spend remaining n).isSome = true ↔ n ≤ remaining := by
  unfold spend
  split_ifs with h <;> simp [h]

theorem spend_short {remaining : Nat} (h : remaining < n) : spend remaining n = none := if_neg (Nat.not_le.mpr h)

/-- What is left after the values of the objects. -/
def nodesLeft (heap : Heap) (levels : Nat) (items : List Address) (remaining : Nat) : Option Nat :=
  (items.mapM fun b => unfolded heap levels b).bind fun counts => spend remaining counts.sum

theorem nodesLeft_single {remaining : Nat} :
    nodesLeft heap levels [a] remaining = (unfolded heap levels a).bind fun n => spend remaining n := by
  unfold nodesLeft
  rw [mapM_cons_option,mapM_nil_option]
  cases unfolded heap levels a <;> rfl

theorem nodesLeft_cons {remaining : Nat} : nodesLeft heap levels (a::items) remaining =
    (nodesLeft heap levels [a] remaining).bind fun left => nodesLeft heap levels items left := by
  rw [nodesLeft_single]
  unfold nodesLeft
  rw [mapM_cons_option]
  cases unfolded heap levels a with
  | none => rfl
  | some n =>
    cases items.mapM (fun b => unfolded heap levels b) with
    | none => exact (Option.bind_fun_none (spend remaining n)).symm
    | some counts => exact spend_add

theorem foldlM_nodesLeft {f : Nat → Address → Option Nat} {remaining : Nat}
    (h : ∀ b ∈ items, ∀ left, f left b = nodesLeft heap levels [b] left) :
    items.foldlM f remaining = nodesLeft heap levels items remaining := by
  induction items generalizing remaining with
  | nil => rfl
  | cons a items ih =>
    obtain ⟨ha,hrest⟩ := List.forall_mem_cons.mp h
    rw [foldlM_cons_option,nodesLeft_cons,ha]
    exact Option.bind_congr fun left _ => ih hrest

theorem unfolded_pos (h : unfolded heap levels a = some n) : 0 < n := by
  cases levels with
  | zero => cases h
  | succ levels =>
    rw [unfolded_succ] at h
    obtain ⟨items,-,h⟩ := Option.bind_eq_some_iff.mp h
    obtain ⟨counts,-,rfl⟩ := Option.map_eq_some_iff.mp h
    exact Nat.succ_pos _

theorem length_le_sum_unfolded {counts : List Nat} (h : items.mapM (fun b => unfolded heap levels b) = some counts) :
    items.length ≤ counts.sum := by
  have hcounts := mapM_eq_some_iff.mp h
  clear h
  induction hcounts with
  | nil => exact Nat.le_refl 0
  | cons hn _ ih =>
    have hpos := unfolded_pos hn
    rw [List.length_cons,List.sum_cons]
    omega

theorem nodesLeft_single_none {remaining : Nat} (h : unfolded heap levels a = none) :
    nodesLeft heap levels [a] remaining = none := by
  rw [nodesLeft_single,h]
  rfl

theorem nodesLeft_single_zero : nodesLeft heap levels [a] 0 = none := by
  rw [nodesLeft_single]
  cases h : unfolded heap levels a with
  | none => rfl
  | some n => exact spend_short (unfolded_pos h)

theorem nodesLeft_single_succ {remaining : Nat} : nodesLeft heap (levels+1) [a] (remaining+1) =
    (contents (heap a)).bind fun items => nodesLeft heap levels items remaining := by
  rw [nodesLeft_single,unfolded_succ]
  unfold nodesLeft
  cases contents (heap a) with
  | none => rfl
  | some items =>
    simp only [Option.bind_some]
    cases items.mapM (fun b => unfolded heap levels b) with
    | none => rfl
    | some counts =>
      simp only [Option.bind_some,Option.map_some,spend,Nat.add_le_add_iff_right,Nat.add_sub_add_right]

theorem nodesLeft_short {remaining : Nat} (h : remaining < items.length) : nodesLeft heap levels items remaining = none := by
  unfold nodesLeft
  cases hcounts : items.mapM (fun b => unfolded heap levels b) with
  | none => rfl
  | some counts =>
    have hle := length_le_sum_unfolded hcounts
    exact spend_short (by omega)

/-- The walk takes from the nodes what an object unfolds to. Its active containers are all around the object, so that one
of them is met again only where the unfolding does not end. -/
theorem rejectNestedAuthority_eq {active : List Address} {remaining : Nat}
    (hactive : ∀ x ∈ active, ∃ k, Below heap (k+1) x a) :
    rejectNestedAuthority heap levels active a remaining = nodesLeft heap levels [a] remaining := by
  induction levels generalizing active a remaining with
  | zero => exact (nodesLeft_single_none rfl).symm
  | succ levels ih =>
    cases remaining with
    | zero => exact nodesLeft_single_zero.symm
    | succ remaining =>
      have hcycle : a ∈ active → nodesLeft heap (levels+1) [a] (remaining+1) = none := by
        intro hmem
        obtain ⟨k,hk⟩ := hactive a hmem
        apply nodesLeft_single_none
        cases hunfolded : unfolded heap (levels+1) a with
        | none => rfl
        | some n => exact absurd hk (not_below_self hunfolded)
      have hinside : ∀ {items : List Address}, contents (heap a) = some items →
          items.foldlM (fun left b => rejectNestedAuthority heap levels (a::active) b left) remaining =
            nodesLeft heap levels items remaining := by
        intro items hitems
        refine foldlM_nodesLeft fun b hb left => ih fun x hx => ?_
        obtain rfl | hx := List.mem_cons.mp hx
        · exact ⟨0,.inside hitems hb (.self b)⟩
        · obtain ⟨k,hk⟩ := hactive x hx
          exact ⟨k+1,hk.snoc hitems hb⟩
      rw [rejectNestedAuthority]
      cases hobject : heap a with
      | int => rw [nodesLeft_single_succ,hobject]; rfl
      | other => rw [nodesLeft_single_succ,hobject]; rfl
      | otherSequence => rw [nodesLeft_single_succ,hobject]; rfl
      | sequence items =>
        dsimp only
        split_ifs with hguard
        · obtain hmem | hshort := hguard
          · exact (hcycle hmem).symm
          · rw [nodesLeft_single_succ,hobject]
            exact (nodesLeft_short hshort).symm
        · rw [hinside (by rw [hobject]; rfl),nodesLeft_single_succ,hobject]
          rfl
      | mapping items again =>
        dsimp only
        split_ifs with hmem
        · exact (hcycle hmem).symm
        · rw [nodesLeft_single_succ,hobject]
          cases hnested : mappingSnapshot (.mapping items again) with
          | none => simp [contents,hnested]
          | some nested =>
            dsimp only
            split_ifs with hauthority
            · simp [contents,hnested,hauthority]
            · have hcontents : contents (heap a) = some (nested.map (·.2)) := by simp [hobject,contents,hnested,hauthority]
              rw [hinside hcontents,← hobject,hcontents]
              rfl

end unfolding

/-- Details that are made of plain objects at most so deep, and of so many of them, whatever is shared counted as often as
it is met. -/
structure PlainDetails (heap : Heap) (items : List Address) : Prop where
  plain : ∀ a ∈ items, ∀ n b, Below heap n a b → n ≤ maxDetailDepth ∧ Plain (heap b)
  few : ∀ counts, items.mapM (fun a => unfolded heap (maxDetailDepth+1) a) = some counts → counts.sum ≤ maxDetailNodes

theorem validateNonAuthoritativeDetails_iff {heap : Heap} {values : Entries} {allowed : List Text} :
    validateNonAuthoritativeDetails heap values allowed = true ↔ PlainDetails heap (details values allowed) := by
  unfold validateNonAuthoritativeDetails
  rw [foldlM_nodesLeft
    fun b _ left => rejectNestedAuthority_eq fun x hx => absurd hx List.not_mem_nil]
  generalize details values allowed = items
  unfold nodesLeft
  constructor
  · intro h
    obtain ⟨left,h⟩ := Option.isSome_iff_exists.mp h
    obtain ⟨counts,hcounts,h⟩ := Option.bind_eq_some_iff.mp h
    refine ⟨fun a ha n b hb => ?_,fun counts' hcounts' => ?_⟩
    · obtain ⟨m,-,hm⟩ := forall₂_mem_left (mapM_eq_some_iff.mp hcounts) ha
      obtain ⟨hlt,hplain⟩ := unfolded_isSome_iff.mp (Option.isSome_iff_exists.mpr ⟨m,hm⟩) n b hb
      exact ⟨Nat.lt_succ_iff.mp hlt,hplain⟩
    · obtain rfl := Option.some.inj (hcounts.symm.trans hcounts')
      exact spend_isSome_iff.mp (Option.isSome_iff_exists.mpr ⟨left,h⟩)
  · intro h
    have hunfold : ∀ a ∈ items, ∃ n, unfolded heap (maxDetailDepth+1) a = some n := fun a ha =>
      Option.isSome_iff_exists.mp
        (unfolded_isSome_iff.mpr fun n b hb => ⟨Nat.lt_succ_iff.mpr (h.plain a ha n b hb).1,(h.plain a ha n b hb).2⟩)
    obtain ⟨counts,hcounts⟩ := exists_mapM_eq_some hunfold
    rw [hcounts]
    exact spend_isSome_iff.mpr (h.few counts hcounts)

end ParaWorks.ProviderUsage
