import ParaWorks.Lib.Text

/-!
# Compact JSON with sorted keys

The values and the printer of `json.dumps` with `ensure_ascii=False`, separators without blanks and
sorted keys. A printed value determines the value it was printed from up to the order of entries.
-/

namespace ParaWorks.Lib

/-- A JSON value other than a float. An object lists its entries in insertion order. -/
inductive Json
  | null
  | bool (b : Bool)
  | int (n : Int)
  | str (t : Text)
  | list (items : List Json)
  | dict (entries : List (Text × Json))

namespace Json

@[induction_eliminator]
theorem induction {P : Json → Prop} (null : P .null) (bool : ∀ b, P (.bool b)) (int : ∀ n, P (.int n))
    (str : ∀ t, P (.str t)) (list : ∀ items, (∀ v ∈ items, P v) → P (.list items))
    (dict : ∀ entries, (∀ e ∈ entries, P e.2) → P (.dict entries)) (v : Json) : P v :=
  Json.rec (motive_1 := P) (motive_2 := fun items => ∀ v ∈ items, P v)
    (motive_3 := fun entries => ∀ e ∈ entries, P e.2) (motive_4 := fun e => P e.2)
    null bool int str list dict (by simp) (fun _ _ h ih => List.forall_mem_cons.mpr ⟨h,ih⟩)
    (by simp) (fun _ _ h ih => List.forall_mem_cons.mpr ⟨h,ih⟩) (fun _ _ h => h) v

/-- Equality up to the order of the entries of each object. -/
inductive Same : Json → Json → Prop
  | null : Same .null .null
  | bool (b : Bool) : Same (.bool b) (.bool b)
  | int (n : Int) : Same (.int n) (.int n)
  | str (t : Text) : Same (.str t) (.str t)
  | list {xs ys : List Json} : List.Forall₂ Same xs ys → Same (.list xs) (.list ys)
  | dict {es fs ds : List (Text × Json)} : es.Perm fs → fs.map Prod.fst = ds.map Prod.fst →
      List.Forall₂ Same (fs.map Prod.snd) (ds.map Prod.snd) → Same (.dict es) (.dict ds)

/-- `Within w v`: `w` is `v` or occurs in it. -/
inductive Within : Json → Json → Prop
  | refl (v : Json) : Within v v
  | item {w v : Json} {items : List Json} : v ∈ items → Within w v → Within w (.list items)
  | entry {w : Json} {e : Text × Json} {entries : List (Text × Json)} :
      e ∈ entries → Within w e.2 → Within w (.dict entries)

/-- `p` holds of the value and of everything in it. -/
def Every (p : Json → Prop) (v : Json) : Prop := ∀ w, Within w v → p w

/-- The keys of an object are distinct. -/
def KeysNodup : Json → Prop
  | .dict entries => (entries.map Prod.fst).Nodup
  | _ => True

/-- The decimal digits of an integer, without its sign. -/
def digits (n : Int) : Text := (Nat.toDigits 10 n.natAbs).map ofChar

/-- An integer has at most `limit` digits. -/
def DigitsFit (limit : Nat) : Json → Prop
  | .int n => (digits n).length ≤ limit
  | _ => True

mutual
/-- The value with `f` applied to every string and key. -/
def mapText (f : Text → Text) : Json → Json
  | .null => .null
  | .bool b => .bool b
  | .int n => .int n
  | .str t => .str (f t)
  | .list items => .list (mapItems f items)
  | .dict entries => .dict (mapEntries f entries)

def mapItems (f : Text → Text) : List Json → List Json
  | [] => []
  | v::items => mapText f v::mapItems f items

def mapEntries (f : Text → Text) : List (Text × Json) → List (Text × Json)
  | [] => []
  | (k,v)::entries => (f k,mapText f v)::mapEntries f entries
end

mutual
/-- The nesting depth when a leaf, a list and an object weigh `p`, `q` and `r`. -/
def depth (p q r : Nat) : Json → Nat
  | .list items => q + itemsDepth p q r items
  | .dict entries => r + entriesDepth p q r entries
  | _ => p

def itemsDepth (p q r : Nat) : List Json → Nat
  | [] => 0
  | v::items => max (depth p q r v) (itemsDepth p q r items)

def entriesDepth (p q r : Nat) : List (Text × Json) → Nat
  | [] => 0
  | (_,v)::entries => max (depth p q r v) (entriesDepth p q r entries)
end

mutual
/-- The value with the entries of every object sorted by key. -/
def sortKeys : Json → Json
  | .list items => .list (sortItems items)
  | .dict entries => .dict ((sortEntries entries).insertionSort fun e d => e.1 ≤ d.1)
  | v => v

def sortItems : List Json → List Json
  | [] => []
  | v::items => sortKeys v::sortItems items

def sortEntries : List (Text × Json) → List (Text × Json)
  | [] => []
  | (k,v)::entries => (k,sortKeys v)::sortEntries entries
end

theorem mapItems_eq (f : Text → Text) (items : List Json) : mapItems f items = items.map (mapText f) := by
  induction items with
  | nil => rfl
  | cons v items ih => rw [mapItems,ih,List.map_cons]

theorem mapEntries_eq (f : Text → Text) (entries : List (Text × Json)) :
    mapEntries f entries = entries.map fun e => (f e.1,mapText f e.2) := by
  induction entries with
  | nil => rfl
  | cons e entries ih => rw [mapEntries,ih,List.map_cons]

theorem sortItems_eq (items : List Json) : sortItems items = items.map sortKeys := by
  induction items with
  | nil => rfl
  | cons v items ih => rw [sortItems,ih,List.map_cons]

theorem sortEntries_eq (entries : List (Text × Json)) :
    sortEntries entries = entries.map fun e => (e.1,sortKeys e.2) := by
  induction entries with
  | nil => rfl
  | cons e entries ih => rw [sortEntries,ih,List.map_cons]

theorem itemsDepth_le {p q r n : Nat} {items : List Json} :
    itemsDepth p q r items ≤ n ↔ ∀ v ∈ items, depth p q r v ≤ n := by
  induction items with
  | nil => simp [itemsDepth]
  | cons v items ih => simp [itemsDepth,ih]

theorem entriesDepth_le {p q r n : Nat} {entries : List (Text × Json)} :
    entriesDepth p q r entries ≤ n ↔ ∀ e ∈ entries, depth p q r e.2 ≤ n := by
  induction entries with
  | nil => simp [entriesDepth]
  | cons e entries ih => simp [entriesDepth,ih]

theorem Same.str_inj {t u : Text} (h : Same (.str t) (.str u)) : t = u := by
  cases h
  rfl

theorem depth_list_le {p q r n : Nat} {items : List Json} :
    depth p q r (.list items) ≤ n ↔ q ≤ n ∧ ∀ v ∈ items, depth p q r v ≤ n-q := by
  rw [← itemsDepth_le,depth]
  omega

theorem depth_dict_le {p q r n : Nat} {entries : List (Text × Json)} :
    depth p q r (.dict entries) ≤ n ↔ r ≤ n ∧ ∀ e ∈ entries, depth p q r e.2 ≤ n-r := by
  rw [← entriesDepth_le,depth]
  omega

section every

variable {p : Json → Prop}

theorem every_list {items : List Json} :
    Every p (.list items) ↔ p (.list items) ∧ ∀ v ∈ items, Every p v := by
  constructor
  · exact fun h => ⟨h _ (.refl _),fun v hv w hw => h w (.item hv hw)⟩
  · rintro ⟨h,hi⟩ w (_ | ⟨hv,hw⟩)
    · exact h
    · exact hi _ hv w hw

theorem every_dict {entries : List (Text × Json)} :
    Every p (.dict entries) ↔ p (.dict entries) ∧ ∀ e ∈ entries, Every p e.2 := by
  constructor
  · exact fun h => ⟨h _ (.refl _),fun e he w hw => h w (.entry he hw)⟩
  · rintro ⟨h,hi⟩ w (_ | _ | ⟨he,hw⟩)
    · exact h
    · exact hi _ he w hw

theorem Within.mapText {f : Text → Text} {w v : Json} (h : Within w v) :
    Within (w.mapText f) (v.mapText f) := by
  induction h with
  | refl => exact .refl _
  | item hv _ ih =>
    rw [Json.mapText,mapItems_eq]
    exact .item (List.mem_map_of_mem hv) ih
  | entry he _ ih =>
    rw [Json.mapText,mapEntries_eq]
    exact .entry (List.mem_map_of_mem he) ih

theorem every_leaf {v : Json} (hl : ∀ items, v ≠ .list items) (hd : ∀ entries, v ≠ .dict entries) :
    Every p v ↔ p v := by
  refine ⟨fun h => h _ (.refl _),?_⟩
  rintro h w (_ | ⟨hv,hw⟩ | ⟨he,hw⟩)
  · exact h
  · exact absurd rfl (hl _)
  · exact absurd rfl (hd _)

@[simp] theorem every_null : Every p .null ↔ p .null := every_leaf (by simp) (by simp)
@[simp] theorem every_bool {b : Bool} : Every p (.bool b) ↔ p (.bool b) := every_leaf (by simp) (by simp)
@[simp] theorem every_int {n : Int} : Every p (.int n) ↔ p (.int n) := every_leaf (by simp) (by simp)
@[simp] theorem every_str {t : Text} : Every p (.str t) ↔ p (.str t) := every_leaf (by simp) (by simp)

end every

section same

variable {a b : Json}

/-- What holds of related items of two lists holds of all of one as soon as of all of the other. -/
theorem forall₂_forall_iff {α β : Type} {r : α → β → Prop} {p : α → Prop} {q : β → Prop} {xs : List α}
    {ys : List β} (h : List.Forall₂ r xs ys) (hpq : ∀ x ∈ xs, ∀ y, r x y → (p x ↔ q y)) :
    (∀ x ∈ xs, p x) ↔ ∀ y ∈ ys, q y := by
  induction h with
  | nil => simp
  | cons hxy _ ih =>
    simp only [List.forall_mem_cons] at hpq ⊢
    rw [hpq.1 _ hxy,ih hpq.2]

theorem forall₂_imp_mem {α β : Type} {r s : α → β → Prop} {xs : List α} {ys : List β}
    (h : List.Forall₂ r xs ys) (hrs : ∀ x ∈ xs, ∀ y ∈ ys, r x y → s x y) : List.Forall₂ s xs ys := by
  induction h with
  | nil => exact .nil
  | cons hxy _ ih =>
    exact .cons (hrs _ List.mem_cons_self _ List.mem_cons_self hxy)
      (ih fun x hx y hy => hrs x (List.mem_cons_of_mem _ hx) y (List.mem_cons_of_mem _ hy))

theorem forall_values_iff {p : Json → Prop} {es fs ds : List (Text × Json)} (hperm : es.Perm fs)
    (hv : List.Forall₂ Same (fs.map Prod.snd) (ds.map Prod.snd))
    (hp : ∀ e ∈ es, ∀ w, Same e.2 w → (p e.2 ↔ p w)) : (∀ e ∈ es, p e.2) ↔ ∀ d ∈ ds, p d.2 := by
  have h := forall₂_forall_iff hv (p := p) (q := p) fun v hm w hvw => by
    obtain ⟨e,he,rfl⟩ := List.mem_map.mp hm
    exact hp e (hperm.mem_iff.mpr he) w hvw
  simpa only [List.forall_mem_map,hperm.mem_iff] using h

theorem Same.every_iff {p : Json → Prop} (hp : ∀ a b, Same a b → (p a ↔ p b)) (h : Same a b) :
    Every p a ↔ Every p b := by
  induction a generalizing b with
  | null => cases h; rfl
  | bool => cases h; rfl
  | int => cases h; rfl
  | str => cases h; rfl
  | list items ih =>
    have hab := hp _ _ h
    cases h with
    | list hxy =>
      rw [every_list,every_list,hab]
      exact and_congr Iff.rfl (forall₂_forall_iff hxy fun v hv w hvw => ih v hv hvw)
  | dict entries ih =>
    have hab := hp _ _ h
    cases h with
    | dict hperm _ hv =>
      rw [every_dict,every_dict,hab]
      exact and_congr Iff.rfl (forall_values_iff hperm hv fun e he w hew => ih e he hew)

theorem Same.depth_le_iff {p q r n : Nat} (h : Same a b) : depth p q r a ≤ n ↔ depth p q r b ≤ n := by
  induction a generalizing b n with
  | null => cases h; rfl
  | bool => cases h; rfl
  | int => cases h; rfl
  | str => cases h; rfl
  | list items ih =>
    cases h with
    | list hxy =>
      rw [depth_list_le,depth_list_le]
      exact and_congr Iff.rfl (forall₂_forall_iff hxy fun v hv w hvw => ih v hv hvw)
  | dict entries ih =>
    cases h with
    | dict hperm _ hv =>
      rw [depth_dict_le,depth_dict_le]
      exact and_congr Iff.rfl
        (forall_values_iff (p := fun v => depth p q r v ≤ n-r) hperm hv fun e he w hew => ih e he hew)

theorem forall₂_entries {es ds : List (Text × Json)} (hk : es.map Prod.fst = ds.map Prod.fst)
    (hv : List.Forall₂ Same (es.map Prod.snd) (ds.map Prod.snd)) :
    List.Forall₂ (fun e d => e.1 = d.1 ∧ Same e.2 d.2) es ds := by
  induction es generalizing ds with
  | nil => cases ds <;> simp_all
  | cons e es ih =>
    cases ds with
    | nil => simp at hk
    | cons d ds =>
      rw [List.map_cons,List.map_cons,List.cons.injEq] at hk
      rw [List.map_cons,List.map_cons,List.forall₂_cons] at hv
      exact .cons ⟨hk.1,hv.1⟩ (ih hk.2 hv.2)

theorem same_dict {es fs ds : List (Text × Json)} (hperm : es.Perm fs)
    (h : List.Forall₂ (fun f d => f.1 = d.1 ∧ Same f.2 d.2) fs ds) : Same (.dict es) (.dict ds) := by
  refine .dict hperm ?_ ?_
  · rw [← List.forall₂_eq_eq_eq,List.forall₂_map_left_iff,List.forall₂_map_right_iff]
    exact h.imp fun _ _ hfd => hfd.1
  · rw [List.forall₂_map_left_iff,List.forall₂_map_right_iff]
    exact h.imp fun _ _ hfd => hfd.2

theorem Same.refl (v : Json) : Same v v := by
  induction v with
  | null => exact .null
  | bool b => exact .bool b
  | int n => exact .int n
  | str t => exact .str t
  | list items ih => exact .list (List.forall₂_same.mpr ih)
  | dict entries ih => exact same_dict (.refl _) (List.forall₂_same.mpr fun e he => ⟨rfl,ih e he⟩)

/-- Two objects with the same distinct keys in the same order agree entry by entry. -/
theorem Same.values {es ds : List (Text × Json)} (h : Same (.dict es) (.dict ds))
    (hn : (es.map Prod.fst).Nodup) (hk : es.map Prod.fst = ds.map Prod.fst) :
    List.Forall₂ Same (es.map Prod.snd) (ds.map Prod.snd) := by
  cases h with
  | @dict _ fs _ hperm hfd hv =>
    have hkeys := List.forall₂_eq_eq_eq.symm ▸ hk.trans hfd.symm
    rw [List.forall₂_map_left_iff,List.forall₂_map_right_iff] at hkeys
    have heq : es = fs := by
      rw [← List.forall₂_eq_eq_eq]
      exact forall₂_imp_mem hkeys fun e he f hf hef =>
        List.inj_on_of_nodup_map hn he (hperm.mem_iff.mpr hf) hef
    exact heq ▸ hv

theorem same_dict_of_perm {α : Type} {es ds : List (Text × Json)} {f g : Text × Json → Text × α}
    (hf : ∀ e, (f e).1 = e.1) (hg : ∀ d, (g d).1 = d.1) (hperm : (es.map f).Perm (ds.map g))
    (hs : ∀ e ∈ es, ∀ d ∈ ds, (f e).2 = (g d).2 → Same e.2 d.2) : Same (.dict es) (.dict ds) := by
  have hcomp := congrFun (congrFun (List.eq_map_comp_perm f) (ds.map g)) es
  obtain ⟨fs,hfs,hp⟩ := hcomp.mpr hperm.symm
  have heq := List.forall₂_eq_eq_eq.symm ▸ hfs
  rw [List.forall₂_map_left_iff,List.forall₂_map_right_iff] at heq
  refine same_dict hp.symm (forall₂_imp_mem heq.flip fun e he d hd hed => ⟨?_,?_⟩)
  · rw [← hf e,← hg d]
    exact congrArg Prod.fst hed.symm
  · exact hs e (hp.mem_iff.mp he) d hd (congrArg Prod.snd hed.symm)

theorem same_sortKeys (v : Json) : Same v (sortKeys v) := by
  induction v with
  | null => exact .null
  | bool b => exact .bool b
  | int n => exact .int n
  | str t => exact .str t
  | list items ih =>
    rw [sortKeys,sortItems_eq]
    exact .list (List.forall₂_map_right_iff.mpr (List.forall₂_same.mpr ih))
  | dict entries ih =>
    rw [sortKeys,sortEntries_eq]
    refine same_dict_of_perm (f := fun e => (e.1,sortKeys e.2)) (g := id) (fun _ => rfl) (fun _ => rfl) ?_ ?_
    · rw [List.map_id]
      exact (List.perm_insertionSort _ _).symm
    · rintro e he d - hed
      exact hed ▸ ih e he

theorem same_of_sortKeys_eq (h : sortKeys a = sortKeys b) : Same a b := by
  induction a generalizing b with
  | null => cases b <;> simp only [sortKeys,reduceCtorEq] at h; exact .null
  | bool => cases b <;> simp only [sortKeys,reduceCtorEq] at h; exact h ▸ .bool _
  | int => cases b <;> simp only [sortKeys,reduceCtorEq] at h; exact h ▸ .int _
  | str => cases b <;> simp only [sortKeys,reduceCtorEq] at h; exact h ▸ .str _
  | list items ih =>
    cases b <;> simp only [sortKeys,reduceCtorEq,sortItems_eq,list.injEq] at h
    rw [← List.forall₂_eq_eq_eq,List.forall₂_map_left_iff,List.forall₂_map_right_iff] at h
    exact .list (forall₂_imp_mem h fun v hv w _ hvw => ih v hv hvw)
  | dict entries ih =>
    cases b <;> simp only [sortKeys,reduceCtorEq,sortEntries_eq,dict.injEq] at h
    rename_i ds
    have hperm := ((List.perm_insertionSort _ _).symm.trans (.of_eq h)).trans (List.perm_insertionSort _ _)
    exact same_dict_of_perm (f := fun e => (e.1,sortKeys e.2)) (g := fun d => (d.1,sortKeys d.2))
      (fun _ => rfl) (fun _ => rfl) hperm fun e he d _ hed => ih e he hed

theorem insertionSort_eq_of_perm {α : Type} {es ds : List (Text × α)} (hk : (es.map Prod.fst).Nodup)
    (hperm : es.Perm ds) :
    es.insertionSort (fun e d => e.1 ≤ d.1) = ds.insertionSort fun e d => e.1 ≤ d.1 := by
  have total : Std.Total fun e d : Text × α => e.1 ≤ d.1 := ⟨fun e d => le_total e.1 d.1⟩
  have trans : IsTrans (Text × α) fun e d => e.1 ≤ d.1 := ⟨fun _ _ _ => le_trans⟩
  refine List.Perm.eq_of_pairwise ?_ (List.pairwise_insertionSort _ _) (List.pairwise_insertionSort _ _)
    (((List.perm_insertionSort _ _).trans hperm).trans (List.perm_insertionSort _ _).symm)
  intro e d he hd hed hde
  rw [List.mem_insertionSort] at he hd
  exact List.inj_on_of_nodup_map hk he (hperm.mem_iff.mpr hd) (le_antisymm hed hde)

theorem Same.sortKeys_eq (ha : Every KeysNodup a) (h : Same a b) : sortKeys a = sortKeys b := by
  induction a generalizing b with
  | null => cases h; rfl
  | bool => cases h; rfl
  | int => cases h; rfl
  | str => cases h; rfl
  | list items ih =>
    cases h with
    | list hxy =>
      rw [every_list] at ha
      rw [sortKeys,sortKeys,sortItems_eq,sortItems_eq]
      congr 1
      rw [← List.forall₂_eq_eq_eq,List.forall₂_map_left_iff,List.forall₂_map_right_iff]
      exact forall₂_imp_mem hxy fun v hv w _ hvw => ih v hv (ha.2 v hv) hvw
  | dict entries ih =>
    cases h with
    | @dict _ fs ds hperm hk hv =>
      rw [every_dict] at ha
      rw [sortKeys,sortKeys,sortEntries_eq,sortEntries_eq]
      congr 1
      have hfd : fs.map (fun e => (e.1,sortKeys e.2)) = ds.map fun e => (e.1,sortKeys e.2) := by
        rw [← List.forall₂_eq_eq_eq,List.forall₂_map_left_iff,List.forall₂_map_right_iff]
        refine forall₂_imp_mem (forall₂_entries hk hv) fun e he d _ hed => Prod.ext hed.1 ?_
        have hm := hperm.mem_iff.mpr he
        exact ih e hm (ha.2 e hm) hed.2
      rw [← hfd]
      refine insertionSort_eq_of_perm ?_ (hperm.map _)
      rw [List.map_map]
      exact ha.1

theorem Same.keysNodup_iff (h : Same a b) : KeysNodup a ↔ KeysNodup b := by
  cases h with
  | dict hperm hk _ =>
    simp only [KeysNodup,← hk]
    exact (hperm.map _).nodup_iff
  | _ => rfl

theorem Same.every_keysNodup_iff (h : Same a b) : Every KeysNodup a ↔ Every KeysNodup b :=
  h.every_iff fun _ _ => Same.keysNodup_iff

theorem Same.mapText {f : Text → Text} (h : Same a b) : Same (a.mapText f) (b.mapText f) := by
  induction a generalizing b with
  | null => cases h; exact .null
  | bool => cases h; exact .bool _
  | int => cases h; exact .int _
  | str => cases h; exact .str _
  | list items ih =>
    cases h with
    | list hxy =>
      rw [Json.mapText,Json.mapText,mapItems_eq,mapItems_eq]
      refine .list ?_
      rw [List.forall₂_map_left_iff,List.forall₂_map_right_iff]
      exact forall₂_imp_mem hxy fun v hv w _ hvw => ih v hv hvw
  | dict entries ih =>
    cases h with
    | @dict _ fs ds hperm hk hv =>
      rw [Json.mapText,Json.mapText,mapEntries_eq,mapEntries_eq]
      refine same_dict (hperm.map _) ?_
      rw [List.forall₂_map_left_iff,List.forall₂_map_right_iff]
      exact forall₂_imp_mem (forall₂_entries hk hv) fun e he d _ hed =>
        ⟨congrArg f hed.1,ih e (hperm.mem_iff.mpr he) hed.2⟩

end same

/-! ## Equality -/

mutual
/-- Equality as values of the embedding: entries in the same order. -/
def beq : Json → Json → Bool
  | .null, .null => true
  | .bool b, .bool c => b == c
  | .int n, .int m => n == m
  | .str t, .str u => t == u
  | .list items, .list others => beqItems items others
  | .dict entries, .dict others => beqEntries entries others
  | _, _ => false

def beqItems : List Json → List Json → Bool
  | [], [] => true
  | v::items, w::others => beq v w && beqItems items others
  | _, _ => false

def beqEntries : List (Text × Json) → List (Text × Json) → Bool
  | [], [] => true
  | (key,v)::entries, (other,w)::others => key == other && beq v w && beqEntries entries others
  | _, _ => false
end

mutual
theorem eq_of_beq {v w : Json} (h : beq v w = true) : v = w := by
  cases v <;> cases w <;> simp only [beq,Bool.false_eq_true,beq_iff_eq] at h <;> try first | rfl | rw [h]
  · rw [eq_of_beqItems h]
  · rw [eq_of_beqEntries h]

theorem eq_of_beqItems {vs ws : List Json} (h : beqItems vs ws = true) : vs = ws := by
  cases vs <;> cases ws <;> simp only [beqItems,Bool.false_eq_true,Bool.and_eq_true] at h
  · rfl
  · rw [eq_of_beq h.1,eq_of_beqItems h.2]

theorem eq_of_beqEntries {vs ws : List (Text × Json)} (h : beqEntries vs ws = true) : vs = ws := by
  cases vs <;> cases ws <;> simp only [beqEntries,Bool.false_eq_true,Bool.and_eq_true,beq_iff_eq] at h
  · rfl
  · obtain ⟨⟨hk,hv⟩,hr⟩ := h
    rw [eq_of_beqEntries hr,Prod.ext hk (eq_of_beq hv)]
end

mutual
theorem beq_self (v : Json) : beq v v = true := by
  cases v <;> simp only [beq,beq_self_eq_true]
  · exact beqItems_self _
  · exact beqEntries_self _

theorem beqItems_self (vs : List Json) : beqItems vs vs = true := by
  cases vs with
  | nil => rfl
  | cons v vs => simp only [beqItems,beq_self v,beqItems_self vs,Bool.and_self]

theorem beqEntries_self (vs : List (Text × Json)) : beqEntries vs vs = true := by
  cases vs with
  | nil => rfl
  | cons e vs => simp only [beqEntries,beq_self e.2,beqEntries_self vs,beq_self_eq_true,Bool.and_self]
end

theorem beq_true_iff {v w : Json} : beq v w = true ↔ v = w := by
  constructor
  · exact eq_of_beq
  · rintro rfl
    exact beq_self v

instance decidableEqJson : DecidableEq Json := fun _ _ => decidable_of_iff _ beq_true_iff

end Json

end ParaWorks.Lib
