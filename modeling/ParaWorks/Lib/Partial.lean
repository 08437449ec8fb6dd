import Mathlib

/-!
# Loops that may raise

Maps and folds over a list in which a step may have no result.
-/

namespace ParaWorks.Lib

variable {α β γ σ : Type}

theorem mapM_nil_option (f : α → Option β) : [].mapM f = some [] := rfl

theorem mapM_cons_option (f : α → Option β) (x : α) (xs : List α) :
    (x::xs).mapM f = (f x).bind fun y => (xs.mapM f).map (y::·) := by
  rw [List.mapM_cons]
  cases f x with
  | none => rfl
  | some y => cases xs.mapM f <;> rfl

/-- A map succeeds with the results of its items. -/
theorem mapM_eq_some_iff {f : α → Option β} {xs : List α} {ys : List β} :
    xs.mapM f = some ys ↔ List.Forall₂ (fun x y => f x = some y) xs ys := by
  induction xs generalizing ys with
  | nil =>
    rw [mapM_nil_option,Option.some.injEq,List.forall₂_nil_left_iff]
    exact eq_comm
  | cons x xs ih =>
    rw [mapM_cons_option,List.forall₂_cons_left_iff,Option.bind_eq_some_iff]
    simp only [Option.map_eq_some_iff,ih]
    constructor
    · rintro ⟨y,hy,ys,hys,rfl⟩
      exact ⟨y,ys,hy,hys,rfl⟩
    · rintro ⟨y,ys,hy,hys,rfl⟩
      exact ⟨y,hy,ys,hys,rfl⟩

/-- A function that answers for every item. -/
theorem exists_mapM_eq_some {f : α → Option β} {xs : List α} (h : ∀ x ∈ xs, ∃ y, f x = some y) :
    ∃ ys, xs.mapM f = some ys := by
  induction xs with
  | nil => exact ⟨[],rfl⟩
  | cons x xs ih =>
    rw [List.forall_mem_cons] at h
    obtain ⟨y,hy⟩ := h.1
    obtain ⟨ys,hys⟩ := ih h.2
    exact ⟨y::ys,by rw [mapM_cons_option,hy,hys]; rfl⟩

theorem exceptBind_eq_ok {ε : Type} {x : Except ε α} {f : α → Except ε β} {b : β} :
    x.bind f = .ok b ↔ ∃ a, x = .ok a ∧ f a = .ok b := by
  cases x <;> simp [Except.bind]

theorem exceptBind_eq_error {ε : Type} {x : Except ε α} {f : α → Except ε β} {e : ε} :
    x.bind f = .error e ↔ x = .error e ∨ ∃ a, x = .ok a ∧ f a = .error e := by
  cases x <;> simp [Except.bind]

theorem exceptMap_eq_error {ε : Type} {x : Except ε α} {f : α → β} {e : ε} : x.map f = .error e ↔ x = .error e := by
  cases x <;> simp [Except.map]

/-- A map succeeds with the results of its items. -/
theorem mapM_eq_ok_iff {ε : Type} {f : α → Except ε β} {xs : List α} {ys : List β} :
    xs.mapM f = .ok ys ↔ List.Forall₂ (fun x y => f x = .ok y) xs ys := by
  induction xs generalizing ys with
  | nil =>
    rw [List.mapM_nil,List.forall₂_nil_left_iff]
    exact ⟨fun h => (Except.ok.inj h).symm,fun h => congrArg Except.ok h.symm⟩
  | cons x xs ih =>
    rw [List.mapM_cons,List.forall₂_cons_left_iff]
    constructor
    · intro h
      obtain ⟨y,hy,h⟩ := exceptBind_eq_ok.mp h
      obtain ⟨rest,hrest,h⟩ := exceptBind_eq_ok.mp h
      exact ⟨y,rest,hy,ih.mp hrest,(Except.ok.inj h).symm⟩
    · rintro ⟨y,rest,hy,hrest,rfl⟩
      rw [hy,ih.mpr hrest]
      rfl

/-- A map fails as one of its items does. -/
theorem mapM_eq_error {ε : Type} {f : α → Except ε β} {xs : List α} {e : ε} (h : xs.mapM f = .error e) :
    ∃ x ∈ xs, f x = .error e := by
  induction xs with
  | nil => cases h
  | cons x xs ih =>
    rw [List.mapM_cons] at h
    rcases exceptBind_eq_error.mp h with h | ⟨y,-,h⟩
    · exact ⟨x,List.mem_cons_self,h⟩
    · rcases exceptBind_eq_error.mp h with h | ⟨rest,-,h⟩
      · obtain ⟨x',hx',h⟩ := ih h
        exact ⟨x',List.mem_cons_of_mem _ hx',h⟩
      · cases h

theorem mapM_congr_option {f g : α → Option β} {xs : List α} (h : ∀ x ∈ xs, f x = g x) : xs.mapM f = xs.mapM g := by
  induction xs with
  | nil => rfl
  | cons x xs ih =>
    rw [List.forall_mem_cons] at h
    rw [mapM_cons_option,mapM_cons_option,h.1,ih h.2]

theorem mapM_some_map (f : α → β) (xs : List α) : (xs.mapM fun x => some (f x)) = some (xs.map f) := by
  induction xs with
  | nil => rfl
  | cons x xs ih => rw [mapM_cons_option,ih]; rfl

theorem mapM_append_option (f : α → Option β) (xs ys : List α) :
    (xs++ys).mapM f = (xs.mapM f).bind fun us => (ys.mapM f).map (us++·) := by
  induction xs with
  | nil => simp
  | cons x xs ih =>
    rw [List.cons_append,mapM_cons_option,mapM_cons_option,ih]
    cases f x with
    | none => rfl
    | some u =>
      cases xs.mapM f with
      | none => rfl
      | some us => cases ys.mapM f <;> rfl

/-- One map after another is the map of both steps. -/
theorem mapM_bind_mapM (f : α → Option β) (g : β → Option γ) (xs : List α) :
    ((xs.mapM f).bind fun ys => ys.mapM g) = xs.mapM fun x => (f x).bind g := by
  induction xs with
  | nil => rfl
  | cons x xs ih =>
    rw [mapM_cons_option,mapM_cons_option,← ih]
    cases f x with
    | none => rfl
    | some y =>
      rw [Option.bind_some,Option.bind_some]
      cases xs.mapM f with
      | none => cases hg : g y <;> simp
      | some ys => rw [Option.map_some,Option.bind_some,Option.bind_some,mapM_cons_option]

theorem foldlM_cons_option (f : σ → β → Option σ) (s : σ) (b : β) (bs : List β) :
    (b::bs).foldlM f s = (f s b).bind fun s => bs.foldlM f s := rfl

/-- Passes over a list, each a map, are one map of the passes over each item. -/
theorem foldlM_mapM (f : β → α → Option α) (bs : List β) (xs : List α) :
    bs.foldlM (fun xs b => xs.mapM (f b)) xs = xs.mapM fun x => bs.foldlM (fun x b => f b x) x := by
  induction bs generalizing xs with
  | nil =>
    change some xs = xs.mapM fun x => some (id x)
    rw [mapM_some_map,List.map_id]
  | cons b bs ih =>
    rw [foldlM_cons_option]
    simp only [ih,foldlM_cons_option]
    exact mapM_bind_mapM (f b) _ xs

/-- What every step keeps, the loop keeps. -/
theorem foldlM_keeps {f : σ → β → Option σ} {P : σ → Prop} {s s' : σ} {bs : List β}
    (hstep : ∀ s b s', f s b = some s' → P s → P s') (h : bs.foldlM f s = some s') (hs : P s) : P s' := by
  induction bs generalizing s with
  | nil =>
    obtain rfl : s = s' := by simpa using h
    exact hs
  | cons b bs ih =>
    rw [foldlM_cons_option] at h
    obtain ⟨t,ht,hrest⟩ := Option.bind_eq_some_iff.mp h
    exact ih hrest (hstep s b t ht hs)

/-- A loop that sees a part of the state and does a step on condition. -/
theorem foldlM_sim {τ : Type} {f : σ → β → Option σ} {g : τ → β → Option τ} {q : β → Prop} [DecidablePred q]
    (view : σ → τ) (hstep : ∀ s b, (f s b).map view = if q b then g (view s) b else none) (s : σ) (bs : List β) :
    (bs.foldlM f s).map view = if ∀ b ∈ bs, q b then bs.foldlM g (view s) else none := by
  induction bs generalizing s with
  | nil => simp
  | cons b bs ih =>
    rw [foldlM_cons_option,foldlM_cons_option,Option.map_bind]
    simp only [Function.comp_def,ih,List.forall_mem_cons]
    have hb := hstep s b
    by_cases hq : q b
    · rw [if_pos hq] at hb
      rw [← hb]
      cases f s b <;> simp [hq]
    · rw [if_neg hq,Option.map_eq_none_iff] at hb
      simp [hb,hq]

/-- Items that change nothing can be left out of a loop. -/
theorem foldlM_filter {f : σ → β → Option σ} {q : β → Bool} (P : σ → Prop) {s : σ} {bs : List β}
    (hkeep : ∀ s b s', P s → f s b = some s' → P s') (hskip : ∀ s b, P s → q b = false → f s b = some s) (hs : P s) :
    bs.foldlM f s = (bs.filter q).foldlM f s := by
  induction bs generalizing s with
  | nil => rfl
  | cons b bs ih =>
    by_cases hq : q b = true
    · rw [List.filter_cons_of_pos hq,foldlM_cons_option,foldlM_cons_option]
      cases hf : f s b with
      | none => rfl
      | some t => exact ih (hkeep s b t hs hf)
    · rw [List.filter_cons_of_neg hq,foldlM_cons_option,hskip s b hs (by simpa using hq),Option.bind_some]
      exact ih hs

/-- A map that keeps the items to be removed can come after their removal. -/
theorem mapM_filter_option {f : α → Option α} {q : α → Bool} {xs : List α} (hq : ∀ x y, f x = some y → q y = q x)
    (hsome : ∀ x ∈ xs, q x = false → f x = some x) : (xs.mapM f).map (·.filter q) = (xs.filter q).mapM f := by
  induction xs with
  | nil => rfl
  | cons x xs ih =>
    rw [List.forall_mem_cons] at hsome
    rw [mapM_cons_option]
    by_cases hx : q x = true
    · rw [List.filter_cons_of_pos hx,mapM_cons_option,← ih hsome.2]
      cases hf : f x with
      | none => rfl
      | some y =>
        have hy : q y = true := (hq x y hf).trans hx
        cases xs.mapM f with
        | none => rfl
        | some ys => simp [List.filter_cons_of_pos hy]
    · rw [List.filter_cons_of_neg hx,← ih hsome.2,hsome.1 (by simpa using hx),Option.bind_some,Option.map_map]
      apply congrArg (Option.map · _)
      funext ys
      exact List.filter_cons_of_neg hx

/-! ## Lists item by item -/

theorem filterMap_sublist_map {f : α → Option β} {g : α → β} (h : ∀ x y, f x = some y → y = g x) (xs : List α) :
    (xs.filterMap f).Sublist (xs.map g) := by
  induction xs with
  | nil => exact .slnil
  | cons x xs ih =>
    cases hf : f x with
    | none =>
      rw [List.filterMap_cons_none hf]
      exact ih.cons _
    | some y =>
      rw [List.filterMap_cons_some hf,h x y hf]
      exact ih.cons_cons _

theorem forall₂_mem_right {R : α → β → Prop} {xs : List α} {ys : List β} (h : List.Forall₂ R xs ys) {y : β}
    (hy : y ∈ ys) : ∃ x ∈ xs, R x y := by
  induction h with
  | nil => cases hy
  | cons hxy _ ih =>
    rcases List.mem_cons.mp hy with rfl | hy
    · exact ⟨_,List.mem_cons_self,hxy⟩
    · obtain ⟨x,hx,hr⟩ := ih hy
      exact ⟨x,List.mem_cons_of_mem _ hx,hr⟩

theorem forall₂_mem_left {R : α → β → Prop} {xs : List α} {ys : List β} (h : List.Forall₂ R xs ys) {x : α}
    (hx : x ∈ xs) : ∃ y ∈ ys, R x y := by
  obtain ⟨y,hy,hr⟩ := forall₂_mem_right h.flip hx
  exact ⟨y,hy,hr⟩

theorem forall₂_map_eq {R : α → β → Prop} {f : α → γ} {g : β → γ} {xs : List α} {ys : List β}
    (h : List.Forall₂ R xs ys) (hfg : ∀ x y, R x y → g y = f x) : ys.map g = xs.map f := by
  induction h with
  | nil => rfl
  | cons hxy _ ih => rw [List.map_cons,List.map_cons,hfg _ _ hxy,ih]

theorem forall₂_comp {R : α → β → Prop} {S : β → γ → Prop} {T : α → γ → Prop} {xs : List α} {ys : List β} {zs : List γ}
    (h : List.Forall₂ R xs ys) (h' : List.Forall₂ S ys zs) (hT : ∀ x y z, R x y → S y z → T x z) :
    List.Forall₂ T xs zs := by
  induction h generalizing zs with
  | nil =>
    obtain rfl := List.forall₂_nil_left_iff.mp h'
    exact .nil
  | cons hxy _ ih =>
    obtain ⟨z,zs,hyz,hrest,rfl⟩ := List.forall₂_cons_left_iff.mp h'
    exact .cons (hT _ _ _ hxy hyz) (ih hrest)

end ParaWorks.Lib
