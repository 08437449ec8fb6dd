import Mathlib

/-!
# Programs that raise without rolling back

`EStateM` keeps the state a program reached when it raised, which is what an exception does to
mutable state. Partial effects are therefore part of what a program means here. The rules below
give the weakest precondition of such a program for two postconditions, one for a normal return
and one for an error.
-/

namespace ParaWorks.Lib

variable {ε σ α β : Type}

/-- The state from which `m` returns into `Q` or raises into `E`. -/
def wp (m : EStateM ε σ α) (Q : α → σ → Prop) (E : ε → σ → Prop) (s : σ) : Prop :=
  match m s with
  | .ok a s' => Q a s'
  | .error e s' => E e s'

/-- `m` keeps the assertion `P` whether it returns or raises. -/
def Keeps (P : σ → Prop) (m : EStateM ε σ α) : Prop :=
  ∀ s, P s → wp m (fun _ => P) (fun _ => P) s

/-- A check of the source: `if not c: raise e`. -/
def require (c : Bool) (e : ε) : EStateM ε σ Unit :=
  if c then pure () else throw e

/-- An optional value that must be present. -/
def present (o : Option α) (e : ε) : EStateM ε σ α :=
  match o with
  | some a => pure a
  | none => throw e

/-- The state after `m`, returned or raised. -/
def finalState (m : EStateM ε σ α) (s : σ) : σ :=
  match m s with
  | .ok _ s' => s'
  | .error _ s' => s'

def succeeds (m : EStateM ε σ α) (s : σ) : Prop :=
  ∃ a s', m s = .ok a s'

theorem wp_ok {m : EStateM ε σ α} {Q : α → σ → Prop} {E : ε → σ → Prop} {s s' : σ} {a : α}
    (h : wp m Q E s) (hm : m s = .ok a s') : Q a s' := by
  simpa only [wp,hm] using h

theorem wp_error {m : EStateM ε σ α} {Q : α → σ → Prop} {E : ε → σ → Prop} {s s' : σ} {e : ε}
    (h : wp m Q E s) (hm : m s = .error e s') : E e s' := by
  simpa only [wp,hm] using h

theorem wp_mono {m : EStateM ε σ α} {Q Q' : α → σ → Prop} {E E' : ε → σ → Prop} {s : σ}
    (h : wp m Q E s) (hq : ∀ a s', Q a s' → Q' a s') (he : ∀ e s', E e s' → E' e s') :
    wp m Q' E' s := by
  unfold wp at h ⊢
  cases hm : m s with
  | ok a s' =>
    rw [hm] at h
    exact hq a s' h
  | error e s' =>
    rw [hm] at h
    exact he e s' h

theorem wp_and {m : EStateM ε σ α} {Q Q' : α → σ → Prop} {E E' : ε → σ → Prop} {s : σ}
    (h : wp m Q E s) (h' : wp m Q' E' s) :
    wp m (fun a s' => Q a s' ∧ Q' a s') (fun e s' => E e s' ∧ E' e s') s := by
  unfold wp at h h' ⊢
  cases hm : m s <;> rw [hm] at h h' <;> exact ⟨h,h'⟩

@[simp] theorem wp_pure (a : α) (Q : α → σ → Prop) (E : ε → σ → Prop) (s : σ) :
    wp (pure a) Q E s ↔ Q a s := Iff.rfl

@[simp] theorem wp_throw (e : ε) (Q : α → σ → Prop) (E : ε → σ → Prop) (s : σ) :
    wp (throw e) Q E s ↔ E e s := Iff.rfl

@[simp] theorem wp_get (Q : σ → σ → Prop) (E : ε → σ → Prop) (s : σ) :
    wp get Q E s ↔ Q s s := Iff.rfl

@[simp] theorem wp_set (t : σ) (Q : PUnit → σ → Prop) (E : ε → σ → Prop) (s : σ) :
    wp (set t) Q E s ↔ Q PUnit.unit t := Iff.rfl

@[simp] theorem wp_modify (f : σ → σ) (Q : PUnit → σ → Prop) (E : ε → σ → Prop) (s : σ) :
    wp (modify f) Q E s ↔ Q PUnit.unit (f s) := Iff.rfl

@[simp] theorem wp_bind (m : EStateM ε σ α) (f : α → EStateM ε σ β)
    (Q : β → σ → Prop) (E : ε → σ → Prop) (s : σ) :
    wp (m >>= f) Q E s ↔ wp m (fun a => wp (f a) Q E) E s := by
  unfold wp
  change (match EStateM.bind m f s with
    | .ok a s' => Q a s'
    | .error e s' => E e s') ↔ _
  unfold EStateM.bind
  cases m s <;> exact Iff.rfl

@[simp] theorem wp_map (g : α → β) (m : EStateM ε σ α) (Q : β → σ → Prop) (E : ε → σ → Prop)
    (s : σ) : wp (g <$> m) Q E s ↔ wp m (fun a => Q (g a)) E s := by
  rw [map_eq_pure_bind,wp_bind]
  exact Iff.rfl

@[simp] theorem wp_require (c : Bool) (e : ε) (Q : Unit → σ → Prop) (E : ε → σ → Prop) (s : σ) :
    wp (require c e) Q E s ↔ (c = true → Q () s) ∧ (c = false → E e s) := by
  cases c <;> simp [require]

@[simp] theorem wp_present (o : Option α) (e : ε) (Q : α → σ → Prop) (E : ε → σ → Prop) (s : σ) :
    wp (present o e) Q E s ↔ (∀ a, o = some a → Q a s) ∧ (o = none → E e s) := by
  cases o <;> simp [present]

@[simp] theorem wp_ite (c : Prop) [Decidable c] (m n : EStateM ε σ α)
    (Q : α → σ → Prop) (E : ε → σ → Prop) (s : σ) :
    wp (if c then m else n) Q E s ↔ (c → wp m Q E s) ∧ (¬c → wp n Q E s) := by
  split <;> simp_all

/-- A handler sees the state in which the body raised. -/
@[simp] theorem wp_tryCatch (m : EStateM ε σ α) (h : ε → EStateM ε σ α)
    (Q : α → σ → Prop) (E : ε → σ → Prop) (s : σ) :
    wp (tryCatch m h) Q E s ↔ wp m Q (fun e => wp (h e) Q E) s := by
  unfold wp
  change (match EStateM.tryCatch m h s with
    | .ok a s' => Q a s'
    | .error e s' => E e s') ↔ _
  unfold EStateM.tryCatch
  cases m s <;> exact Iff.rfl

/-! ## Sequencing -/

variable {Q : β → σ → Prop} {E : ε → σ → Prop} {s : σ}

theorem wp_seq {m : EStateM ε σ α} {k : α → EStateM ε σ β}
    (h : wp m (fun a => wp (k a) Q E) E s) : wp (m >>= k) Q E s :=
  (wp_bind m k Q E s).mpr h

/-- A check that fails raises in the state it was made in. -/
theorem wp_seq_require {c : Bool} {e : ε} {k : Unit → EStateM ε σ β} (he : E e s)
    (h : c = true → wp (k ()) Q E s) : wp (require c e >>= k) Q E s :=
  wp_seq ((wp_require c e _ E s).mpr ⟨h,fun _ => he⟩)

theorem wp_seq_present {o : Option α} {e : ε} {k : α → EStateM ε σ β} (he : E e s)
    (h : ∀ a, o = some a → wp (k a) Q E s) : wp (present o e >>= k) Q E s :=
  wp_seq ((wp_present o e _ E s).mpr ⟨h,fun _ => he⟩)

/-- As `wp_seq_require`, for an error case that depends on which check failed. -/
theorem wp_seq_check {c : Bool} {e : ε} {k : Unit → EStateM ε σ β} (he : c = false → E e s)
    (h : c = true → wp (k ()) Q E s) : wp (require c e >>= k) Q E s :=
  wp_seq ((wp_require c e _ E s).mpr ⟨h,he⟩)

theorem wp_seq_lookup {o : Option α} {e : ε} {k : α → EStateM ε σ β} (he : o = none → E e s)
    (h : ∀ a, o = some a → wp (k a) Q E s) : wp (present o e >>= k) Q E s :=
  wp_seq ((wp_present o e _ E s).mpr ⟨h,he⟩)

theorem wp_seq_get {k : σ → EStateM ε σ β} (h : wp (k s) Q E s) : wp (get >>= k) Q E s :=
  wp_seq h

theorem wp_seq_set {t : σ} {k : PUnit → EStateM ε σ β} (h : wp (k ⟨⟩) Q E t) : wp (set t >>= k) Q E s :=
  wp_seq h

theorem wp_seq_modify {f : σ → σ} {k : PUnit → EStateM ε σ β} (h : wp (k ⟨⟩) Q E (f s)) :
    wp (modify f >>= k) Q E s :=
  wp_seq h

theorem wp_seq_pure {a : α} {k : α → EStateM ε σ β} (h : wp (k a) Q E s) : wp (pure a >>= k) Q E s :=
  wp_seq h

theorem wp_finalState {m : EStateM ε σ α} {P : σ → Prop} {s : σ}
    (h : wp m (fun _ => P) (fun _ => P) s) : P (finalState m s) := by
  unfold wp at h
  unfold finalState
  cases hm : m s <;> simpa only [hm] using h

theorem wp_ignore_error {m : EStateM ε σ α} {Q : α → σ → Prop} {E : ε → σ → Prop} {s : σ} (h : wp m Q E s) :
    wp m Q (fun _ _ => True) s :=
  wp_mono h (fun _ _ hq => hq) fun _ _ _ => trivial

theorem not_succeeds {m : EStateM ε σ α} {s : σ} (h : wp m (fun _ _ => False) (fun _ _ => True) s) :
    ¬succeeds m s := by
  rintro ⟨a,s',hm⟩
  exact wp_ok h hm

theorem succeeds.finalState {m : EStateM ε σ α} {P : σ → Prop} {s : σ} (hs : succeeds m s)
    (h : wp m (fun _ => P) (fun _ _ => True) s) : P (finalState m s) := by
  obtain ⟨a,s',hm⟩ := hs
  have hp := wp_ok h hm
  simpa only [Lib.finalState,hm] using hp

theorem succeeds_of_wp {m : EStateM ε σ α} {P : σ → Prop} {s : σ}
    (h : wp m (fun _ => P) (fun _ _ => False) s) : succeeds m s ∧ P (finalState m s) := by
  cases hm : m s with
  | ok a s' =>
    refine ⟨⟨a,s',hm⟩,?_⟩
    have hp := wp_ok h hm
    simpa only [finalState,hm] using hp
  | error e s' => exact (wp_error h hm).elim

/-! ## Running a program -/

section final

variable {k : α → EStateM ε σ β}

@[simp] theorem finalState_require_bind {c : Bool} {e : ε} {k : Unit → EStateM ε σ β} :
    finalState (require c e >>= k) s = if c = true then finalState (k ()) s else s := by
  cases c <;> rfl

@[simp] theorem finalState_present_bind {o : Option α} {e : ε} :
    finalState (present o e >>= k) s = (o.map fun a => finalState (k a) s).getD s := by
  cases o <;> rfl

@[simp] theorem finalState_get_bind {k : σ → EStateM ε σ β} : finalState (get >>= k) s = finalState (k s) s := rfl

@[simp] theorem finalState_modify_bind {f : σ → σ} {k : PUnit → EStateM ε σ β} :
    finalState (modify f >>= k) s = finalState (k ⟨⟩) (f s) := rfl

@[simp] theorem finalState_require {c : Bool} {e : ε} : finalState (require c e) s = s := by
  cases c <;> rfl

end final

theorem Keeps.bind {P : σ → Prop} {m : EStateM ε σ α} {f : α → EStateM ε σ β}
    (hm : Keeps P m) (hf : ∀ a, Keeps P (f a)) : Keeps P (m >>= f) := by
  intro s hs
  rw [wp_bind]
  exact wp_mono (hm s hs) (fun a s' h => hf a s' h) (fun _ _ h => h)

theorem Keeps.require {P : σ → Prop} (c : Bool) (e : ε) :
    Keeps P (require c e : EStateM ε σ Unit) :=
  fun s hs => (wp_require c e _ _ s).mpr ⟨fun _ => hs,fun _ => hs⟩

theorem Keeps.get {P : σ → Prop} : Keeps P (get : EStateM ε σ σ) :=
  fun _ hs => hs

end ParaWorks.Lib
