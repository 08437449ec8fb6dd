/-!
# Runs of a command system

A total step function and the runs it has. An invariant is proved once, of one step.
-/

namespace ParaWorks.Lib

variable {σ κ : Type} {step : σ → κ → σ}

/-- The state a sequence of commands leads to. -/
def run (step : σ → κ → σ) (s : σ) (commands : List κ) : σ := commands.foldl step s

@[simp] theorem run_nil (s : σ) : run step s [] = s := rfl

@[simp] theorem run_cons (s : σ) (c : κ) (cs : List κ) : run step s (c::cs) = run step (step s c) cs := rfl

theorem run_append (s : σ) (cs ds : List κ) : run step s (cs++ds) = run step (run step s cs) ds :=
  List.foldl_append

/-- A run in stages: stage `k` is left by the commands `f k` for stage `k+1`. -/
theorem run_stages {P : Nat → σ → Prop} {f : Nat → List κ} {s : σ} (a n : Nat) (hs : P a s)
    (hstep : ∀ k s, a ≤ k → k < a+n → P k s → P (k+1) (run step s (f k))) :
    P (a+n) (run step s ((List.range' a n).flatMap f)) := by
  induction n with
  | zero => exact hs
  | succ n ih =>
    have hprefix := ih fun k s hle hlt => hstep k s hle (by omega)
    rw [List.range'_1_concat,List.flatMap_append,run_append,List.flatMap_singleton]
    exact hstep (a+n) _ (by omega) (by omega) hprefix

/-- Every command of the run meets `ok` in the state it is applied to. -/
def RunMeets (step : σ → κ → σ) (ok : σ → κ → Prop) : σ → List κ → Prop
  | _, [] => True
  | s, c::cs => ok s c ∧ RunMeets step ok (step s c) cs

instance RunMeets.decidable {ok : σ → κ → Prop} [∀ s c, Decidable (ok s c)] :
    ∀ (s : σ) (cs : List κ), Decidable (RunMeets step ok s cs)
  | _, [] => isTrue trivial
  | s, c::cs =>
    have : Decidable (RunMeets step ok (step s c) cs) := RunMeets.decidable (step s c) cs
    inferInstanceAs (Decidable (ok s c ∧ RunMeets step ok (step s c) cs))

theorem run_invariant_of {P : σ → Prop} {ok : σ → κ → Prop}
    (hstep : ∀ s c, ok s c → P s → P (step s c)) {s : σ} {cs : List κ}
    (hok : RunMeets step ok s cs) (hs : P s) : P (run step s cs) := by
  induction cs generalizing s with
  | nil => exact hs
  | cons c cs ih => exact ih hok.2 (hstep s c hok.1 hs)

/-- What an invariant says of each step of a run that meets `ok`. -/
theorem RunMeets.of_invariant {P : σ → Prop} {ok ok' : σ → κ → Prop}
    (hstep : ∀ s c, ok s c → P s → ok' s c ∧ P (step s c)) {s : σ} {cs : List κ}
    (hok : RunMeets step ok s cs) (hs : P s) : RunMeets step ok' s cs := by
  induction cs generalizing s with
  | nil => trivial
  | cons c cs ih =>
    obtain ⟨hc,hs'⟩ := hstep s c hok.1 hs
    exact ⟨hc,ih hok.2 hs'⟩

theorem run_invariant {P : σ → Prop} (hstep : ∀ s c, P s → P (step s c)) {s : σ} (hs : P s)
    (cs : List κ) : P (run step s cs) := by
  induction cs generalizing s with
  | nil => exact hs
  | cons c cs ih => exact ih (hstep s c hs)

theorem RunMeets.append {ok : σ → κ → Prop} {s : σ} {cs ds : List κ} :
    RunMeets step ok s (cs++ds) ↔ RunMeets step ok s cs ∧ RunMeets step ok (run step s cs) ds := by
  induction cs generalizing s with
  | nil => simp [RunMeets]
  | cons c cs ih =>
    change (ok s c ∧ RunMeets step ok (step s c) (cs++ds)) ↔
      (ok s c ∧ RunMeets step ok (step s c) cs) ∧ RunMeets step ok (run step (step s c) cs) ds
    rw [ih,and_assoc]

/-! ## Inevitable ends -/

section inevitable

variable {ok : σ → κ → Prop} {ended Q : σ → Prop}

/-- Every run of commands that `ok` allows ends, and in a state with `Q`. -/
inductive Inevitable (step : σ → κ → σ) (ok : σ → κ → Prop) (ended Q : σ → Prop) : σ → Prop where
  | here {s : σ} (h : ended s) (hq : Q s) : Inevitable step ok ended Q s
  | later {s : σ} (h : ¬ended s) (hnext : ∀ c, ok s c → Inevitable step ok ended Q (step s c)) :
    Inevitable step ok ended Q s

/-- An end is inevitable when an invariant of the allowed steps goes down a rank. -/
theorem inevitable_of_rank {J : σ → Prop} (rank : σ → Nat) (hq : ∀ s, J s → ended s → Q s)
    (hstep : ∀ s c, J s → ¬ended s → ok s c → J (step s c) ∧ rank (step s c) < rank s) :
    ∀ (n : Nat) (s : σ), rank s < n → J s → Inevitable step ok ended Q s := by
  intro n
  induction n with
  | zero => exact fun s hn => absurd hn (Nat.not_lt_zero _)
  | succ n ih =>
    intro s hn hs
    by_cases h : ended s
    · exact .here h (hq s hs h)
    · apply Inevitable.later h
      intro c hc
      obtain ⟨hj,hlt⟩ := hstep s c hs h hc
      exact ih _ (by omega) hj

theorem Inevitable.mono {Q' : σ → Prop} (hq : ∀ s, Q s → Q' s) {s : σ} (h : Inevitable step ok ended Q s) :
    Inevitable step ok ended Q' s := by
  induction h with
  | here h hs => exact .here h (hq _ hs)
  | later h _ ih => exact .later h ih

/-- An invariant that some allowed step always keeps reaches the end. -/
theorem Inevitable.exists_end {J : σ → Prop} (hj : ∀ s, J s → ¬ended s → ∃ c, ok s c ∧ J (step s c)) {s : σ}
    (h : Inevitable step ok ended Q s) (hs : J s) : ∃ s', J s' ∧ ended s' ∧ Q s' := by
  induction h with
  | here h hq => exact ⟨_,hs,h,hq⟩
  | later h _ ih =>
    obtain ⟨c,hc,hnext⟩ := hj _ hs h
    exact ih c hc hnext

end inevitable

end ParaWorks.Lib
