import ParaWorks.Rollout.Effects

/-!
# The state version as a compare-and-set token

Every writer but source invalidation moves the version whenever it changes the row.
-/

namespace ParaWorks.Rollout

open Lib

/-- The row stays as it is or gets a larger version. -/
def Advances (key : RolloutKey) (db db' : RolloutDb) : Prop :=
  peekOrDefault db' key = peekOrDefault db key ∨
    (peekOrDefault db key).stateVersion < (peekOrDefault db' key).stateVersion

theorem Advances.trans {key : RolloutKey} {db db' db'' : RolloutDb} (h : Advances key db db')
    (h' : Advances key db' db'') : Advances key db db'' := by
  rcases h with h | h <;> rcases h' with h' | h'
  · exact .inl (h'.trans h)
  · exact .inr (h ▸ h')
  · exact .inr (h'.symm ▸ h)
  · exact .inr (h.trans h')

theorem Advances.of_eq {key : RolloutKey} {db db' : RolloutDb} (h : db'.rollouts = db.rollouts) :
    Advances key db db' := .inl (by rw [peekOrDefault,peekOrDefault,h])

theorem peek_update {db db' : RolloutDb} {key key' : RolloutKey} {row : RolloutState}
    (h : db'.rollouts = Function.update db.rollouts key (some row)) :
    peekOrDefault db' key' = if key' = key then row else peekOrDefault db key' := by
  rw [peekOrDefault,h,Function.update_apply]
  split <;> rfl

theorem ensureRow_peek {db : RolloutDb} (key : RolloutKey) :
    wp (ensureRow key) (fun row db' => row = peekOrDefault db key ∧ ∀ k, peekOrDefault db' k = peekOrDefault db k)
      (fun _ _ => True) db := by
  unfold ensureRow
  apply wp_seq_get
  split
  · next row h => exact ⟨by rw [peekOrDefault, h, Option.getD_some],fun _ => rfl⟩
  · next h =>
    have hdefault : peekOrDefault db key = {} := by rw [peekOrDefault, h, Option.getD_none]
    refine wp_seq_set ⟨hdefault.symm,fun k => ?_⟩
    rw [peek_update rfl]
    split
    · next hk => rw [hk, hdefault]
    · rfl

/-- A percentage is authorized on the row the operator has read, and only there. -/
theorem authorizePercentage_spec {db : RolloutDb} (settings : Settings) (input : ControlInput) (percentage : Nat) :
    wp (authorizePercentage settings input percentage) (fun _ db' =>
      (peekOrDefault db input.key).stateVersion = input.expectedStateVersion ∧
      (∃ authorized, (snapshot input.key (peekOrDefault db input.key)).requireAuthorizationTransition percentage =
        .ok authorized ∧ (peekOrDefault db' input.key).maxAuthorizedPercentage = authorized) ∧
      ∀ k, k ≠ input.key → peekOrDefault db' k = peekOrDefault db k) (fun _ _ => True) db := by
  unfold authorizePercentage
  refine wp_seq (checkControlInput_spec fun runtime => ?_)
  refine wp_seq (wp_mono (ensureRow_peek input.key) ?_ fun _ _ _ => trivial)
  rintro row db1 ⟨hrow,hpeek⟩
  refine wp_seq_require trivial fun hversion => ?_
  split
  · trivial
  · next authorized hgate =>
    refine wp_seq_modify (wp_seq_get ?_)
    refine ⟨hrow ▸ of_decide_eq_true hversion,⟨authorized,hrow ▸ hgate,?_⟩,fun k hk => ?_⟩
    · rw [peek_update rfl]
      exact congrArg RolloutState.maxAuthorizedPercentage (if_pos rfl)
    · rw [peek_update rfl]
      exact (if_neg hk).trans (hpeek k)

theorem closeRolloutBreaker_spec {db : RolloutDb} (settings : Settings) (input : ControlInput) :
    wp (closeRolloutBreaker settings input) (fun _ _ =>
      (peekOrDefault db input.key).stateVersion = input.expectedStateVersion) (fun _ _ => True) db := by
  unfold closeRolloutBreaker
  refine wp_seq (checkControlInput_spec fun runtime => ?_)
  apply wp_seq_get
  refine wp_seq_present trivial fun row hrow => ?_
  refine wp_seq_require trivial fun hversion => ?_
  refine wp_seq_require trivial fun hopen => ?_
  refine wp_seq_require trivial fun hcorrected => ?_
  refine wp_seq_require trivial fun hresolved => ?_
  have hread : peekOrDefault db input.key = row := by rw [peekOrDefault, hrow, Option.getD_some]
  refine wp_seq_modify (wp_seq_get ?_)
  change (peekOrDefault db input.key).stateVersion = input.expectedStateVersion
  rw [hread]
  exact of_decide_eq_true hversion

end ParaWorks.Rollout
