import Mathlib.Data.Nat.Log
import Mathlib.Tactic.Ring

/-!
# Seconds as floats

The whole second of an instant whose microseconds were divided into a 64-bit float.
-/

namespace ParaWorks.Lib

/-- The nearest integer to `n/d`, the even one of two. -/
def roundHalfEven (n d : Nat) : Nat :=
  if 2*(n%d) < d ∨ (2*(n%d) = d ∧ n/d%2 = 0) then n/d else n/d+1

/-- How many binary places a float keeps of that many microseconds as seconds. -/
def secondPlaces (n : Nat) : Nat := 72-Nat.log2 (n*2^20/1000000)

/-- `int(n / 1000000)`, the quotient rounded to a float first. -/
def floatSeconds (n : Nat) : Nat := roundHalfEven (n*2^secondPlaces n) 1000000/2^secondPlaces n

/-- `int(instant.timestamp())`, of the instant in microseconds since 1970. -/
def timestampSeconds (micros : Int) : Int := if micros < 0 then -floatSeconds micros.natAbs else floatSeconds micros.natAbs

/-- Half a microsecond is more than the float loses, so it does not round up to the next second. -/
theorem roundHalfEven_second {r p : Nat} (hr : r < 1000000) (hp : 1000000 < 2*p) : roundHalfEven (r*p) 1000000 < p := by
  have hx : r*p ≤ 999999*p := Nat.mul_le_mul_right p (by omega)
  unfold roundHalfEven
  generalize r*p = x at hx
  split_ifs <;> omega

theorem roundHalfEven_add (a n : Nat) {d : Nat} (hd : 0 < d) (ha : a%2 = 0) :
    roundHalfEven (a*d+n) d = a+roundHalfEven n d := by
  have hmod : (a*d+n)%d = n%d := Nat.mul_add_mod_self_right a d n
  have hdiv : (a*d+n)/d = a+n/d := by
    rw [Nat.add_comm,Nat.add_mul_div_right n a hd,Nat.add_comm]
  have heven : (a+n/d)%2 = n/d%2 := by omega
  unfold roundHalfEven
  rw [hmod,hdiv,heven]
  split_ifs <;> omega

/-- From 1970 on, until some time in 2514, the float keeps the whole second. -/
theorem timestampSeconds_eq {micros : Int} (h : 0 ≤ micros) (hlt : micros < 2^34*1000000) :
    timestampSeconds micros = micros/1000000 := by
  obtain ⟨n,rfl⟩ := Int.eq_ofNat_of_zero_le h
  have hn : n < 2^34*1000000 := by exact_mod_cast hlt
  have hlog : Nat.log2 (n*2^20/1000000) < 54 := by
    by_cases hzero : n*2^20/1000000 = 0
    · rw [hzero]
      decide
    · rw [Nat.log2_lt hzero]
      omega
  have hplaces : 19 ≤ secondPlaces n := by
    unfold secondPlaces
    omega
  have hp : 1000000 < 2*2^secondPlaces n := by
    have hpow := Nat.pow_le_pow_right (show 0 < 2 by decide) hplaces
    omega
  have heven : n/1000000*2^secondPlaces n%2 = 0 := by
    obtain ⟨k,hk⟩ : ∃ k, secondPlaces n = k+1 := ⟨secondPlaces n-1,by omega⟩
    rw [hk,pow_succ,← Nat.mul_assoc]
    exact Nat.mul_mod_left _ 2
  have hsplit : n*2^secondPlaces n = n/1000000*2^secondPlaces n*1000000+n%1000000*2^secondPlaces n := by
    generalize 2^secondPlaces n = p
    have hn := Nat.div_add_mod n 1000000
    calc n*p = (1000000*(n/1000000)+n%1000000)*p := by rw [hn]
      _ = n/1000000*p*1000000+n%1000000*p := by ring
  have hround := roundHalfEven_second (Nat.mod_lt n (by decide)) hp
  have hseconds : floatSeconds n = n/1000000 := by
    unfold floatSeconds
    rw [hsplit,roundHalfEven_add _ _ (by decide) heven,Nat.add_comm,Nat.add_mul_div_right _ _ (Nat.two_pow_pos _),
      Nat.div_eq_of_lt hround,Nat.zero_add]
  unfold timestampSeconds
  rw [if_neg (by omega),Int.natAbs_natCast,hseconds]
  exact Int.natCast_div n 1000000

end ParaWorks.Lib
