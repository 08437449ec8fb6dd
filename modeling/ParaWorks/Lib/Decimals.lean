import Mathlib.Algebra.Order.Field.Rat
import Mathlib.Algebra.Order.Floor.Semifield
import Mathlib.Data.Rat.Floor
import Mathlib.Tactic.FieldSimp
import Mathlib.Tactic.Linarith
import Mathlib.Tactic.Positivity
import ParaWorks.Lib.Floats

/-!
# Decimal arithmetic

Decimal numbers that are not negative, in a context of a given precision: a result of more digits is rounded to the even
one of two neighbours. The bounds of exponents are left out.
-/

namespace ParaWorks.Lib

/-- `coefficient * 10 ** exponent`. -/
@[ext] structure Amount where
  coefficient : Nat
  exponent : Int
  deriving DecidableEq

namespace Amount

def value (a : Amount) : ℚ := a.coefficient*10^a.exponent

/-- `Decimal(n)`. -/
def ofNat (n : Nat) : Amount := ⟨n,0⟩

/-! ## Operations -/

/-- How many digits a coefficient has beyond the precision. -/
def excess (precision : Nat) : Nat → Nat → Nat
  | 0, _ => 0
  | fuel+1, coefficient => if coefficient < 10^precision then 0 else excess precision fuel (coefficient/10)+1

/-- A result in the precision of the context. -/
def fix (precision : Nat) (a : Amount) : Amount :=
  let places := excess precision (Nat.log2 a.coefficient+1) a.coefficient
  let rounded := if places = 0 then a.coefficient else roundHalfEven a.coefficient (10^places)
  if rounded = 10^precision then ⟨rounded/10,a.exponent+places+1⟩ else ⟨rounded,a.exponent+places⟩

/-- `a * b`. -/
def mul (precision : Nat) (a b : Amount) : Amount :=
  fix precision ⟨a.coefficient*b.coefficient,a.exponent+b.exponent⟩

/-- The coefficient at a lower exponent. -/
def coefficientAt (exponent : Int) (a : Amount) : Nat := a.coefficient*10^(a.exponent-exponent).toNat

/-- `a + b`. -/
def add (precision : Nat) (a b : Amount) : Amount :=
  let exponent := min a.exponent b.exponent
  fix precision ⟨coefficientAt exponent a+coefficientAt exponent b,exponent⟩

/-- `a - b` where it is not negative. -/
def sub (precision : Nat) (a b : Amount) : Amount :=
  let exponent := min a.exponent b.exponent
  fix precision ⟨coefficientAt exponent a-coefficientAt exponent b,exponent⟩

/-- `a / b`: more digits than the precision has, the last of them odd in fives where there is a rest. -/
def div (precision : Nat) (a b : Amount) : Amount :=
  let places := precision+Nat.log2 b.coefficient+1
  let numerator := a.coefficient*10^places
  let quotient := numerator/b.coefficient
  let sticky := if numerator%b.coefficient ≠ 0 ∧ quotient%5 = 0 then quotient+1 else quotient
  fix precision ⟨sticky,a.exponent-b.exponent-places⟩

/-- `a.quantize(10 ** exponent, rounding=ROUND_CEILING)`, none where it has too many digits. -/
def quantizeCeiling (precision : Nat) (exponent : Int) (a : Amount) : Option Amount :=
  let coefficient :=
    if exponent ≤ a.exponent then coefficientAt exponent a
    else
      let unit := 10^(exponent-a.exponent).toNat
      (a.coefficient+unit-1)/unit
  if coefficient < 10^precision then some ⟨coefficient,exponent⟩ else none

/-- `int(a.to_integral_value(rounding=ROUND_FLOOR))`. -/
def floor (a : Amount) : Nat :=
  if 0 ≤ a.exponent then coefficientAt 0 a else a.coefficient/10^(-a.exponent).toNat

/-! ## Exact results -/

theorem value_nonneg (a : Amount) : 0 ≤ a.value := by
  exact mul_nonneg (Nat.cast_nonneg _) (zpow_nonneg (by norm_num) _)

theorem value_coefficientAt {exponent : Int} {a : Amount} (h : exponent ≤ a.exponent) :
    (coefficientAt exponent a : ℚ)*10^exponent = a.value := by
  have hexponent : a.exponent = ((a.exponent-exponent).toNat : Int)+exponent := by omega
  rw [value,coefficientAt,Nat.cast_mul,Nat.cast_pow,Nat.cast_ofNat,mul_assoc]
  congr 1
  rw [← zpow_natCast,← zpow_add₀ (by norm_num)]
  congr 1
  omega

theorem excess_of_lt {precision coefficient : Nat} (h : coefficient < 10^precision) (fuel : Nat) :
    excess precision fuel coefficient = 0 := by
  cases fuel with
  | zero => rfl
  | succ fuel => rw [excess,if_pos h]

theorem fix_of_lt {precision : Nat} {a : Amount} (h : a.coefficient < 10^precision) : fix precision a = a := by
  unfold fix
  rw [excess_of_lt h]
  dsimp only
  rw [if_pos rfl,if_neg (Nat.ne_of_lt h)]
  simp

/-- No more zeros are cut off than make the coefficient fit. -/
theorem excess_le {precision places : Nat} {coefficient : Nat} (h : coefficient < 10^(precision+places)) (fuel : Nat) :
    excess precision fuel coefficient ≤ places := by
  induction places generalizing coefficient fuel with
  | zero =>
    rw [Nat.add_zero] at h
    exact (excess_of_lt h fuel).le
  | succ places ih =>
    cases fuel with
    | zero => exact Nat.zero_le _
    | succ fuel =>
      rw [excess]
      split_ifs
      · exact Nat.zero_le _
      · apply Nat.succ_le_succ
        apply ih
        rw [Nat.div_lt_iff_lt_mul (by decide)]
        calc coefficient < 10^(precision+(places+1)) := h
          _ = 10^(precision+places)*10 := by rw [← Nat.add_assoc,Nat.pow_succ]

/-- Zeros at the end are cut off without a change of the value. -/
theorem value_fix {precision places n : Nat} {exponent : Int} (h : n < 10^precision) :
    (fix precision ⟨n*10^places,exponent⟩).value = (⟨n*10^places,exponent⟩ : Amount).value := by
  have hle : n*10^places < 10^(precision+places) := by
    rw [Nat.pow_add]
    exact Nat.mul_lt_mul_of_pos_right h (by positivity)
  have hcut := excess_le hle (Nat.log2 (n*10^places)+1)
  unfold fix
  dsimp only
  generalize excess precision (Nat.log2 (n*10^places)+1) (n*10^places) = cut at hcut
  have hsplit : n*10^places = n*10^(places-cut)*10^cut := by
    rw [Nat.mul_assoc,← Nat.pow_add,Nat.sub_add_cancel hcut]
  have hrounded : (if cut = 0 then n*10^places else roundHalfEven (n*10^places) (10^cut)) = n*10^(places-cut) := by
    split_ifs with hzero
    · rw [hzero,Nat.sub_zero]
    · have hpos : 0 < 10^cut := by positivity
      rw [hsplit,roundHalfEven,Nat.mul_mod_left,Nat.mul_div_cancel _ hpos,if_pos (Or.inl (by omega))]
  have hcast : ((n*10^places : Nat) : ℚ) = ((n*10^(places-cut) : Nat) : ℚ)*10^(cut : Int) := by
    rw [zpow_natCast]
    exact_mod_cast hsplit
  have hten : (10 : ℚ) ≠ 0 := by norm_num
  rw [hrounded]
  split_ifs with hfull
  · have htenth : 10^precision/10*10 = 10^precision := by
      cases precision with
      | zero =>
        rw [Nat.pow_zero] at h hfull
        obtain rfl : n = 0 := by omega
        simp at hfull
      | succ precision => rw [Nat.pow_succ,Nat.mul_div_cancel _ (by decide)]
    have hten' : ((10^precision/10 : Nat) : ℚ)*10 = ((n*10^(places-cut) : Nat) : ℚ) := by
      rw [hfull]
      exact_mod_cast htenth
    rw [hfull,value,value]
    dsimp only
    rw [hcast,← hten',zpow_add₀ hten,zpow_add₀ hten,zpow_one]
    ring
  · rw [value,value]
    dsimp only
    rw [hcast,zpow_add₀ hten]
    ring

theorem mul_of_lt {precision m n : Nat} {e f : Int} (h : m*n < 10^precision) :
    mul precision ⟨m,e⟩ ⟨n,f⟩ = ⟨m*n,e+f⟩ := fix_of_lt h

theorem add_of_lt {precision m n : Nat} {e : Int} (h : m+n < 10^precision) :
    add precision ⟨m,e⟩ ⟨n,e⟩ = ⟨m+n,e⟩ := by
  have hsame : ∀ k, coefficientAt e ⟨k,e⟩ = k := by
    intro k
    simp [coefficientAt]
  unfold add
  dsimp only
  rw [min_self,hsame,hsame]
  exact fix_of_lt h

theorem value_mul {precision : Nat} {a b : Amount} (h : a.coefficient*b.coefficient < 10^precision) :
    (mul precision a b).value = a.value*b.value := by
  rw [mul,fix_of_lt h,value,value,value,zpow_add₀ (by norm_num),Nat.cast_mul]
  ring

theorem value_add {precision : Nat} {a b : Amount}
    (h : coefficientAt (min a.exponent b.exponent) a+coefficientAt (min a.exponent b.exponent) b < 10^precision) :
    (add precision a b).value = a.value+b.value := by
  rw [add,fix_of_lt h,value]
  dsimp only
  rw [Nat.cast_add,add_mul,value_coefficientAt (min_le_left _ _),value_coefficientAt (min_le_right _ _)]

theorem value_sub {precision : Nat} {a b : Amount} (hle : b.value ≤ a.value)
    (h : coefficientAt (min a.exponent b.exponent) a < 10^precision) : (sub precision a b).value = a.value-b.value := by
  have hten : (0 : ℚ) < 10^(min a.exponent b.exponent) := zpow_pos (by norm_num) _
  have hcoefficients : coefficientAt (min a.exponent b.exponent) b ≤ coefficientAt (min a.exponent b.exponent) a := by
    rw [← value_coefficientAt (min_le_left a.exponent b.exponent),
      ← value_coefficientAt (min_le_right a.exponent b.exponent),mul_le_mul_iff_left₀ hten] at hle
    exact_mod_cast hle
  rw [sub,fix_of_lt ((Nat.sub_le _ _).trans_lt h),value]
  dsimp only
  rw [Nat.cast_sub hcoefficients,sub_mul,value_coefficientAt (min_le_left _ _),value_coefficientAt (min_le_right _ _)]

/-- A power of ten divides exactly. -/
theorem value_div {precision places : Nat} {exponent : Int} {a : Amount} (h : a.coefficient < 10^precision) :
    (div precision a ⟨10^places,exponent⟩).value = a.value/(⟨10^places,exponent⟩ : Amount).value := by
  have hlog : places ≤ Nat.log2 (10^places) := by
    rw [Nat.le_log2 (by positivity)]
    exact Nat.pow_le_pow_left (by decide) places
  obtain ⟨rest,hrest⟩ := Nat.exists_eq_add_of_le hlog
  have hsplit : a.coefficient*10^(precision+Nat.log2 (10^places)+1) = a.coefficient*10^(precision+rest+1)*10^places := by
    rw [Nat.mul_assoc,← Nat.pow_add]
    congr 2
    omega
  have hpos : 0 < 10^places := by positivity
  have hten : (10 : ℚ) ≠ 0 := by norm_num
  unfold div
  dsimp only
  rw [hsplit,Nat.mul_div_cancel _ hpos,Nat.mul_mod_left,if_neg (by simp),value_fix h,value,value,value]
  dsimp only
  rw [Nat.cast_mul,Nat.cast_pow,Nat.cast_pow,Nat.cast_ofNat,zpow_sub₀ hten,zpow_sub₀ hten,zpow_natCast,hrest]
  field_simp
  ring

theorem ceil_div (n : Nat) {d : Nat} (h : 0 < d) : (n+d-1)/d = ⌈(n : ℚ)/d⌉₊ := by
  apply eq_of_forall_ge_iff
  intro k
  have hd : (0 : ℚ) < d := by exact_mod_cast h
  rw [Nat.ceil_le,div_le_iff₀ hd,← Nat.lt_succ_iff,Nat.div_lt_iff_lt_mul h]
  have hcast : (n : ℚ) ≤ k*d ↔ n ≤ k*d := by exact_mod_cast Iff.rfl
  rw [hcast,Nat.succ_eq_add_one,Nat.add_mul,Nat.one_mul]
  omega

/-- The least multiple of the quantum that is not below the number. -/
theorem quantizeCeiling_eq (precision : Nat) (exponent : Int) (a : Amount) :
    quantizeCeiling precision exponent a =
      if ⌈a.value/10^exponent⌉₊ < 10^precision then some ⟨⌈a.value/10^exponent⌉₊,exponent⟩ else none := by
  have hten : (10 : ℚ)^exponent ≠ 0 := zpow_ne_zero _ (by norm_num)
  have hcoefficient : (if exponent ≤ a.exponent then coefficientAt exponent a
      else (a.coefficient+10^(exponent-a.exponent).toNat-1)/10^(exponent-a.exponent).toNat) = ⌈a.value/10^exponent⌉₊ := by
    split_ifs with hle
    · have hexact : a.value/10^exponent = (coefficientAt exponent a : ℚ) := by
        rw [← value_coefficientAt hle,mul_div_cancel_right₀ _ hten]
      rw [hexact,Nat.ceil_natCast]
    · have hunit : (10 : ℚ)^exponent = 10^a.exponent*10^(exponent-a.exponent).toNat := by
        rw [← zpow_natCast,← zpow_add₀ (by norm_num)]
        congr 1
        omega
      have hexact : a.value/10^exponent = (a.coefficient : ℚ)/(10^(exponent-a.exponent).toNat : Nat) := by
        have hne : (10 : ℚ)^a.exponent ≠ 0 := zpow_ne_zero _ (by norm_num)
        rw [value,hunit,Nat.cast_pow,Nat.cast_ofNat]
        field_simp
      rw [ceil_div _ (by positivity),hexact]
  unfold quantizeCeiling
  rw [hcoefficient]

theorem floor_eq (a : Amount) : floor a = ⌊a.value⌋₊ := by
  unfold floor
  split_ifs with hle
  · have hexact := value_coefficientAt hle
    rw [zpow_zero,mul_one] at hexact
    rw [← hexact,Nat.floor_natCast]
  · have hexact : a.value = (a.coefficient : ℚ)/(10^(-a.exponent).toNat : Nat) := by
      have hne : (10 : ℚ)^(-a.exponent).toNat ≠ 0 := pow_ne_zero _ (by norm_num)
      have hexponent : (10 : ℚ)^a.exponent*10^(-a.exponent).toNat = 1 := by
        rw [← zpow_natCast,← zpow_add₀ (by norm_num)]
        have hzero : a.exponent+((-a.exponent).toNat : Int) = 0 := by omega
        rw [hzero,zpow_zero]
      rw [value,Nat.cast_pow,Nat.cast_ofNat,eq_div_iff hne,mul_assoc,hexponent,mul_one]
    rw [hexact,Nat.floor_div_natCast,Nat.floor_natCast]

/-- The coefficient at a common exponent, from the value. -/
theorem coefficientAt_lt {exponent : Int} {a : Amount} {bound : Nat} (h : exponent ≤ a.exponent) :
    coefficientAt exponent a < bound ↔ a.value < bound*10^exponent := by
  have hten : (0 : ℚ) < 10^exponent := zpow_pos (by norm_num) _
  rw [← value_coefficientAt h,mul_lt_mul_iff_left₀ hten]
  exact_mod_cast Iff.rfl

/-- A product of few enough digits is not rounded. -/
theorem mul_exact {precision : Nat} {a b : Amount}
    (h : a.value*b.value < 10^precision*10^(a.exponent+b.exponent)) :
    (mul precision a b).value = a.value*b.value ∧ (mul precision a b).exponent = a.exponent+b.exponent := by
  have hten : (0 : ℚ) < 10^(a.exponent+b.exponent) := zpow_pos (by norm_num) _
  have hproduct : a.value*b.value = ((a.coefficient*b.coefficient : Nat) : ℚ)*10^(a.exponent+b.exponent) := by
    rw [value,value,zpow_add₀ (by norm_num),Nat.cast_mul]
    ring
  rw [hproduct,mul_lt_mul_iff_left₀ hten] at h
  have hlt : a.coefficient*b.coefficient < 10^precision := by exact_mod_cast h
  refine ⟨value_mul hlt,?_⟩
  rw [mul,fix_of_lt hlt]

/-- A sum of few enough digits is not rounded. -/
theorem add_exact {precision : Nat} {a b : Amount}
    (h : a.value+b.value < 10^precision*10^(min a.exponent b.exponent)) :
    (add precision a b).value = a.value+b.value ∧ (add precision a b).exponent = min a.exponent b.exponent := by
  have hten : (0 : ℚ) < 10^(min a.exponent b.exponent) := zpow_pos (by norm_num) _
  rw [← value_coefficientAt (min_le_left a.exponent b.exponent),← value_coefficientAt (min_le_right a.exponent b.exponent),
    ← add_mul,mul_lt_mul_iff_left₀ hten] at h
  have hlt : coefficientAt (min a.exponent b.exponent) a+coefficientAt (min a.exponent b.exponent) b < 10^precision := by
    exact_mod_cast h
  refine ⟨value_add hlt,?_⟩
  rw [add,fix_of_lt hlt]

end Amount

end ParaWorks.Lib
