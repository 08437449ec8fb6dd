import ParaWorks.Generation.Preparation
import ParaWorks.Lib.Decimals
import ParaWorks.Lib.LenientJson

/-!
# The identity of stored decimals

The text that stands for an amount in a fence, and when it tells two amounts apart that the database stores as one.
-/

namespace ParaWorks.Generation

open Lib

/-- `d.normalize().adjusted()` in the default context, where the trailing zeros do not matter. -/
def adjusted (coefficient : Nat) (exponent : Int) : Int :=
  let a := Amount.fix 28 ⟨coefficient,exponent⟩
  a.exponent+(Json.digits a.coefficient).length-1

/-- `is_numeric_24_6_representable`. -/
def isNumeric246Representable : Decimal → Bool
  | .special => false
  | .finite _ coefficient exponent =>
    if exponent < -6 then false else coefficient = 0 || adjusted coefficient exponent ≤ 17

/-- `is_storage_decimal`. -/
def isStorageDecimal (d : Decimal) : Bool :=
  match d with
  | .special => false
  | .finite negative coefficient _ =>
    (coefficient = 0 || !negative) && !(coefficient = 0 && negative) && isNumeric246Representable d

/-- `decimal_storage_representation`, none where it raises. -/
def decimalStorageRepresentation (d : Decimal) : Option Text :=
  if isStorageDecimal d then some (if d.value = some 0 then text "0" else d.format) else none

/-- `same_decimal_storage_value`. -/
def sameDecimalStorageValue (left right : Decimal) : Bool :=
  isStorageDecimal left && isStorageDecimal right &&
    decimalStorageRepresentation left = decimalStorageRepresentation right

/-- How many digits stand after the point. -/
def Decimal.places : Decimal → Nat
  | .finite _ _ exponent => (-exponent).toNat
  | .special => 0

/-! ## Digits -/

theorem decimalValue_zeros (k : Nat) (t : Text) :
    Loaded.decimalValue (List.replicate k (ofChar '0')++t) = Loaded.decimalValue t := by
  induction k with
  | zero => rfl
  | succ k ih => exact ih

theorem digits_zeros {n : Nat} (h : 0 < n) (k : Nat) :
    Json.digits (n*10^k : Nat) = Json.digits n++List.replicate k (ofChar '0') := by
  induction k with
  | zero => simp
  | succ k ih =>
    have hpos : 0 < n*10^k := by positivity
    have hlast : Nat.toDigits 10 (n*10^(k+1)) = Nat.toDigits 10 (n*10^k)++['0'] := by
      have happend := Nat.toDigits_append_toDigits (b := 10) (d := 0) (by decide) hpos (by decide)
      rw [Nat.toDigits_zero,Nat.add_zero] at happend
      rw [happend,Nat.pow_succ]
      congr 1
      ring
    have hstep : Json.digits (n*10^(k+1) : Nat) = Json.digits (n*10^k : Nat)++[ofChar '0'] := by
      change (Nat.toDigits 10 (n*10^(k+1))).map ofChar = (Nat.toDigits 10 (n*10^k)).map ofChar++[ofChar '0']
      rw [hlast,List.map_append]
      rfl
    rw [hstep,ih,List.append_assoc,List.replicate_succ']

theorem point_not_mem_digits (n : Int) : ofChar '.' ∉ Json.digits n := by
  intro h
  exact absurd (Json.isDigit_of_mem_digits h) (by decide)

/-! ## Texts of amounts -/

/-- The digits of an amount that has no places. -/
theorem format_whole {coefficient : Nat} {exponent : Int} (hpos : 0 < coefficient) (h : 0 ≤ exponent) :
    (Decimal.finite false coefficient exponent).format = Json.digits (coefficient*10^exponent.toNat : Nat) := by
  rw [digits_zeros hpos,Decimal.format]
  simp [h,Nat.ne_of_gt hpos]

/-- The digits before and after the point. -/
theorem format_places {coefficient : Nat} {exponent : Int} (h : exponent < 0) :
    ∃ front back, (Decimal.finite false coefficient exponent).format = front++ofChar '.'::back ∧
      ofChar '.' ∉ front ∧ back.length = (-exponent).toNat ∧ Loaded.decimalValue (front++back) = coefficient := by
  generalize hpadded : List.replicate ((-exponent).toNat+1-(Json.digits coefficient).length) (ofChar '0')++
    Json.digits coefficient = padded
  have hlength : (-exponent).toNat+1 ≤ padded.length := by
    rw [← hpadded,List.length_append,List.length_replicate]
    omega
  have hpoint : ofChar '.' ∉ padded := by
    rw [← hpadded]
    intro hmem
    obtain hzero | hdigit := List.mem_append.mp hmem
    · exact absurd (List.eq_of_mem_replicate hzero) (by decide)
    · exact point_not_mem_digits _ hdigit
  refine ⟨padded.take (padded.length-(-exponent).toNat),padded.drop (padded.length-(-exponent).toNat),?_,?_,?_,?_⟩
  · rw [Decimal.format,if_neg (by omega)]
    simp only [hpadded]
    rfl
  · exact fun hmem => hpoint (List.mem_of_mem_take hmem)
  · rw [List.length_drop]
    omega
  · rw [List.take_append_drop,← hpadded,decimalValue_zeros,Loaded.decimalValue_digits]
    rfl

theorem value_finite (coefficient : Nat) (exponent : Int) :
    (Decimal.finite false coefficient exponent).value = some ((coefficient : ℚ)*10^exponent) := by
  rw [Decimal.value]
  simp

/-- What a text that is not zero tells of an amount. -/
theorem format_inj {c d : Nat} {e f : Int} (hc : 0 < c) (hd : 0 < d)
    (h : (Decimal.finite false c e).format = (Decimal.finite false d f).format) :
    (c : ℚ)*10^e = d*10^f ∧ (-e).toNat = (-f).toNat := by
  have hwhole : ∀ (n : Nat) (k : Int), 0 ≤ k → ((n*10^k.toNat : Nat) : ℚ) = n*10^k := by
    intro n k hk
    rw [Nat.cast_mul,Nat.cast_pow,Nat.cast_ofNat,← zpow_natCast,Int.toNat_of_nonneg hk]
  obtain he | he := lt_or_ge e 0
  · obtain ⟨front,back,hformat,hfront,hback,hvalue⟩ := @format_places c e he
    obtain hf | hf := lt_or_ge f 0
    · obtain ⟨front',back',hformat',hfront',hback',hvalue'⟩ := @format_places d f hf
      rw [hformat,hformat'] at h
      have hsplit : front = front' ∧ back = back' := by
        have hone := @splitOnce_append _ _ back hfront
        have htwo := @splitOnce_append _ _ back' hfront'
        rw [h,htwo] at hone
        obtain ⟨h1,h2⟩ := Prod.mk.inj (Option.some.inj hone)
        exact ⟨h1.symm,h2.symm⟩
      have hplaces : (-e).toNat = (-f).toNat := by rw [← hback,← hback',hsplit.2]
      have hsame : e = f := by omega
      rw [hsplit.1,hsplit.2,hvalue'] at hvalue
      rw [hvalue,hsame]
      exact ⟨rfl,rfl⟩
    · rw [hformat,format_whole hd hf] at h
      exact absurd (h ▸ List.mem_append_right front List.mem_cons_self) (point_not_mem_digits _)
  · obtain hf | hf := lt_or_ge f 0
    · obtain ⟨front',back',hformat',hfront',hback',hvalue'⟩ := @format_places d f hf
      rw [hformat',format_whole hc he] at h
      exact absurd (h.symm ▸ List.mem_append_right front' List.mem_cons_self) (point_not_mem_digits _)
    · rw [format_whole hc he,format_whole hd hf] at h
      have hdigits := congrArg Loaded.decimalValue h
      rw [Loaded.decimalValue_digits,Loaded.decimalValue_digits,Int.natAbs_natCast,Int.natAbs_natCast] at hdigits
      refine ⟨?_,by omega⟩
      rw [← hwhole c e he,← hwhole d f hf,hdigits]

/-- Equal amounts with as many places have one text. -/
theorem format_congr {c d : Nat} {e f : Int} (hc : 0 < c) (hd : 0 < d) (hvalue : (c : ℚ)*10^e = d*10^f)
    (hplaces : (-e).toNat = (-f).toNat) : (Decimal.finite false c e).format = (Decimal.finite false d f).format := by
  have hten : (10 : ℚ) ≠ 0 := by norm_num
  obtain he | he := lt_or_ge e 0
  · have hsame : e = f := by omega
    subst hsame
    have hcoefficient : (c : ℚ) = d := mul_right_cancel₀ (zpow_ne_zero e hten) hvalue
    have hnat : c = d := by exact_mod_cast hcoefficient
    rw [hnat]
  · have hf : 0 ≤ f := by omega
    have hnat : c*10^e.toNat = d*10^f.toNat := by
      have hcast : ((c*10^e.toNat : Nat) : ℚ) = ((d*10^f.toNat : Nat) : ℚ) := by
        push_cast
        rw [← zpow_natCast,← zpow_natCast,Int.toNat_of_nonneg he,Int.toNat_of_nonneg hf]
        exact hvalue
      exact_mod_cast hcast
    rw [format_whole hc he,format_whole hd hf,hnat]

/-! ## Stored amounts -/

theorem storage_cases {d : Decimal} (h : isStorageDecimal d = true) :
    ∃ coefficient exponent, d = .finite false coefficient exponent := by
  cases d with
  | special => cases h
  | finite negative coefficient exponent =>
    cases negative with
    | false => exact ⟨coefficient,exponent,rfl⟩
    | true => simp [isStorageDecimal] at h

theorem zero_iff (coefficient : Nat) (exponent : Int) :
    (Decimal.finite false coefficient exponent).value = some 0 ↔ coefficient = 0 := by
  rw [value_finite,Option.some.injEq,mul_eq_zero]
  constructor
  · rintro (h | h)
    · exact_mod_cast h
    · exact absurd h (zpow_ne_zero _ (by norm_num))
  · rintro rfl
    exact Or.inl rfl

theorem zero_text : text "0" = Json.digits (0 : Nat) := rfl

/-- The text of an amount above zero is not that of zero. -/
theorem format_ne_zero {coefficient : Nat} {exponent : Int} (h : 0 < coefficient) :
    (Decimal.finite false coefficient exponent).format ≠ text "0" := by
  intro hsame
  obtain he | he := lt_or_ge exponent 0
  · obtain ⟨front,back,hformat,-⟩ := @format_places coefficient exponent he
    rw [hformat,zero_text] at hsame
    exact point_not_mem_digits _ (hsame ▸ List.mem_append_right front List.mem_cons_self)
  · rw [format_whole h he,zero_text] at hsame
    have hdigits := congrArg Loaded.decimalValue hsame
    rw [Loaded.decimalValue_digits,Loaded.decimalValue_digits,Int.natAbs_natCast,Int.natAbs_natCast] at hdigits
    have hpos : 0 < coefficient*10^exponent.toNat := by positivity
    omega

/-- Two representations are one exactly where the amounts are equal, and zero or with as many places. -/
theorem representation_iff {a b : Decimal} (ha : isStorageDecimal a = true) (hb : isStorageDecimal b = true) :
    decimalStorageRepresentation a = decimalStorageRepresentation b ↔
      a.value = b.value ∧ (a.value = some 0 ∨ a.places = b.places) := by
  rw [decimalStorageRepresentation,decimalStorageRepresentation,if_pos ha,if_pos hb,Option.some.injEq]
  obtain ⟨c,e,rfl⟩ := storage_cases ha
  obtain ⟨d,f,rfl⟩ := storage_cases hb
  simp only [zero_iff]
  by_cases hc : c = 0
  · have hvalue := (zero_iff c e).mpr hc
    rw [if_pos hc,hvalue]
    by_cases hd : d = 0
    · rw [if_pos hd,(zero_iff d f).mpr hd]
      simp [hc]
    · rw [if_neg hd]
      constructor
      · intro h
        exact absurd h.symm (format_ne_zero (Nat.pos_of_ne_zero hd))
      · rintro ⟨h,-⟩
        exact absurd ((zero_iff d f).mp h.symm) hd
  · rw [if_neg hc]
    have hcpos := Nat.pos_of_ne_zero hc
    by_cases hd : d = 0
    · rw [if_pos hd,(zero_iff d f).mpr hd]
      constructor
      · intro h
        exact absurd h (format_ne_zero hcpos)
      · rintro ⟨h,-⟩
        exact absurd ((zero_iff c e).mp h) hc
    · rw [if_neg hd,value_finite,value_finite,Option.some.injEq]
      have hdpos := Nat.pos_of_ne_zero hd
      constructor
      · intro h
        obtain ⟨hvalue,hplaces⟩ := format_inj hcpos hdpos h
        exact ⟨hvalue,Or.inr hplaces⟩
      · rintro ⟨hvalue,hzero | hplaces⟩
        · exact absurd hzero hc
        · exact format_congr hcpos hdpos hvalue hplaces

/-- The representation identifies two stored amounts exactly where they are not one amount with different numbers of places,
zero apart. -/
theorem storage_identity_iff (a b : Decimal) (ha : isStorageDecimal a = true) (hb : isStorageDecimal b = true) :
    ((decimalStorageRepresentation a = decimalStorageRepresentation b ↔ a.value = b.value) ↔
      (a.value = b.value → a.value = some 0 ∨ a.places = b.places)) ∧
    ((sameDecimalStorageValue a b = true ↔ a.value = b.value) ↔
      (a.value = b.value → a.value = some 0 ∨ a.places = b.places)) := by
  have hsame : sameDecimalStorageValue a b = true ↔
      decimalStorageRepresentation a = decimalStorageRepresentation b := by
    simp [sameDecimalStorageValue,ha,hb]
  rw [hsame,representation_iff ha hb]
  constructor <;> exact ⟨fun h hvalue => (h.mpr hvalue).2,fun h => ⟨fun hboth => hboth.1,fun hvalue => ⟨hvalue,h hvalue⟩⟩⟩

/-- A cent in two places and in six. -/
theorem storage_identity_sample :
    (decimalStorageRepresentation (.finite false 1 (-2)) = decimalStorageRepresentation (.finite false 1 (-2)) ↔
      (Decimal.finite false 1 (-2)).value = (Decimal.finite false 1 (-2)).value) :=
  (storage_identity_iff (.finite false 1 (-2)) (.finite false 1 (-2)) (by decide +kernel) (by decide +kernel)).1.mpr
    fun _ => Or.inr rfl

theorem cent_told_apart :
    isStorageDecimal (.finite false 1 (-2)) = true ∧ isStorageDecimal (.finite false 10000 (-6)) = true ∧
      ¬ (decimalStorageRepresentation (.finite false 1 (-2)) = decimalStorageRepresentation (.finite false 10000 (-6)) ↔
        (Decimal.finite false 1 (-2)).value = (Decimal.finite false 10000 (-6)).value) := by
  refine ⟨by decide +kernel,by decide +kernel,?_⟩
  have hvalue : (Decimal.finite false 1 (-2)).value = (Decimal.finite false 10000 (-6)).value := by
    rw [value_finite,value_finite,Option.some.injEq]
    norm_num
  intro h
  have htext := h.mpr hvalue
  revert htext
  decide +kernel

end ParaWorks.Generation
