import ParaWorks.Lib.JsonPrinter

/-!
# Printed integers

A natural number is read back from its printed digits.
-/

namespace ParaWorks.Lib

theorem decimalValue_digit {c : CodePoint} (h : Json.isDigit c = true) : decimalValue c = some (c.val-48) := by
  have hrange : 48 ≤ c.val ∧ c.val ≤ 57 := by simpa [Json.isDigit] using h
  have hlt : c.val < 58 := by omega
  simp [decimalValue,decimalZeros,hrange.1,hlt]

theorem ne_of_isDigit {c d : CodePoint} (hc : Json.isDigit c = true) (hd : Json.isDigit d = false) : c ≠ d := by
  rintro rfl
  cases hc.symm.trans hd

/-- Digits are read as their value in base ten. -/
theorem parseDigits_digits {ds : List Char} (h : ∀ d ∈ ds, Json.isDigit (ofChar d) = true) (value : Nat) :
    parseDigits (ds.map ofChar) value true = some (Nat.ofDigitChars 10 ds value) := by
  induction ds generalizing value with
  | nil => rfl
  | cons d ds ih =>
    rw [List.forall_mem_cons] at h
    have hd : ofChar d ≠ ofChar '_' := ne_of_isDigit h.1 rfl
    rw [List.map_cons,parseDigits,if_neg hd,decimalValue_digit h.1]
    change parseDigits (ds.map ofChar) (10*value+(d.toNat-48)) true = _
    rw [ih h.2,Nat.ofDigitChars_cons]
    rfl

theorem strip_of_nonspace {t : Text} (h : ∀ c ∈ t, isSpace c = false) : strip t = t := by
  have hdrop : ∀ u : Text, (∀ c ∈ u, isSpace c = false) → u.dropWhile isSpace = u := by
    intro u hu
    cases u with
    | nil => rfl
    | cons c u => simp [hu c List.mem_cons_self]
  rw [strip,hdrop t h,hdrop t.reverse fun c hc => h c (List.mem_reverse.mp hc),List.reverse_reverse]

theorem isSpace_of_isDigit {c : CodePoint} (h : Json.isDigit c = true) : isSpace c = false := by
  have hrange : 48 ≤ c.val ∧ c.val ≤ 57 := by simpa [Json.isDigit] using h
  simp only [isSpace,Bool.or_eq_false_iff,decide_eq_false_iff_not]
  omega

theorem parseInt_renderInt (n : Nat) : parseInt (Json.renderInt n) = some (n : Int) := by
  have hdigits : ∀ c ∈ Json.digits n, Json.isDigit c = true := fun c hc => Json.isDigit_of_mem_digits hc
  have hmap : ∀ d ∈ Nat.toDigits 10 n, Json.isDigit (ofChar d) = true :=
    fun d hd => hdigits _ (List.mem_map_of_mem (f := ofChar) hd)
  have hrender : Json.renderInt n = (Nat.toDigits 10 n).map ofChar := by simp [Json.renderInt,Json.digits]
  have hstrip : strip ((Nat.toDigits 10 n).map ofChar) = (Nat.toDigits 10 n).map ofChar :=
    strip_of_nonspace fun c hc => isSpace_of_isDigit (hdigits c hc)
  obtain ⟨d,ds,hds⟩ := List.exists_cons_of_ne_nil (Nat.toDigits_ne_nil (n := n) (b := 10))
  rw [hrender,parseInt,hstrip]
  rw [hds] at hmap ⊢
  rw [List.forall_mem_cons] at hmap
  have hminus : ofChar d ≠ ofChar '-' := ne_of_isDigit hmap.1 rfl
  have hplus : ofChar d ≠ ofChar '+' := ne_of_isDigit hmap.1 rfl
  have hunder : ofChar d ≠ ofChar '_' := ne_of_isDigit hmap.1 rfl
  have hvalue : Nat.ofDigitChars 10 (d::ds) 0 = n := by rw [← hds,Nat.ofDigitChars_ten_toDigits]
  rw [List.map_cons]
  dsimp only
  rw [if_neg hminus,if_neg hplus,parseDigits,if_neg hunder,decimalValue_digit hmap.1]
  have hvalue' : parseDigits (ds.map ofChar) ((ofChar d).val-48) true = some n := by
    have hfirst : 10*0+(d.toNat - '0'.toNat) = (ofChar d).val-48 := Nat.zero_add _
    rw [parseDigits_digits hmap.2,← hvalue,Nat.ofDigitChars_cons,hfirst]
  simp [hvalue']

theorem renderInt_injective {n m : Int} (h : Json.renderInt n = Json.renderInt m) : n = m := by
  have hnil : Json.Delimited [] := by simp [Json.Delimited]
  have happend : Json.renderInt n++[] = Json.renderInt m++[] := by rw [h]
  exact (Json.renderInt_append_inj hnil hnil happend).1

end ParaWorks.Lib
