import ParaWorks.Lib.JsonReader
import ParaWorks.Lib.Integers

/-!
# Reading JSON as `json.loads` does

A key may come twice, the words for numbers that are not finite are read, and an integer has at most `limit` digits.
-/

namespace ParaWorks.Lib.Loaded

open Json

section reader

variable (limit : Nat)

/-- A number of at most `limit` digits, or `-Infinity`. -/
def readAnyNumber (t : Text) : Option (Loaded × Text) :=
  if text "-Infinity" <+: t then some (.float (text "-Infinity"),t.drop 9)
  else match readNumber t with
    | some (.int n,rest) => if (digits n).length ≤ limit then some (.int n,rest) else none
    | found => found

mutual
def readAny : Nat → Text → Option (Loaded × Text)
  | 0, _ => none
  | fuel+1, t =>
    match t.head? with
    | none => none
    | some c =>
      if c = 34 then (readString t.length t.tail).map fun (s,t) => (.str s,t)
      else if c = ofChar '\x7b' then
        let rest := skipSpace t.tail
        if rest.head? = some (ofChar '\x7d') then some (.dict [],rest.tail)
        else (readAnyEntries fuel rest).map fun (entries,t) => (.dict entries,t)
      else if c = ofChar '[' then
        let rest := skipSpace t.tail
        if rest.head? = some (ofChar ']') then some (.list [],rest.tail)
        else (readAnyItems fuel rest).map fun (items,t) => (.list items,t)
      else if c = ofChar 'n' then readWord (text "null") .null t
      else if c = ofChar 't' then readWord (text "true") (.bool true) t
      else if c = ofChar 'f' then readWord (text "false") (.bool false) t
      else if c = ofChar 'N' then readWord (text "NaN") (.float (text "NaN")) t
      else if c = ofChar 'I' then readWord (text "Infinity") (.float (text "Infinity")) t
      else readAnyNumber limit t

/-- The items of a list, from the next one to the closing bracket. -/
def readAnyItems : Nat → Text → Option (List Loaded × Text)
  | 0, _ => none
  | fuel+1, t => do
    let (v,t) ← readAny fuel t
    let rest := skipSpace t
    if rest.head? = some (ofChar ']') then return ([v],rest.tail)
    else if rest.head? = some (ofChar ',') then
      let (items,t) ← readAnyItems fuel (skipSpace rest.tail)
      return (v::items,t)
    else none

/-- The entries of a dict, from the next one to the closing brace. -/
def readAnyEntries : Nat → Text → Option (List (Text × Loaded) × Text)
  | 0, _ => none
  | fuel+1, t =>
    if t.head? ≠ some 34 then none
    else do
      let (k,t) ← readString t.length t.tail
      let rest := skipSpace t
      if rest.head? ≠ some (ofChar ':') then none
      else
        let (v,t) ← readAny fuel (skipSpace rest.tail)
        let rest := skipSpace t
        if rest.head? = some (ofChar '\x7d') then return ([(k,v)],rest.tail)
        else if rest.head? = some (ofChar ',') then
          let (entries,t) ← readAnyEntries fuel (skipSpace rest.tail)
          return ((k,v)::entries,t)
        else none
end

/-- `json.loads`, none where it raises. -/
def loadsAny (t : Text) : Option Loaded :=
  if t.head? = some 0xfeff then none
  else do
    let (v,rest) ← readAny limit (t.length+1) (skipSpace t)
    if skipSpace rest = [] then return v else none

end reader

/-- `entries.get(key)`: the last entry of the key counts. -/
def lookup (entries : List (Text × Loaded)) (key : Text) : Option Loaded :=
  (entries.reverse.find? (·.1 = key)).map (·.2)

/-! ## Reading a printed integer -/

theorem toDigits_zero_head {n : Nat} {ds : List Char} (h : Nat.toDigits 10 n = '0'::ds) : ds = [] := by
  have hpos : ∀ n ds, 0 < n → Nat.toDigits 10 n ≠ '0'::ds := by
    intro n
    induction n using Nat.strong_induction_on with
    | _ n ih =>
      intro ds hn h
      by_cases hlt : n < 10
      · rw [Nat.toDigits_of_lt_base hlt,List.cons.injEq] at h
        exact absurd h.1 (by interval_cases n <;> decide)
      · rw [Nat.toDigits_of_base_le (by decide) (by omega)] at h
        obtain ⟨d,front,hfront⟩ := List.exists_cons_of_ne_nil (Nat.toDigits_ne_nil (n := n/10) (b := 10))
        rw [hfront,List.cons_append,List.cons.injEq] at h
        exact ih (n/10) (by omega) front (by omega) (h.1 ▸ hfront)
  cases n with
  | zero =>
    rw [Nat.toDigits_zero] at h
    exact (List.cons.inj h).2.symm
  | succ n => exact absurd h (hpos _ _ (by omega))

theorem decimalValue_digits (n : Int) : Loaded.decimalValue (digits n) = n.natAbs := by
  unfold Loaded.decimalValue digits
  rw [List.foldl_map]
  exact Nat.ofDigitChars_ten_toDigits

theorem takeDigits_digits {n : Int} {r : Text} (hr : Delimited r) : takeDigits (digits n++r) = (digits n,r) := by
  have hall : ∀ c ∈ digits n, isDigit c = true := fun c hc => isDigit_of_mem_digits hc
  unfold takeDigits
  rw [List.takeWhile_append_of_pos hall,List.dropWhile_append_of_pos hall]
  cases r with
  | nil => simp
  | cons c r => simp [hr c rfl]

/-- What the reader takes for the whole part is all the digits. -/
theorem whole_digits {n : Int} {r : Text} (hr : Delimited r) :
    (if (digits n++r).head? = some (ofChar '0') then ([ofChar '0'],(digits n++r).tail) else takeDigits (digits n++r)) =
      (digits n,r) := by
  split_ifs with hzero
  · obtain ⟨d,ds,hds⟩ := List.exists_cons_of_ne_nil (Nat.toDigits_ne_nil (n := n.natAbs) (b := 10))
    have hdigits : digits n = ofChar d::ds.map ofChar := by rw [digits,hds,List.map_cons]
    rw [hdigits,List.cons_append,List.head?_cons,Option.some.injEq] at hzero
    obtain rfl := ofChar_injective hzero
    rw [hdigits,toDigits_zero_head hds]
    rfl
  · exact takeDigits_digits hr

/-- The text after a number goes on with no part of a number. -/
def EndsNumber (r : Text) : Prop := ∀ c ∈ r.head?, c = ofChar ',' ∨ c = ofChar '\x7d'

theorem EndsNumber.delimited {r : Text} (h : EndsNumber r) : Delimited r := by
  intro c hc
  rcases h c hc with rfl | rfl <;> rfl

theorem EndsNumber.fraction {r : Text} (h : EndsNumber r) : readFraction r = ([],r) ∧ readExponent r = ([],r) := by
  cases r with
  | nil => exact ⟨rfl,rfl⟩
  | cons c r =>
    rcases h c rfl with rfl | rfl <;> exact ⟨rfl,rfl⟩

/-- A printed integer is read back where no part of a number follows. -/
theorem readNumber_of_ends (n : Int) {r : Text} (hr : Delimited r) (hfraction : readFraction r = ([],r))
    (hexponent : readExponent r = ([],r)) : readNumber (renderInt n++r) = some (.int n,r) := by
  have hne : digits n ≠ [] := digits_ne_nil n
  have hwhole := whole_digits (n := n) hr
  unfold readNumber renderInt
  by_cases hn : n < 0
  · have hhead : (ofChar '-'::digits n++r).head? = some (ofChar '-') := rfl
    have habs : -(n.natAbs : Int) = n := by omega
    rw [if_pos hn,hhead]
    change (if (if (digits n++r).head? = some (ofChar '0') then ([ofChar '0'],(digits n++r).tail)
      else takeDigits (digits n++r)).1 = [] then none else _) = _
    simp only [if_true,List.length_cons,List.length_nil,List.cons_append,List.drop_succ_cons,List.drop_zero,hwhole,hne,
      if_false,hfraction,hexponent,and_self,List.cons_ne_nil,decimalValue_digits,habs]
  · obtain ⟨c,t,hc,hd⟩ := digits_eq_cons n
    have hhead : (digits n++r).head? ≠ some (ofChar '-') := by
      rw [hc,List.cons_append,List.head?_cons]
      intro h
      exact absurd hd (by rw [Option.some.inj h]; decide)
    have habs : (n.natAbs : Int) = n := by omega
    rw [if_neg hn]
    simp only [hhead,if_false,List.length_nil,List.drop_zero,hwhole,hne,hfraction,hexponent,and_self,if_true,
      decimalValue_digits,habs]

theorem readNumber_renderInt (n : Int) {r : Text} (hr : EndsNumber r) : readNumber (renderInt n++r) = some (.int n,r) :=
  readNumber_of_ends n hr.delimited hr.fraction.1 hr.fraction.2

theorem renderInt_eq_cons (n : Int) : ∃ c t, renderInt n = c::t ∧ (c = ofChar '-' ∧ t = digits n ∨ isDigit c = true) := by
  obtain ⟨c,t,hc,hd⟩ := digits_eq_cons n
  unfold renderInt
  split_ifs
  · exact ⟨_,_,rfl,Or.inl ⟨rfl,rfl⟩⟩
  · exact ⟨c,t,hc,Or.inr hd⟩

/-- A printed integer is read back. -/
theorem readAny_renderInt {limit fuel : Nat} {n : Int} {r : Text} (hlimit : (digits n).length ≤ limit)
    (hr : EndsNumber r) : readAny limit (fuel+1) (renderInt n++r) = some (.int n,r) := by
  obtain ⟨c,t,hc,hkind⟩ := renderInt_eq_cons n
  obtain ⟨d,ds,hds,hd⟩ := digits_eq_cons n
  have hhead : (renderInt n++r).head? = some c := by rw [hc]; rfl
  have hinfinity : ¬text "-Infinity" <+: renderInt n++r := by
    rw [hc]
    rintro ⟨rest,hrest⟩
    have hrest : ofChar '-'::ofChar 'I'::(text "nfinity"++rest) = c::(t++r) := hrest
    rw [List.cons.injEq] at hrest
    rcases hkind with ⟨_,rfl⟩ | hdigit
    · rw [hds,List.cons_append,List.cons.injEq] at hrest
      exact absurd hd (by rw [← hrest.2.1]; decide)
    · exact absurd hdigit (by rw [← hrest.1]; decide)
  have hnumber : readAnyNumber limit (renderInt n++r) = some (.int n,r) := by
    rw [readAnyNumber,if_neg hinfinity,readNumber_renderInt n hr]
    exact if_pos hlimit
  have hother : ∀ d, d ≠ ofChar '-' → isDigit d = false → c ≠ d := by
    intro d hminus hdigit
    rcases hkind with ⟨rfl,_⟩ | hc
    · exact Ne.symm hminus
    · exact ne_of_isDigit hc hdigit
  rw [readAny,hhead]
  simp only [hother 34 (by decide) rfl,hother (ofChar '\x7b') (by decide) rfl,hother (ofChar '[') (by decide) rfl,
    hother (ofChar 'n') (by decide) rfl,hother (ofChar 't') (by decide) rfl,hother (ofChar 'f') (by decide) rfl,
    hother (ofChar 'N') (by decide) rfl,hother (ofChar 'I') (by decide) rfl,if_false]
  exact hnumber

theorem skipSpace_of_head {c : CodePoint} {t : Text} (h : (c = 32 || c = 9 || c = 10 || c = 13) = false) :
    skipSpace (c::t) = c::t := List.dropWhile_cons_of_neg (by simp [h])

theorem skipSpace_renderInt (n : Int) (r : Text) : skipSpace (renderInt n++r) = renderInt n++r := by
  obtain ⟨c,t,hc,hkind⟩ := renderInt_eq_cons n
  rw [hc,List.cons_append]
  apply skipSpace_of_head
  rcases hkind with ⟨rfl,_⟩ | hdigit
  · rfl
  · have hne : ∀ d, isDigit d = false → c ≠ d := fun d hd => ne_of_isDigit hdigit hd
    simp [hne 32 rfl,hne 9 rfl,hne 10 rfl,hne 13 rfl]

/-- The first entry of a printed dict, where its value is an integer. -/
theorem readAnyEntries_int {limit fuel : Nat} (k : Text) {n : Int} {c : CodePoint} {r : Text}
    (hlimit : (digits n).length ≤ limit) (hc : c = ofChar ',' ∨ c = ofChar '}') :
    readAnyEntries limit (fuel+2) (quote k++ofChar ':'::(renderInt n++c::r)) =
      if c = ofChar '}' then some ([(k,.int n)],r)
      else (readAnyEntries limit (fuel+1) (skipSpace r)).map fun (entries,t) => ((k,.int n)::entries,t) := by
  have hhead : (quote k++ofChar ':'::(renderInt n++c::r)).head? = some 34 := rfl
  have hcolon : skipSpace (ofChar ':'::(renderInt n++c::r)) = ofChar ':'::(renderInt n++c::r) := skipSpace_of_head rfl
  have hends : EndsNumber (c::r) := by
    intro d hd
    obtain rfl := Option.some.inj hd
    exact hc
  have hrest : skipSpace (c::r) = c::r := by
    rcases hc with rfl | rfl <;> exact skipSpace_of_head rfl
  rw [readAnyEntries,hhead,if_neg (by simp),readString_quote]
  simp only [Option.bind_eq_bind,Option.bind_some,hcolon,List.head?_cons,List.tail_cons,skipSpace_renderInt,
    readAny_renderInt hlimit hends,hrest,ne_eq,not_true_eq_false,if_false,Option.some.injEq]
  rcases hc with rfl | rfl
  · rw [if_neg (by decide),if_pos rfl,if_neg (by decide)]
    cases readAnyEntries limit (fuel+1) (skipSpace r) <;> rfl
  · rw [if_pos rfl,if_pos rfl]
    rfl

/-- A printed dict of two integers is read back. -/
theorem loadsAny_pair {limit : Nat} (k l : Text) {n m : Int} (hn : (digits n).length ≤ limit)
    (hm : (digits m).length ≤ limit) :
    loadsAny limit (render (.dict [(k,.int n),(l,.int m)])) = some (.dict [(k,.int n),(l,.int m)]) := by
  have hrender : render (.dict [(k,.int n),(l,.int m)]) = ofChar '{'::(quote k++ofChar ':'::(renderInt n++
      ofChar ','::(quote l++ofChar ':'::(renderInt m++[ofChar '}'])))) := rfl
  obtain ⟨fuel,hfuel⟩ : ∃ fuel, (render (.dict [(k,.int n),(l,.int m)])).length = fuel+3 := by
    apply Nat.exists_eq_add_of_le'
    rw [hrender]
    simp only [List.length_cons,List.length_append,List.length_nil]
    omega
  have hsecond : readAnyEntries limit (fuel+2) (quote l++ofChar ':'::(renderInt m++[ofChar '}'])) =
      some ([(l,.int m)],[]) := by
    rw [readAnyEntries_int l hm (Or.inr rfl)]
    rfl
  have hspace : skipSpace (quote l++ofChar ':'::(renderInt m++[ofChar '}'])) =
      quote l++ofChar ':'::(renderInt m++[ofChar '}']) := rfl
  have hboth : readAnyEntries limit (fuel+3) (quote k++ofChar ':'::(renderInt n++
      ofChar ','::(quote l++ofChar ':'::(renderInt m++[ofChar '}'])))) = some ([(k,.int n),(l,.int m)],[]) := by
    rw [readAnyEntries_int k hn (Or.inl rfl),if_neg (by decide),hspace,hsecond]
    rfl
  have hvalue : readAny limit (fuel+4) (render (.dict [(k,.int n),(l,.int m)])) =
      some (.dict [(k,.int n),(l,.int m)],[]) := by
    rw [hrender]
    change (readAnyEntries limit (fuel+3) (quote k++ofChar ':'::(renderInt n++
      ofChar ','::(quote l++ofChar ':'::(renderInt m++[ofChar '}']))))).map _ = _
    rw [hboth]
    rfl
  have hskip : skipSpace (render (.dict [(k,.int n),(l,.int m)])) = render (.dict [(k,.int n),(l,.int m)]) := rfl
  have hhead : (render (.dict [(k,.int n),(l,.int m)])).head? = some (ofChar '{') := rfl
  rw [loadsAny,hhead,if_neg (by decide),hskip,hfuel,hvalue]
  rfl

end ParaWorks.Lib.Loaded
