import ParaWorks.Lib.JsonPrinter

/-!
# Reading JSON

`loads` is the strict reader: a key may not come twice, and there is no word for a number that is not finite. A number
with a fraction or an exponent is kept as it is written.
-/

namespace ParaWorks.Lib

inductive Loaded where
  | null
  | bool (b : Bool)
  | int (n : Int)
  | float (literal : Text)
  | str (t : Text)
  | list (items : List Loaded)
  | dict (entries : List (Text × Loaded))

namespace Loaded

open Json

def skipSpace (t : Text) : Text := t.dropWhile fun c => c = 32 || c = 9 || c = 10 || c = 13

/-! ## Strings -/

/-- A hexadecimal digit in either case. -/
def hexOf (c : CodePoint) : Option Nat :=
  if 48 ≤ c.val ∧ c.val ≤ 57 then some (c.val-48)
  else if 65 ≤ c.val ∧ c.val ≤ 70 then some (c.val-55)
  else if 97 ≤ c.val ∧ c.val ≤ 102 then some (c.val-87)
  else none

/-- The four digits after `\u`. -/
def readUnit : Text → Option (Nat × Text)
  | a::b::c::d::t => do
    let a ← hexOf a
    let b ← hexOf b
    let c ← hexOf c
    let d ← hexOf d
    return (((a*16+b)*16+c)*16+d,t)
  | _ => none

def highSurrogate (n : Nat) : Bool := 0xd800 ≤ n && n ≤ 0xdbff

def lowSurrogate (n : Nat) : Bool := 0xdc00 ≤ n && n ≤ 0xdfff

/-- The low half of a pair, where one follows. -/
def readLow : Text → Option (Nat × Text)
  | 92::117::t =>
    match readUnit t with
    | some (low,t) => if lowSurrogate low then some (low,t) else none
    | none => none
  | _ => none

/-- What stands after a backslash. -/
def readEscape : Text → Option (CodePoint × Text)
  | 34::t => some (34,t)
  | 92::t => some (92,t)
  | 47::t => some (47,t)
  | 98::t => some (8,t)
  | 102::t => some (12,t)
  | 110::t => some (10,t)
  | 114::t => some (13,t)
  | 116::t => some (9,t)
  | 117::t => do
    let (unit,t) ← readUnit t
    if highSurrogate unit then
      match readLow t with
      | some (low,t) => some (Fin.ofNat _ (0x10000+(unit-0xd800)*1024+(low-0xdc00)),t)
      | none => some (Fin.ofNat _ unit,t)
    else some (Fin.ofNat _ unit,t)
  | _ => none

/-- One character of a string. -/
def readChar : Text → Option (CodePoint × Text)
  | [] => none
  | c::t => if c = 92 then readEscape t else if c.val < 32 then none else some (c,t)

/-- The rest of a string up to its closing quote. -/
def readString : Nat → Text → Option (Text × Text)
  | 0, _ => none
  | fuel+1, t =>
    if t.head? = some 34 then some ([],t.tail)
    else do
      let (c,t) ← readChar t
      let (u,t) ← readString fuel t
      return (c::u,t)

/-! ## Numbers -/

def takeDigits (t : Text) : Text × Text := (t.takeWhile isDigit,t.dropWhile isDigit)

/-- `(\.\d+)?` -/
def readFraction : Text → Text × Text
  | c::t => if c = ofChar '.' && (t.head?.any isDigit) then (c::(takeDigits t).1,(takeDigits t).2) else ([],c::t)
  | [] => ([],[])

def isSign (c : CodePoint) : Bool := c = ofChar '+' || c = ofChar '-'

/-- `([eE][-+]?\d+)?` -/
def readExponent : Text → Text × Text
  | c::t =>
    let sign := t.takeWhile isSign |>.take 1
    let rest := t.drop sign.length
    if (c = ofChar 'e' || c = ofChar 'E') && (rest.head?.any isDigit) then
      (c::(sign++(takeDigits rest).1),(takeDigits rest).2)
    else ([],c::t)
  | [] => ([],[])

def decimalValue (digits : Text) : Nat := digits.foldl (fun n c => 10*n+(c.val-48)) 0

/-- A number, none where no number starts here. -/
def readNumber (t : Text) : Option (Loaded × Text) :=
  let sign := if t.head? = some (ofChar '-') then [ofChar '-'] else []
  let unsigned := t.drop sign.length
  let whole := if unsigned.head? = some (ofChar '0') then ([ofChar '0'],unsigned.tail) else takeDigits unsigned
  if whole.1 = [] then none
  else
    let fraction := readFraction whole.2
    let exponent := readExponent fraction.2
    if fraction.1 = [] ∧ exponent.1 = [] then
      some (.int (if sign = [] then decimalValue whole.1 else -decimalValue whole.1),exponent.2)
    else some (.float (sign++whole.1++fraction.1++exponent.1),exponent.2)

/-! ## Values -/

/-- A word at the start of the text. -/
def readWord (word : Text) (value : Loaded) (t : Text) : Option (Loaded × Text) :=
  if word <+: t then some (value,t.drop word.length) else none

mutual
def readValue : Nat → Text → Option (Loaded × Text)
  | 0, _ => none
  | fuel+1, t =>
    match t.head? with
    | none => none
    | some c =>
      if c = 34 then (readString t.length t.tail).map fun (s,t) => (.str s,t)
      else if c = ofChar '\x7b' then
        let rest := skipSpace t.tail
        if rest.head? = some (ofChar '\x7d') then some (.dict [],rest.tail)
        else (readEntries fuel rest).map fun (entries,t) => (.dict entries,t)
      else if c = ofChar '[' then
        let rest := skipSpace t.tail
        if rest.head? = some (ofChar ']') then some (.list [],rest.tail)
        else (readItems fuel rest).map fun (items,t) => (.list items,t)
      else if c = ofChar 'n' then readWord (text "null") .null t
      else if c = ofChar 't' then readWord (text "true") (.bool true) t
      else if c = ofChar 'f' then readWord (text "false") (.bool false) t
      else readNumber t

/-- The items of a list, from the next one to the closing bracket. -/
def readItems : Nat → Text → Option (List Loaded × Text)
  | 0, _ => none
  | fuel+1, t => do
    let (v,t) ← readValue fuel t
    let rest := skipSpace t
    if rest.head? = some (ofChar ']') then return ([v],rest.tail)
    else if rest.head? = some (ofChar ',') then
      let (items,t) ← readItems fuel (skipSpace rest.tail)
      return (v::items,t)
    else none

/-- The entries of a dict, from the next one to the closing brace. -/
def readEntries : Nat → Text → Option (List (Text × Loaded) × Text)
  | 0, _ => none
  | fuel+1, t =>
    if t.head? ≠ some 34 then none
    else do
      let (k,t) ← readString t.length t.tail
      let rest := skipSpace t
      if rest.head? ≠ some (ofChar ':') then none
      else
        let (v,t) ← readValue fuel (skipSpace rest.tail)
        let rest := skipSpace t
        if rest.head? = some (ofChar '\x7d') then return ([(k,v)],rest.tail)
        else if rest.head? = some (ofChar ',') then
          let (entries,t) ← readEntries fuel (skipSpace rest.tail)
          return ((k,v)::entries,t)
        else none
end

/-- No dict in the value has a key twice. -/
def keysOnce : Loaded → Bool
  | .list items => keysOnceItems items
  | .dict entries => (entries.map (·.1)).Nodup && keysOnceEntries entries
  | _ => true
where
  keysOnceItems : List Loaded → Bool
    | [] => true
    | v::items => keysOnce v && keysOnceItems items
  keysOnceEntries : List (Text × Loaded) → Bool
    | [] => true
    | (_,v)::entries => keysOnce v && keysOnceEntries entries

/-- The value of a whole text, none where the reader raises. -/
def loads (t : Text) : Option Loaded :=
  if t.head? = some 0xfeff then none
  else do
    let (v,rest) ← readValue (t.length+1) (skipSpace t)
    if skipSpace rest = [] ∧ keysOnce v then return v else none

/-! ## Reading a printed string -/

theorem readChar_escape (c : CodePoint) (t : Text) : readChar (escape c++t) = some (c,t) := by
  unfold escape
  split
  · subst c; rfl
  split
  · subst c; rfl
  split
  · subst c; rfl
  split
  · subst c; rfl
  split
  · subst c; rfl
  split
  · subst c; rfl
  split
  · subst c; rfl
  split
  next h =>
    have hunit : ∀ n < 32, readUnit (48::48::hexDigit (n/16)::hexDigit (n%16)::t) = some (n,t) := by
      intro n hn
      have hdigit : ∀ k < 16, hexOf (hexDigit k) = some k := by decide
      simp only [readUnit,hdigit _ (show n/16 < 16 by omega),hdigit _ (show n%16 < 16 by omega),
        show hexOf 48 = some 0 from rfl,Option.bind_eq_bind,Option.bind_some]
      congr
      omega
    change readEscape (117::48::48::hexDigit (c.val/16)::hexDigit (c.val%16)::t) = some (c,t)
    have hlow : highSurrogate c.val = false := by
      have hc := h
      simp only [highSurrogate,Bool.and_eq_false_iff,decide_eq_false_iff_not]
      omega
    rw [readEscape,hunit _ h,Option.bind_eq_bind,Option.bind_some]
    simp only [hlow,Bool.false_eq_true,if_false]
    congr
    exact Fin.ofNat_val_eq_self c
  next hq hb _ _ _ _ _ hctrl =>
    have hc : c ≠ 92 := hb
    simp [readChar,hc,hctrl]

theorem escape_head (c : CodePoint) (t : Text) : (escape c++t).head? ≠ some 34 := by
  intro h
  obtain ⟨rest,hrest⟩ := List.head?_eq_some_iff.mp h
  have hread := readChar_escape c t
  rw [hrest] at hread
  have hc : c = 34 := by simpa [readChar] using (congrArg (Option.map Prod.fst) hread).symm
  subst c
  exact absurd (List.cons.inj hrest).1 (by decide)

theorem readString_escapes {fuel : Nat} {t r : Text} (h : t.length < fuel) :
    readString fuel (t.flatMap escape++34::r) = some (t,r) := by
  induction fuel generalizing t with
  | zero => omega
  | succ fuel ih =>
    cases t with
    | nil => rfl
    | cons c t =>
      rw [List.flatMap_cons,List.append_assoc,readString,if_neg (escape_head c _),readChar_escape]
      simp only [Option.bind_eq_bind,Option.bind_some]
      rw [ih (by simpa using h)]
      rfl

theorem length_le_escapes (t : Text) : t.length ≤ (t.flatMap escape).length := by
  induction t with
  | nil => exact le_rfl
  | cons c t ih =>
    have hc : 1 ≤ (escape c).length := by
      apply List.length_pos_iff.mpr
      intro he
      have h := readChar_escape c []
      rw [he] at h
      cases h
    rw [List.flatMap_cons,List.length_append,List.length_cons]
    omega

/-- A printed string is read back, whatever follows. -/
theorem readString_quote (t r : Text) : readString (quote t++r).length (quote t++r).tail = some (t,r) := by
  have htail : (quote t++r).tail = t.flatMap escape++34::r := by
    change t.flatMap escape++[34]++r = _
    rw [List.append_assoc]
    rfl
  rw [htail]
  apply readString_escapes
  have h := length_le_escapes t
  simp only [quote,List.length_append,List.length_cons,List.cons_append]
  omega

theorem readValue_quote {fuel : Nat} (t r : Text) : readValue (fuel+1) (quote t++r) = some (.str t,r) := by
  have hhead : (quote t++r).head? = some 34 := rfl
  rw [readValue,hhead]
  simp only [if_true]
  rw [readString_quote]
  rfl

/-- The one entry of a dict. -/
theorem readEntries_quote {fuel : Nat} (k t r : Text) :
    readEntries (fuel+2) (quote k++ofChar ':'::(quote t++ofChar '\x7d'::r)) = some ([(k,.str t)],r) := by
  have hhead : (quote k++ofChar ':'::(quote t++ofChar '\x7d'::r)).head? = some 34 := rfl
  rw [readEntries,hhead,if_neg (by simp),readString_quote]
  change (readValue (fuel+1) (quote t++ofChar '\x7d'::r)).bind _ = _
  rw [readValue_quote]
  rfl

/-- A printed dict with one string in it. -/
theorem loads_singleton (k t : Text) : loads (render (.dict [(k,.str t)])) = some (.dict [(k,.str t)]) := by
  have hrender : render (.dict [(k,.str t)]) = ofChar '\x7b'::(quote k++ofChar ':'::(quote t++[ofChar '\x7d'])) := rfl
  obtain ⟨n,hn⟩ : ∃ n, (render (.dict [(k,.str t)])).length = n+2 := by
    apply Nat.exists_eq_add_of_le'
    rw [hrender,List.length_cons,List.length_append,List.length_cons]
    omega
  have hvalue : readValue (n+3) (render (.dict [(k,.str t)])) = some (.dict [(k,.str t)],[]) := by
    rw [hrender]
    change (readEntries (n+2) (quote k++ofChar ':'::(quote t++ofChar '\x7d'::[]))).map _ = _
    rw [readEntries_quote]
    rfl
  have hskip : skipSpace (render (.dict [(k,.str t)])) = render (.dict [(k,.str t)]) := rfl
  have hhead : (render (.dict [(k,.str t)])).head? = some (ofChar '\x7b') := rfl
  rw [loads,hhead,if_neg (by decide),hskip,hn,hvalue]
  rfl

end Loaded

end ParaWorks.Lib
