import Mathlib

/-!
# Texts of code points

A text is a list of Unicode code points, lone surrogates included, ordered by code point. UTF-8
encodes those without surrogates, and different texts have different encodings.
-/

namespace ParaWorks.Lib

abbrev CodePoint := Fin 0x110000

abbrev Text := List CodePoint

instance neZeroCodePoints : NeZero 0x110000 := ⟨by decide⟩

instance lawfulBEqCodePoint : LawfulBEq CodePoint := inferInstance

instance lawfulBEqText : LawfulBEq Text := inferInstance

instance lawfulBEqOptionText : LawfulBEq (Option Text) := inferInstance

def ofChar (c : Char) : CodePoint := ⟨c.toNat,by
  have hv := c.valid
  simp only [UInt32.isValidChar,Nat.isValidChar] at hv
  change c.val.toNat < _
  omega⟩

/-- An ASCII literal. -/
def text (s : String) : Text := s.toList.map ofChar

theorem ofChar_injective : Function.Injective ofChar := by
  intro c d h
  exact Char.toNat_inj.mp (Fin.mk.inj h)

/-- The character of a code point that is not a surrogate. -/
def scalar (c : CodePoint) : Option Char :=
  if h : c.val.isValidChar then some (Char.ofNatAux c.val h) else none

theorem ofChar_of_scalar {c : CodePoint} {d : Char} (h : scalar c = some d) : ofChar d = c := by
  unfold scalar at h
  split at h
  · obtain rfl := Option.some.inj h
    rfl
  · cases h

/-- The UTF-8 encoding of a text, which fails on a lone surrogate. -/
def utf8 (t : Text) : Option ByteArray :=
  (t.mapM scalar).map fun cs => (String.ofList cs).toUTF8

theorem map_ofChar_of_mapM_scalar {t : Text} {cs : List Char} (h : t.mapM scalar = some cs) :
    cs.map ofChar = t := by
  induction t generalizing cs with
  | nil => simp_all
  | cons c t ih =>
    simp only [List.mapM_cons,Option.bind_eq_bind,Option.bind_eq_some_iff,Option.pure_def,Option.some.injEq] at h
    obtain ⟨d,hd,ds,hds,rfl⟩ := h
    rw [List.map_cons,ofChar_of_scalar hd,ih hds]

theorem utf8_injective {t u : Text} {bytes : ByteArray} (ht : utf8 t = some bytes)
    (hu : utf8 u = some bytes) : t = u := by
  obtain ⟨cs,hcs,rfl⟩ := Option.map_eq_some_iff.mp ht
  obtain ⟨ds,hds,he⟩ := Option.map_eq_some_iff.mp hu
  have heq : ds = cs := String.ofList_inj.mp (String.toByteArray_inj.mp he)
  rw [← map_ofChar_of_mapM_scalar hcs,← map_ofChar_of_mapM_scalar hds,heq]

theorem scalar_ofChar (c : Char) : scalar (ofChar c) = some c := by
  have hvalid : (ofChar c).val.isValidChar := c.valid
  rw [scalar,dif_pos hvalid]
  exact congrArg some (Char.toNat_inj.mp rfl)

theorem utf8_map_ofChar (cs : List Char) : utf8 (cs.map ofChar) = some (String.ofList cs).toUTF8 := by
  have hscalars : (cs.map ofChar).mapM scalar = some cs := by
    induction cs with
    | nil => rfl
    | cons c cs ih => rw [List.map_cons,List.mapM_cons,scalar_ofChar,ih]; rfl
  rw [utf8,hscalars]
  rfl

/-- `bytes.decode('utf-8')`, none where it raises. -/
def decodeUtf8 (bytes : ByteArray) : Option Text := (String.fromUTF8? bytes).map fun s => s.toList.map ofChar

theorem decodeUtf8_utf8 {t : Text} {bytes : ByteArray} (h : utf8 t = some bytes) : decodeUtf8 bytes = some t := by
  obtain ⟨cs,hcs,rfl⟩ := Option.map_eq_some_iff.mp h
  have hread : String.fromUTF8? (String.ofList cs).toUTF8 = some (String.ofList cs) := dif_pos (String.ofList cs).isValidUTF8
  rw [decodeUtf8,hread,Option.map_some,String.toList_ofList,map_ofChar_of_mapM_scalar hcs]

/-- White space of `str.strip` and `str.isspace`. -/
def isSpace (c : CodePoint) : Bool :=
  (9 ≤ c.val ∧ c.val ≤ 13) || (28 ≤ c.val ∧ c.val ≤ 32) || c.val = 0x85 || c.val = 0xa0 || c.val = 0x1680 ||
    (0x2000 ≤ c.val ∧ c.val ≤ 0x200a) || c.val = 0x2028 || c.val = 0x2029 || c.val = 0x202f ||
    c.val = 0x205f || c.val = 0x3000

def strip (t : Text) : Text := ((t.dropWhile isSpace).reverse.dropWhile isSpace).reverse

/-- Two digit runs followed by something else agree as soon as the texts do. -/
theorem append_inj_of_class {α : Type} {p : α → Bool} {d d' r s : List α} (hd : ∀ c ∈ d, p c)
    (hd' : ∀ c ∈ d', p c) (hr : ∀ c ∈ r.head?, p c = false) (hs : ∀ c ∈ s.head?, p c = false)
    (h : d++r = d'++s) : d = d' ∧ r = s := by
  have run : ∀ e u : List α, (∀ c ∈ e, p c) → (∀ c ∈ u.head?, p c = false) → (e++u).takeWhile p = e := by
    intro e u he hu
    rw [List.takeWhile_append_of_pos he]
    cases u with
    | nil => simp
    | cons c u => simp [hu c (by simp)]
  have hdd : d = d' := by rw [← run d r hd hr,← run d' s hd' hs,h]
  subst hdd
  exact ⟨rfl,List.append_cancel_left h⟩

/-! ## Integer literals -/

/-- The code points of the digit zero, each followed by the nine other digits of its script. -/
def decimalZeros : List Nat :=
  [0x30,0x660,0x6f0,0x7c0,0x966,0x9e6,0xa66,0xae6,0xb66,0xbe6,0xc66,0xce6,0xd66,0xde6,0xe50,0xed0,0xf20,0x1040,
    0x1090,0x17e0,0x1810,0x1946,0x19d0,0x1a80,0x1a90,0x1b50,0x1bb0,0x1c40,0x1c50,0xa620,0xa8d0,0xa900,0xa9d0,
    0xa9f0,0xaa50,0xabf0,0xff10,0x104a0,0x10d30,0x11066,0x110f0,0x11136,0x111d0,0x112f0,0x11450,0x114d0,0x11650,
    0x116c0,0x11730,0x118e0,0x11950,0x11c50,0x11d50,0x11da0,0x16a60,0x16ac0,0x16b50,0x1d7ce,0x1d7d8,0x1d7e2,
    0x1d7ec,0x1d7f6,0x1e140,0x1e2f0,0x1e950,0x1fbf0]

def decimalValue (c : CodePoint) : Option Nat :=
  (decimalZeros.find? fun z => z ≤ c.val && c.val < z+10).map fun z => c.val-z

/-- Digits with single underscores between them. -/
def parseDigits : Text → Nat → Bool → Option Nat
  | [], value, afterDigit => if afterDigit then some value else none
  | c::t, value, afterDigit =>
    if c = ofChar '_' then if afterDigit then parseDigits t value false else none
    else match decimalValue c with
      | none => none
      | some d => parseDigits t (10*value+d) true

/-- `int(text)`, none where it raises. -/
def parseInt (t : Text) : Option Int :=
  match strip t with
  | [] => none
  | c::r =>
    if c = ofChar '-' then (parseDigits r 0 false).map fun n => -(n : Int)
    else (parseDigits (if c = ofChar '+' then r else c::r) 0 false).map fun n => (n : Int)

end ParaWorks.Lib
