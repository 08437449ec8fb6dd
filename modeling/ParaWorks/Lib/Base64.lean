import ParaWorks.Lib.Text

/-!
# URL-safe base64

`base64.urlsafe_b64encode` and the lenient decoder `base64.urlsafe_b64decode`, which passes over what is not a digit.
-/

namespace ParaWorks.Lib.Base64

open Lib

/-! ## Encoding -/

/-- The six-bit digits of the bytes. -/
def sextets : List UInt8 → List Nat
  | a::b::c::bytes =>
    a.toNat/4::(a.toNat%4*16+b.toNat/16)::(b.toNat%16*4+c.toNat/64)::c.toNat%64::sextets bytes
  | [a,b] => [a.toNat/4,a.toNat%4*16+b.toNat/16,b.toNat%16*4]
  | [a] => [a.toNat/4,a.toNat%4*16]
  | [] => []

def urlsafeChar (n : Nat) : CodePoint :=
  if n < 26 then Fin.ofNat _ (65+n)
  else if n < 52 then Fin.ofNat _ (71+n)
  else if n < 62 then Fin.ofNat _ (n-4)
  else if n = 62 then ofChar '-' else ofChar '_'

def urlsafeB64Encode (bytes : List UInt8) : Text :=
  (sextets bytes).map urlsafeChar++List.replicate ((3-bytes.length%3)%3) (ofChar '=')

/-- `rstrip('=')`. -/
def rstripPadding (t : Text) : Text := (t.reverse.dropWhile (· = ofChar '=')).reverse

/-! ## Decoding -/

/-- The value of a digit of either alphabet. -/
def sextet (c : CodePoint) : Option Nat :=
  if 65 ≤ c.val ∧ c.val ≤ 90 then some (c.val-65)
  else if 97 ≤ c.val ∧ c.val ≤ 122 then some (c.val-71)
  else if 48 ≤ c.val ∧ c.val ≤ 57 then some (c.val+4)
  else if c = ofChar '-' ∨ c = ofChar '+' then some 62
  else if c = ofChar '_' ∨ c = ofChar '/' then some 63
  else none

/-- The bytes from a place in a group on, with the bits that are left over and the padding seen; none where the
decoder raises. -/
def decodeFrom : Text → Nat → Nat → Nat → Option (List UInt8)
  | [], quad, _, _ => if quad = 0 then some [] else none
  | c::t, quad, left, pads =>
    if c = ofChar '=' then
      if quad < 2 then decodeFrom t quad left pads
      else if 4 ≤ quad+(pads+1) then some []
      else decodeFrom t quad left (pads+1)
    else match sextet c with
      | none => decodeFrom t quad left pads
      | some d =>
        if quad = 0 then decodeFrom t 1 d 0
        else if quad = 1 then (decodeFrom t 2 (d%16) 0).map (UInt8.ofNat (left*4+d/16)::·)
        else if quad = 2 then (decodeFrom t 3 (d%4) 0).map (UInt8.ofNat (left*16+d/4)::·)
        else (decodeFrom t 0 0 0).map (UInt8.ofNat (left*64+d)::·)

def urlsafeB64Decode (t : Text) : Option (List UInt8) := decodeFrom t 0 0 0

/-- `'=' * (-len(t) % 4)`. -/
def padding (t : Text) : Text := List.replicate ((4-t.length%4)%4) (ofChar '=')

/-! ## Round trip -/

theorem urlsafeChar_spec : ∀ n < 64, sextet (urlsafeChar n) = some n ∧ urlsafeChar n ≠ ofChar '=' ∧
    urlsafeChar n ≠ ofChar '.' ∧ (urlsafeChar n).val < 128 := by decide

theorem sextets_lt (bytes : List UInt8) : ∀ n ∈ sextets bytes, n < 64 := by
  fun_induction sextets bytes with
  | case1 a b c bytes ih =>
    have ha := a.toNat_lt
    have hb := b.toNat_lt
    have hc := c.toNat_lt
    simp only [List.forall_mem_cons]
    exact ⟨by omega,by omega,by omega,by omega,ih⟩
  | case2 a b =>
    have ha := a.toNat_lt
    have hb := b.toNat_lt
    simp only [List.forall_mem_cons]
    exact ⟨by omega,by omega,by omega,by simp⟩
  | case3 a =>
    have ha := a.toNat_lt
    simp only [List.forall_mem_cons]
    exact ⟨by omega,by omega,by simp⟩
  | case4 => simp

theorem rstripPadding_encode (bytes : List UInt8) :
    rstripPadding (urlsafeB64Encode bytes) = (sextets bytes).map urlsafeChar := by
  have hpad : ∀ (n : Nat) (t : Text), (List.replicate n (ofChar '=')++t).dropWhile (· = ofChar '=') =
      t.dropWhile (· = ofChar '=') := by
    intro n t
    apply List.dropWhile_append_of_pos
    intro c hc
    simpa using List.eq_of_mem_replicate hc
  have hdigits : ((sextets bytes).map urlsafeChar).reverse.dropWhile (· = ofChar '=') =
      ((sextets bytes).map urlsafeChar).reverse := by
    rw [List.dropWhile_eq_self_iff]
    intro hne
    have hmem := List.getElem_mem (l := ((sextets bytes).map urlsafeChar).reverse) (n := 0) hne
    obtain ⟨n,hn,hchar⟩ := List.mem_map.mp (List.mem_reverse.mp hmem)
    rw [← hchar]
    simpa using (urlsafeChar_spec n (sextets_lt bytes n hn)).2.1
  rw [rstripPadding,urlsafeB64Encode,List.reverse_append,List.reverse_replicate,hpad,hdigits,List.reverse_reverse]

theorem decodeFrom_digit {n : Nat} (hn : n < 64) (t : Text) (quad left pads : Nat) :
    decodeFrom (urlsafeChar n::t) quad left pads =
      if quad = 0 then decodeFrom t 1 n 0
      else if quad = 1 then (decodeFrom t 2 (n%16) 0).map (UInt8.ofNat (left*4+n/16)::·)
      else if quad = 2 then (decodeFrom t 3 (n%4) 0).map (UInt8.ofNat (left*16+n/4)::·)
      else (decodeFrom t 0 0 0).map (UInt8.ofNat (left*64+n)::·) := by
  obtain ⟨hvalue,hpad,_⟩ := urlsafeChar_spec n hn
  rw [decodeFrom,if_neg hpad,hvalue]

section digits

variable {n left pads : Nat} {t : Text}

theorem decodeFrom_first (hn : n < 64) : decodeFrom (urlsafeChar n::t) 0 left pads = decodeFrom t 1 n 0 :=
  decodeFrom_digit hn t 0 left pads

theorem decodeFrom_second (hn : n < 64) : decodeFrom (urlsafeChar n::t) 1 left pads =
    (decodeFrom t 2 (n%16) 0).map (UInt8.ofNat (left*4+n/16)::·) := decodeFrom_digit hn t 1 left pads

theorem decodeFrom_third (hn : n < 64) : decodeFrom (urlsafeChar n::t) 2 left pads =
    (decodeFrom t 3 (n%4) 0).map (UInt8.ofNat (left*16+n/4)::·) := decodeFrom_digit hn t 2 left pads

theorem decodeFrom_fourth (hn : n < 64) : decodeFrom (urlsafeChar n::t) 3 left pads =
    (decodeFrom t 0 0 0).map (UInt8.ofNat (left*64+n)::·) := decodeFrom_digit hn t 3 left pads

end digits

theorem byte_eq (b : UInt8) {n : Nat} (h : n = b.toNat) : UInt8.ofNat n = b := by
  rw [h]
  exact UInt8.ofNat_toNat

/-- Without its padding an encoding is decoded once the padding is put back. -/
theorem decode_encode (bytes : List UInt8) :
    urlsafeB64Decode ((sextets bytes).map urlsafeChar++padding ((sextets bytes).map urlsafeChar)) = some bytes := by
  unfold urlsafeB64Decode
  fun_induction sextets bytes with
  | case1 a b c bytes ih =>
    have ha := a.toNat_lt
    have hb := b.toNat_lt
    have hc := c.toNat_lt
    have hpad : padding ((a.toNat/4::(a.toNat%4*16+b.toNat/16)::(b.toNat%16*4+c.toNat/64)::c.toNat%64::
        sextets bytes).map urlsafeChar) = padding ((sextets bytes).map urlsafeChar) := by
      simp only [padding,List.length_map,List.length_cons]
      congr 1
      omega
    rw [hpad]
    simp only [List.map_cons,List.cons_append]
    rw [decodeFrom_first (by omega),decodeFrom_second (by omega),decodeFrom_third (by omega),
      decodeFrom_fourth (by omega),ih,Option.map_some,Option.map_some,Option.map_some]
    have hfirst : UInt8.ofNat (a.toNat/4*4+(a.toNat%4*16+b.toNat/16)/16) = a := byte_eq a (by omega)
    have hsecond : UInt8.ofNat ((a.toNat%4*16+b.toNat/16)%16*16+(b.toNat%16*4+c.toNat/64)/4) = b := byte_eq b (by omega)
    have hthird : UInt8.ofNat ((b.toNat%16*4+c.toNat/64)%4*64+c.toNat%64) = c := byte_eq c (by omega)
    rw [hfirst,hsecond,hthird]
  | case2 a b =>
    have ha := a.toNat_lt
    have hb := b.toNat_lt
    have hfirst : UInt8.ofNat (a.toNat/4*4+(a.toNat%4*16+b.toNat/16)/16) = a := byte_eq a (by omega)
    have hsecond : UInt8.ofNat ((a.toNat%4*16+b.toNat/16)%16*16+b.toNat%16*4/4) = b := byte_eq b (by omega)
    have hend : decodeFrom [ofChar '='] 3 (b.toNat%16*4%4) 0 = some [] := rfl
    change decodeFrom (urlsafeChar (a.toNat/4)::urlsafeChar (a.toNat%4*16+b.toNat/16)::urlsafeChar (b.toNat%16*4)::
      [ofChar '=']) 0 0 0 = _
    rw [decodeFrom_first (by omega),decodeFrom_second (by omega),decodeFrom_third (by omega),hend,Option.map_some,
      Option.map_some,hfirst,hsecond]
  | case3 a =>
    have ha := a.toNat_lt
    have hfirst : UInt8.ofNat (a.toNat/4*4+a.toNat%4*16/16) = a := byte_eq a (by omega)
    have hend : decodeFrom [ofChar '=',ofChar '='] 2 (a.toNat%4*16%16) 0 = some [] := rfl
    change decodeFrom (urlsafeChar (a.toNat/4)::urlsafeChar (a.toNat%4*16)::[ofChar '=',ofChar '=']) 0 0 0 = _
    rw [decodeFrom_first (by omega),decodeFrom_second (by omega),hend,Option.map_some,hfirst]
  | case4 => rfl

end ParaWorks.Lib.Base64
