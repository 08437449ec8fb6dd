import ParaWorks.Lib.JsonRoundTrip
import ParaWorks.Lib.Partial
import ParaWorks.Lib.Tables

/-!
# Codecs of JSON values

A codec prints the values of a type as JSON with sorted keys, and reads back what it prints. Of a value with sorted keys it
reads nothing else, so that a type has one form in the printed text.
-/

namespace ParaWorks.Lib

namespace Json

/-- The keys of an object increase. -/
def KeysSorted : Json → Prop
  | .dict entries => (entries.map Prod.fst).Pairwise (· < ·)
  | _ => True

theorem KeysSorted.nodup {v : Json} (h : KeysSorted v) : KeysNodup v := by
  cases v with
  | dict entries => exact h.imp fun hlt => ne_of_lt hlt
  | _ => trivial

theorem every_keysNodup {v : Json} (h : v.Every KeysSorted) : v.Every KeysNodup := fun w hw => (h w hw).nodup

/-- Sorted keys are as the printer sorts them. -/
theorem sortKeys_of_sorted {v : Json} (h : v.Every KeysSorted) : sortKeys v = v := by
  induction v with
  | null => rfl
  | bool b => rfl
  | int n => rfl
  | str t => rfl
  | list items ih =>
    obtain ⟨-,hitems⟩ := every_list.mp h
    rw [sortKeys,sortItems_eq]
    congr 1
    exact (List.map_congr_left fun w hw => ih w hw (hitems w hw)).trans (List.map_id items)
  | dict entries ih =>
    obtain ⟨hkeys,hentries⟩ := every_dict.mp h
    have hsame : entries.map (fun e => (e.1,sortKeys e.2)) = entries :=
      (List.map_congr_left fun e he => by rw [ih e he (hentries e he)]; rfl).trans (List.map_id entries)
    rw [sortKeys,sortEntries_eq,hsame]
    congr 1
    exact List.Pairwise.insertionSort_eq ((List.pairwise_map.mp hkeys).imp fun hlt => le_of_lt hlt)

/-- Sorting sorts, where no key comes twice. -/
theorem every_keysSorted_sortKeys {v : Json} (h : v.Every KeysNodup) : v.sortKeys.Every KeysSorted := by
  induction v with
  | null => exact (every_leaf (by simp [sortKeys]) (by simp [sortKeys])).mpr trivial
  | bool b => exact (every_leaf (by simp [sortKeys]) (by simp [sortKeys])).mpr trivial
  | int n => exact (every_leaf (by simp [sortKeys]) (by simp [sortKeys])).mpr trivial
  | str t => exact (every_leaf (by simp [sortKeys]) (by simp [sortKeys])).mpr trivial
  | list items ih =>
    obtain ⟨-,hitems⟩ := every_list.mp h
    rw [sortKeys,sortItems_eq,every_list]
    refine ⟨trivial,fun w hw => ?_⟩
    obtain ⟨v,hv,rfl⟩ := List.mem_map.mp hw
    exact ih v hv (hitems v hv)
  | dict entries ih =>
    obtain ⟨hkeys,hentries⟩ := every_dict.mp h
    have total : Std.Total fun e d : Text × Json => e.1 ≤ d.1 := ⟨fun e d => le_total e.1 d.1⟩
    have trans : IsTrans (Text × Json) fun e d => e.1 ≤ d.1 := ⟨fun _ _ _ => le_trans⟩
    rw [sortKeys,sortEntries_eq,every_dict]
    have hperm := List.perm_insertionSort (fun e d : Text × Json => e.1 ≤ d.1) (entries.map fun e => (e.1,sortKeys e.2))
    constructor
    · have hnodup := (hperm.map Prod.fst).nodup_iff.mpr (by rw [List.map_map]; exact hkeys)
      have hle := List.pairwise_insertionSort (fun e d : Text × Json => e.1 ≤ d.1) (entries.map fun e => (e.1,sortKeys e.2))
      exact ((List.pairwise_map.mpr hle).and hnodup).imp fun hboth => lt_of_le_of_ne hboth.1 hboth.2
    · intro e he
      obtain ⟨d,hd,rfl⟩ := List.mem_map.mp (hperm.mem_iff.mp he)
      exact ih d hd (hentries d hd)

end Json

namespace Loaded

mutual
/-- The value of what was read, none where it has a float. -/
def toJson : Loaded → Option Json
  | .null => some .null
  | .bool b => some (.bool b)
  | .int n => some (.int n)
  | .float _ => none
  | .str t => some (.str t)
  | .list items => (toItems items).map .list
  | .dict entries => (toEntries entries).map .dict

def toItems : List Loaded → Option (List Json)
  | [] => some []
  | v::items => (toJson v).bind fun first => (toItems items).map (first::·)

def toEntries : List (Text × Loaded) → Option (List (Text × Json))
  | [] => some []
  | (k,v)::entries => (toJson v).bind fun first => (toEntries entries).map ((k,first)::·)
end

theorem toJson_ofJson (v : Json) : toJson (ofJson v) = some v := by
  induction v with
  | null => rfl
  | bool b => rfl
  | int n => rfl
  | str t => rfl
  | list items ih =>
    have hitems : toItems (ofItems items) = some items := by
      induction items with
      | nil => rfl
      | cons w items ihs =>
        obtain ⟨hw,hrest⟩ := List.forall_mem_cons.mp ih
        rw [ofItems,toItems,hw,Option.bind_some,ihs hrest]
        rfl
    rw [ofJson,toJson,hitems]
    rfl
  | dict entries ih =>
    have hentries : toEntries (ofEntries entries) = some entries := by
      induction entries with
      | nil => rfl
      | cons e entries ihs =>
        obtain ⟨he,hrest⟩ := List.forall_mem_cons.mp ih
        rw [ofEntries,toEntries,he,Option.bind_some,ihs hrest]
        rfl
    rw [ofJson,toJson,hentries]
    rfl

end Loaded

/-! ## Codecs -/

/-- The printed form of a type. -/
structure Codec (α : Type) where
  encode : α → Json
  decode : Json → Option α
  decode_encode : ∀ a, decode (encode a) = some a
  encode_decode : ∀ v a, v.Every Json.KeysSorted → decode v = some a → encode a = v
  sorted : ∀ a, (encode a).Every Json.KeysSorted

/-- The printed forms of the values of an object, in the order of its keys. -/
structure Fields (α : Type) where
  size : Nat
  encode : α → List Json
  decode : List Json → Option α
  length_encode : ∀ a, (encode a).length = size
  decode_encode : ∀ a, decode (encode a) = some a
  encode_decode : ∀ vs a, (∀ v ∈ vs, v.Every Json.KeysSorted) → decode vs = some a → encode a = vs
  sorted : ∀ a, ∀ v ∈ encode a, v.Every Json.KeysSorted

namespace Codec

variable {α β : Type}

theorem every_sorted_leaf {v : Json} (hl : ∀ items, v ≠ .list items) (hd : ∀ entries, v ≠ .dict entries) :
    v.Every Json.KeysSorted := by
  rw [Json.every_leaf hl hd]
  cases v with
  | dict entries => exact absurd rfl (hd entries)
  | _ => trivial

def text : Codec Text where
  encode t := .str t
  decode
    | .str t => some t
    | _ => none
  decode_encode _ := rfl
  encode_decode v t _ h := by
    cases v with
    | str u => exact congrArg Json.str (Option.some.inj h).symm
    | _ => cases h
  sorted t := every_sorted_leaf (by simp) (by simp)

/-- An `int` that is not negative. -/
def decodeNat : Json → Option Nat
  | .int n => if n < 0 then none else some n.toNat
  | _ => none

theorem decodeNat_int (n : Nat) : decodeNat (.int n) = some n := by simp [decodeNat]

theorem int_of_decodeNat (v : Json) (n : Nat) (_ : v.Every Json.KeysSorted) (h : decodeNat v = some n) :
    Json.int n = v := by
  cases v with
  | int m =>
    change (if m < 0 then none else some m.toNat) = some n at h
    split_ifs at h
    obtain rfl := Option.some.inj h
    congr 1
    omega
  | _ => cases h

theorem int_sorted (n : Nat) : (Json.int n).Every Json.KeysSorted := every_sorted_leaf (by simp) (by simp)

def nat : Codec Nat := ⟨fun n => .int n,decodeNat,decodeNat_int,int_of_decodeNat,int_sorted⟩

/-- One of some words. -/
def word (all : List α) (name : α → Text) (hall : ∀ a, a ∈ all) (hname : Function.Injective name) : Codec α where
  encode a := .str (name a)
  decode
    | .str t => all.find? fun a => name a = t
    | _ => none
  decode_encode a := by
    have hsome : (all.find? fun b => name b = name a).isSome = true :=
      List.find?_isSome.mpr ⟨a,hall a,by simp⟩
    obtain ⟨b,hb⟩ := Option.isSome_iff_exists.mp hsome
    obtain rfl := hname (of_decide_eq_true (find?_spec hb).2)
    exact hb
  encode_decode v a _ h := by
    cases v with
    | str t => exact congrArg Json.str (of_decide_eq_true (find?_spec h).2)
    | _ => cases h
  sorted a := every_sorted_leaf (by simp) (by simp)

/-- The value, or `null`. -/
def nullable (c : Codec α) (hnull : c.decode .null = none) : Codec (Option α) where
  encode
    | none => .null
    | some a => c.encode a
  decode
    | .null => some none
    | v => (c.decode v).map some
  decode_encode a := by
    cases a with
    | none => rfl
    | some a =>
      have hback := c.decode_encode a
      cases hv : c.encode a with
      | null => rw [hv,hnull] at hback; cases hback
      | _ => rw [hv] at hback; simp [hv,hback]
  encode_decode v a hv h := by
    cases v with
    | null => obtain rfl := Option.some.inj h; rfl
    | _ =>
      obtain ⟨b,hb,rfl⟩ := Option.map_eq_some_iff.mp h
      exact c.encode_decode _ b hv hb
  sorted a := by
    cases a with
    | none => exact every_sorted_leaf (by simp) (by simp)
    | some a => exact c.sorted a

def list (c : Codec α) : Codec (List α) where
  encode xs := .list (xs.map c.encode)
  decode
    | .list items => items.mapM c.decode
    | _ => none
  decode_encode xs := by
    rw [mapM_eq_some_iff]
    exact List.forall₂_map_left_iff.mpr (List.forall₂_same.mpr fun a _ => c.decode_encode a)
  encode_decode v xs hv h := by
    cases v with
    | list items =>
      obtain ⟨-,hitems⟩ := Json.every_list.mp hv
      congr 1
      have hall := mapM_eq_some_iff.mp h
      clear h hv
      induction hall with
      | nil => rfl
      | cons ha _ ih =>
        obtain ⟨hfirst,hrest⟩ := List.forall_mem_cons.mp hitems
        rw [List.map_cons,c.encode_decode _ _ hfirst ha,ih hrest]
    | _ => cases h
  sorted xs := by
    rw [Json.every_list]
    refine ⟨trivial,fun v hv => ?_⟩
    obtain ⟨a,-,rfl⟩ := List.mem_map.mp hv
    exact c.sorted a

/-- The values of a codec that stand for those of another type. -/
def refine (c : Codec α) (f : α → Option β) (g : β → α) (hfg : ∀ b, f (g b) = some b)
    (hgf : ∀ a b, f a = some b → g b = a) : Codec β where
  encode b := c.encode (g b)
  decode v := (c.decode v).bind f
  decode_encode b := by rw [c.decode_encode,Option.bind_some,hfg]
  encode_decode v b hv h := by
    obtain ⟨a,ha,hb⟩ := Option.bind_eq_some_iff.mp h
    rw [hgf a b hb]
    exact c.encode_decode v a hv ha
  sorted b := c.sorted (g b)

end Codec

namespace Fields

variable {α β : Type}

def nil : Fields Unit where
  size := 0
  encode _ := []
  decode
    | [] => some ()
    | _ => none
  length_encode _ := rfl
  decode_encode _ := rfl
  encode_decode vs _ _ h := by
    cases vs with
    | nil => rfl
    | cons v vs => cases h
  sorted _ v hv := absurd hv List.not_mem_nil

def cons (c : Codec α) (rest : Fields β) : Fields (α × β) where
  size := rest.size+1
  encode p := c.encode p.1::rest.encode p.2
  decode
    | [] => none
    | v::vs => (c.decode v).bind fun a => (rest.decode vs).map (a,·)
  length_encode p := by rw [List.length_cons,rest.length_encode]
  decode_encode p := by
    dsimp only
    rw [c.decode_encode,Option.bind_some,rest.decode_encode]
    rfl
  encode_decode vs p hvs h := by
    cases vs with
    | nil => cases h
    | cons v vs =>
      obtain ⟨hv,hrest⟩ := List.forall_mem_cons.mp hvs
      obtain ⟨a,ha,h⟩ := Option.bind_eq_some_iff.mp h
      obtain ⟨b,hb,rfl⟩ := Option.map_eq_some_iff.mp h
      rw [c.encode_decode v a hv ha,rest.encode_decode vs b hrest hb]
  sorted p v hv := by
    obtain rfl | hv := List.mem_cons.mp hv
    · exact c.sorted p.1
    · exact rest.sorted p.2 v hv

end Fields

section object

variable {α : Type} {keys : List Text} {vs : List Json} {entries : List (Text × Json)}

theorem lookup_cons_ne {k key : Text} {v : Json} (h : key ≠ k) : ((k,v)::entries).lookup key = entries.lookup key := by
  rw [List.lookup_cons,beq_false_of_ne h]

theorem lookup_zip (hkeys : keys.Nodup) (hlen : vs.length = keys.length) :
    keys.mapM (fun key => (keys.zip vs).lookup key) = some vs := by
  rw [mapM_eq_some_iff]
  induction keys generalizing vs with
  | nil =>
    obtain rfl := List.eq_nil_of_length_eq_zero hlen
    exact .nil
  | cons k keys ih =>
    cases vs with
    | nil => cases hlen
    | cons v vs =>
      obtain ⟨hk,hkeys⟩ := List.nodup_cons.mp hkeys
      refine .cons List.lookup_cons_self (Json.forall₂_imp_mem (ih hkeys (Nat.succ.inj hlen)) fun key hkey v' _ hv => ?_)
      rw [List.zip_cons_cons,lookup_cons_ne (ne_of_mem_of_not_mem hkey hk)]
      exact hv

theorem lookup_mem {key : Text} {v : Json} (h : entries.lookup key = some v) : (key,v) ∈ entries := by
  induction entries with
  | nil => cases h
  | cons e entries ih =>
    obtain ⟨k,w⟩ := e
    by_cases hk : key = k
    · subst hk
      rw [List.lookup_cons_self] at h
      obtain rfl := Option.some.inj h
      exact List.mem_cons_self
    · rw [lookup_cons_ne hk] at h
      exact List.mem_cons_of_mem _ (ih h)

/-- The entries of an object with sorted keys, read key by key. -/
theorem zip_of_lookups (hkeys : keys.Pairwise (· < ·)) (hentries : (entries.map Prod.fst).Pairwise (· < ·))
    (hall : ∀ e ∈ entries, e.1 ∈ keys) (h : keys.mapM (fun key => entries.lookup key) = some vs) :
    keys.zip vs = entries := by
  have hmem : ∀ key, key ∈ entries.map Prod.fst ↔ key ∈ keys := by
    intro key
    constructor
    · intro hkey
      obtain ⟨e,he,rfl⟩ := List.mem_map.mp hkey
      exact hall e he
    · intro hkey
      obtain ⟨v,-,hv⟩ := forall₂_mem_left (mapM_eq_some_iff.mp h) hkey
      exact List.mem_map.mpr ⟨(key,v),lookup_mem hv,rfl⟩
  have hnodup : (entries.map Prod.fst).Nodup := hentries.imp fun hlt => ne_of_lt hlt
  have hperm := (List.perm_ext_iff_of_nodup hnodup (hkeys.imp fun hlt => ne_of_lt hlt)).mpr hmem
  have hsame : entries.map Prod.fst = keys :=
    hperm.eq_of_pairwise (fun a b _ _ hab hba => absurd (hab.trans hba) (lt_irrefl a)) hentries hkeys
  have hzip : keys.zip (entries.map Prod.snd) = entries := by
    rw [← hsame,List.zip_map']
    exact List.map_id entries
  have hlen : (entries.map Prod.snd).length = keys.length := by rw [← hsame,List.length_map,List.length_map]
  have hread := lookup_zip (hsame ▸ hnodup) hlen
  rw [hzip,h] at hread
  rw [Option.some.inj hread,hzip]

/-- An object with exactly these keys. -/
def Codec.object (keys : List Text) (hkeys : keys.Pairwise (· < ·)) (fields : Fields α)
    (hsize : fields.size = keys.length) : Codec α where
  encode a := .dict (keys.zip (fields.encode a))
  decode
    | .dict entries =>
      if entries.all fun e => e.1 ∈ keys then (keys.mapM fun key => entries.lookup key).bind fields.decode else none
    | _ => none
  decode_encode a := by
    have hall : ((keys.zip (fields.encode a)).all fun e => e.1 ∈ keys) = true := by
      rw [List.all_eq_true]
      exact fun e he => decide_eq_true (List.of_mem_zip he).1
    dsimp only
    rw [if_pos hall,lookup_zip (hkeys.imp fun hlt => ne_of_lt hlt) ((fields.length_encode a).trans hsize),Option.bind_some,
      fields.decode_encode]
  encode_decode v a hv h := by
    cases v with
    | dict entries =>
      obtain ⟨hentries,hvalues⟩ := Json.every_dict.mp hv
      dsimp only at h
      split_ifs at h with hall
      obtain ⟨vs,hvs,ha⟩ := Option.bind_eq_some_iff.mp h
      rw [List.all_eq_true] at hall
      have hsorted : ∀ w ∈ vs, w.Every Json.KeysSorted := by
        intro w hw
        obtain ⟨key,-,hkey⟩ := forall₂_mem_right (mapM_eq_some_iff.mp hvs) hw
        exact hvalues (key,w) (lookup_mem hkey)
      rw [fields.encode_decode vs a hsorted ha,
        zip_of_lookups hkeys hentries (fun e he => of_decide_eq_true (hall e he)) hvs]
    | _ => cases h
  sorted a := by
    rw [Json.every_dict]
    have hlen : (fields.encode a).length = keys.length := (fields.length_encode a).trans hsize
    refine ⟨?_,fun e he => fields.sorted a e.2 (List.of_mem_zip he).2⟩
    change ((keys.zip (fields.encode a)).map Prod.fst).Pairwise (· < ·)
    rw [List.map_fst_zip hlen.ge]
    exact hkeys

end object

end ParaWorks.Lib
