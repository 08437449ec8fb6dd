import ParaWorks.Lib.JsonRoundTrip

/-!
# Exact JSON

The messages and the schema of an answer arrive as bytes. What is read from them is printed again and has to give the
same bytes, so that the decoder accepts the encodings of the trees within the interpreter's limits and nothing else.
-/

namespace ParaWorks.Ledger

open Lib Json

/-- The recursion levels left in the reader, the tree check and the printer, and the digit limit of integers. -/
structure JsonLimits where
  scannerFrames : Nat
  checkFrames : Nat
  encoderFrames : Nat
  maxStrDigits : Nat

inductive DecodeFailure
  | valueError
  | recursionError
  deriving DecidableEq

mutual
/-- The reader does not run into its limits. -/
def scannable (limit : Nat) : Loaded → Nat → Bool
  | .int n, _ => (digits n).length ≤ limit
  | .list items, frames+1 => scannableItems limit items frames
  | .dict entries, frames+1 => scannableEntries limit entries frames
  | .list _, 0 => false
  | .dict _, 0 => false
  | _, _ => true

def scannableItems (limit : Nat) : List Loaded → Nat → Bool
  | [], _ => true
  | v::items, frames => scannable limit v frames && scannableItems limit items frames

def scannableEntries (limit : Nat) : List (Text × Loaded) → Nat → Bool
  | [], _ => true
  | (_,v)::entries, frames => scannable limit v frames && scannableEntries limit entries frames
end

/-- `json.loads` with `strict_object` and the `parse_constant` that raises. -/
def loadStrict (limits : JsonLimits) (t : Text) : Except DecodeFailure Loaded :=
  match Loaded.loads t with
  | some parsed => if scannable limits.maxStrDigits parsed limits.scannerFrames then .ok parsed else .error .valueError
  | none => .error .valueError

mutual
/-- `_validate_json_tree`; the value it lets pass is one without floats. -/
def validateJsonTree : Loaded → Nat → Except DecodeFailure Json
  | _, 0 => .error .recursionError
  | .null, _+1 => .ok .null
  | .bool b, _+1 => .ok (.bool b)
  | .int n, _+1 => .ok (.int n)
  | .str t, _+1 => .ok (.str t)
  | .float _, _+1 => .error .valueError
  | .list items, frames+1 => do
    let items ← validateItems items frames
    return .list items
  | .dict entries, frames+1 => do
    let entries ← validateEntries entries frames
    return .dict entries

def validateItems : List Loaded → Nat → Except DecodeFailure (List Json)
  | [], _ => .ok []
  | v::items, frames => do
    let v ← validateJsonTree v frames
    let items ← validateItems items frames
    return v::items

def validateEntries : List (Text × Loaded) → Nat → Except DecodeFailure (List (Text × Json))
  | [], _ => .ok []
  | (k,v)::entries, frames => do
    let v ← validateJsonTree v frames
    let entries ← validateEntries entries frames
    return (k,v)::entries
end

/-- `json.dumps(..).encode('utf-8')`; a nesting too deep is a `ValueError` here. -/
def insertionOrderJsonBytes (limits : JsonLimits) (v : Json) : Except DecodeFailure ByteArray :=
  match dumps limits.maxStrDigits v limits.encoderFrames with
  | .error _ => .error .valueError
  | .ok t => match utf8 t with
    | none => .error .valueError
    | some bytes => .ok bytes

def canonicalJsonBytes (limits : JsonLimits) (v : Json) : Except DecodeFailure ByteArray :=
  insertionOrderJsonBytes limits v.sortKeys

/-- What the decoder prints again. -/
def exactJsonBytes (limits : JsonLimits) (requireCanonical : Bool) (v : Json) : Except DecodeFailure ByteArray :=
  if requireCanonical then canonicalJsonBytes limits v else insertionOrderJsonBytes limits v

/-- `_decode_exact_json` -/
def decodeExactJson (limits : JsonLimits) (value : ByteArray) (requireCanonical : Bool) : Except DecodeFailure Json := do
  let t ← match decodeUtf8 value with
    | some t => pure t
    | none => throw .valueError
  let parsed ← loadStrict limits t
  let tree ← validateJsonTree parsed limits.checkFrames
  let printed ← exactJsonBytes limits requireCanonical tree
  if printed = value then return tree else throw .valueError

/-- The order of the entries in the encoding. -/
def ordered (requireCanonical : Bool) (v : Json) : Json := if requireCanonical then v.sortKeys else v

/-- The tree is within what the interpreter reads, checks and prints. -/
def WithinLimits (limits : JsonLimits) (v : Json) : Prop :=
  Printable limits.maxStrDigits limits.scannerFrames v ∧ depth 1 1 1 v ≤ limits.checkFrames ∧
    Printable limits.maxStrDigits limits.encoderFrames v

mutual
/-- How deep a value that was read nests. -/
def nesting : Loaded → Nat
  | .list items => nestingItems items+1
  | .dict entries => nestingEntries entries+1
  | _ => 1

def nestingItems : List Loaded → Nat
  | [] => 0
  | v::items => max (nesting v) (nestingItems items)

def nestingEntries : List (Text × Loaded) → Nat
  | [] => 0
  | (_,v)::entries => max (nesting v) (nestingEntries entries)
end

/-! ## Reading and checking -/

section scanner

variable {limit frames : Nat}

theorem scannableItems_ofItems {items : List Json}
    (ih : ∀ v ∈ items, scannable limit (.ofJson v) frames = true ↔ Printable limit frames v) :
    scannableItems limit (Loaded.ofItems items) frames = true ↔ ∀ v ∈ items, Printable limit frames v := by
  induction items with
  | nil => simp [Loaded.ofItems,scannableItems]
  | cons v items ihs =>
    rw [List.forall_mem_cons] at ih
    rw [Loaded.ofItems,scannableItems,Bool.and_eq_true,ih.1,ihs ih.2,List.forall_mem_cons]

theorem scannableEntries_ofEntries {entries : List (Text × Json)}
    (ih : ∀ e ∈ entries, scannable limit (.ofJson e.2) frames = true ↔ Printable limit frames e.2) :
    scannableEntries limit (Loaded.ofEntries entries) frames = true ↔ ∀ e ∈ entries, Printable limit frames e.2 := by
  induction entries with
  | nil => simp [Loaded.ofEntries,scannableEntries]
  | cons e entries ihs =>
    rw [List.forall_mem_cons] at ih
    rw [Loaded.ofEntries,scannableEntries,Bool.and_eq_true,ih.1,ihs ih.2,List.forall_mem_cons]

theorem scannable_ofJson (v : Json) : scannable limit (.ofJson v) frames = true ↔ Printable limit frames v := by
  induction v generalizing frames with
  | null => simp [Loaded.ofJson,scannable,Printable,depth,DigitsFit]
  | bool b => simp [Loaded.ofJson,scannable,Printable,depth,DigitsFit]
  | int n => simp [Loaded.ofJson,scannable,Printable,depth,DigitsFit]
  | str t => simp [Loaded.ofJson,scannable,Printable,depth,DigitsFit]
  | list items ih =>
    cases frames with
    | zero => simp [Loaded.ofJson,scannable,Printable,depth]
    | succ frames => rw [Loaded.ofJson,scannable,scannableItems_ofItems fun v hv => ih v hv,printable_list]
  | dict entries ih =>
    cases frames with
    | zero => simp [Loaded.ofJson,scannable,Printable,depth]
    | succ frames => rw [Loaded.ofJson,scannable,scannableEntries_ofEntries fun e he => ih e he,printable_dict]

end scanner

section check

variable {frames : Nat}

theorem validateItems_ok {items : List Loaded} {ws : List Json}
    (ih : ∀ l v, validateJsonTree l frames = .ok v ↔ l = .ofJson v ∧ depth 1 1 1 v ≤ frames) :
    validateItems items frames = .ok ws ↔ items = Loaded.ofItems ws ∧ ∀ w ∈ ws, depth 1 1 1 w ≤ frames := by
  induction items generalizing ws with
  | nil => cases ws <;> simp [validateItems,Loaded.ofItems]
  | cons l items ihs =>
    simp only [validateItems,bind_eq_ok,ih,ihs,pure,Except.pure,Except.ok.injEq]
    constructor
    · rintro ⟨v,⟨rfl,hv⟩,us,⟨rfl,hus⟩,rfl⟩
      exact ⟨rfl,List.forall_mem_cons.mpr ⟨hv,hus⟩⟩
    · rintro ⟨hitems,hws⟩
      cases ws with
      | nil => cases hitems
      | cons v us =>
        rw [Loaded.ofItems,List.cons.injEq] at hitems
        rw [List.forall_mem_cons] at hws
        exact ⟨v,⟨hitems.1,hws.1⟩,us,⟨hitems.2,hws.2⟩,rfl⟩

theorem validateEntries_ok {entries : List (Text × Loaded)} {ws : List (Text × Json)}
    (ih : ∀ l v, validateJsonTree l frames = .ok v ↔ l = .ofJson v ∧ depth 1 1 1 v ≤ frames) :
    validateEntries entries frames = .ok ws ↔ entries = Loaded.ofEntries ws ∧ ∀ e ∈ ws, depth 1 1 1 e.2 ≤ frames := by
  induction entries generalizing ws with
  | nil => cases ws <;> simp [validateEntries,Loaded.ofEntries]
  | cons e entries ihs =>
    obtain ⟨k,l⟩ := e
    simp only [validateEntries,bind_eq_ok,ih,ihs,pure,Except.pure,Except.ok.injEq]
    constructor
    · rintro ⟨v,⟨rfl,hv⟩,us,⟨rfl,hus⟩,rfl⟩
      exact ⟨rfl,List.forall_mem_cons.mpr ⟨hv,hus⟩⟩
    · rintro ⟨hentries,hws⟩
      cases ws with
      | nil => cases hentries
      | cons d us =>
        rw [Loaded.ofEntries,List.cons.injEq,Prod.mk.injEq] at hentries
        obtain ⟨⟨rfl,hl⟩,hrest⟩ := hentries
        rw [List.forall_mem_cons] at hws
        exact ⟨d.2,⟨hl,hws.1⟩,us,⟨hrest,hws.2⟩,rfl⟩

/-- The check lets pass what has no floats and is shallow enough. -/
theorem validateJsonTree_ok {l : Loaded} {v : Json} :
    validateJsonTree l frames = .ok v ↔ l = .ofJson v ∧ depth 1 1 1 v ≤ frames := by
  induction frames generalizing l v with
  | zero => cases v <;> cases l <;> simp [validateJsonTree,depth]
  | succ frames ih =>
    cases l with
    | null => cases v <;> simp [validateJsonTree,Loaded.ofJson,depth]
    | bool b => cases v <;> simp [validateJsonTree,Loaded.ofJson,depth]
    | int n => cases v <;> simp [validateJsonTree,Loaded.ofJson,depth]
    | float t => cases v <;> simp [validateJsonTree,Loaded.ofJson]
    | str t => cases v <;> simp [validateJsonTree,Loaded.ofJson,depth]
    | list items =>
      simp only [validateJsonTree,bind_eq_ok,validateItems_ok fun l v => ih,pure,Except.pure,Except.ok.injEq]
      cases v <;> simp [Loaded.ofJson,depth_list_le]
    | dict entries =>
      simp only [validateJsonTree,bind_eq_ok,validateEntries_ok fun l v => ih,pure,Except.pure,Except.ok.injEq]
      cases v <;> simp [Loaded.ofJson,depth_dict_le]

end check

section failure

variable {frames : Nat}

/-- The check fails with a `ValueError` unless the value nests too deep for it. -/
def FailsWith (raised : DecodeFailure) (frames deep : Nat) : Prop :=
  raised = .valueError ∨ raised = .recursionError ∧ frames < deep

theorem FailsWith.mono {raised : DecodeFailure} {frames deep deeper : Nat} (h : FailsWith raised frames deep)
    (hdeep : deep ≤ deeper) : FailsWith raised frames deeper :=
  h.imp_right fun h => ⟨h.1,by omega⟩

theorem validateItems_error {items : List Loaded} {raised : DecodeFailure}
    (ih : ∀ l raised, validateJsonTree l frames = .error raised → FailsWith raised frames (nesting l))
    (h : validateItems items frames = .error raised) : FailsWith raised frames (nestingItems items) := by
  induction items with
  | nil => cases h
  | cons l items ihs =>
    rw [validateItems] at h
    rw [nestingItems]
    rcases bind_eq_error.mp h with hl | ⟨v,_,h⟩
    · exact (ih l _ hl).mono (le_max_left _ _)
    · rcases bind_eq_error.mp h with hrest | ⟨ws,_,h⟩
      · exact (ihs hrest).mono (le_max_right _ _)
      · cases h

theorem validateEntries_error {entries : List (Text × Loaded)} {raised : DecodeFailure}
    (ih : ∀ l raised, validateJsonTree l frames = .error raised → FailsWith raised frames (nesting l))
    (h : validateEntries entries frames = .error raised) : FailsWith raised frames (nestingEntries entries) := by
  induction entries with
  | nil => cases h
  | cons e entries ihs =>
    rw [validateEntries] at h
    rw [nestingEntries]
    rcases bind_eq_error.mp h with hl | ⟨v,_,h⟩
    · exact (ih e.2 _ hl).mono (le_max_left _ _)
    · rcases bind_eq_error.mp h with hrest | ⟨ws,_,h⟩
      · exact (ihs hrest).mono (le_max_right _ _)
      · cases h

theorem validateJsonTree_error {l : Loaded} {raised : DecodeFailure} (h : validateJsonTree l frames = .error raised) :
    FailsWith raised frames (nesting l) := by
  induction frames generalizing l raised with
  | zero =>
    rw [validateJsonTree] at h
    cases h
    exact .inr ⟨rfl,by cases l <;> simp [nesting]⟩
  | succ frames ih =>
    cases l with
    | list items =>
      rw [validateJsonTree] at h
      rcases bind_eq_error.mp h with hitems | ⟨ws,_,h⟩
      · exact (validateItems_error (fun l raised => ih) hitems).imp_right fun h => ⟨h.1,Nat.succ_lt_succ h.2⟩
      · cases h
    | dict entries =>
      rw [validateJsonTree] at h
      rcases bind_eq_error.mp h with hentries | ⟨ws,_,h⟩
      · exact (validateEntries_error (fun l raised => ih) hentries).imp_right fun h => ⟨h.1,Nat.succ_lt_succ h.2⟩
      · cases h
    | float t => cases h; exact .inl rfl
    | null => cases h
    | bool b => cases h
    | int n => cases h
    | str t => cases h

end failure

/-! ## Printing again -/

section encoding

variable {limits : JsonLimits} {requireCanonical : Bool} {v : Json} {bytes : ByteArray}

theorem insertionOrderJsonBytes_ok : insertionOrderJsonBytes limits v = .ok bytes ↔
    Printable limits.maxStrDigits limits.encoderFrames v ∧ utf8 v.render = some bytes := by
  unfold insertionOrderJsonBytes
  cases hdump : dumps limits.maxStrDigits v limits.encoderFrames with
  | error e =>
    have hnot : ¬Printable limits.maxStrDigits limits.encoderFrames v := by
      intro hp
      rw [dumps_ok.mpr ⟨hp,rfl⟩] at hdump
      cases hdump
    simp [hnot]
  | ok t =>
    obtain ⟨hp,rfl⟩ := dumps_ok.mp hdump
    cases hutf : utf8 v.render <;> simp [hp,hutf]

theorem same_ordered : v.Same (ordered requireCanonical v) := by
  cases requireCanonical
  · exact .refl v
  · exact same_sortKeys v

theorem exactJsonBytes_ok : exactJsonBytes limits requireCanonical v = .ok bytes ↔
    Printable limits.maxStrDigits limits.encoderFrames v ∧ utf8 (ordered requireCanonical v).render = some bytes := by
  have heq : exactJsonBytes limits requireCanonical v = insertionOrderJsonBytes limits (ordered requireCanonical v) := by
    cases requireCanonical <;> rfl
  rw [heq,insertionOrderJsonBytes_ok,← same_ordered.printable_iff]

theorem exactJsonBytes_error {raised : DecodeFailure} (h : exactJsonBytes limits requireCanonical v = .error raised) :
    raised = .valueError := by
  have heq : exactJsonBytes limits requireCanonical v = insertionOrderJsonBytes limits (ordered requireCanonical v) := by
    cases requireCanonical <;> rfl
  rw [heq,insertionOrderJsonBytes] at h
  split at h
  · cases h; rfl
  · split at h <;> cases h
    rfl

theorem WithinLimits.of_same {w : Json} (h : v.Same w) (hv : WithinLimits limits v) : WithinLimits limits w :=
  ⟨h.printable_iff.mp hv.1,h.depth_le_iff.mp hv.2.1,h.printable_iff.mp hv.2.2⟩

theorem ordered_ordered (hkeys : Every KeysNodup v) :
    ordered requireCanonical (ordered requireCanonical v) = ordered requireCanonical v := by
  cases requireCanonical
  · rfl
  · exact ((same_sortKeys v).sortKeys_eq hkeys).symm

theorem loads_of_loadStrict {t : Text} {parsed : Loaded} (h : loadStrict limits t = .ok parsed) :
    Loaded.loads t = some parsed := by
  unfold loadStrict at h
  split at h
  next found hload =>
    split_ifs at h
    rw [hload,Except.ok.inj h]
  next => cases h

theorem loadStrict_error {t : Text} {raised : DecodeFailure} (h : loadStrict limits t = .error raised) :
    raised = .valueError := by
  unfold loadStrict at h
  split at h
  · split_ifs at h
    cases h
    rfl
  · cases h
    rfl

/-- What the decoder reads, before it prints it again. -/
theorem read_ok {t : Text} : (loadStrict limits t).bind (validateJsonTree · limits.checkFrames) = .ok v ↔
    Loaded.loads t = some (.ofJson v) ∧ Printable limits.maxStrDigits limits.scannerFrames v ∧
      depth 1 1 1 v ≤ limits.checkFrames := by
  unfold loadStrict
  cases hload : Loaded.loads t with
  | none => simp [Except.bind]
  | some parsed =>
    dsimp only
    split_ifs with hscan
    · change validateJsonTree parsed limits.checkFrames = .ok v ↔ _
      rw [validateJsonTree_ok]
      constructor
      · rintro ⟨rfl,hdepth⟩
        exact ⟨rfl,(scannable_ofJson v).mp hscan,hdepth⟩
      · rintro ⟨hparsed,_,hdepth⟩
        exact ⟨Option.some.inj hparsed,hdepth⟩
    · constructor
      · intro h
        cases h
      · rintro ⟨hparsed,hprint,_⟩
        rw [Option.some.inj hparsed] at hscan
        exact absurd ((scannable_ofJson v).mpr hprint) hscan

theorem keysNodup_of_loads {t : Text} (h : Loaded.loads t = some (.ofJson v)) : Every KeysNodup v := by
  unfold Loaded.loads at h
  split_ifs at h
  obtain ⟨⟨read,rest⟩,_,h⟩ := Option.bind_eq_some_iff.mp h
  dsimp only at h
  split_ifs at h with hkeys
  rw [Option.some.inj h] at hkeys
  exact (Loaded.keysOnce_ofJson v).mp hkeys.2

theorem decodeExactJson_eq {t : Text} (hdecode : decodeUtf8 bytes = some t) :
    decodeExactJson limits bytes requireCanonical =
      (loadStrict limits t).bind fun parsed => (validateJsonTree parsed limits.checkFrames).bind fun tree =>
        (exactJsonBytes limits requireCanonical tree).bind fun printed =>
          if printed = bytes then .ok tree else .error .valueError := by
  unfold decodeExactJson
  rw [hdecode]
  rfl

end encoding

theorem ofJson_injective {v w : Json} (h : Loaded.ofJson v = .ofJson w) : v = w := by
  have hv := validateJsonTree_ok.mpr ⟨rfl,le_max_left (depth 1 1 1 v) (depth 1 1 1 w)⟩
  have hw := validateJsonTree_ok.mpr ⟨h,le_max_right (depth 1 1 1 v) (depth 1 1 1 w)⟩
  exact Except.ok.inj (hv.symm.trans hw)

/-- A decoded tree is in the order of its bytes, and its bytes are its encoding. -/
theorem decodeExactJson_ok {limits : JsonLimits} {bytes : ByteArray} {requireCanonical : Bool} {tree : Json} :
    decodeExactJson limits bytes requireCanonical = .ok tree ↔
      WithinLimits limits tree ∧ Every KeysNodup tree ∧ ordered requireCanonical tree = tree ∧
        utf8 tree.render = some bytes := by
  cases hdecode : decodeUtf8 bytes with
  | none =>
    constructor
    · intro h
      unfold decodeExactJson at h
      rw [hdecode] at h
      cases h
    · rintro ⟨_,_,_,hbytes⟩
      rw [decodeUtf8_utf8 hbytes] at hdecode
      cases hdecode
  | some t =>
    have hassoc : decodeExactJson limits bytes requireCanonical =
        ((loadStrict limits t).bind (validateJsonTree · limits.checkFrames)).bind fun tree =>
          (exactJsonBytes limits requireCanonical tree).bind fun printed =>
            if printed = bytes then .ok tree else .error .valueError := by
      rw [decodeExactJson_eq hdecode]
      cases loadStrict limits t <;> rfl
    rw [hassoc]
    constructor
    · intro h
      obtain ⟨v,hread,h⟩ := bind_eq_ok.mp h
      obtain ⟨printed,hprinted,h⟩ := bind_eq_ok.mp h
      split_ifs at h with heq
      obtain rfl := Except.ok.inj h
      subst heq
      obtain ⟨hload,hscan,hcheck⟩ := read_ok.mp hread
      obtain ⟨hencode,hbytes⟩ := exactJsonBytes_ok.mp hprinted
      have hkeys := keysNodup_of_loads hload
      have ht : t = (ordered requireCanonical v).render := by
        rw [decodeUtf8_utf8 hbytes] at hdecode
        exact (Option.some.inj hdecode).symm
      have hordered : ordered requireCanonical v = v := by
        rw [ht,Loaded.loads_render (same_ordered.every_keysNodup_iff.mp hkeys)] at hload
        exact ofJson_injective (Option.some.inj hload)
      rw [hordered] at hbytes
      exact ⟨⟨hscan,hcheck,hencode⟩,hkeys,hordered,hbytes⟩
    · rintro ⟨⟨hscan,hcheck,hencode⟩,hkeys,hordered,hbytes⟩
      have ht : t = tree.render := by
        rw [decodeUtf8_utf8 hbytes] at hdecode
        exact (Option.some.inj hdecode).symm
      have hread : (loadStrict limits t).bind (validateJsonTree · limits.checkFrames) = .ok tree :=
        read_ok.mpr ⟨ht ▸ Loaded.loads_render hkeys,hscan,hcheck⟩
      have hprinted : exactJsonBytes limits requireCanonical tree = .ok bytes :=
        exactJsonBytes_ok.mpr ⟨hencode,hordered.symm ▸ hbytes⟩
      rw [hread]
      change (exactJsonBytes limits requireCanonical tree).bind _ = _
      rw [hprinted]
      exact if_pos rfl

theorem decodeExactJson_error {limits : JsonLimits} {bytes : ByteArray} {requireCanonical : Bool} {raised : DecodeFailure}
    (h : decodeExactJson limits bytes requireCanonical = .error raised) :
    raised = .valueError ∨ raised = .recursionError ∧
      ∃ parsed, (decodeUtf8 bytes).bind Loaded.loads = some parsed ∧ limits.checkFrames < nesting parsed := by
  cases hdecode : decodeUtf8 bytes with
  | none =>
    unfold decodeExactJson at h
    rw [hdecode] at h
    cases h
    exact .inl rfl
  | some t =>
    rw [decodeExactJson_eq hdecode] at h
    rcases bind_eq_error.mp h with hload | ⟨parsed,hload,h⟩
    · exact .inl (loadStrict_error hload)
    rcases bind_eq_error.mp h with hcheck | ⟨tree,_,h⟩
    · exact (validateJsonTree_error hcheck).imp_right fun h => ⟨h.1,parsed,loads_of_loadStrict hload,h.2⟩
    rcases bind_eq_error.mp h with hprinted | ⟨printed,_,h⟩
    · exact .inl (exactJsonBytes_error hprinted)
    split_ifs at h
    cases h
    exact .inl rfl

/-- The decoder accepts the encodings of the trees within the limits, gives each back in the order of its bytes and
raises a `ValueError` for anything else that the tree check can follow. -/
theorem decode_accepts_encodings (limits : JsonLimits) (value : ByteArray) (requireCanonical : Bool) :
    ((∃ tree, decodeExactJson limits value requireCanonical = .ok tree) ↔
      ∃ tree, WithinLimits limits tree ∧ Every KeysNodup tree ∧
        utf8 (ordered requireCanonical tree).render = some value) ∧
    (∀ tree, WithinLimits limits tree → Every KeysNodup tree →
      utf8 (ordered requireCanonical tree).render = some value →
      decodeExactJson limits value requireCanonical = .ok (ordered requireCanonical tree) ∧
        tree.Same (ordered requireCanonical tree)) ∧
    (∀ tree, decodeExactJson limits value requireCanonical = .ok tree →
      exactJsonBytes limits requireCanonical tree = .ok value ∧ Every KeysNodup tree) ∧
    ∀ raised, decodeExactJson limits value requireCanonical = .error raised →
      raised = .valueError ∨ raised = .recursionError ∧
        ∃ parsed, (decodeUtf8 value).bind Loaded.loads = some parsed ∧ limits.checkFrames < nesting parsed := by
  have hback : ∀ tree, WithinLimits limits tree → Every KeysNodup tree →
      utf8 (ordered requireCanonical tree).render = some value →
      decodeExactJson limits value requireCanonical = .ok (ordered requireCanonical tree) := fun tree hlimits hkeys hbytes =>
    decodeExactJson_ok.mpr ⟨hlimits.of_same same_ordered,same_ordered.every_keysNodup_iff.mp hkeys,
      ordered_ordered hkeys,hbytes⟩
  refine ⟨⟨?_,?_⟩,?_,?_,fun raised h => decodeExactJson_error h⟩
  · rintro ⟨tree,h⟩
    obtain ⟨hlimits,hkeys,hordered,hbytes⟩ := decodeExactJson_ok.mp h
    exact ⟨tree,hlimits,hkeys,hordered.symm ▸ hbytes⟩
  · rintro ⟨tree,hlimits,hkeys,hbytes⟩
    exact ⟨_,hback tree hlimits hkeys hbytes⟩
  · exact fun tree hlimits hkeys hbytes => ⟨hback tree hlimits hkeys hbytes,same_ordered⟩
  · intro tree h
    obtain ⟨hlimits,hkeys,hordered,hbytes⟩ := decodeExactJson_ok.mp h
    exact ⟨exactJsonBytes_ok.mpr ⟨hlimits.2.2,hordered.symm ▸ hbytes⟩,hkeys⟩

theorem decode_accepts_encodings_sample : decodeExactJson ⟨900,900,900,4300⟩ "\x7b\"a\":[-1,null],\"é\":true\x7d".toUTF8 true =
    .ok (.dict [([97],.list [.int (-1),.null]),([0xe9],.bool true)]) :=
  ((decode_accepts_encodings ⟨900,900,900,4300⟩ "\x7b\"a\":[-1,null],\"é\":true\x7d".toUTF8 true).2.1
    (.dict [([97],.list [.int (-1),.null]),([0xe9],.bool true)])
    (by simp [WithinLimits,Printable,depth,itemsDepth,entriesDepth,every_dict,every_list,DigitsFit]; decide)
    (by simp [every_dict,every_list,KeysNodup])
    (by decide +kernel)).1

example : ∀ s ∈ ["-0","1.0","NaN","[1, 2]","\x7b\"a\":1,\"a\":1\x7d","\"\\u0041\"","\"\\ud800\"","\x7b\"b\":1,\"a\":1\x7d"],
    decodeExactJson ⟨900,900,900,4300⟩ s.toUTF8 true = .error .valueError := by decide +kernel

theorem digits_pow (limit : Nat) : limit < (digits ((10^limit : Nat) : Int)).length := by
  cases limit with
  | zero => decide
  | succ limit =>
    rw [digits,List.length_map,Int.natAbs_natCast,← Nat.not_le,Nat.length_toDigits_le_iff (by decide) (by omega)]
    omega

/-- An integer of 4301 digits is a tree, and its encoding is refused. -/
theorem long_integer_refused :
    Every KeysNodup (.int ((10^4300 : Nat) : Int)) ∧
      (∃ bytes, utf8 (ordered true (.int ((10^4300 : Nat) : Int))).render = some bytes) ∧
      ∀ bytes, utf8 (ordered true (.int ((10^4300 : Nat) : Int))).render = some bytes →
        ∀ tree, decodeExactJson ⟨900,900,900,4300⟩ bytes true ≠ .ok tree := by
  have hlong := digits_pow 4300
  generalize 10^4300 = n at hlong
  have hrender : (ordered true (.int (n : Int))).render = (Nat.toDigits 10 n).map ofChar := by
    simp [ordered,sortKeys,render,renderInt,digits]
  refine ⟨by simp [KeysNodup],⟨_,hrender ▸ utf8_map_ofChar _⟩,?_⟩
  intro bytes hbytes tree h
  obtain ⟨hlimits,_,_,htree⟩ := decodeExactJson_ok.mp h
  obtain rfl : tree = .int n := render_injective (utf8_injective htree hbytes)
  have hshort : (digits (n : Int)).length ≤ 4300 := by simpa [DigitsFit] using hlimits.1.2
  omega

end ParaWorks.Ledger
