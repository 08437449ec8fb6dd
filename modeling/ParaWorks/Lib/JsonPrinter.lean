import ParaWorks.Lib.Json

/-!
# Printing JSON

`render` is what `json.dumps` prints for a value whose keys are sorted already; `dumps` is the
printer with its two limits. Each kind of value starts with its own character and no printed
value is a proper prefix of another, up to the digits of a number.
-/

namespace ParaWorks.Lib

theorem bind_eq_ok {ε α β : Type} {x : Except ε α} {f : α → Except ε β} {b : β} :
    x >>= f = .ok b ↔ ∃ a, x = .ok a ∧ f a = .ok b := by
  constructor
  · intro h
    cases x with
    | ok a => exact ⟨a,rfl,h⟩
    | error e => cases h
  · rintro ⟨a,rfl,h⟩
    exact h

theorem bind_eq_error {ε α β : Type} {x : Except ε α} {f : α → Except ε β} {e : ε} :
    x >>= f = .error e ↔ x = .error e ∨ ∃ a, x = .ok a ∧ f a = .error e := by
  constructor
  · intro h
    cases x with
    | ok a => exact .inr ⟨a,rfl,h⟩
    | error raised =>
      cases h
      exact .inl rfl
  · rintro (rfl | ⟨a,rfl,h⟩)
    · rfl
    · exact h

theorem exists_pair_iff {α β γ : Type} {P Q : Prop} {x : α} {y : β} {t : γ} {f : α → β → γ} :
    (∃ a, (P ∧ x = a) ∧ ∃ b, (Q ∧ y = b) ∧ f a b = t) ↔ (P ∧ Q) ∧ f x y = t := by
  constructor
  · rintro ⟨_,⟨hp,rfl⟩,_,⟨hq,rfl⟩,rfl⟩
    exact ⟨⟨hp,hq⟩,rfl⟩
  · rintro ⟨⟨hp,hq⟩,rfl⟩
    exact ⟨_,⟨hp,rfl⟩,_,⟨hq,rfl⟩,rfl⟩

namespace Json

def hexDigit (n : Nat) : CodePoint := Fin.ofNat _ (if n < 10 then 48+n else 87+n)

/-- A character of a string with `ensure_ascii=False`. -/
def escape (c : CodePoint) : Text :=
  if c = ofChar '"' then text "\\\""
  else if c = ofChar '\\' then text "\\\\"
  else if c = 8 then text "\\b"
  else if c = 9 then text "\\t"
  else if c = 10 then text "\\n"
  else if c = 12 then text "\\f"
  else if c = 13 then text "\\r"
  else if c.val < 32 then text "\\u00"++[hexDigit (c.val/16),hexDigit (c.val%16)]
  else [c]

def quote (t : Text) : Text := ofChar '"'::t.flatMap escape++[ofChar '"']

def renderInt (n : Int) : Text := if n < 0 then ofChar '-'::digits n else digits n

mutual
def render : Json → Text
  | .null => text "null"
  | .bool true => text "true"
  | .bool false => text "false"
  | .int n => renderInt n
  | .str t => quote t
  | .list [] => text "[]"
  | .list (v::items) => ofChar '['::(render v++renderItems items)
  | .dict [] => text "\x7b\x7d"
  | .dict ((k,v)::entries) => ofChar '\x7b'::(quote k++ofChar ':'::(render v++renderEntries entries))

/-- The items after the first and the closing bracket. -/
def renderItems : List Json → Text
  | [] => [ofChar ']']
  | v::items => ofChar ','::(render v++renderItems items)

/-- The entries after the first and the closing brace. -/
def renderEntries : List (Text × Json) → Text
  | [] => [ofChar '\x7d']
  | (k,v)::entries => ofChar ','::(quote k++ofChar ':'::(render v++renderEntries entries))
end

inductive DumpError
  | nestingTooDeep
  | intTooLong
  deriving DecidableEq

mutual
/-- Printing with `frames` recursion levels left and at most `limit` digits in an integer. -/
def dumps (limit : Nat) : Json → Nat → Except DumpError Text
  | .null, _ => .ok (text "null")
  | .bool true, _ => .ok (text "true")
  | .bool false, _ => .ok (text "false")
  | .int n, _ => if (digits n).length ≤ limit then .ok (renderInt n) else .error .intTooLong
  | .str t, _ => .ok (quote t)
  | .list [], _+1 => .ok (text "[]")
  | .list (v::items), frames+1 => do
    let first ← dumps limit v frames
    let rest ← dumpsItems limit items frames
    return ofChar '['::(first++rest)
  | .dict [], _+1 => .ok (text "\x7b\x7d")
  | .dict ((k,v)::entries), frames+1 => do
    let first ← dumps limit v frames
    let rest ← dumpsEntries limit entries frames
    return ofChar '\x7b'::(quote k++ofChar ':'::(first++rest))
  | _, 0 => .error .nestingTooDeep

def dumpsItems (limit : Nat) : List Json → Nat → Except DumpError Text
  | [], _ => .ok [ofChar ']']
  | v::items, frames => do
    let first ← dumps limit v frames
    let rest ← dumpsItems limit items frames
    return ofChar ','::(first++rest)

def dumpsEntries (limit : Nat) : List (Text × Json) → Nat → Except DumpError Text
  | [], _ => .ok [ofChar '\x7d']
  | (k,v)::entries, frames => do
    let first ← dumps limit v frames
    let rest ← dumpsEntries limit entries frames
    return ofChar ','::(quote k++ofChar ':'::(first++rest))
end

/-- The value is within both limits of the printer. -/
def Printable (limit frames : Nat) (v : Json) : Prop :=
  depth 0 1 1 v ≤ frames ∧ Every (DigitsFit limit) v

section dumps

variable {limit frames : Nat}

theorem printable_list {items : List Json} :
    Printable limit (frames+1) (.list items) ↔ ∀ v ∈ items, Printable limit frames v := by
  simp [Printable,depth_list_le,every_list,DigitsFit,forall_and]

theorem printable_dict {entries : List (Text × Json)} :
    Printable limit (frames+1) (.dict entries) ↔ ∀ e ∈ entries, Printable limit frames e.2 := by
  simp only [Printable,depth_dict_le,every_dict,DigitsFit,forall_and,Nat.add_sub_cancel,true_and,
    Nat.le_add_left]

theorem dumpsItems_ok {items : List Json} {t : Text}
    (ih : ∀ v ∈ items, ∀ t, dumps limit v frames = .ok t ↔ Printable limit frames v ∧ render v = t) :
    dumpsItems limit items frames = .ok t ↔ (∀ v ∈ items, Printable limit frames v) ∧ renderItems items = t := by
  induction items generalizing t with
  | nil => simp [dumpsItems,renderItems]
  | cons v items ihs =>
    rw [List.forall_mem_cons] at ih
    simp only [dumpsItems,bind_eq_ok,ih.1,ihs ih.2,pure,Except.pure,Except.ok.injEq,renderItems,
      List.forall_mem_cons]
    exact exists_pair_iff

theorem dumpsEntries_ok {entries : List (Text × Json)} {t : Text}
    (ih : ∀ e ∈ entries, ∀ t, dumps limit e.2 frames = .ok t ↔ Printable limit frames e.2 ∧ render e.2 = t) :
    dumpsEntries limit entries frames = .ok t ↔
      (∀ e ∈ entries, Printable limit frames e.2) ∧ renderEntries entries = t := by
  induction entries generalizing t with
  | nil => simp [dumpsEntries,renderEntries]
  | cons e entries ihs =>
    rw [List.forall_mem_cons] at ih
    simp only [dumpsEntries,bind_eq_ok,ih.1,ihs ih.2,pure,Except.pure,Except.ok.injEq,renderEntries,
      List.forall_mem_cons]
    exact exists_pair_iff

/-- The printer succeeds within its limits and prints what `render` does. -/
theorem dumps_ok {v : Json} {t : Text} :
    dumps limit v frames = .ok t ↔ Printable limit frames v ∧ render v = t := by
  induction v generalizing frames t with
  | null => simp [dumps,render,Printable,depth,DigitsFit]
  | bool b => cases b <;> simp [dumps,render,Printable,depth,DigitsFit]
  | int n =>
    simp only [dumps,render,Printable,depth,every_int,DigitsFit,Nat.zero_le,true_and]
    split <;> simp_all
  | str s => simp [dumps,render,Printable,depth,DigitsFit]
  | list items ih =>
    cases frames with
    | zero => simp [dumps,Printable,depth]
    | succ frames =>
      cases items with
      | nil => simp [dumps,render,printable_list]
      | cons v items =>
        rw [List.forall_mem_cons] at ih
        simp only [dumps,bind_eq_ok,ih.1,dumpsItems_ok fun v hv _ => ih.2 v hv,pure,Except.pure,
          Except.ok.injEq,render,printable_list,List.forall_mem_cons]
        exact exists_pair_iff
  | dict entries ih =>
    cases frames with
    | zero => simp [dumps,Printable,depth]
    | succ frames =>
      cases entries with
      | nil => simp [dumps,render,printable_dict]
      | cons e entries =>
        rw [List.forall_mem_cons] at ih
        simp only [dumps,bind_eq_ok,ih.1,dumpsEntries_ok fun e he _ => ih.2 e he,pure,Except.pure,
          Except.ok.injEq,render,printable_dict,List.forall_mem_cons]
        exact exists_pair_iff

theorem Same.printable_iff {v w : Json} (h : Same v w) : Printable limit frames v ↔ Printable limit frames w := by
  refine and_congr h.depth_le_iff (h.every_iff fun v w hvw => ?_)
  cases hvw <;> rfl

end dumps

/-- The kind of the value that starts with this character, or 7 at the end of a list. -/
def kindOf (t : Text) : Nat :=
  match t.head? with
  | none => 8
  | some c =>
    if c = ofChar 'n' then 0 else if c = ofChar 't' then 1 else if c = ofChar 'f' then 1
    else if c = ofChar '"' then 4 else if c = ofChar '[' then 5 else if c = ofChar '\x7b' then 6
    else if c = ofChar ']' then 7 else 3

def kind : Json → Nat
  | .null => 0
  | .bool _ => 1
  | .int _ => 3
  | .str _ => 4
  | .list _ => 5
  | .dict _ => 6

def isDigit (c : CodePoint) : Bool := 48 ≤ c.val ∧ c.val ≤ 57

theorem isDigit_of_mem_digits {n : Int} {c : CodePoint} (h : c ∈ digits n) : isDigit c := by
  obtain ⟨d,hd,rfl⟩ := List.mem_map.mp h
  have hdigit := Nat.isDigit_of_mem_toDigits (by decide) (by decide) hd
  rw [isDigit,decide_eq_true_iff]
  simpa [ofChar,Char.isDigit,UInt32.le_iff_toNat_le] using hdigit

theorem digits_ne_nil (n : Int) : digits n ≠ [] := by
  simp [digits,Nat.toDigits_ne_nil]

theorem kindOf_digit {c : CodePoint} {t : Text} (h : isDigit c) : kindOf (c::t) = 3 := by
  have hne : ∀ d, isDigit d = false → c ≠ d := by
    rintro d hd rfl
    exact absurd h (by simp [hd])
  simp only [kindOf,List.head?_cons,hne (ofChar 'n') rfl,hne (ofChar 't') rfl,hne (ofChar 'f') rfl,
    hne (ofChar '"') rfl,hne (ofChar '[') rfl,hne (ofChar '\x7b') rfl,hne (ofChar ']') rfl,
    if_false]

theorem digits_eq_cons (n : Int) : ∃ c t, digits n = c::t ∧ isDigit c := by
  obtain ⟨c,t,h⟩ := List.exists_cons_of_ne_nil (digits_ne_nil n)
  exact ⟨c,t,h,isDigit_of_mem_digits (h ▸ List.mem_cons_self)⟩

theorem kindOf_render (v : Json) (r : Text) : kindOf (render v++r) = kind v := by
  cases v with
  | null => rfl
  | bool b => cases b <;> rfl
  | int n =>
    rw [render,renderInt]
    split
    · rfl
    · obtain ⟨c,t,h,hc⟩ := digits_eq_cons n
      rw [h]
      exact kindOf_digit hc
  | str t => rfl
  | list items => cases items <;> rfl
  | dict entries => rcases entries with _ | ⟨⟨k,v⟩,entries⟩ <;> rfl

/-- The text after a printed value: it does not go on with a digit. -/
def Delimited (r : Text) : Prop := ∀ c ∈ r.head?, isDigit c = false

theorem digits_inj {n m : Int} (h : digits n = digits m) : n.natAbs = m.natAbs := by
  have h2 := ofChar_injective.list_map h
  rw [← Nat.ofDigitChars_ten_toDigits (n := n.natAbs),h2,Nat.ofDigitChars_ten_toDigits]

theorem renderInt_append_inj {n m : Int} {r s : Text} (hr : Delimited r) (hs : Delimited s)
    (h : renderInt n++r = renderInt m++s) : n = m ∧ r = s := by
  have hdig : ∀ k : Int, ∀ c ∈ digits k, isDigit c := fun k c hc => isDigit_of_mem_digits hc
  have hsign : ∀ k : Int, ∀ u v, digits k++u ≠ ofChar '-'::v := by
    intro k u v hk
    obtain ⟨c,t,hc,hd⟩ := digits_eq_cons k
    rw [hc] at hk
    have hm : c = ofChar '-' := (List.cons.inj hk).1
    rw [hm] at hd
    exact absurd hd (by decide)
  unfold renderInt at h
  split at h <;> split at h
  · obtain ⟨hd,hrs⟩ := append_inj_of_class (hdig n) (hdig m) hr hs (List.cons.inj h).2
    have := digits_inj hd
    exact ⟨by omega,hrs⟩
  · exact absurd h.symm (hsign m s _)
  · exact absurd h (hsign n r _)
  · obtain ⟨hd,hrs⟩ := append_inj_of_class (hdig n) (hdig m) hr hs h
    have := digits_inj hd
    exact ⟨by omega,hrs⟩

def hexValue (c : CodePoint) : Nat := if c.val < 58 then c.val-48 else c.val-87

theorem hexValue_hexDigit : ∀ n < 16, hexValue (hexDigit n) = n := by decide

/-- Reading one character of a string back, none at the closing quote. -/
def unescape : Text → Option (CodePoint × Text)
  | [] => none
  | c::t =>
    if c = ofChar '"' then none
    else if c = ofChar '\\' then
      match t with
      | 117::_::_::h::l::t => some (Fin.ofNat _ (16*hexValue h+hexValue l),t)
      | 98::t => some (8,t)
      | 116::t => some (9,t)
      | 110::t => some (10,t)
      | 102::t => some (12,t)
      | 114::t => some (13,t)
      | c::t => some (c,t)
      | [] => none
    else some (c,t)

theorem unescape_escape (c : CodePoint) (t : Text) : unescape (escape c++t) = some (c,t) := by
  unfold escape
  split
  · subst c; rfl
  split
  · subst c; rfl
  split
  · subst c; rfl
  split
  · subst c; rfl
  split
  · subst c; rfl
  split
  · subst c; rfl
  split
  · subst c; rfl
  split
  next h =>
    change some (Fin.ofNat _ (16*hexValue (hexDigit (c.val/16))+hexValue (hexDigit (c.val%16))),t) = some (c,t)
    rw [hexValue_hexDigit _ (by omega),hexValue_hexDigit _ (by omega),Nat.div_add_mod]
    congr
    exact Fin.ofNat_val_eq_self c
  next hq hb _ _ _ _ _ _ =>
    change unescape (c::t) = _
    simp only [unescape,hq,hb,if_false]

theorem escapes_append_inj {t u r s : Text}
    (h : t.flatMap escape++ofChar '"'::r = u.flatMap escape++ofChar '"'::s) : t = u ∧ r = s := by
  have hend : ∀ (c : CodePoint) (v w : Text), escape c++v ≠ ofChar '"'::w := by
    intro c v w he
    have hr := congrArg unescape he
    rw [unescape_escape] at hr
    exact absurd hr (by simp [unescape])
  induction t generalizing u with
  | nil =>
    cases u with
    | nil => exact ⟨rfl,(List.cons.inj h).2⟩
    | cons c u =>
      rw [List.flatMap_cons,List.append_assoc] at h
      exact absurd h.symm (hend c _ _)
  | cons c t ih =>
    cases u with
    | nil =>
      rw [List.flatMap_cons,List.append_assoc] at h
      exact absurd h (hend c _ _)
    | cons d u =>
      rw [List.flatMap_cons,List.flatMap_cons,List.append_assoc,List.append_assoc] at h
      have hr := congrArg unescape h
      rw [unescape_escape,unescape_escape,Option.some.injEq,Prod.mk.injEq] at hr
      obtain ⟨htu,hrs⟩ := ih hr.2
      exact ⟨by rw [hr.1,htu],hrs⟩

theorem quote_append_inj {t u r s : Text} (h : quote t++r = quote u++s) : t = u ∧ r = s := by
  unfold quote at h
  rw [List.cons_append,List.cons_append,List.append_assoc,List.append_assoc] at h
  exact escapes_append_inj (List.cons.inj h).2

section injective

theorem delimited_renderItems (items : List Json) (r : Text) : Delimited (renderItems items++r) := by
  cases items <;> simp [Delimited,renderItems] <;> rfl

theorem delimited_renderEntries (entries : List (Text × Json)) (r : Text) :
    Delimited (renderEntries entries++r) := by
  rcases entries with _ | ⟨⟨k,v⟩,entries⟩ <;> simp [Delimited,renderEntries] <;> rfl

theorem renderItems_append_inj {items items' : List Json} {r s : Text}
    (ih : ∀ v ∈ items, ∀ w r s, Delimited r → Delimited s → render v++r = render w++s → v = w ∧ r = s)
    (h : renderItems items++r = renderItems items'++s) : items = items' ∧ r = s := by
  induction items generalizing items' with
  | nil =>
    cases items' with
    | nil => exact ⟨rfl,(List.cons.inj h).2⟩
    | cons w items' => exact absurd (List.cons.inj h).1 (by decide)
  | cons v items ihs =>
    cases items' with
    | nil => exact absurd (List.cons.inj h).1 (by decide)
    | cons w items' =>
      rw [List.forall_mem_cons] at ih
      simp only [renderItems,List.cons_append,List.append_assoc,List.cons.injEq,true_and] at h
      obtain ⟨rfl,hrest⟩ := ih.1 w _ _ (delimited_renderItems _ _) (delimited_renderItems _ _) h
      obtain ⟨rfl,hrs⟩ := ihs ih.2 hrest
      exact ⟨rfl,hrs⟩

theorem renderEntries_append_inj {entries entries' : List (Text × Json)} {r s : Text}
    (ih : ∀ e ∈ entries, ∀ w r s, Delimited r → Delimited s → render e.2++r = render w++s → e.2 = w ∧ r = s)
    (h : renderEntries entries++r = renderEntries entries'++s) : entries = entries' ∧ r = s := by
  induction entries generalizing entries' with
  | nil =>
    cases entries' with
    | nil => exact ⟨rfl,(List.cons.inj h).2⟩
    | cons e entries' => exact absurd (List.cons.inj h).1 (by decide)
  | cons e entries ihs =>
    cases entries' with
    | nil => exact absurd (List.cons.inj h).1 (by decide)
    | cons d entries' =>
      rw [List.forall_mem_cons] at ih
      obtain ⟨k,v⟩ := e
      obtain ⟨l,w⟩ := d
      simp only [renderEntries,List.cons_append,List.append_assoc,List.cons.injEq,true_and] at h
      obtain ⟨rfl,hv⟩ := quote_append_inj h
      obtain ⟨rfl,hrest⟩ :=
        ih.1 w _ _ (delimited_renderEntries _ _) (delimited_renderEntries _ _) (List.cons.inj hv).2
      obtain ⟨rfl,hrs⟩ := ihs ih.2 hrest
      exact ⟨rfl,hrs⟩

theorem kind_eq_of_append {v w : Json} {r s : Text} (h : render v++r = render w++s) : kind v = kind w := by
  rw [← kindOf_render v r,h,kindOf_render]

theorem render_ne_bracket {v : Json} {r s : Text} : render v++r ≠ ofChar ']'::s := by
  intro h
  have hkind : kind v = 7 := (kindOf_render v r).symm.trans (congrArg kindOf h)
  cases v <;> simp [kind] at hkind

theorem renderItems_of_render {items items' : List Json} {r s : Text}
    (h : render (.list items)++r = render (.list items')++s) : renderItems items++r = renderItems items'++s := by
  rcases items with _ | ⟨v,items⟩ <;> rcases items' with _ | ⟨w,items'⟩
  · exact (List.cons.inj h).2
  · rw [render,render,List.cons_append,List.append_assoc] at h
    exact absurd (List.cons.inj h).2.symm render_ne_bracket
  · rw [render,render,List.cons_append,List.append_assoc] at h
    exact absurd (List.cons.inj h).2 render_ne_bracket
  · simp only [render,List.cons_append] at h
    rw [renderItems,renderItems,List.cons_append,List.cons_append,(List.cons.inj h).2]

theorem renderEntries_of_render {entries entries' : List (Text × Json)} {r s : Text}
    (h : render (.dict entries)++r = render (.dict entries')++s) :
    renderEntries entries++r = renderEntries entries'++s := by
  rcases entries with _ | ⟨⟨k,v⟩,entries⟩ <;> rcases entries' with _ | ⟨⟨l,w⟩,entries'⟩
  · exact (List.cons.inj h).2
  · exact absurd (List.cons.inj (List.cons.inj h).2).1 (by decide)
  · exact absurd (List.cons.inj (List.cons.inj h).2).1 (by decide)
  · simp only [render,List.cons_append] at h
    rw [renderEntries,renderEntries,List.cons_append,List.cons_append,(List.cons.inj h).2]

/-- No printed value is a proper prefix of another one, up to the digits of a number. -/
theorem render_append_inj {v w : Json} {r s : Text} (hr : Delimited r) (hs : Delimited s)
    (h : render v++r = render w++s) : v = w ∧ r = s := by
  induction v generalizing w r s with
  | null =>
    have hkind := kind_eq_of_append h
    cases w <;> simp only [kind] at hkind <;> try omega
    exact ⟨rfl,List.append_cancel_left h⟩
  | bool b =>
    have hkind := kind_eq_of_append h
    cases w <;> simp only [kind] at hkind <;> try omega
    rename_i c
    cases b <;> cases c
    · exact ⟨rfl,List.append_cancel_left h⟩
    · exact absurd (List.cons.inj h).1 (by decide)
    · exact absurd (List.cons.inj h).1 (by decide)
    · exact ⟨rfl,List.append_cancel_left h⟩
  | int n =>
    have hkind := kind_eq_of_append h
    cases w <;> simp only [kind] at hkind <;> try omega
    obtain ⟨rfl,hrs⟩ := renderInt_append_inj hr hs h
    exact ⟨rfl,hrs⟩
  | str t =>
    have hkind := kind_eq_of_append h
    cases w <;> simp only [kind] at hkind <;> try omega
    obtain ⟨rfl,hrs⟩ := quote_append_inj h
    exact ⟨rfl,hrs⟩
  | list items ih =>
    have hkind := kind_eq_of_append h
    cases w <;> simp only [kind] at hkind <;> try omega
    obtain ⟨rfl,hrs⟩ :=
      renderItems_append_inj (fun v hv w r s hr hs he => ih v hv hr hs he) (renderItems_of_render h)
    exact ⟨rfl,hrs⟩
  | dict entries ih =>
    have hkind := kind_eq_of_append h
    cases w <;> simp only [kind] at hkind <;> try omega
    obtain ⟨rfl,hrs⟩ :=
      renderEntries_append_inj (fun e he w r s hr hs h => ih e he hr hs h) (renderEntries_of_render h)
    exact ⟨rfl,hrs⟩

theorem render_injective {v w : Json} (h : render v = render w) : v = w := by
  have hd : Delimited [] := by simp [Delimited]
  have happ : render v++[] = render w++[] := by rw [h]
  exact (render_append_inj hd hd happ).1

end injective

end Json

end ParaWorks.Lib
