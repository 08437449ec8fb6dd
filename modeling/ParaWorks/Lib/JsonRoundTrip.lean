import ParaWorks.Lib.LenientJson

/-!
# Reading printed JSON back

The strict reader reads every printed value whose objects have distinct keys back as that value.
-/

namespace ParaWorks.Lib.Loaded

open Json

mutual
/-- The value without floats as what the reader gives for it. -/
def ofJson : Json → Loaded
  | .null => .null
  | .bool b => .bool b
  | .int n => .int n
  | .str t => .str t
  | .list items => .list (ofItems items)
  | .dict entries => .dict (ofEntries entries)

def ofItems : List Json → List Loaded
  | [] => []
  | v::items => ofJson v::ofItems items

def ofEntries : List (Text × Json) → List (Text × Loaded)
  | [] => []
  | (k,v)::entries => (k,ofJson v)::ofEntries entries
end

theorem ofEntries_keys (entries : List (Text × Json)) : (ofEntries entries).map (·.1) = entries.map Prod.fst := by
  induction entries with
  | nil => rfl
  | cons e entries ih => rw [ofEntries,List.map_cons,ih,List.map_cons]

/-! ## Distinct keys -/

theorem keysOnceItems_ofItems {items : List Json} (ih : ∀ v ∈ items, keysOnce (ofJson v) = true ↔ Every KeysNodup v) :
    keysOnce.keysOnceItems (ofItems items) = true ↔ ∀ v ∈ items, Every KeysNodup v := by
  induction items with
  | nil => simp [ofItems,keysOnce.keysOnceItems]
  | cons v items ihs =>
    rw [List.forall_mem_cons] at ih
    rw [ofItems,keysOnce.keysOnceItems,Bool.and_eq_true,ih.1,ihs ih.2,List.forall_mem_cons]

theorem keysOnceEntries_ofEntries {entries : List (Text × Json)}
    (ih : ∀ e ∈ entries, keysOnce (ofJson e.2) = true ↔ Every KeysNodup e.2) :
    keysOnce.keysOnceEntries (ofEntries entries) = true ↔ ∀ e ∈ entries, Every KeysNodup e.2 := by
  induction entries with
  | nil => simp [ofEntries,keysOnce.keysOnceEntries]
  | cons e entries ihs =>
    rw [List.forall_mem_cons] at ih
    rw [ofEntries,keysOnce.keysOnceEntries,Bool.and_eq_true,ih.1,ihs ih.2,List.forall_mem_cons]

theorem keysOnce_ofJson (v : Json) : keysOnce (ofJson v) = true ↔ Every KeysNodup v := by
  induction v with
  | null => simp [ofJson,keysOnce,KeysNodup]
  | bool b => simp [ofJson,keysOnce,KeysNodup]
  | int n => simp [ofJson,keysOnce,KeysNodup]
  | str t => simp [ofJson,keysOnce,KeysNodup]
  | list items ih => simp only [ofJson,keysOnce,keysOnceItems_ofItems ih,every_list,KeysNodup,true_and]
  | dict entries ih =>
    simp only [ofJson,keysOnce,ofEntries_keys,Bool.and_eq_true,decide_eq_true_eq,keysOnceEntries_ofEntries ih,
      every_dict,KeysNodup]

/-! ## The printed value -/

/-- What stands after a printed value: the end, or what closes or separates values. -/
def Ends (r : Text) : Prop := ∀ c ∈ r.head?, c = ofChar ',' ∨ c = ofChar '\x7d' ∨ c = ofChar ']'

theorem ends_nil : Ends [] := by simp [Ends]

theorem Ends.delimited {r : Text} (h : Ends r) : Delimited r := by
  intro c hc
  rcases h c hc with rfl | rfl | rfl <;> rfl

theorem Ends.skipSpace {r : Text} (h : Ends r) : skipSpace r = r := by
  cases r with
  | nil => rfl
  | cons c r => rcases h c rfl with rfl | rfl | rfl <;> exact skipSpace_of_head rfl

theorem Ends.fraction {r : Text} (h : Ends r) : readFraction r = ([],r) ∧ readExponent r = ([],r) := by
  cases r with
  | nil => exact ⟨rfl,rfl⟩
  | cons c r => rcases h c rfl with rfl | rfl | rfl <;> exact ⟨rfl,rfl⟩

theorem ends_renderItems (items : List Json) (r : Text) : Ends (renderItems items++r) := by
  cases items <;> simp [Ends,renderItems]

theorem ends_renderEntries (entries : List (Text × Json)) (r : Text) : Ends (renderEntries entries++r) := by
  rcases entries with _ | ⟨⟨k,v⟩,entries⟩ <;> simp [Ends,renderEntries]

theorem skipSpace_render (v : Json) (r : Text) : Loaded.skipSpace (render v++r) = render v++r := by
  cases v with
  | null => rfl
  | bool b => cases b <;> rfl
  | int n => rw [render]; exact skipSpace_renderInt n r
  | str t => rfl
  | list items => cases items <;> rfl
  | dict entries => rcases entries with _ | ⟨⟨k,v⟩,entries⟩ <;> rfl

theorem readValue_renderInt {fuel : Nat} (n : Int) {r : Text} (hr : Ends r) :
    readValue (fuel+1) (renderInt n++r) = some (.int n,r) := by
  obtain ⟨c,t,hc,hkind⟩ := renderInt_eq_cons n
  have hhead : (renderInt n++r).head? = some c := by rw [hc]; rfl
  have hother : ∀ d, d ≠ ofChar '-' → isDigit d = false → c ≠ d := by
    intro d hminus hdigit
    rcases hkind with ⟨rfl,_⟩ | hc
    · exact Ne.symm hminus
    · exact ne_of_isDigit hc hdigit
  rw [readValue,hhead]
  simp only [hother 34 (by decide) rfl,hother (ofChar '\x7b') (by decide) rfl,hother (ofChar '[') (by decide) rfl,
    hother (ofChar 'n') (by decide) rfl,hother (ofChar 't') (by decide) rfl,hother (ofChar 'f') (by decide) rfl,if_false]
  exact readNumber_of_ends n hr.delimited hr.fraction.1 hr.fraction.2

/-- A value is read back from its printed text, whatever closes or separates it. -/
def ReadBack (v : Json) : Prop :=
  ∀ fuel r, (render v).length < fuel → Ends r → readValue fuel (render v++r) = some (ofJson v,r)

/-- The items from the one at hand on are read back. -/
theorem readItems_render {fuel : Nat} {v : Json} {items : List Json} {r : Text} (hv : ReadBack v)
    (hitems : ∀ w ∈ items, ReadBack w) (hfuel : (render v++renderItems items).length < fuel) :
    readItems fuel (render v++(renderItems items++r)) = some (ofJson v::ofItems items,r) := by
  induction items generalizing v fuel with
  | nil =>
    cases fuel with
    | zero => omega
    | succ fuel =>
      have hlt : (render v).length < fuel := by simpa [renderItems] using hfuel
      rw [readItems,hv fuel _ hlt (ends_renderItems [] r)]
      rfl
  | cons w items ih =>
    rw [List.forall_mem_cons] at hitems
    cases fuel with
    | zero => omega
    | succ fuel =>
      simp only [List.length_append,renderItems,List.length_cons] at hfuel
      have hrest : readItems fuel (render w++(renderItems items++r)) = some (ofJson w::ofItems items,r) := by
        apply ih hitems.1 hitems.2
        rw [List.length_append]
        omega
      have hcomma : skipSpace (renderItems (w::items)++r) = ofChar ','::(render w++(renderItems items++r)) := by
        rw [(ends_renderItems _ r).skipSpace,renderItems,List.cons_append,List.append_assoc]
      rw [readItems,hv fuel _ (by omega) (ends_renderItems _ r)]
      simp only [Option.bind_eq_bind,Option.bind_some,hcomma,List.head?_cons,List.tail_cons,skipSpace_render,hrest]
      rfl

/-- The entries from the one at hand on are read back. -/
theorem readEntries_render {fuel : Nat} {k : Text} {v : Json} {entries : List (Text × Json)} {r : Text}
    (hv : ReadBack v) (hentries : ∀ e ∈ entries, ReadBack e.2)
    (hfuel : (quote k++ofChar ':'::(render v++renderEntries entries)).length < fuel) :
    readEntries fuel (quote k++ofChar ':'::(render v++(renderEntries entries++r))) =
      some ((k,ofJson v)::ofEntries entries,r) := by
  induction entries generalizing k v fuel with
  | nil =>
    cases fuel with
    | zero => omega
    | succ fuel =>
      simp only [List.length_append,renderEntries,List.length_cons] at hfuel
      have hhead : (quote k++ofChar ':'::(render v++(renderEntries []++r))).head? = some 34 := rfl
      have hcolon : skipSpace (ofChar ':'::(render v++(renderEntries []++r))) =
          ofChar ':'::(render v++(renderEntries []++r)) := skipSpace_of_head rfl
      rw [readEntries,hhead,if_neg (by simp),readString_quote]
      simp only [Option.bind_eq_bind,Option.bind_some,hcolon,List.head?_cons,List.tail_cons,skipSpace_render,
        hv fuel _ (by omega) (ends_renderEntries [] r)]
      rfl
  | cons e entries ih =>
    obtain ⟨l,w⟩ := e
    rw [List.forall_mem_cons] at hentries
    cases fuel with
    | zero => omega
    | succ fuel =>
      simp only [List.length_append,renderEntries,List.length_cons] at hfuel
      have hrest : readEntries fuel (quote l++ofChar ':'::(render w++(renderEntries entries++r))) =
          some ((l,ofJson w)::ofEntries entries,r) := by
        apply ih hentries.1 hentries.2
        simp only [List.length_append,List.length_cons]
        omega
      have htext : renderEntries ((l,w)::entries)++r =
          ofChar ','::(quote l++ofChar ':'::(render w++(renderEntries entries++r))) := by
        simp only [renderEntries,List.cons_append,List.append_assoc]
      have hcomma : skipSpace (renderEntries ((l,w)::entries)++r) =
          ofChar ','::(quote l++ofChar ':'::(render w++(renderEntries entries++r))) := by
        rw [(ends_renderEntries _ r).skipSpace,htext]
      have hquote : skipSpace (quote l++ofChar ':'::(render w++(renderEntries entries++r))) =
          quote l++ofChar ':'::(render w++(renderEntries entries++r)) := rfl
      have hhead : (quote k++ofChar ':'::(render v++(renderEntries ((l,w)::entries)++r))).head? = some 34 := rfl
      have hcolon : skipSpace (ofChar ':'::(render v++(renderEntries ((l,w)::entries)++r))) =
          ofChar ':'::(render v++(renderEntries ((l,w)::entries)++r)) := skipSpace_of_head rfl
      rw [readEntries,hhead,if_neg (by simp),readString_quote]
      simp only [Option.bind_eq_bind,Option.bind_some,hcolon,List.head?_cons,List.tail_cons,skipSpace_render,
        hv fuel _ (by omega) (ends_renderEntries _ r),hcomma,hquote,hrest]
      rfl

theorem readBack_list {items : List Json} (ih : ∀ v ∈ items, ReadBack v) : ReadBack (.list items) := by
  intro fuel r hfuel hr
  cases fuel with
  | zero => omega
  | succ fuel =>
    cases items with
    | nil => rfl
    | cons v items =>
      rw [List.forall_mem_cons] at ih
      have hlen : (render v++renderItems items).length < fuel := by
        rw [render,List.length_cons] at hfuel
        omega
      have hitems := readItems_render (r := r) ih.1 ih.2 hlen
      have hopen : (render v++(renderItems items++r)).head? ≠ some (ofChar ']') := fun h =>
        (List.head?_eq_some_iff.mp h).elim fun _ hs => render_ne_bracket hs
      rw [render,List.cons_append,List.append_assoc,readValue,List.head?_cons]
      simp only [List.tail_cons,skipSpace_render,if_neg hopen,hitems]
      rfl

theorem readBack_dict {entries : List (Text × Json)} (ih : ∀ e ∈ entries, ReadBack e.2) :
    ReadBack (.dict entries) := by
  intro fuel r hfuel hr
  cases fuel with
  | zero => omega
  | succ fuel =>
    rcases entries with _ | ⟨⟨k,v⟩,entries⟩
    · rfl
    · rw [List.forall_mem_cons] at ih
      have hlen : (quote k++ofChar ':'::(render v++renderEntries entries)).length < fuel := by
        rw [render,List.length_cons] at hfuel
        omega
      have hentries := readEntries_render (r := r) ih.1 ih.2 hlen
      have htext : render (.dict ((k,v)::entries))++r =
          ofChar '\x7b'::(quote k++ofChar ':'::(render v++(renderEntries entries++r))) := by
        simp only [render,List.cons_append,List.append_assoc]
      have hquote : skipSpace (quote k++ofChar ':'::(render v++(renderEntries entries++r))) =
          quote k++ofChar ':'::(render v++(renderEntries entries++r)) := rfl
      have hhead : (quote k++ofChar ':'::(render v++(renderEntries entries++r))).head? = some 34 := rfl
      rw [htext,readValue,List.head?_cons]
      simp only [List.tail_cons,hquote,hhead,hentries]
      rfl

theorem readBack (v : Json) : ReadBack v := by
  induction v with
  | null => rintro (_ | fuel) r hfuel _ <;> [omega; rfl]
  | bool b => cases b <;> rintro (_ | fuel) r hfuel _ <;> [omega; rfl; omega; rfl]
  | int n =>
    rintro (_ | fuel) r hfuel hr
    · omega
    · exact readValue_renderInt n hr
  | str t =>
    rintro (_ | fuel) r hfuel _
    · omega
    · exact readValue_quote t r
  | list items ih => exact readBack_list ih
  | dict entries ih => exact readBack_dict ih

/-- A printed value does not start with the byte order mark. -/
theorem render_head_ne_mark (v : Json) : (render v).head? ≠ some 0xfeff := by
  cases v with
  | null => decide
  | bool b => cases b <;> decide
  | int n =>
    obtain ⟨c,t,hc,hkind⟩ := renderInt_eq_cons n
    rw [render,hc,List.head?_cons]
    intro h
    obtain rfl := Option.some.inj h
    rcases hkind with ⟨hminus,_⟩ | hdigit
    · exact absurd hminus (by decide)
    · exact absurd hdigit (by decide)
  | str t => exact fun h => absurd (Option.some.inj h) (by decide)
  | list items => cases items <;> exact fun h => absurd (Option.some.inj h) (by decide)
  | dict entries =>
    rcases entries with _ | ⟨⟨k,v⟩,entries⟩ <;> exact fun h => absurd (Option.some.inj h) (by decide)

/-- The reader inverts the printer. -/
theorem loads_render {v : Json} (h : Every KeysNodup v) : loads (render v) = some (ofJson v) := by
  have hvalue : readValue ((render v).length+1) (render v) = some (ofJson v,[]) := by
    have hread := readBack v ((render v).length+1) [] (by omega) ends_nil
    rwa [List.append_nil] at hread
  have hskip : skipSpace (render v) = render v := by simpa using skipSpace_render v []
  have hkeys : keysOnce (ofJson v) = true := (keysOnce_ofJson v).mpr h
  rw [loads,if_neg (render_head_ne_mark v),hskip,hvalue]
  exact if_pos ⟨rfl,hkeys⟩

end ParaWorks.Lib.Loaded
