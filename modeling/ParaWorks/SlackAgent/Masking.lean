import ParaWorks.SlackAgent.Graph

/-!
# What masking leaves

A blank and a line break keep the texts on both sides of them apart, so that what masking leaves of a transcript is what it
leaves of each message, or of the part of it that stands before a cut.
-/

namespace ParaWorks.SlackAgent

open Lib

/-! ## Separators -/

def space : Glyph (Nat × Nat) := ⟨ofChar ' ',none⟩

def newline : Glyph (Nat × Nat) := ⟨ofChar '\n',none⟩

/-- No pattern of `mask_pii` goes past the character. -/
def Apart (platform : Platform) (g : Glyph (Nat × Nat)) : Prop :=
  Separates residentPattern g.code ∧ Separates phonePattern g.code ∧ Separates (emailPattern platform) g.code

theorem separates_resident {c : CodePoint} (hdecimal : isDecimal c = false) (hdash : isChar '-' c = false) :
    Separates residentPattern c := by
  intro piece hpiece
  simp only [residentPattern,List.mem_cons,List.not_mem_nil,or_false] at hpiece
  rcases hpiece with rfl | rfl | rfl <;> assumption

theorem separates_phone {c : CodePoint} (hdecimal : isDecimal c = false) (hzero : isChar '0' c = false)
    (hone : isChar '1' c = false) (hdash : isChar '-' c = false) : Separates phonePattern c := by
  intro piece hpiece
  simp only [phonePattern,List.mem_cons,List.not_mem_nil,or_false] at hpiece
  rcases hpiece with rfl | rfl | rfl | rfl | rfl | rfl | rfl <;> assumption

theorem separates_email {platform : Platform} {c : CodePoint} (hword : isWordChar platform c = false)
    (hdot : isChar '.' c = false) (hdash : isChar '-' c = false) (hat : isChar '@' c = false) :
    Separates (emailPattern platform) c := by
  have haddress : isAddressChar platform c = false := by simp [isAddressChar,hword,hdot,hdash]
  intro piece hpiece
  simp only [emailPattern,List.mem_cons,List.not_mem_nil,or_false] at hpiece
  rcases hpiece with rfl | rfl | rfl | rfl | rfl <;> assumption

theorem apart_space (platform : Platform) : Apart platform space :=
  ⟨separates_resident (by decide) (by decide),separates_phone (by decide) (by decide) (by decide) (by decide),
    separates_email rfl (by decide) (by decide) (by decide)⟩

theorem apart_newline (platform : Platform) : Apart platform newline :=
  ⟨separates_resident (by decide) (by decide),separates_phone (by decide) (by decide) (by decide) (by decide),
    separates_email rfl (by decide) (by decide) (by decide)⟩

theorem resident_neverEmpty : NeverEmpty residentPattern := neverEmpty_cons (by decide)

theorem phone_neverEmpty : NeverEmpty phonePattern := neverEmpty_cons (by decide)

theorem email_neverEmpty (platform : Platform) : NeverEmpty (emailPattern platform) := neverEmpty_cons Nat.one_pos

section masking

variable {platform : Platform}

theorem maskPii_nil : maskPii platform [] = [] := rfl

/-- A separator splits what is masked. -/
theorem maskPii_separator {g : Glyph (Nat × Nat)} (hg : Apart platform g) (t u : Traced) :
    maskPii platform (t++g::u) = maskPii platform t++g::maskPii platform u := by
  unfold maskPii
  rw [substituteTraced_separator hg.1 resident_neverEmpty,substituteTraced_separator hg.2.1 phone_neverEmpty,
    substituteTraced_separator hg.2.2 (email_neverEmpty platform)]

/-- Masking moves no character. -/
theorem origins_maskPii (t : Traced) : List.Sublist (origins (maskPii platform t)) (origins t) := by
  unfold maskPii
  exact (origins_substituteTraced _).trans ((origins_substituteTraced _).trans (origins_substituteTraced t))

theorem origins_maskPii_literal (t : Text) : origins (maskPii platform (literal t)) = [] := by
  have h : List.Sublist (origins (maskPii platform (literal t))) (origins (literal t)) := origins_maskPii _
  rw [origins_literal] at h
  exact List.sublist_nil.mp h

/-- Without the origins it is `mask_pii` of the plain text. -/
theorem codes_maskPii (t : Traced) : codes (maskPii platform t) =
    substitute (emailPattern platform) (fun _ => text "[EMAIL_MASKED]")
      (substitute phonePattern (fun _ => text "[PHONE_MASKED]")
        (substitute residentPattern (fun _ => text "[RESIDENT_ID_MASKED]") (codes t))) := by
  unfold maskPii
  rw [codes_substituteTraced (email_neverEmpty platform),codes_substituteTraced phone_neverEmpty,
    codes_substituteTraced resident_neverEmpty]

theorem maskPii_of_absent {t : Traced} (hdash : ∀ c ∈ codes t, isChar '-' c = false)
    (hat : ∀ c ∈ codes t, isChar '@' c = false) : maskPii platform t = t := by
  have hresident : substituteTraced residentPattern (text "[RESIDENT_ID_MASKED]") t = t :=
    substituteTraced_of_absent (show Piece.one (isChar '-') ∈ _ by simp [residentPattern]) Nat.one_pos hdash
  have hphone : substituteTraced phonePattern (text "[PHONE_MASKED]") t = t :=
    substituteTraced_of_absent (show Piece.one (isChar '-') ∈ _ by simp [phonePattern]) Nat.one_pos hdash
  have hemail : substituteTraced (emailPattern platform) (text "[EMAIL_MASKED]") t = t :=
    substituteTraced_of_absent (show Piece.one (isChar '@') ∈ _ by simp [emailPattern]) Nat.one_pos hat
  unfold maskPii
  rw [hresident,hphone,hemail]

theorem maskPii_marker (t : Traced) :
    maskPii platform (t++literal truncationMarker) = maskPii platform t++literal truncationMarker := by
  have hmarker : (literal truncationMarker : Traced) = newline::literal (text "...[COST_GUARD_TRUNCATED]...") := rfl
  have hrest : maskPii platform (literal (text "...[COST_GUARD_TRUNCATED]...")) =
      literal (text "...[COST_GUARD_TRUNCATED]...") := by
    apply maskPii_of_absent
    · rw [codes_literal]
      simp [text,isChar,ofChar_injective.eq_iff]
    · rw [codes_literal]
      simp [text,isChar,ofChar_injective.eq_iff]
  rw [hmarker,maskPii_separator (apart_newline platform),hrest]

end masking

/-! ## Lines -/

section lines

variable {platform : Platform}

/-- What masking a text by itself leaves of it. -/
def Leaves (platform : Platform) (place : Nat) (t : Text) (k : Nat) : Prop :=
  (place,k) ∈ origins (maskPii platform (copied place t))

theorem origins_copied (place : Nat) (t : Text) : origins (copied place t) = (List.range t.length).map (place,·) := by
  have hplaces : origins (copied place t) = t.zipIdx.map fun c => (place,c.2) := by
    rw [origins,copied,List.filterMap_map,← List.filterMap_eq_map]
    rfl
  have hsnd : t.zipIdx.map (fun c => (place,c.2)) = (t.zipIdx.map (·.2)).map (place,·) := by
    rw [List.map_map]
    rfl
  rw [hplaces,hsnd,List.zipIdx_map_snd,List.range_eq_range']

theorem mem_origins_copied {place : Nat} {t : Text} {o : Nat × Nat} :
    o ∈ origins (copied place t) ↔ o.1 = place ∧ o.2 < t.length := by
  rw [origins_copied,List.mem_map]
  constructor
  · rintro ⟨k,hk,rfl⟩
    exact ⟨rfl,List.mem_range.mp hk⟩
  · rintro ⟨rfl,hk⟩
    exact ⟨o.2,List.mem_range.mpr hk,rfl⟩

theorem copied_take (place : Nat) (t : Text) (n : Nat) : (copied place t).take n = copied place (t.take n) := by
  apply List.ext_getElem
  · simp [copied]
  · intro k hk hk'
    simp [copied]

theorem length_copied (place : Nat) (t : Text) : (copied place t).length = t.length := by
  rw [copied,List.length_map,List.length_zipIdx]

theorem Leaves.lt {place k : Nat} {t : Text} (h : Leaves platform place t k) : k < t.length :=
  (mem_origins_copied.mp ((origins_maskPii _).subset h)).2

theorem place_of_masked {place : Nat} {t : Text} {o : Nat × Nat} (h : o ∈ origins (maskPii platform (copied place t))) :
    o.1 = place := (mem_origins_copied.mp ((origins_maskPii _).subset h)).1

theorem lineHead_space (time user : Text) : ∃ t, (literal (lineHead time user) : Traced) = literal t++[space] :=
  ⟨text "["++time++text "] "++user++text ":",by
    rw [show [space] = literal (text " ") from rfl,← literal_append]
    simp [lineHead,text]⟩

theorem lineTail_space (ts : Text) : ∃ t, (literal (lineTail ts) : Traced) = space::literal t :=
  ⟨text "[TS: "++ts++text "]\n",rfl⟩

theorem lineTail_newline (ts : Text) : ∃ t, (literal (lineTail ts) : Traced) = literal t++[newline] :=
  ⟨text " [TS: "++ts++text "]",by
    rw [show [newline] = literal (text "\n") from rfl,← literal_append]
    simp [lineTail,text]⟩

theorem origins_separator {g : Glyph (Nat × Nat)} (hg : Apart platform g) (hnone : g.origin = none) (t u : Traced) :
    origins (maskPii platform (t++g::u)) = origins (maskPii platform t)++origins (maskPii platform u) := by
  have hrest : origins (g::maskPii platform u) = origins (maskPii platform u) := List.filterMap_cons_none hnone
  rw [maskPii_separator hg,origins_append,hrest]

/-- A line with its parts. -/
def lineOf (time user : Text) (m : Placed) : Traced :=
  literal (lineHead time user)++(copied m.2 m.1.body++literal (lineTail m.1.tsText))

theorem transcriptLine_eq {display : SlackMessage → Text} {m : Placed} {t : Traced}
    (h : transcriptLine platform display m = some t) :
    ∃ time, platform.readableTime m.1.seconds = some time ∧ t = lineOf time (display m.1) m := by
  obtain ⟨time,htime,rfl⟩ := Option.map_eq_some_iff.mp h
  exact ⟨time,htime,rfl⟩

theorem lineOf_newline (time user : Text) (m : Placed) : ∃ t, lineOf time user m = t++[newline] := by
  obtain ⟨t,ht⟩ := lineTail_newline m.1.tsText
  exact ⟨literal (lineHead time user)++(copied m.2 m.1.body++literal t),by
    rw [lineOf,ht,List.append_assoc,List.append_assoc]⟩

theorem origins_lineOf (time user : Text) (m : Placed) :
    origins (lineOf time user m) = (List.range m.1.body.length).map (m.2,·) := by
  rw [lineOf,origins_append,origins_append,origins_literal,origins_literal,origins_copied,List.append_nil,List.nil_append]

theorem length_lineOf (time user : Text) (m : Placed) :
    (lineOf time user m).length = (lineHead time user).length+m.1.body.length+(lineTail m.1.tsText).length := by
  rw [lineOf,List.length_append,List.length_append,length_literal,length_literal,length_copied]
  omega

/-- A line that is cut and masked holds what masking leaves of its text up to the cut. -/
theorem origins_masked_line (time user : Text) (m : Placed) (limit : Nat) :
    origins (maskPii platform ((lineOf time user m).take limit)) =
      origins (maskPii platform (copied m.2 (m.1.body.take (limit-(lineHead time user).length)))) := by
  have hhead : (literal (lineHead time user) : Traced).length = (lineHead time user).length := length_literal _
  rw [lineOf,List.take_append,hhead,List.take_append,copied_take]
  obtain hle | hlt := le_or_gt limit (lineHead time user).length
  · have hzero : limit-(lineHead time user).length = 0 := by omega
    have hlit : (literal (lineHead time user) : Traced).take limit = literal ((lineHead time user).take limit) := by
      rw [literal,literal,List.map_take]
    rw [hzero,Nat.zero_sub,List.take_zero,List.take_zero,hlit]
    change origins (maskPii platform (literal _++([]++[]))) = origins (maskPii platform [])
    rw [List.append_nil,List.append_nil,origins_maskPii_literal]
    rfl
  · have hfull : (literal (lineHead time user) : Traced).take limit = literal (lineHead time user) :=
      List.take_of_length_le (by omega)
    obtain ⟨head,hspace⟩ := lineHead_space time user
    rw [hfull,hspace,List.append_assoc,List.singleton_append,origins_separator (apart_space platform) rfl,
      origins_maskPii_literal,List.nil_append]
    generalize limit-(lineHead time user).length = n
    generalize hk : n-(copied m.2 m.1.body).length = k
    cases k with
    | zero => rw [List.take_zero,List.append_nil]
    | succ k =>
      obtain ⟨tail,htail⟩ := lineTail_space m.1.tsText
      have hlit : (literal tail : Traced).take k = literal (tail.take k) := by rw [literal,literal,List.map_take]
      rw [htail,List.take_succ_cons,origins_separator (apart_space platform) rfl,hlit,origins_maskPii_literal,
        List.append_nil]

end lines

end ParaWorks.SlackAgent
