import ParaWorks.Lib.Patterns

/-!
# Texts that remember where they come from

The characters of a text with the place that each was copied from, and the substitution of a pattern in it: the characters
of a match are gone and those of the replacement come from nowhere. A code point that no piece of the pattern accepts
keeps the two sides of it apart.
-/

namespace ParaWorks.Lib

/-- A character, and the place it was copied from. -/
structure Glyph (π : Type) where
  code : CodePoint
  origin : Option π
  deriving DecidableEq

variable {π : Type}

/-- A text that was copied from nowhere. -/
def literal (t : Text) : List (Glyph π) := t.map fun c => ⟨c,none⟩

def codes (t : List (Glyph π)) : Text := t.map (·.code)

def origins (t : List (Glyph π)) : List π := t.filterMap (·.origin)

theorem origins_append (t u : List (Glyph π)) : origins (t++u) = origins t++origins u := List.filterMap_append

theorem codes_append (t u : List (Glyph π)) : codes (t++u) = codes t++codes u := List.map_append

@[simp] theorem codes_literal (t : Text) : codes (literal t : List (Glyph π)) = t := by
  rw [codes,literal,List.map_map]
  exact List.map_id t

@[simp] theorem origins_literal (t : Text) : origins (literal t : List (Glyph π)) = [] := by
  simp [literal,origins]

theorem length_literal (t : Text) : (literal t : List (Glyph π)).length = t.length := List.length_map _

theorem literal_append (t u : Text) : (literal (t++u) : List (Glyph π)) = literal t++literal u := List.map_append

theorem mem_origins {t : List (Glyph π)} {p : π} : p ∈ origins t ↔ ∃ g ∈ t, g.origin = some p := List.mem_filterMap

/-! ## Substitution -/

section substitution

variable (pieces : List Piece) (mask : Text)

/-- What is left of a text from the number of characters on that the last match still covers. -/
def substituteFrom : Nat → List (Glyph π) → List (Glyph π)
  | _, [] => []
  | covered+1, _::t => substituteFrom covered t
  | 0, g::t =>
    match matchPieces pieces (codes (g::t)) with
    | some found => literal mask++substituteFrom (found.flatten.length-1) t
    | none => g::substituteFrom 0 t

/-- `pattern.sub(mask, text)` for a pattern without empty matches. -/
def substituteTraced (t : List (Glyph π)) : List (Glyph π) := substituteFrom pieces mask 0 t

end substitution

/-- The pattern has no empty match. -/
def NeverEmpty (pieces : List Piece) : Prop := ∀ t found, matchPieces pieces t = some found → found.flatten ≠ []

/-- No piece of the pattern accepts the code point. -/
def Separates (pieces : List Piece) (c : CodePoint) : Prop := ∀ piece ∈ pieces, piece.accepts c = false

section separation

variable {pieces : List Piece} {mask : Text}

theorem longestFirst_congr {α : Type} {f g : Nat → Option α} {least n : Nat} (h : ∀ k ≤ n, f k = g k) :
    longestFirst f least n = longestFirst g least n := by
  induction n with
  | zero => simp [longestFirst,h 0 le_rfl]
  | succ n ih => simp only [longestFirst,h (n+1) le_rfl,ih fun k hk => h k (Nat.le_succ_of_le hk)]

theorem longestFirst_le {α : Type} {f : Nat → Option α} {least n k : Nat} {a : α}
    (h : longestFirst f least n = some (k,a)) : k ≤ n ∧ f k = some a := by
  induction n with
  | zero =>
    unfold longestFirst at h
    split_ifs at h
    obtain ⟨b,hb,he⟩ := Option.map_eq_some_iff.mp h
    obtain ⟨rfl,rfl⟩ := Prod.mk.injEq .. ▸ he
    exact ⟨le_rfl,hb⟩
  | succ n ih =>
    unfold longestFirst at h
    split_ifs at h
    split at h
    · next b hb =>
      obtain ⟨rfl,rfl⟩ : n+1 = k ∧ b = a := by simpa using h
      exact ⟨le_rfl,hb⟩
    · exact ⟨(ih h).1.trans (Nat.le_succ n),(ih h).2⟩

theorem reach_le (piece : Piece) (t : Text) : piece.reach t ≤ t.length := by
  have hrun := (List.takeWhile_prefix piece.accepts (l := t)).length_le
  unfold Piece.reach
  cases piece.most with
  | none => exact hrun
  | some most => exact (Nat.min_le_left _ most).trans hrun

theorem reach_append {piece : Piece} {c : CodePoint} (hc : piece.accepts c = false) (t u : Text) :
    piece.reach (t++c::u) = piece.reach t := by
  have hrun : (t++c::u).takeWhile piece.accepts = t.takeWhile piece.accepts := by
    rw [List.takeWhile_append]
    split_ifs with hall
    · rw [List.takeWhile_cons_of_neg (by simp [hc]),List.append_nil]
      exact (List.takeWhile_prefix _).eq_of_length hall |>.symm
    · rfl
  rw [Piece.reach,Piece.reach,hrun]

/-- What comes after a separating code point does not matter to a match before it. -/
theorem matchPieces_append {c : CodePoint} (hc : Separates pieces c) (t u : Text) :
    matchPieces pieces (t++c::u) = matchPieces pieces t := by
  induction pieces generalizing t with
  | nil => rfl
  | cons piece pieces ih =>
    have hreach := reach_append (hc piece List.mem_cons_self) t u
    have hle := reach_le piece t
    have hsame : longestFirst (fun n => matchPieces pieces ((t++c::u).drop n)) piece.least (piece.reach t) =
        longestFirst (fun n => matchPieces pieces (t.drop n)) piece.least (piece.reach t) := by
      apply longestFirst_congr
      intro n hn
      rw [List.drop_append_of_le_length (hn.trans hle)]
      exact ih (fun p hp => hc p (List.mem_cons_of_mem _ hp)) (t.drop n)
    rw [matchPieces,matchPieces,hreach,hsame]
    cases hfound : longestFirst (fun n => matchPieces pieces (t.drop n)) piece.least (piece.reach t) with
    | none => rfl
    | some found =>
      have hlength : found.1 ≤ t.length := (longestFirst_le hfound).1.trans hle
      rw [Option.map_some,Option.map_some,List.take_append_of_le_length hlength]

theorem matchPieces_length {t : Text} {found : List Text} (h : matchPieces pieces t = some found) :
    found.flatten.length ≤ t.length := by
  induction pieces generalizing t found with
  | nil =>
    obtain rfl : found = [] := by simpa [matchPieces] using h.symm
    simp
  | cons piece pieces ih =>
    rw [matchPieces] at h
    obtain ⟨⟨n,rest⟩,hrun,rfl⟩ := Option.map_eq_some_iff.mp h
    obtain ⟨-,hrest⟩ := longestFirst_le hrun
    have hlength := ih hrest
    rw [List.length_drop] at hlength
    change (t.take n::rest).flatten.length ≤ t.length
    rw [List.flatten_cons,List.length_append,List.length_take]
    omega

theorem substituteFrom_append {g : Glyph π} (hg : Separates pieces g.code) (hempty : NeverEmpty pieces)
    (t u : List (Glyph π)) {covered : Nat} (hcovered : covered ≤ t.length) :
    substituteFrom pieces mask covered (t++g::u) =
      substituteFrom pieces mask covered t++substituteFrom pieces mask 0 (g::u) := by
  induction t generalizing covered with
  | nil =>
    obtain rfl : covered = 0 := by simpa using hcovered
    rfl
  | cons f t ih =>
    cases covered with
    | succ covered => exact ih (by simpa using hcovered)
    | zero =>
      have hmatch : matchPieces pieces (codes (f::t++g::u)) = matchPieces pieces (codes (f::t)) := by
        rw [codes_append]
        exact matchPieces_append hg (codes (f::t)) (codes u)
      rw [List.cons_append,substituteFrom,substituteFrom,← List.cons_append,hmatch]
      cases hfound : matchPieces pieces (codes (f::t)) with
      | none =>
        dsimp only
        rw [ih (Nat.zero_le _),List.cons_append]
      | some found =>
        have hlength := matchPieces_length hfound
        have hpositive := List.length_pos_iff.mpr (hempty _ _ hfound)
        rw [codes,List.length_map,List.length_cons] at hlength
        dsimp only
        rw [ih (by omega),List.append_assoc]

theorem substituteFrom_separator {g : Glyph π} (hg : Separates pieces g.code) (hempty : NeverEmpty pieces)
    (u : List (Glyph π)) : substituteFrom pieces mask 0 (g::u) = g::substituteFrom pieces mask 0 u := by
  have hnone : matchPieces pieces (codes (g::u)) = none := by
    have hmatch : matchPieces pieces (codes (g::u)) = matchPieces pieces [] := matchPieces_append hg [] (codes u)
    rw [hmatch]
    cases hfound : matchPieces pieces [] with
    | none => rfl
    | some found =>
      have hlength := matchPieces_length hfound
      exact absurd (List.eq_nil_of_length_eq_zero (Nat.le_zero.mp hlength)) (hempty _ _ hfound)
  rw [substituteFrom,hnone]

/-- A separating character splits a substitution. -/
theorem substituteTraced_separator {g : Glyph π} (hg : Separates pieces g.code) (hempty : NeverEmpty pieces)
    (t u : List (Glyph π)) :
    substituteTraced pieces mask (t++g::u) = substituteTraced pieces mask t++g::substituteTraced pieces mask u := by
  rw [substituteTraced,substituteFrom_append hg hempty t u (Nat.zero_le _),substituteFrom_separator hg hempty]
  rfl

end separation

/-! ## Origins -/

section origins

variable {pieces : List Piece} {mask : Text}

/-- A substitution moves no character. -/
theorem origins_substituteFrom (t : List (Glyph π)) (covered : Nat) :
    List.Sublist (origins (substituteFrom pieces mask covered t)) (origins t) := by
  induction t generalizing covered with
  | nil => simp [substituteFrom,origins]
  | cons g t ih =>
    have hrest : List.Sublist (origins t) (origins (g::t)) := (List.sublist_cons_self g t).filterMap _
    cases covered with
    | succ covered => exact (ih covered).trans hrest
    | zero =>
      rw [substituteFrom]
      cases matchPieces pieces (codes (g::t)) with
      | some found =>
        dsimp only
        rw [origins_append,origins_literal,List.nil_append]
        exact (ih _).trans hrest
      | none =>
        have hkept := ih 0
        rw [show g::substituteFrom pieces mask 0 t = [g]++substituteFrom pieces mask 0 t from rfl,
          show g::t = [g]++t from rfl,origins_append,origins_append]
        exact hkept.append_left _

theorem origins_substituteTraced (t : List (Glyph π)) :
    List.Sublist (origins (substituteTraced pieces mask t)) (origins t) := origins_substituteFrom t 0

end origins

/-! ## The plain substitution -/

section plain

variable {pieces : List Piece} {mask : Text}

theorem substituteFrom_drop (t : List (Glyph π)) (covered : Nat) :
    substituteFrom pieces mask covered t = substituteFrom pieces mask 0 (t.drop covered) := by
  induction t generalizing covered with
  | nil => simp [substituteFrom]
  | cons g t ih =>
    cases covered with
    | zero => rfl
    | succ covered => exact ih covered

theorem codes_substituteFrom (hempty : NeverEmpty pieces) {fuel : Nat} {t : List (Glyph π)} (hfuel : t.length < fuel) :
    codes (substituteFrom pieces mask 0 t) = substituteMatches pieces (fun _ => mask) fuel (codes t) := by
  induction fuel generalizing t with
  | zero => omega
  | succ fuel ih =>
    cases t with
    | nil =>
      have hnone : matchPieces pieces (codes ([] : List (Glyph π))) = none := by
        cases hfound : matchPieces pieces (codes ([] : List (Glyph π))) with
        | none => rfl
        | some found =>
          have hlength := matchPieces_length hfound
          exact absurd (List.eq_nil_of_length_eq_zero (Nat.le_zero.mp hlength)) (hempty _ _ hfound)
      unfold substituteMatches
      rw [hnone]
      rfl
    | cons g t =>
      rw [List.length_cons] at hfuel
      rw [substituteFrom]
      unfold substituteMatches
      cases hfound : matchPieces pieces (codes (g::t)) with
      | none =>
        dsimp only
        change g.code::codes (substituteFrom pieces mask 0 t) = g.code::substituteMatches pieces _ fuel (codes t)
        rw [ih (by omega)]
      | some found =>
        have hpositive := List.length_pos_iff.mpr (hempty _ _ hfound)
        obtain ⟨n,hn⟩ : ∃ n, found.flatten.length = n+1 := ⟨found.flatten.length-1,by omega⟩
        have hdrop : (codes (g::t)).drop (n+1) = codes (t.drop n) := by
          rw [codes,codes,List.map_cons,List.drop_succ_cons,List.map_drop]
        dsimp only
        rw [codes_append,codes_literal,substituteFrom_drop,hn,Nat.add_sub_cancel,hdrop,
          ih (by rw [List.length_drop]; omega)]

/-- Without the origins it is the substitution of the plain text. -/
theorem codes_substituteTraced (hempty : NeverEmpty pieces) (t : List (Glyph π)) :
    codes (substituteTraced pieces mask t) = substitute pieces (fun _ => mask) (codes t) := by
  rw [substituteTraced,substitute,codes_substituteFrom hempty (Nat.lt_succ_self _),codes,List.length_map]

end plain

/-! ## Patterns that start with a character -/

theorem least_le_of_longestFirst {α : Type} {f : Nat → Option α} {least n k : Nat} {a : α}
    (h : longestFirst f least n = some (k,a)) : least ≤ k := by
  induction n with
  | zero =>
    unfold longestFirst at h
    split_ifs at h with hleast
    omega
  | succ n ih =>
    unfold longestFirst at h
    split_ifs at h with hleast
    split at h
    · obtain ⟨rfl,-⟩ : n+1 = k ∧ _ := by simpa using h
      omega
    · exact ih h

theorem neverEmpty_cons {piece : Piece} {pieces : List Piece} (h : 0 < piece.least) : NeverEmpty (piece::pieces) := by
  intro t found hfound hnone
  rw [matchPieces] at hfound
  obtain ⟨⟨n,rest⟩,hrun,rfl⟩ := Option.map_eq_some_iff.mp hfound
  have hleast := least_le_of_longestFirst hrun
  have hreach := (longestFirst_le hrun).1.trans (reach_le piece t)
  have htake : t.take n = [] := (List.flatten_eq_nil_iff.mp hnone) _ List.mem_cons_self
  have hlength := congrArg List.length htake
  rw [List.length_take,List.length_nil] at hlength
  omega

/-! ## Texts without a character of the pattern -/

section absent

variable {pieces : List Piece} {mask : Text} {piece : Piece}

theorem reach_of_absent {t : Text} (habsent : ∀ c ∈ t, piece.accepts c = false) : piece.reach t = 0 := by
  have hrun : t.takeWhile piece.accepts = [] := by
    cases t with
    | nil => rfl
    | cons c t => exact List.takeWhile_cons_of_neg (by simp [habsent c List.mem_cons_self])
  unfold Piece.reach
  rw [hrun]
  cases piece.most <;> simp

theorem matchPieces_of_absent (hpiece : piece ∈ pieces) (hleast : 0 < piece.least) {t : Text}
    (habsent : ∀ c ∈ t, piece.accepts c = false) : matchPieces pieces t = none := by
  induction pieces generalizing t with
  | nil => simp at hpiece
  | cons other pieces ih =>
    rw [matchPieces,Option.map_eq_none_iff,Option.eq_none_iff_forall_not_mem]
    rintro ⟨n,rest⟩ hrun
    have hfound := longestFirst_le hrun
    obtain rfl | hpiece := List.mem_cons.mp hpiece
    · have hpositive := least_le_of_longestFirst hrun
      rw [reach_of_absent habsent] at hfound
      omega
    · rw [ih hpiece fun c hc => habsent c (List.mem_of_mem_drop hc)] at hfound
      exact absurd hfound.2 (by simp)

theorem substituteTraced_of_absent (hpiece : piece ∈ pieces) (hleast : 0 < piece.least) {t : List (Glyph π)}
    (habsent : ∀ c ∈ codes t, piece.accepts c = false) : substituteTraced pieces mask t = t := by
  induction t with
  | nil => rfl
  | cons g t ih =>
    rw [substituteTraced,substituteFrom,matchPieces_of_absent hpiece hleast habsent]
    exact congrArg (g::·) (ih fun c hc => habsent c (List.mem_cons_of_mem _ hc))

end absent

end ParaWorks.Lib
