import ParaWorks.Requests.AssistantContext

/-!
# The last turn in the query

Which lines the query of an assistant request holds, and when the line of the last turn is one of them.
-/

namespace ParaWorks.Requests

open Lib Generation Fingerprints

/-! ## Specification -/

/-- The lines of the earlier turns of the user that the scanner allows, in order. -/
def turnLines (scan : Text → Option Bool) (messages : List AssistantContextMessage) (question : Text) : List Text :=
  ((priorTurns messages question).filter fun m => scan m.content = some true).filterMap contextLine

/-- The lines that the query holds. -/
structure Holds (turns : List Text) (question query : Text) (lines : List Text) : Prop where
  query : query = contextualQuery question lines
  atMostSix : lines.length ≤ 6
  distinct : lines.Nodup
  chronological : lines.Sublist turns
  recent : lines ≠ [] → ∀ line ∈ turns.getLast?, line ∈ lines

/-- The query is short, ends with the question, and holds the line of the last turn when it holds any. -/
structure KeepsRecentTurns (turns : List Text) (question query : Text) : Prop where
  bounded : query.length ≤ 8000
  endsInQuestion : question <:+ query
  lines : ∃ lines, Holds turns question query lines

/-- Fewer than six other lines were first said after the line of the last turn was, and all of them fit, or else no line
fits. -/
def LastTurnFits (turns : List Text) (question : Text) : Prop :=
  ∀ line ∈ turns.getLast?,
    ((since line (distinct turns)).length ≤ 6 ∧ queryFits question (since line (distinct turns)) = true) ∨
      ∀ final ∈ (distinct turns).getLast?, queryFits question [final] = false

/-! ## The kept lines -/

section kept

variable {turns kept : List Text} {question : Text}

/-- The lines that the query is made of. -/
def Kept (turns : List Text) (question : Text) (kept : List Text) : Prop :=
  longestFitting (queryFits question) (lastN 6 (distinct turns)) = some kept

theorem Kept.suffix (h : Kept turns question kept) : kept <:+ distinct turns :=
  (longestFitting_some h).1.trans (lastN_suffix 6 _)

theorem Kept.length_le (h : Kept turns question kept) : kept.length ≤ 6 := by
  have hlength := (longestFitting_some h).1.length_le
  rw [length_lastN] at hlength
  omega

theorem Kept.fits (h : Kept turns question kept) : (contextualQuery question kept).length ≤ 8000 :=
  of_decide_eq_true (longestFitting_some h).2

theorem Kept.sublist (h : Kept turns question kept) : kept.Sublist turns :=
  h.suffix.sublist.trans (distinctFrom_sublist turns [])

theorem Kept.nodup (h : Kept turns question kept) : kept.Nodup := (distinct_nodup turns).sublist h.suffix.sublist

/-- A line is kept when at most six lines from it on fit. -/
theorem Kept.mem_iff (h : Kept turns question kept) {line : Text} (hline : line ∈ turns) : line ∈ kept ↔
    (since line (distinct turns)).length ≤ 6 ∧ queryFits question (since line (distinct turns)) = true := by
  have hsuffix := since_suffix line (distinct turns)
  rw [mem_suffix_iff (distinct_nodup turns) (mem_distinct.mpr hline) h.suffix]
  constructor
  · intro hle
    have hinner := (suffix_iff_length_le hsuffix h.suffix).mpr hle
    refine ⟨hle.trans h.length_le,decide_eq_true ?_⟩
    exact (length_contextualQuery_mono hinner).trans h.fits
  · rintro ⟨hsix,hfits⟩
    have hwindow : since line (distinct turns) <:+ lastN 6 (distinct turns) := by
      rw [suffix_iff_length_le hsuffix (lastN_suffix 6 _),length_lastN]
      have := hsuffix.length_le
      omega
    exact length_le_longestFitting h hwindow hfits

theorem since_getLast {xs : List Text} {x : Text} (hn : xs.Nodup) (h : xs.getLast? = some x) : since x xs = [x] := by
  obtain ⟨front,rfl⟩ := List.getLast?_eq_some_iff.mp h
  have hfront : x ∉ front := fun hf => (List.nodup_append.mp hn).2.2 x hf x (by simp) rfl
  rw [since,List.dropWhile_append_of_pos,List.dropWhile_cons_of_neg (by simp)]
  intro y hy
  simpa using fun he : y = x => hfront (he ▸ hy)

/-- No line is kept when the last one does not fit by itself. -/
theorem Kept.eq_nil_iff (h : Kept turns question kept) :
    kept = [] ↔ ∀ final ∈ (distinct turns).getLast?, queryFits question [final] = false := by
  cases hlast : (distinct turns).getLast? with
  | none =>
    have hempty := h.suffix
    rw [List.getLast?_eq_none_iff.mp hlast,List.suffix_nil] at hempty
    simp [hempty]
  | some final =>
    have hmem : final ∈ turns := mem_distinct.mp (List.mem_of_getLast? hlast)
    have hkept := h.mem_iff hmem
    rw [since_getLast (distinct_nodup turns) hlast] at hkept
    have hnil : kept = [] ↔ final ∉ kept := by
      constructor
      · rintro rfl
        exact List.not_mem_nil
      · intro hnot
        by_contra hne
        obtain ⟨front,hfront⟩ := h.suffix
        rw [← hfront,List.getLast?_append_of_ne_nil _ hne] at hlast
        exact hnot (List.mem_of_getLast? hlast)
    rw [hnil,hkept]
    simp

theorem Kept.recent_iff (h : Kept turns question kept) :
    (kept ≠ [] → ∀ line ∈ turns.getLast?, line ∈ kept) ↔ LastTurnFits turns question := by
  constructor
  · intro hrecent line hline
    by_cases hempty : kept = []
    · exact Or.inr (h.eq_nil_iff.mp hempty)
    · exact Or.inl ((h.mem_iff (List.mem_of_getLast? hline)).mp (hrecent hempty line hline))
  · intro hfits hne line hline
    rcases hfits line hline with hin | hnone
    · exact (h.mem_iff (List.mem_of_getLast? hline)).mpr hin
    · exact absurd (h.eq_nil_iff.mpr hnone) hne

end kept

/-! ## The request -/

section request

variable {signing : Signing} {scan : Text → Option Bool}

theorem allowedMessages_some {messages allowed : List AssistantContextMessage}
    (h : allowedMessages scan messages = some allowed) : allowed = messages.filter fun m => scan m.content = some true := by
  induction messages generalizing allowed with
  | nil => exact (Option.some.inj h).symm
  | cons m ms ih =>
    obtain ⟨b,hb,h⟩ := Option.bind_eq_some_iff.mp h
    obtain ⟨rest,hrest,h⟩ := Option.bind_eq_some_iff.mp h
    obtain rfl := Option.some.inj h
    cases b <;> simp [hb,ih hrest]

theorem validatedPriorUserMessages_ok {messages allowed : List AssistantContextMessage} {question : Text}
    (h : validatedPriorUserMessages scan messages question = .ok allowed) :
    allowed = (priorTurns messages question).filter fun m => scan m.content = some true := by
  unfold validatedPriorUserMessages at h
  split at h
  · cases h
  · split_ifs at h
    split at h
    · next hallowed =>
      obtain rfl := Except.ok.inj h
      exact allowedMessages_some hallowed
    · cases h

theorem prepared_ok {callerText normalized retrievalQuery answerQuestion version : Text} {p : PreparedRagRequestText}
    (h : prepared signing callerText normalized retrievalQuery answerQuestion version = .ok p) :
    p.retrievalQueryText = retrievalQuery := by
  unfold prepared at h
  obtain ⟨_,_,h⟩ := bind_eq_ok.mp h
  obtain ⟨_,_,h⟩ := bind_eq_ok.mp h
  obtain ⟨_,_,h⟩ := bind_eq_ok.mp h
  obtain ⟨_,_,h⟩ := bind_eq_ok.mp h
  obtain ⟨_,_,h⟩ := bind_eq_ok.mp h
  obtain rfl := Except.ok.inj h
  rfl

theorem prepareAssistantRequestText_ok {current : Text} {messages : List AssistantContextMessage}
    {p : PreparedRagRequestText} (h : prepareAssistantRequestText signing scan current messages = .ok p) :
    ∃ kept, Kept (turnLines scan messages (strip current)) (strip current) kept ∧
      p.retrievalQueryText = contextualQuery (strip current) kept := by
  unfold prepareAssistantRequestText at h
  obtain ⟨callerText,hcaller,h⟩ := bind_eq_ok.mp h
  obtain ⟨_,_,h⟩ := bind_eq_ok.mp h
  obtain ⟨_,_,h⟩ := bind_eq_ok.mp h
  dsimp only at h
  split_ifs at h
  · cases h
  obtain ⟨allowed,hallowed,h⟩ := bind_eq_ok.mp h
  obtain ⟨query,hquery,h⟩ := bind_eq_ok.mp h
  obtain ⟨_,_,h⟩ := bind_eq_ok.mp h
  unfold validate at hcaller
  split_ifs at hcaller
  obtain rfl := Except.ok.inj hcaller
  obtain rfl := validatedPriorUserMessages_ok hallowed
  unfold boundedContextualQuery at hquery
  split at hquery
  · next kept hkept =>
    obtain rfl := Except.ok.inj hquery
    exact ⟨kept,hkept,prepared_ok h⟩
  · cases hquery

theorem newline_not_mem_turnLines {messages : List AssistantContextMessage} {question line : Text}
    (h : line ∈ turnLines scan messages question) : newline ∉ line := by
  obtain ⟨m,_,hm⟩ := List.mem_filterMap.mp h
  exact newline_not_mem_contextLine hm

/-- The query of an assistant request keeps the last turn exactly when the lines from its first saying on fit the window. -/
theorem keepsRecentTurns_iff {current : Text} {messages : List AssistantContextMessage} {p : PreparedRagRequestText}
    (h : prepareAssistantRequestText signing scan current messages = .ok p) :
    KeepsRecentTurns (turnLines scan messages (strip current)) (strip current) p.retrievalQueryText ↔
      LastTurnFits (turnLines scan messages (strip current)) (strip current) := by
  obtain ⟨kept,hkept,hquery⟩ := prepareAssistantRequestText_ok h
  rw [← hkept.recent_iff]
  constructor
  · rintro ⟨_,_,lines,hlines⟩
    have hbreaks : ∀ line ∈ lines, newline ∉ line := fun line hl =>
      newline_not_mem_turnLines (hlines.chronological.subset hl)
    have hbreaks' : ∀ line ∈ kept, newline ∉ line := fun line hl => newline_not_mem_turnLines (hkept.sublist.subset hl)
    obtain rfl := contextualQuery_inj hbreaks hbreaks' (hlines.query.symm.trans hquery)
    exact hlines.recent
  · intro hrecent
    rw [hquery]
    refine ⟨hkept.fits,?_,kept,rfl,hkept.length_le,hkept.nodup,hkept.sublist,hrecent⟩
    rw [contextualQuery_eq]
    exact (List.suffix_append _ _).trans (List.suffix_append _ _)

end request

/-! ## Samples -/

def turn (id : Nat) (content : String) : AssistantContextMessage := ⟨id,⟨true,id⟩,text "user",text content⟩

def quietSigning : Signing := ⟨id,fun _ _ => text "digest",⟨1000,1000,4300⟩,⟨#[1]⟩⟩

/-- Seven different turns and the first of them again. -/
def returningTurns : List AssistantContextMessage :=
  [turn 1 "a",turn 2 "b",turn 3 "c",turn 4 "d",turn 5 "e",turn 6 "f",turn 7 "g",turn 8 "a"]

def returningRequest : Except RequestTextError PreparedRagRequestText :=
  prepareAssistantRequestText quietSigning (fun _ => some true) (text "q") returningTurns

def returningLines : List Text := turnLines (fun _ => some true) returningTurns (text "q")

theorem returningRequest_ok : ∃ p, returningRequest = .ok p := by
  have hok : returningRequest.toOption.isSome = true := by decide +kernel
  obtain ⟨p,hp⟩ := Option.isSome_iff_exists.mp hok
  exact ⟨p,ok_of_toOption hp⟩

theorem keepsRecentTurns_iff_sample : ∃ p, returningRequest = .ok p ∧
    (KeepsRecentTurns returningLines (text "q") p.retrievalQueryText ↔ LastTurnFits returningLines (text "q")) := by
  obtain ⟨p,hp⟩ := returningRequest_ok
  exact ⟨p,hp,keepsRecentTurns_iff hp⟩

/-- The lines that are left of the seven. -/
def latestLines : List Text :=
  [text "user: b",text "user: c",text "user: d",text "user: e",text "user: f",text "user: g"]

/-- The last turn repeats the first of seven, and its line is not in the query. -/
theorem returning_turn_lost : ∃ p, returningRequest = .ok p ∧
    p.retrievalQueryText = contextualQuery (text "q") latestLines ∧
    returningLines.getLast? = some (text "user: a") ∧
    ¬KeepsRecentTurns returningLines (text "q") p.retrievalQueryText := by
  obtain ⟨p,hp⟩ := returningRequest_ok
  have hrun : returningRequest.map (·.retrievalQueryText) = .ok (contextualQuery (text "q") latestLines) := by
    decide +kernel
  rw [hp] at hrun
  have hquery := Except.ok.inj hrun
  have hlast : returningLines.getLast? = some (text "user: a") := by decide +kernel
  refine ⟨p,hp,hquery,hlast,?_⟩
  rintro ⟨_,_,lines,hlines⟩
  have hbreaks : ∀ line ∈ lines, newline ∉ line := fun line hl =>
    newline_not_mem_turnLines (hlines.chronological.subset hl)
  have hbreaks' : ∀ line ∈ latestLines, newline ∉ line := by decide
  obtain rfl := contextualQuery_inj hbreaks hbreaks' (hlines.query.symm.trans hquery)
  have hkept := hlines.recent (by decide) (text "user: a") hlast
  exact absurd hkept (by decide)

end ParaWorks.Requests
