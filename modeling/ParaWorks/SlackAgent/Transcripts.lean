import ParaWorks.Lib.Partial
import ParaWorks.SlackAgent.Masking

/-!
# Transcripts

Which characters of the messages a transcript holds, in which order, and what is left of them when it is cut and masked.
-/

namespace ParaWorks.SlackAgent

open Lib

/-! ## Order of time -/

section time

variable {messages : List Placed}

theorem byTime_perm (messages : List Placed) : (byTime messages).Perm messages := List.perm_insertionSort _ _

theorem byTime_pairwise (messages : List Placed) : (byTime messages).Pairwise fun a b => a.1.seconds ≤ b.1.seconds := by
  have htotal : Std.Total fun a b : Placed => a.1.seconds ≤ b.1.seconds := ⟨fun a b => le_total a.1.seconds b.1.seconds⟩
  have htrans : IsTrans Placed fun a b => a.1.seconds ≤ b.1.seconds := ⟨fun _ _ _ h h' => h.trans h'⟩
  exact List.pairwise_insertionSort _ messages

/-- The places of the characters of these messages. -/
def charactersOf (messages : List Placed) : List (Nat × Nat) :=
  messages.flatMap fun m => (List.range m.1.body.length).map (m.2,·)

theorem mem_charactersOf {o : Nat × Nat} : o ∈ charactersOf messages ↔ ∃ m ∈ messages, o.1 = m.2 ∧ o.2 < m.1.body.length := by
  rw [charactersOf,List.mem_flatMap]
  constructor
  · rintro ⟨m,hm,ho⟩
    obtain ⟨k,hk,rfl⟩ := List.mem_map.mp ho
    exact ⟨m,hm,rfl,List.mem_range.mp hk⟩
  · rintro ⟨m,hm,hplace,hk⟩
    exact ⟨m,hm,List.mem_map.mpr ⟨o.2,List.mem_range.mpr hk,by rw [← hplace]⟩⟩

/-- No character comes twice exactly where no message does, if each of them has a text. -/
theorem charactersOf_nodup : (charactersOf messages).Nodup ↔
    messages.Pairwise fun a b => a.1.body ≠ [] → b.1.body ≠ [] → a.2 ≠ b.2 := by
  rw [charactersOf,List.nodup_flatMap]
  have hone : ∀ m ∈ messages, ((List.range m.1.body.length).map (m.2,·)).Nodup := by
    intro m _
    exact List.nodup_range.map fun _ _ h => (Prod.mk.inj h).2
  have hpair : ∀ a b : Placed, List.Disjoint ((List.range a.1.body.length).map (a.2,·)) ((List.range b.1.body.length).map (b.2,·)) ↔
      (a.1.body ≠ [] → b.1.body ≠ [] → a.2 ≠ b.2) := by
    intro a b
    constructor
    · intro hdisjoint ha hb hsame
      refine hdisjoint (a := (a.2,0)) ?_ ?_
      · exact List.mem_map.mpr ⟨0,List.mem_range.mpr (List.length_pos_iff.mpr ha),rfl⟩
      · exact List.mem_map.mpr ⟨0,List.mem_range.mpr (List.length_pos_iff.mpr hb),by rw [hsame]⟩
    · intro h o hoa hob
      obtain ⟨j,hj,rfl⟩ := List.mem_map.mp hoa
      obtain ⟨k,hk,hsame⟩ := List.mem_map.mp hob
      have hja := List.mem_range.mp hj
      have hkb := List.mem_range.mp hk
      exact h (List.length_pos_iff.mp (by omega)) (List.length_pos_iff.mp (by omega)) (Prod.mk.inj hsame).1.symm
  constructor
  · rintro ⟨-,h⟩
    exact h.imp fun hdisjoint => (hpair _ _).mp hdisjoint
  · intro h
    exact ⟨hone,h.imp fun hne => (hpair _ _).mpr hne⟩

theorem charactersOf_ordered {seconds : Nat → Rat} (hsorted : messages.Pairwise fun a b => a.1.seconds ≤ b.1.seconds)
    (hseconds : ∀ m ∈ messages, seconds m.2 = m.1.seconds) :
    (charactersOf messages).Pairwise fun a b => seconds a.1 ≤ seconds b.1 := by
  rw [charactersOf,List.pairwise_flatMap]
  constructor
  · intro m _
    rw [List.pairwise_map]
    exact List.pairwise_of_forall fun _ _ => le_rfl
  · refine hsorted.imp_of_mem ?_
    intro a b ha hb hle o hoa p hpb
    obtain ⟨j,-,rfl⟩ := List.mem_map.mp hoa
    obtain ⟨k,-,rfl⟩ := List.mem_map.mp hpb
    change seconds a.2 ≤ seconds b.2
    rw [hseconds a ha,hseconds b hb]
    exact hle

end time

/-! ## Whole transcripts -/

section transcripts

variable {platform : Platform} {display : SlackMessage → Text} {messages : List Placed} {t : Traced}

theorem transcript_lines (h : transcript platform display messages = some t) :
    ∃ lines, (byTime messages).mapM (transcriptLine platform display) = some lines ∧ t = lines.flatten := by
  obtain ⟨lines,hlines,rfl⟩ := Option.map_eq_some_iff.mp h
  exact ⟨lines,hlines,rfl⟩

theorem origins_transcript (h : transcript platform display messages = some t) :
    origins t = charactersOf (byTime messages) := by
  obtain ⟨lines,hlines,rfl⟩ := transcript_lines h
  clear h
  generalize byTime messages = sorted at hlines ⊢
  induction sorted generalizing lines with
  | nil =>
    obtain rfl : [] = lines := by simpa using hlines
    rfl
  | cons m sorted ih =>
    rw [mapM_cons_option] at hlines
    obtain ⟨line,hline,hlines⟩ := Option.bind_eq_some_iff.mp hlines
    obtain ⟨rest,hrest,rfl⟩ := Option.map_eq_some_iff.mp hlines
    obtain ⟨time,-,rfl⟩ := transcriptLine_eq hline
    rw [List.flatten_cons,origins_append,origins_lineOf,ih rest hrest]
    rfl

/-- A transcript ends with a line break. -/
theorem transcript_newline (h : transcript platform display messages = some t) : t = [] ∨ ∃ u, t = u++[newline] := by
  obtain ⟨lines,hlines,rfl⟩ := transcript_lines h
  obtain rfl | ⟨front,last,rfl⟩ := List.eq_nil_or_concat lines
  · exact Or.inl rfl
  · right
    have hlast : last ∈ front.concat last := by simp
    obtain ⟨m,-,hm⟩ := forall₂_mem_right (mapM_eq_some_iff.mp hlines) hlast
    obtain ⟨time,-,rfl⟩ := transcriptLine_eq hm
    obtain ⟨u,hu⟩ := lineOf_newline time (display m.1) m
    refine ⟨front.flatten++u,?_⟩
    rw [List.concat_eq_append,List.flatten_append,hu]
    simp

/-- Whether the times of all messages can be shown. -/
theorem transcript_isSome : (transcript platform display messages).isSome = true ↔
    ∀ m ∈ messages, (platform.readableTime m.1.seconds).isSome = true := by
  rw [transcript,Option.isSome_map]
  constructor
  · intro h m hm
    obtain ⟨lines,hlines⟩ := Option.isSome_iff_exists.mp h
    obtain ⟨line,-,hline⟩ := forall₂_mem_left (mapM_eq_some_iff.mp hlines) ((byTime_perm messages).mem_iff.mpr hm)
    obtain ⟨time,htime,-⟩ := transcriptLine_eq hline
    rw [htime]
    rfl
  · intro h
    have hlines : ∀ m ∈ byTime messages, ∃ line, transcriptLine platform display m = some line := by
      intro m hm
      obtain ⟨time,htime⟩ := Option.isSome_iff_exists.mp (h m ((byTime_perm messages).mem_iff.mp hm))
      exact ⟨_,by rw [transcriptLine,htime,Option.map_some]⟩
    obtain ⟨lines,hlines⟩ := exists_mapM_eq_some hlines
    rw [hlines]
    rfl

end transcripts

/-! ## Cuts -/

section cuts

variable {platform : Platform}

/-- Each message with the number of characters of its text that stand before a limit. -/
def standing (platform : Platform) (display : SlackMessage → Text) : Nat → List Placed → List (Placed × Nat)
  | _, [] => []
  | limit, m::messages =>
    let head := (lineHead ((platform.readableTime m.1.seconds).getD []) (display m.1)).length
    let line := head+m.1.body.length+(lineTail m.1.tsText).length
    (m,min m.1.body.length (limit-head))::standing platform display (limit-line) messages

theorem standing_fst (display : SlackMessage → Text) (limit : Nat) (messages : List Placed) :
    (standing platform display limit messages).map (·.1) = messages := by
  induction messages generalizing limit with
  | nil => rfl
  | cons m messages ih => exact congrArg (m::·) (ih _)

theorem standing_le {display : SlackMessage → Text} {limit : Nat} {messages : List Placed} {s : Placed × Nat}
    (h : s ∈ standing platform display limit messages) : s.2 ≤ s.1.1.body.length := by
  induction messages generalizing limit with
  | nil => simp [standing] at h
  | cons m messages ih =>
    obtain rfl | h := List.mem_cons.mp h
    · exact Nat.min_le_left _ _
    · exact ih h

/-- A transcript that is cut and masked holds what masking leaves of each text up to the cut. -/
theorem origins_masked_take {display : SlackMessage → Text} {messages : List Placed} {t : Traced}
    (h : transcript platform display messages = some t) (limit : Nat) :
    origins (maskPii platform (t.take limit)) =
      (standing platform display limit (byTime messages)).flatMap fun s =>
        origins (maskPii platform (copied s.1.2 (s.1.1.body.take s.2))) := by
  obtain ⟨lines,hlines,rfl⟩ := transcript_lines h
  clear h
  generalize byTime messages = sorted at hlines ⊢
  induction sorted generalizing lines limit with
  | nil =>
    obtain rfl : [] = lines := by simpa using hlines
    rw [List.flatten_nil,List.take_nil]
    rfl
  | cons m sorted ih =>
    rw [mapM_cons_option] at hlines
    obtain ⟨line,hline,hlines⟩ := Option.bind_eq_some_iff.mp hlines
    obtain ⟨rest,hrest,rfl⟩ := Option.map_eq_some_iff.mp hlines
    obtain ⟨time,htime,rfl⟩ := transcriptLine_eq hline
    have hfirst : origins (maskPii platform ((lineOf time (display m.1) m++rest.flatten).take limit)) =
        origins (maskPii platform ((lineOf time (display m.1) m).take limit))++
          origins (maskPii platform (rest.flatten.take (limit-(lineOf time (display m.1) m).length))) := by
      rw [List.take_append]
      generalize hk : limit-(lineOf time (display m.1) m).length = k
      cases k with
      | zero =>
        rw [List.take_zero,List.append_nil,maskPii_nil]
        exact (List.append_nil _).symm
      | succ k =>
        have hfull : (lineOf time (display m.1) m).take limit = lineOf time (display m.1) m :=
          List.take_of_length_le (by omega)
        obtain ⟨u,hu⟩ := lineOf_newline time (display m.1) m
        rw [hfull,hu,List.append_assoc,List.singleton_append,origins_separator (apart_newline platform) rfl,
          origins_separator (apart_newline platform) rfl u [],maskPii_nil]
        change _ = origins (maskPii platform u)++[]++_
        rw [List.append_nil]
    have hcut : (m.1.body.take (limit-(lineHead time (display m.1)).length)) =
        m.1.body.take (min m.1.body.length (limit-(lineHead time (display m.1)).length)) := by
      rw [List.take_eq_take_iff]
      omega
    rw [List.flatten_cons,hfirst,origins_masked_line,ih _ rest hrest,hcut,standing,List.flatMap_cons,htime,
      Option.getD_some,length_lineOf]

end cuts

end ParaWorks.SlackAgent
