import ParaWorks.SlackAgent.Prompts

/-!
# When the prompts are guarded

The guarantees of the prompts hold exactly where the messages and the answer of the work filter do no harm.
-/

namespace ParaWorks.SlackAgent

open Lib

section guards

variable {platform : Platform} {maxInputChars : Nat} {messages : List SlackMessage} {replies : Replies}

/-! ## Messages and their places -/

theorem message_at {m : Placed} (h : m ∈ messages.zipIdx) : messages[m.2]? = some m.1 :=
  List.mem_zipIdx_iff_getElem?.mp h

theorem bodyAt_eq {m : Placed} (h : m ∈ messages.zipIdx) : bodyAt messages m.2 = m.1.body := by
  rw [bodyAt,message_at h]
  rfl

theorem secondsAt_eq {m : Placed} (h : m ∈ messages.zipIdx) : secondsAt messages m.2 = m.1.seconds := by
  rw [secondsAt,message_at h]
  rfl

theorem work_placed {m : Placed} (h : m ∈ workSignalMessages platform messages) :
    m ∈ messages.zipIdx ∧ (classifySlackWorkSignal platform m.1.body).isReviewable = true := List.mem_filter.mp h

theorem places_pairwise (messages : List SlackMessage) : messages.zipIdx.Pairwise fun a b => a.2 ≠ b.2 := by
  have hnodup : (messages.zipIdx.map (·.2)).Nodup := by
    rw [List.zipIdx_map_snd]
    exact List.nodup_range'
  exact List.pairwise_map.mp hnodup

theorem body_ne_nil {m : Placed} (h : m ∈ workSignalMessages platform messages) : m.1.body ≠ [] := by
  intro hnone
  have hwork := (work_placed h).2
  rw [hnone,not_reviewable_nil] at hwork
  exact absurd hwork (by simp)

theorem mem_picked {indices : List Nat} {m : Placed} (h : m ∈ picked platform messages indices) :
    m ∈ workSignalMessages platform messages := by
  obtain ⟨i,-,hi⟩ := List.mem_filterMap.mp h
  exact List.mem_of_getElem? hi

/-- The numbers that are chosen are those of messages. -/
theorem chosen_lt {indices : List Nat} (h : screened platform messages replies = some (.chosen indices)) :
    ∀ i ∈ indices, i < (workSignalMessages platform messages).length := by
  obtain ⟨reply,-,hreply⟩ := Option.map_eq_some_iff.mp h
  unfold screening at hreply
  dsimp only at hreply
  split_ifs at hreply
  split at hreply
  · cases hreply
  · obtain rfl := Screening.chosen.inj hreply
    intro i hi
    simpa using (List.mem_filter.mp hi).2

/-! ## The prompt of the filter -/

theorem mem_origins_simpleLines {o : Nat × Nat} {work : List (Placed × Nat)} :
    o ∈ origins (work.map simpleLine).flatten ↔ ∃ m ∈ work, o.1 = m.1.2 ∧ o.2 < 200 ∧ o.2 < m.1.1.body.length := by
  induction work with
  | nil => simp [origins]
  | cons m work ih =>
    have hline : origins (simpleLine m) = origins (copied m.1.2 (m.1.1.body.take 200)) := by
      rw [simpleLine,origins_append,origins_append,origins_literal,origins_literal,List.append_nil,List.nil_append,
        copied_take]
    rw [List.map_cons,List.flatten_cons,origins_append,List.mem_append,ih,hline,mem_origins_copied,List.length_take]
    constructor
    · rintro (⟨hplace,hk⟩ | ⟨n,hn,h⟩)
      · exact ⟨m,List.mem_cons_self,hplace,by omega,by omega⟩
      · exact ⟨n,List.mem_cons_of_mem _ hn,h⟩
    · rintro ⟨n,hn,hplace,hk,hk'⟩
      obtain rfl | hn := List.mem_cons.mp hn
      · exact Or.inl ⟨hplace,by omega⟩
      · exact Or.inr ⟨n,hn,hplace,hk,hk'⟩

theorem masked_classify : (∀ o ∈ origins (classifyPrompt (workSignalMessages platform messages)).text,
      Leaves platform o.1 (bodyAt messages o.1) o.2) ↔
    ∀ m ∈ workSignalMessages platform messages, ∀ k < 200, k < m.1.body.length → Leaves platform m.2 m.1.body k := by
  rw [origins_text]
  constructor
  · intro h m hm k hk hlength
    obtain ⟨n,hn⟩ := List.mem_iff_getElem?.mp hm
    have hleft := h (m.2,k) (mem_origins_simpleLines.mpr
      ⟨(m,n),List.mem_zipIdx_iff_getElem?.mpr hn,rfl,hk,hlength⟩)
    rw [bodyAt_eq (work_placed hm).1] at hleft
    exact hleft
  · intro h o ho
    obtain ⟨⟨m,n⟩,hm,hplace,hk,hlength⟩ := mem_origins_simpleLines.mp ho
    have hwork : m ∈ workSignalMessages platform messages :=
      List.mem_of_getElem? (List.mem_zipIdx_iff_getElem?.mp hm)
    have hplace : o.1 = m.2 := hplace
    rw [hplace,bodyAt_eq (work_placed hwork).1]
    exact h m hwork o.2 hk hlength

/-! ## Chosen messages -/

section chosen

variable {indices : List Nat} {t : Traced}

theorem masked_chosen (h : transcript platform SlackMessage.compressedDisplay (picked platform messages indices) = some t) :
    (∀ o ∈ origins t, Leaves platform o.1 (bodyAt messages o.1) o.2) ↔
      ∀ m ∈ picked platform messages indices, ∀ k < m.1.body.length, Leaves platform m.2 m.1.body k := by
  have hbody : ∀ m ∈ picked platform messages indices, bodyAt messages m.2 = m.1.body :=
    fun m hm => bodyAt_eq (work_placed (mem_picked hm)).1
  rw [origins_transcript h]
  constructor
  · intro hleft m hm k hk
    have hone := hleft (m.2,k) (mem_charactersOf.mpr ⟨m,(byTime_perm _).mem_iff.mpr hm,rfl,hk⟩)
    rw [hbody m hm] at hone
    exact hone
  · intro hleft o ho
    obtain ⟨m,hm,hplace,hk⟩ := mem_charactersOf.mp ho
    have hm := (byTime_perm _).mem_iff.mp hm
    rw [hplace,hbody m hm]
    exact hleft m hm o.2 hk

theorem once_chosen (h : transcript platform SlackMessage.compressedDisplay (picked platform messages indices) = some t)
    (hlt : ∀ i ∈ indices, i < (workSignalMessages platform messages).length) :
    (origins t).Nodup ↔ indices.Nodup := by
  have hsymm : ∀ {a b : Placed}, (a.1.body ≠ [] → b.1.body ≠ [] → a.2 ≠ b.2) → b.1.body ≠ [] → a.1.body ≠ [] → b.2 ≠ a.2 :=
    fun h hb ha hsame => h ha hb hsame.symm
  have hplaces : (workSignalMessages platform messages).Pairwise fun a b => a.2 ≠ b.2 :=
    (places_pairwise messages).sublist List.filter_sublist
  rw [origins_transcript h,charactersOf_nodup,(byTime_perm _).pairwise_iff hsymm,picked,List.pairwise_filterMap]
  apply List.Pairwise.iff_of_mem
  intro i j hi hj
  have hgeti := List.getElem?_eq_getElem (hlt i hi)
  have hgetj := List.getElem?_eq_getElem (hlt j hj)
  have hbodyi := body_ne_nil (List.mem_of_getElem? hgeti)
  have hbodyj := body_ne_nil (List.mem_of_getElem? hgetj)
  constructor
  · rintro hne rfl
    exact hne _ hgeti _ hgetj hbodyi hbodyj rfl
  · intro hne a ha b hb _ _
    obtain rfl := Option.some.inj (hgeti.symm.trans ha)
    obtain rfl := Option.some.inj (hgetj.symm.trans hb)
    obtain hij | hji := Nat.lt_or_gt_of_ne hne
    · exact List.pairwise_iff_getElem.mp hplaces i j (hlt i hi) (hlt j hj) hij
    · exact (List.pairwise_iff_getElem.mp hplaces j i (hlt j hj) (hlt i hi) hji).symm

theorem ordered_chosen (h : transcript platform SlackMessage.compressedDisplay (picked platform messages indices) = some t) :
    (origins t).Pairwise fun a b => secondsAt messages a.1 ≤ secondsAt messages b.1 := by
  rw [origins_transcript h]
  refine charactersOf_ordered (byTime_pairwise _) ?_
  intro m hm
  exact secondsAt_eq (work_placed (mem_picked ((byTime_perm _).mem_iff.mp hm))).1

theorem accepted_chosen (h : transcript platform SlackMessage.compressedDisplay (picked platform messages indices) = some t)
    {o : Nat × Nat} (ho : o ∈ origins t) : (classifySlackWorkSignal platform (bodyAt messages o.1)).isReviewable = true := by
  rw [origins_transcript h] at ho
  obtain ⟨m,hm,hplace,-⟩ := mem_charactersOf.mp ho
  have hwork := work_placed (mem_picked ((byTime_perm _).mem_iff.mp hm))
  rw [hplace,bodyAt_eq hwork.1]
  exact hwork.2

end chosen

/-- What ends with a line break does not end with the marker. -/
theorem not_marker {u t : Traced} (h : u++[newline] = t++literal truncationMarker) : False := by
  have hlast := congrArg List.getLast? h
  have hmarker : (literal truncationMarker : Traced) = literal (text "\n...[COST_GUARD_TRUNCATED]..")++[⟨ofChar '.',none⟩] := rfl
  rw [hmarker,← List.append_assoc,List.getLast?_concat,List.getLast?_concat] at hlast
  exact absurd (congrArg Glyph.code (Option.some.inj hlast)) (by decide)

theorem bounded_iff {t : Traced} (h : t = [] ∨ ∃ u, t = u++[newline]) :
    (t.length ≤ maxInputChars ∨ ∃ u, t = u++literal truncationMarker ∧ u.length ≤ maxInputChars) ↔
      t.length ≤ maxInputChars := by
  refine ⟨?_,Or.inl⟩
  rintro (hle | ⟨u,hu,-⟩)
  · exact hle
  · obtain rfl | ⟨v,rfl⟩ := h
    · exact Nat.zero_le _
    · exact (not_marker hu).elim

/-! ## All messages -/

section all

variable {combined : Traced}

theorem mem_masked_guarded (o : Nat × Nat) :
    o ∈ origins (maskPii platform (guarded maxInputChars combined)) ↔
      o ∈ origins (maskPii platform (combined.take maxInputChars)) := by
  unfold guarded
  split_ifs with hlong
  · rw [maskPii_marker,origins_append,origins_literal,List.append_nil]
  · rw [List.take_of_length_le (by omega)]

theorem masked_all (h : transcript platform SlackMessage.userDisplay messages.zipIdx = some combined) :
    (∀ o ∈ origins (maskPii platform (guarded maxInputChars combined)), Leaves platform o.1 (bodyAt messages o.1) o.2) ↔
      ∀ s ∈ standing platform SlackMessage.userDisplay maxInputChars (byTime messages.zipIdx), ∀ k < s.2,
        Leaves platform s.1.2 (s.1.1.body.take s.2) k → Leaves platform s.1.2 s.1.1.body k := by
  have hplaced : ∀ s ∈ standing platform SlackMessage.userDisplay maxInputChars (byTime messages.zipIdx),
      s.1 ∈ messages.zipIdx := by
    intro s hs
    have hfst := List.mem_map_of_mem (f := (·.1)) hs
    rw [standing_fst] at hfst
    exact (byTime_perm _).mem_iff.mp hfst
  constructor
  · intro hleft s hs k hk hcut
    have hone := hleft (s.1.2,k) ((mem_masked_guarded _).mpr (by
      rw [origins_masked_take h]
      exact List.mem_flatMap.mpr ⟨s,hs,hcut⟩))
    rw [bodyAt_eq (hplaced s hs)] at hone
    exact hone
  · intro hleft o ho
    rw [mem_masked_guarded,origins_masked_take h] at ho
    obtain ⟨s,hs,ho⟩ := List.mem_flatMap.mp ho
    have hplace := place_of_masked ho
    have hcut : Leaves platform s.1.2 (s.1.1.body.take s.2) o.2 := by
      have hsame : (s.1.2,o.2) = o := Prod.ext hplace.symm rfl
      rw [Leaves,hsame]
      exact ho
    have hk : o.2 < s.2 := by
      have hlength := hcut.lt
      rw [List.length_take] at hlength
      omega
    rw [hplace,bodyAt_eq (hplaced s hs)]
    exact hleft s hs o.2 hk hcut

theorem sublist_guarded : List.Sublist (origins (maskPii platform (guarded maxInputChars combined))) (origins combined) := by
  unfold guarded
  split_ifs
  · rw [maskPii_marker,origins_append,origins_literal,List.append_nil]
    exact (origins_maskPii _).trans ((List.take_sublist _ _).filterMap _)
  · exact origins_maskPii _

theorem once_all (h : transcript platform SlackMessage.userDisplay messages.zipIdx = some combined) :
    (origins (maskPii platform (guarded maxInputChars combined))).Nodup := by
  have hsymm : ∀ {a b : Placed}, (a.1.body ≠ [] → b.1.body ≠ [] → a.2 ≠ b.2) → b.1.body ≠ [] → a.1.body ≠ [] → b.2 ≠ a.2 :=
    fun h hb ha hsame => h ha hb hsame.symm
  apply List.Nodup.sublist sublist_guarded
  rw [origins_transcript h,charactersOf_nodup,(byTime_perm _).pairwise_iff hsymm]
  exact (places_pairwise messages).imp fun hne _ _ => hne

theorem ordered_all (h : transcript platform SlackMessage.userDisplay messages.zipIdx = some combined) :
    (origins (maskPii platform (guarded maxInputChars combined))).Pairwise
      fun a b => secondsAt messages a.1 ≤ secondsAt messages b.1 := by
  refine List.Pairwise.sublist sublist_guarded ?_
  rw [origins_transcript h]
  refine charactersOf_ordered (byTime_pairwise _) ?_
  intro m hm
  exact secondsAt_eq ((byTime_perm _).mem_iff.mp hm)

theorem bounded_all (h : transcript platform SlackMessage.userDisplay messages.zipIdx = some combined) :
    ((maskPii platform (guarded maxInputChars combined)).length ≤ maxInputChars ∨
      ∃ t, maskPii platform (guarded maxInputChars combined) = t++literal truncationMarker ∧ t.length ≤ maxInputChars) ↔
      (maskPii platform (combined.take maxInputChars)).length ≤ maxInputChars := by
  by_cases hlong : maxInputChars < combined.length
  · rw [guarded,if_pos hlong,maskPii_marker]
    constructor
    · rintro (hle | ⟨t,ht,hle⟩)
      · rw [List.length_append] at hle
        omega
      · rw [List.append_cancel_right ht]
        exact hle
    · intro hle
      exact Or.inr ⟨_,rfl,hle⟩
  · rw [guarded,if_neg hlong,List.take_of_length_le (by omega)]
    apply bounded_iff
    obtain rfl | ⟨u,rfl⟩ := transcript_newline h
    · exact Or.inl maskPii_nil
    · exact Or.inr ⟨maskPii platform u,maskPii_separator (apart_newline platform) u []⟩

end all

/-! ## Runs -/

theorem guarded_of_silent (h : runPrompts platform maxInputChars messages replies = []) :
    Guarded platform maxInputChars messages replies := by
  refine ⟨?_,?_,?_,?_,?_⟩
  all_goals simp [h]

theorem picked_shown {combined : Traced} (h : transcript platform SlackMessage.userDisplay messages.zipIdx = some combined)
    (indices : List Nat) :
    ∃ t, transcript platform SlackMessage.compressedDisplay (picked platform messages indices) = some t := by
  apply Option.isSome_iff_exists.mp
  rw [transcript_isSome]
  have hall := transcript_isSome.mp (Option.isSome_iff_exists.mpr ⟨combined,h⟩)
  exact fun m hm => hall m (work_placed (mem_picked hm)).1

/-- A run that summarizes a text is guarded where the two prompts that show messages are. -/
theorem guarded_of_prompts {state : SlackAgentState} {rest : List Prompt}
    (h : runPrompts platform maxInputChars messages replies =
      classifyPrompt (workSignalMessages platform messages)::summarizePrompt state::rest)
    (hrest : ∀ p ∈ rest, p.node ≠ .summarize ∧ ∀ o ∈ origins p.text, o ∈ origins state.processedText) :
    Guarded platform maxInputChars messages replies ↔
      (∀ o ∈ origins (classifyPrompt (workSignalMessages platform messages)).text,
        Leaves platform o.1 (bodyAt messages o.1) o.2) ∧
      (∀ o ∈ origins state.processedText, Leaves platform o.1 (bodyAt messages o.1) o.2) ∧
      (state.processedText.length ≤ maxInputChars ∨
        ∃ t, state.processedText = t++literal truncationMarker ∧ t.length ≤ maxInputChars) ∧
      (origins state.processedText).Nodup ∧
      ((origins state.processedText).Pairwise fun a b => secondsAt messages a.1 ≤ secondsAt messages b.1) ∧
      ∀ indices, screened platform messages replies = some (.chosen indices) → ∀ o ∈ origins state.processedText,
        (classifySlackWorkSignal platform (bodyAt messages o.1)).isReviewable = true := by
  have hsummarize : summarizePrompt state ∈ runPrompts platform maxInputChars messages replies := by
    rw [h]
    exact List.mem_cons_of_mem _ List.mem_cons_self
  have honly : ∀ p ∈ runPrompts platform maxInputChars messages replies, p.node = .summarize → p = summarizePrompt state := by
    intro p hp hnode
    rw [h] at hp
    obtain rfl | hp := List.mem_cons.mp hp
    · exact absurd hnode (by decide : Node.classify ≠ Node.summarize)
    · obtain rfl | hp := List.mem_cons.mp hp
      · rfl
      · exact absurd hnode (hrest p hp).1
  have hbody : (summarizePrompt state).body = state.processedText := rfl
  constructor
  · intro hguarded
    refine ⟨?_,?_,hguarded.bounded _ hsummarize rfl,hguarded.once _ hsummarize rfl,hguarded.ordered _ hsummarize rfl,?_⟩
    · apply hguarded.masked
      rw [h]
      exact List.mem_cons_self
    · have hmasked := hguarded.masked _ hsummarize
      rw [origins_text] at hmasked
      exact hmasked
    · exact fun indices hchosen => hguarded.accepted indices hchosen _ hsummarize rfl
  · rintro ⟨hclassify,hmasked,hbounded,honce,hordered,haccepted⟩
    refine ⟨?_,?_,?_,?_,?_⟩
    · intro p hp
      rw [h] at hp
      obtain rfl | hp := List.mem_cons.mp hp
      · exact hclassify
      · obtain rfl | hp := List.mem_cons.mp hp
        · rw [origins_text]
          exact hmasked
        · exact fun o ho => hmasked o ((hrest p hp).2 o ho)
    · intro p hp hnode
      rw [honly p hp hnode,hbody]
      exact hbounded
    · intro p hp hnode
      rw [honly p hp hnode,hbody]
      exact honce
    · intro p hp hnode
      rw [honly p hp hnode,hbody]
      exact hordered
    · intro indices hchosen p hp hnode
      rw [honly p hp hnode,hbody]
      exact haccepted indices hchosen

/-- A run that asks only the filter is guarded where the prompt of the filter is. -/
theorem guarded_of_filter (h : runPrompts platform maxInputChars messages replies =
      [classifyPrompt (workSignalMessages platform messages)]) :
    Guarded platform maxInputChars messages replies ↔
      ∀ o ∈ origins (classifyPrompt (workSignalMessages platform messages)).text,
        Leaves platform o.1 (bodyAt messages o.1) o.2 := by
  have honly : ∀ p ∈ runPrompts platform maxInputChars messages replies, p.node ≠ .summarize := by
    intro p hp
    rw [h] at hp
    rw [List.mem_singleton.mp hp]
    exact (by decide : Node.classify ≠ Node.summarize)
  constructor
  · intro hguarded
    apply hguarded.masked
    rw [h]
    exact List.mem_cons_self
  · intro hmasked
    refine ⟨?_,?_,?_,?_,?_⟩
    · intro p hp
      rw [h] at hp
      rw [List.mem_singleton.mp hp]
      exact hmasked
    all_goals intros
    all_goals exact absurd (by assumption) (honly _ (by assumption))

theorem guarded_iff_of_work {combined : Traced}
    (hshown : transcript platform SlackMessage.userDisplay messages.zipIdx = some combined)
    (hwork : workSignalMessages platform messages ≠ []) :
    Guarded platform maxInputChars messages replies ↔ Harmless platform maxInputChars messages replies := by
  obtain ⟨hprompts,hnone⟩ | ⟨state,rest,hsome,hprompts,hrest⟩ :=
    @runPrompts_cases platform maxInputChars messages replies combined hshown hwork
  · rw [guarded_of_filter hprompts,masked_classify]
    constructor
    · intro hlisted
      refine ⟨hlisted,?_,?_⟩
      · intro indices hchosen
        rw [hchosen] at hnone
        simp [toSummarize] at hnone
      · intro hunreadable
        rw [hunreadable] at hnone
        simp [toSummarize] at hnone
    · exact Harmless.listed
  · rw [guarded_of_prompts hprompts hrest,masked_classify]
    obtain ⟨screening,hscreening,hprocessed⟩ := Option.bind_eq_some_iff.mp hsome
    cases screening with
    | nothing => cases hprocessed
    | unreadable =>
      have hprocessed := (Option.some.inj hprocessed).symm
      rw [hprocessed,masked_all hshown,bounded_all hshown]
      constructor
      · rintro ⟨hlisted,hmasked,hbounded,-⟩
        refine ⟨hlisted,?_,?_⟩
        · intro indices hchosen
          rw [hscreening] at hchosen
          cases hchosen
        · intro _ other hother
          obtain rfl := Option.some.inj (hshown.symm.trans hother)
          exact ⟨hbounded,hmasked⟩
      · intro hharmless
        obtain ⟨hbounded,hmasked⟩ := hharmless.unreadable hscreening combined hshown
        refine ⟨hharmless.listed,hmasked,hbounded,once_all hshown,ordered_all hshown,?_⟩
        intro indices hchosen
        rw [hscreening] at hchosen
        cases hchosen
    | chosen indices =>
      obtain ⟨t,ht⟩ := picked_shown hshown indices
      have hprocessed : state.processedText = t := by
        have h := (Option.some.inj hprocessed).symm
        rw [ht] at h
        exact h
      rw [hprocessed,masked_chosen ht,bounded_iff (transcript_newline ht),once_chosen ht (chosen_lt hscreening)]
      constructor
      · rintro ⟨hlisted,hmasked,hbounded,honce,-⟩
        refine ⟨hlisted,?_,?_⟩
        · intro others hothers
          obtain rfl := Screening.chosen.inj (Option.some.inj (hscreening.symm.trans hothers))
          refine ⟨honce,hmasked,?_⟩
          intro u hu
          obtain rfl := Option.some.inj (ht.symm.trans hu)
          exact hbounded
        · intro hunreadable
          rw [hscreening] at hunreadable
          cases hunreadable
      · intro hharmless
        obtain ⟨honce,hmasked,hbounded⟩ := hharmless.chosen indices hscreening
        exact ⟨hharmless.listed,hmasked,hbounded t ht,honce,ordered_chosen ht,fun _ _ _ ho => accepted_chosen ht ho⟩

/-- The prompts of a run are guarded exactly where the time of a message cannot be shown, no message has a work signal, or
the messages and the answer of the filter are harmless. -/
theorem prompts_guarded_iff (platform : Platform) (maxInputChars : Nat) (messages : List SlackMessage)
    (replies : Replies) :
    Guarded platform maxInputChars messages replies ↔
      (∃ m ∈ messages, platform.readableTime m.seconds = none) ∨ workSignalMessages platform messages = [] ∨
        Harmless platform maxInputChars messages replies := by
  cases hshown : transcript platform SlackMessage.userDisplay messages.zipIdx with
  | none =>
    have hunshown : ∃ m ∈ messages, platform.readableTime m.seconds = none := by
      by_contra hall
      have hsome : (transcript platform SlackMessage.userDisplay messages.zipIdx).isSome = true := by
        apply transcript_isSome.mpr
        intro m hm
        by_contra hnone
        exact hall ⟨m.1,List.mem_of_getElem? (message_at hm),by simpa using hnone⟩
      rw [hshown] at hsome
      exact absurd hsome (by simp)
    exact iff_of_true (guarded_of_silent (runPrompts_of_unshown hshown)) (Or.inl hunshown)
  | some combined =>
    have hall : ¬ ∃ m ∈ messages, platform.readableTime m.seconds = none := by
      rintro ⟨m,hm,hnone⟩
      obtain ⟨i,hi⟩ := List.mem_iff_getElem?.mp hm
      have hsome := transcript_isSome.mp (Option.isSome_iff_exists.mpr ⟨combined,hshown⟩) (m,i)
        (List.mem_zipIdx_iff_getElem?.mpr hi)
      rw [hnone] at hsome
      exact absurd hsome (by simp)
    by_cases hwork : workSignalMessages platform messages = []
    · exact iff_of_true (guarded_of_silent (runPrompts_of_no_work hwork)) (Or.inr (Or.inl hwork))
    · rw [guarded_iff_of_work hshown hwork]
      constructor
      · exact fun h => Or.inr (Or.inr h)
      · rintro (h | h | h)
        · exact absurd h hall
        · exact absurd h hwork
        · exact h

end guards

section samples

/-- A platform that knows ASCII only. -/
def asciiPlatform : Platform where
  lower t := t
  lower_nil := rfl
  upper t := t
  isWord _ := false
  isDigit c := 48 ≤ c.val && c.val ≤ 57
  readableTime _ := some (text "09:00:00")

def phoneMessage : SlackMessage := ⟨.text (text "Kim"),.text (text "U1"),some (text "api deploy used 010-1234-5678"),
  some ⟨text "1715000000.001",1715000000⟩⟩

def phoneReplies : Replies := ⟨some ⟨[[.own (ofChar '0')]],none⟩,none,.invalid⟩

/-- The phone number of a message with a work signal reaches the filter. -/
theorem phone_number_shown : ¬ Guarded asciiPlatform 30000 [phoneMessage] phoneReplies := by
  have hshown : (transcript asciiPlatform SlackMessage.userDisplay [phoneMessage].zipIdx).isSome = true :=
    transcript_isSome.mpr fun _ _ => rfl
  obtain ⟨combined,hcombined⟩ := Option.isSome_iff_exists.mp hshown
  have hreviewable : (classifySlackWorkSignal asciiPlatform phoneMessage.body).isReviewable = true := by decide +kernel
  have hwork : (phoneMessage,0) ∈ workSignalMessages asciiPlatform [phoneMessage] :=
    List.mem_filter.mpr ⟨List.mem_cons_self,hreviewable⟩
  rw [guarded_iff_of_work hcombined (List.ne_nil_of_mem hwork)]
  intro hharmless
  have hleft := hharmless.listed _ hwork 16 (by decide) (by decide +kernel)
  have hgone : ¬ Leaves asciiPlatform 0 phoneMessage.body 16 := by
    unfold Leaves
    decide +kernel
  exact hgone hleft

end samples

end ParaWorks.SlackAgent
