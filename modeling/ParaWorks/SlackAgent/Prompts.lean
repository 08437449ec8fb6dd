import ParaWorks.SlackAgent.Transcripts

/-!
# What the prompts hold

Where the prompts of a run hold the messages only as masking leaves them, and the transcript of the summarizer keeps to its
limit.
-/

namespace ParaWorks.SlackAgent

open Lib

section run

variable (platform : Platform) (maxInputChars : Nat) (messages : List SlackMessage) (replies : Replies)

def runPrompts : List Prompt := (runGraph platform maxInputChars messages replies).1

/-- What the answer of the work filter comes to, where there is one. -/
def screened : Option Screening :=
  let work := workSignalMessages platform messages
  replies.filter.map fun reply => screening platform work.length (codes (reply.said (classifyPrompt work)))

/-- The messages of these numbers. -/
def picked (indices : List Nat) : List Placed := indices.filterMap fun i => (workSignalMessages platform messages)[i]?

/-- The text that is summarized, where one is. -/
def toSummarize (combined : Traced) : Screening → Option Traced
  | .nothing => none
  | .unreadable => some (maskPii platform (guarded maxInputChars combined))
  | .chosen indices => some ((transcript platform SlackMessage.compressedDisplay (picked platform messages indices)).getD
      (maskPii platform (guarded maxInputChars combined)))

/-- The text of the message at a place. -/
def bodyAt (place : Nat) : Text := ((messages[place]?).map (·.body)).getD []

def secondsAt (place : Nat) : Rat := ((messages[place]?).map (·.seconds)).getD 0

/-- The prompts hold no character of a message that masking the message replaces. The transcript of the summarizer is
within the limit apart from the marker, holds no message twice and all of them in the order of time, and none without a work
signal where the answer of the filter can be read. -/
structure Guarded : Prop where
  masked : ∀ p ∈ runPrompts platform maxInputChars messages replies, ∀ o ∈ origins p.text,
    Leaves platform o.1 (bodyAt messages o.1) o.2
  bounded : ∀ p ∈ runPrompts platform maxInputChars messages replies, p.node = .summarize →
    p.body.length ≤ maxInputChars ∨ ∃ t, p.body = t++literal truncationMarker ∧ t.length ≤ maxInputChars
  once : ∀ p ∈ runPrompts platform maxInputChars messages replies, p.node = .summarize → (origins p.body).Nodup
  ordered : ∀ p ∈ runPrompts platform maxInputChars messages replies, p.node = .summarize →
    (origins p.body).Pairwise fun a b => secondsAt messages a.1 ≤ secondsAt messages b.1
  accepted : ∀ indices, screened platform messages replies = some (.chosen indices) →
    ∀ p ∈ runPrompts platform maxInputChars messages replies, p.node = .summarize → ∀ o ∈ origins p.body,
      (classifySlackWorkSignal platform (bodyAt messages o.1)).isReviewable = true

/-- Masking leaves the first 200 characters of every message with a work signal. Where the answer of the filter can be read,
it leaves all of the chosen messages, none is chosen twice, and their lines are within the limit. Where it cannot be read,
the masked transcript is within the limit, and it replaces before the cut what masking the whole messages replaces. -/
structure Harmless : Prop where
  listed : ∀ m ∈ workSignalMessages platform messages, ∀ k < 200, k < m.1.body.length → Leaves platform m.2 m.1.body k
  chosen : ∀ indices, screened platform messages replies = some (.chosen indices) → indices.Nodup ∧
    (∀ m ∈ picked platform messages indices, ∀ k < m.1.body.length, Leaves platform m.2 m.1.body k) ∧
    ∀ t, transcript platform SlackMessage.compressedDisplay (picked platform messages indices) = some t →
      t.length ≤ maxInputChars
  unreadable : screened platform messages replies = some .unreadable → ∀ combined,
    transcript platform SlackMessage.userDisplay messages.zipIdx = some combined →
      (maskPii platform (combined.take maxInputChars)).length ≤ maxInputChars ∧
      ∀ s ∈ standing platform SlackMessage.userDisplay maxInputChars (byTime messages.zipIdx), ∀ k < s.2,
        Leaves platform s.1.2 (s.1.1.body.take s.2) k → Leaves platform s.1.2 s.1.1.body k

end run

section prompts

variable {platform : Platform} {maxInputChars : Nat} {messages : List SlackMessage} {replies : Replies}

/-! ## The prompts of a run -/

theorem runPrompts_of_unshown (h : transcript platform SlackMessage.userDisplay messages.zipIdx = none) :
    runPrompts platform maxInputChars messages replies = [] := by
  have hnode : preprocessNode platform maxInputChars (initialState messages) = ([],none) := by
    unfold preprocessNode
    rw [show (initialState messages).messages = messages from rfl,h]
    rfl
  rw [runPrompts,runGraph,hnode]
  rfl

/-- The state that preprocessing leaves. -/
def preprocessed (platform : Platform) (maxInputChars : Nat) (messages : List SlackMessage) (combined : Traced) :
    SlackAgentState :=
  { initialState messages with processedText := maskPii platform (guarded maxInputChars combined) }

theorem runGraph_eq {combined : Traced} (h : transcript platform SlackMessage.userDisplay messages.zipIdx = some combined) :
    ∃ classified, classified = classifyWorkNode platform replies.filter (preprocessed platform maxInputChars messages combined) ∧
      runPrompts platform maxInputChars messages replies =
        if classified.2.elim false (·.isWorkRelated) then
          ((classified.andThen (summarizeNode replies.summarizer)).andThen (extractCandidateNode replies.extraction)).1
        else classified.1 := by
  have hnode : preprocessNode platform maxInputChars (initialState messages) =
      ([],some (preprocessed platform maxInputChars messages combined)) := by
    unfold preprocessNode
    rw [show (initialState messages).messages = messages from rfl,h]
    rfl
  refine ⟨_,rfl,?_⟩
  rw [runPrompts,runGraph,hnode]
  change (if _ then _ else _ : NodeResult).1 = _
  rw [apply_ite Prod.fst]
  rfl

theorem runPrompts_of_no_work (hwork : workSignalMessages platform messages = []) :
    runPrompts platform maxInputChars messages replies = [] := by
  cases hshown : transcript platform SlackMessage.userDisplay messages.zipIdx with
  | none => exact runPrompts_of_unshown hshown
  | some combined =>
    obtain ⟨classified,hclassified,heq⟩ := @runGraph_eq platform maxInputChars messages replies combined hshown
    have hnode : classified = ([],some { preprocessed platform maxInputChars messages combined with
        isWorkRelated := false, processedText := [] }) := by
      rw [hclassified,classifyWorkNode]
      exact if_pos hwork
    rw [heq,hnode]
    rfl

theorem origins_text (p : Prompt) : origins p.text = origins p.body := by
  rw [Prompt.text,origins_append,origins_append,origins_literal,origins_literal,List.append_nil,List.nil_append]

/-- An answer holds nothing that its prompt does not. -/
theorem origins_said {reply : Reply} {p : Prompt} {o : Nat × Nat} (h : o ∈ origins (reply.said p)) :
    o ∈ origins p.text := by
  obtain ⟨g,hg,ho⟩ := mem_origins.mp h
  obtain ⟨spoken,-,hspoken⟩ := List.mem_filterMap.mp hg
  cases spoken with
  | own c =>
    obtain rfl := Option.some.inj hspoken
    simp at ho
  | repeated place => exact mem_origins.mpr ⟨g,List.mem_of_getElem? hspoken,ho⟩

/-- After the summarizer nothing new is shown. -/
theorem prompts_after {classified : NodeResult} {state : SlackAgentState} (h : classified.2 = some state) :
    ∃ rest, ((classified.andThen (summarizeNode replies.summarizer)).andThen (extractCandidateNode replies.extraction)).1 =
        classified.1++summarizePrompt state::rest ∧
      ∀ p ∈ rest, p.node ≠ .summarize ∧ ∀ o ∈ origins p.text, o ∈ origins state.processedText := by
  have hfirst : classified.andThen (summarizeNode replies.summarizer) =
      (classified.1++[summarizePrompt state],(summarizeNode replies.summarizer state).2) := by
    unfold NodeResult.andThen
    rw [h]
    rfl
  rw [hfirst]
  cases hreply : replies.summarizer with
  | none => exact ⟨[],rfl,by simp⟩
  | some reply =>
    obtain ⟨summarized,hsummarized,hsummary⟩ : ∃ summarized, (summarizeNode (some reply) state).2 = some summarized ∧
        summarized.summary = reply.said (summarizePrompt state) := ⟨_,rfl,rfl⟩
    have hlater : ∀ p : Prompt, p.body = summarized.summary → ∀ o ∈ origins p.text, o ∈ origins state.processedText := by
      intro p hp o ho
      rw [origins_text,hp,hsummary] at ho
      have hsaid := origins_said ho
      rw [origins_text] at hsaid
      exact hsaid
    refine ⟨(extractCandidateNode replies.extraction summarized).1,?_,?_⟩
    · unfold NodeResult.andThen
      rw [hsummarized]
      exact List.append_assoc _ _ _
    · intro p hp
      cases hextraction : replies.extraction with
      | raises fallbackRaises =>
        rw [hextraction] at hp
        obtain rfl | rfl : p = extractPrompt summarized ∨ p = geminiPrompt summarized := List.mem_pair.mp hp
        · exact ⟨(by decide : Node.extract ≠ Node.summarize),hlater _ rfl⟩
        · exact ⟨(by decide : Node.gemini ≠ Node.summarize),hlater _ rfl⟩
      | invalid =>
        rw [hextraction] at hp
        obtain rfl : p = extractPrompt summarized := List.mem_singleton.mp hp
        exact ⟨(by decide : Node.extract ≠ Node.summarize),hlater _ rfl⟩
      | parsed =>
        rw [hextraction] at hp
        obtain rfl : p = extractPrompt summarized := List.mem_singleton.mp hp
        exact ⟨(by decide : Node.extract ≠ Node.summarize),hlater _ rfl⟩

/-- A run with work asks the filter and, where there is something to summarize, the summarizer. -/
theorem runPrompts_cases {combined : Traced}
    (hshown : transcript platform SlackMessage.userDisplay messages.zipIdx = some combined)
    (hwork : workSignalMessages platform messages ≠ []) :
    (runPrompts platform maxInputChars messages replies = [classifyPrompt (workSignalMessages platform messages)] ∧
      (screened platform messages replies).bind (toSummarize platform maxInputChars messages combined) = none) ∨
    ∃ state rest, (screened platform messages replies).bind (toSummarize platform maxInputChars messages combined) =
        some state.processedText ∧
      runPrompts platform maxInputChars messages replies =
        classifyPrompt (workSignalMessages platform messages)::summarizePrompt state::rest ∧
      ∀ p ∈ rest, p.node ≠ .summarize ∧ ∀ o ∈ origins p.text, o ∈ origins state.processedText := by
  obtain ⟨classified,hclassified,heq⟩ := @runGraph_eq platform maxInputChars messages replies combined hshown
  have hmessages : (preprocessed platform maxInputChars messages combined).messages = messages := rfl
  rw [classifyWorkNode,hmessages] at hclassified
  dsimp only at hclassified
  rw [if_neg hwork] at hclassified
  rw [heq]
  cases hfilter : replies.filter with
  | none =>
    left
    rw [hfilter] at hclassified
    rw [hclassified,screened,hfilter]
    exact ⟨rfl,rfl⟩
  | some reply =>
    rw [hfilter,Option.map_some] at hclassified
    have hscreened : screened platform messages replies = some (screening platform (workSignalMessages platform messages).length
        (codes (reply.said (classifyPrompt (workSignalMessages platform messages))))) := by
      rw [screened,hfilter,Option.map_some]
    rw [hscreened,Option.bind_some]
    -- Each answer leaves one state, and the rest of the run depends on it alone.
    have hgoes : ∀ state : SlackAgentState, state.isWorkRelated = true →
        classified = ([classifyPrompt (workSignalMessages platform messages)],some state) →
        ∃ rest, (if classified.2.elim false (·.isWorkRelated) then
            ((classified.andThen (summarizeNode replies.summarizer)).andThen (extractCandidateNode replies.extraction)).1
          else classified.1) = classifyPrompt (workSignalMessages platform messages)::summarizePrompt state::rest ∧
          ∀ p ∈ rest, p.node ≠ .summarize ∧ ∀ o ∈ origins p.text, o ∈ origins state.processedText := by
      rintro state hrelated rfl
      obtain ⟨rest,hrest,hlater⟩ := @prompts_after replies
        ([classifyPrompt (workSignalMessages platform messages)],some state) state rfl
      refine ⟨rest,?_,hlater⟩
      rw [if_pos (by exact hrelated),hrest]
      rfl
    cases hscreening : screening platform (workSignalMessages platform messages).length
        (codes (reply.said (classifyPrompt (workSignalMessages platform messages)))) with
    | nothing =>
      left
      rw [hscreening] at hclassified
      rw [hclassified]
      exact ⟨rfl,rfl⟩
    | unreadable =>
      right
      rw [hscreening] at hclassified
      obtain ⟨rest,hrest,hlater⟩ := hgoes _ rfl hclassified
      exact ⟨_,rest,rfl,hrest,hlater⟩
    | chosen indices =>
      right
      rw [hscreening] at hclassified
      dsimp only at hclassified
      rw [toSummarize,picked]
      cases hcompressed : transcript platform SlackMessage.compressedDisplay
          (indices.filterMap fun i => (workSignalMessages platform messages)[i]?) with
      | none =>
        rw [hcompressed] at hclassified
        obtain ⟨rest,hrest,hlater⟩ := hgoes _ rfl hclassified
        exact ⟨_,rest,rfl,hrest,hlater⟩
      | some compressed =>
        rw [hcompressed] at hclassified
        obtain ⟨rest,hrest,hlater⟩ := hgoes _ rfl hclassified
        exact ⟨_,rest,rfl,hrest,hlater⟩

end prompts

end ParaWorks.SlackAgent
