import ParaWorks.Ingestion.Documents

/-!
# Chunking

A text is cut into groups of paragraphs. What the groups say together is what the chunks keep of the text.
-/

namespace ParaWorks.Ingestion

open Lib

/-- `_parsed_chunks_from_text` with the numbers of the chunks. -/
structure IndexedChunk where
  chunkIndex : Nat
  text : Text
  sourceSnippet : Text
  sectionPath : Option Text

def indexedChunksFromText (t : Text) (maxChars : Nat) : List IndexedChunk :=
  (parsedChunksFromText t maxChars).zipIdx.map fun chunk => ⟨chunk.2,chunk.1.1,chunk.1.2.1,chunk.1.2.2⟩

/-! ## Ink -/

/-- The code points that are not white space. -/
def ink (t : Text) : Text := t.filter fun c => !isSpace c

@[simp] theorem ink_nil : ink [] = [] := rfl

@[simp] theorem ink_append (t u : Text) : ink (t++u) = ink t++ink u := List.filter_append ..

theorem ink_dropWhile (t : Text) : ink (t.dropWhile isSpace) = ink t := by
  induction t with
  | nil => rfl
  | cons c t ih =>
    by_cases hc : isSpace c = true
    · rw [List.dropWhile_cons_of_pos hc,ih]
      simp [ink,hc]
    · rw [List.dropWhile_cons_of_neg hc]

theorem ink_reverse (t : Text) : ink t.reverse = (ink t).reverse := List.filter_reverse ..

theorem ink_strip (t : Text) : ink (strip t) = ink t := by
  rw [strip,ink_reverse,ink_dropWhile,ink_reverse,ink_dropWhile,List.reverse_reverse]

theorem ink_ne_nil {t : Text} : ink t ≠ [] ↔ ∃ c ∈ t, isSpace c = false := by
  rw [ink,Ne,List.filter_eq_nil_iff]
  push Not
  simp

theorem ink_newlines (t : Text) : ink (newlines t) = ink t := by
  fun_induction newlines t with
  | case1 => rfl
  | case2 => rfl
  | case3 r ih =>
    change ink (newlines r) = ink r
    exact ih
  | case4 d r hd ih =>
    change ink (newlines (d::r)) = ink (d::r)
    exact ih
  | case5 c t hc ih =>
    simp only [ink,List.filter_cons] at ih ⊢
    rw [ih]

theorem ink_splitBlankLines (t part : Text) :
    ((splitBlankLines t part).map ink).flatten = ink part.reverse++ink t := by
  fun_induction splitBlankLines t part with
  | case1 part => simp
  | case2 c part => simp
  | case3 c d t part h ih =>
    obtain ⟨rfl,rfl⟩ := h
    rw [List.map_cons,List.flatten_cons,ih]
    rfl
  | case4 c d t part h ih =>
    rw [ih,List.reverse_cons,ink_append,List.append_assoc,← ink_append]
    rfl

theorem ink_paragraphs (t : Text) : ((paragraphs t).map ink).flatten = ink t := by
  have hfilter : ∀ parts : List Text, ((parts.filter (· ≠ [])).map ink).flatten = (parts.map ink).flatten := by
    intro parts
    induction parts with
    | nil => rfl
    | cons part parts ih => by_cases hp : part = [] <;> simp_all
  have hstrip : ∀ parts : List Text, ((parts.map strip).map ink) = parts.map ink := by
    intro parts
    rw [List.map_map]
    exact List.map_congr_left fun part _ => ink_strip part
  rw [paragraphs,hfilter,hstrip,ink_splitBlankLines,ink_newlines]
  rfl

theorem ink_join (sep : Text) (hsep : ink sep = []) (parts : List Text) :
    ink (join sep parts) = (parts.map ink).flatten := by
  induction parts with
  | nil => rfl
  | cons part parts ih =>
    cases parts with
    | nil => simp [join]
    | cons q qs =>
      have hjoin : join sep (part::q::qs) = part++(sep++join sep (q::qs)) := by
        simp [join]
      rw [hjoin,ink_append,ink_append,ih,hsep]
      rfl

theorem mem_join_length {sep part : Text} {parts : List Text} (h : part ∈ parts) :
    part.length ≤ (join sep parts).length := by
  induction parts with
  | nil => cases h
  | cons p parts ih =>
    cases parts with
    | nil =>
      rw [List.mem_singleton.mp h]
      simp [join]
    | cons q qs =>
      have hjoin : join sep (p::q::qs) = p++(sep++join sep (q::qs)) := by
        simp [join]
      rw [hjoin,List.length_append,List.length_append]
      obtain rfl | h := List.mem_cons.mp h
      · omega
      · have := ih h
        omega

/-! ## Pieces -/

/-- The window of `n` code points that starts at the `k`th one. -/
def window (t : Text) (n k : Nat) : Text := (t.drop (k*n)).take n

theorem pieces_eq_windows {n : Nat} (hn : 0 < n) (fuel : Nat) (t : Text) (hf : t.length ≤ fuel) (piece : Text) :
    piece ∈ pieces n fuel t ↔ ∃ k, k*n < t.length ∧ piece = window t n k := by
  induction fuel generalizing t with
  | zero =>
    rw [List.length_eq_zero_iff.mp (Nat.le_zero.mp hf)]
    simp [pieces]
  | succ fuel ih =>
    rw [pieces]
    by_cases ht : t = []
    · simp [ht]
    · have hlen : 0 < t.length := List.length_pos_iff.mpr ht
      rw [if_neg ht,List.mem_cons,ih (t.drop n) (by rw [List.length_drop]; omega)]
      constructor
      · rintro (rfl | ⟨k,hk,rfl⟩)
        · exact ⟨0,by omega,by simp [window]⟩
        · rw [List.length_drop] at hk
          refine ⟨k+1,by rw [Nat.add_mul]; omega,?_⟩
          rw [window,window,List.drop_drop]
          congr 2
          ring
      · rintro ⟨k,hk,rfl⟩
        cases k with
        | zero => exact .inl (by simp [window])
        | succ k =>
          refine .inr ⟨k,by rw [List.length_drop]; rw [Nat.add_mul] at hk; omega,?_⟩
          rw [window,window,List.drop_drop]
          congr 2
          ring

theorem pieces_flatten {n : Nat} (hn : 0 < n) (fuel : Nat) (t : Text) (hf : t.length ≤ fuel) :
    (pieces n fuel t).flatten = t := by
  induction fuel generalizing t with
  | zero =>
    rw [List.length_eq_zero_iff.mp (Nat.le_zero.mp hf)]
    rfl
  | succ fuel ih =>
    rw [pieces]
    split
    · next ht => rw [ht]; rfl
    · next ht =>
      have hlen : 0 < t.length := List.length_pos_iff.mpr ht
      rw [List.flatten_cons,ih _ (by rw [List.length_drop]; omega),List.take_append_drop]

theorem pieces_length {n : Nat} (fuel : Nat) (t : Text) : ∀ piece ∈ pieces n fuel t, piece.length ≤ n := by
  induction fuel generalizing t with
  | zero => exact fun piece hp => absurd hp List.not_mem_nil
  | succ fuel ih =>
    intro piece hp
    rw [pieces] at hp
    split at hp
    · cases hp
    · obtain rfl | hp := List.mem_cons.mp hp
      · exact List.length_take_le ..
      · exact ih _ piece hp

theorem strip_length (t : Text) : (strip t).length ≤ t.length := by
  have h1 := (List.dropWhile_suffix isSpace (l := (t.dropWhile isSpace).reverse)).length_le
  have h2 := (List.dropWhile_suffix isSpace (l := t)).length_le
  rw [strip,List.length_reverse]
  rw [List.length_reverse] at h1
  omega

theorem ink_flatten (parts : List Text) : ink parts.flatten = (parts.map ink).flatten := by
  induction parts with
  | nil => rfl
  | cons part parts ih => rw [List.flatten_cons,ink_append,ih,List.map_cons,List.flatten_cons]

theorem ink_splitLongParagraph {n : Nat} (hn : 0 < n) (paragraph : Text) :
    ((splitLongParagraph paragraph n).map ink).flatten = ink paragraph := by
  have hstrip : (splitLongParagraph paragraph n).map ink = (pieces n paragraph.length paragraph).map ink := by
    rw [splitLongParagraph,List.map_map]
    exact List.map_congr_left fun part _ => ink_strip part
  rw [hstrip,← ink_flatten,pieces_flatten hn _ _ (Nat.le_refl _)]

/-! ## Groups of paragraphs -/

/-- The paragraphs of one chunk, or the long paragraph that several chunks share. -/
inductive Group where
  | joined (paragraph : Text) (more : List Text)
  | split (paragraph : Text)

namespace Group

def paragraphs : Group → List Text
  | .joined paragraph more => paragraph::more
  | .split paragraph => [paragraph]

def head : Group → Text
  | .joined paragraph _ => paragraph
  | .split paragraph => paragraph

def chunks (maxChars : Nat) : Group → List (Text × Option Text)
  | .joined paragraph more => [(join blankLine (paragraph::more),Ingestion.sectionPath paragraph)]
  | .split paragraph => (splitLongParagraph paragraph maxChars).map (·,Ingestion.sectionPath paragraph)

def Fits (maxChars : Nat) : Group → Prop
  | .joined paragraph more => (join blankLine (paragraph::more)).length ≤ maxChars
  | .split paragraph => maxChars < paragraph.length

end Group

/-- What the loop holds after the paragraphs `done`: closed groups, and the current one. -/
structure Laid (maxChars : Nat) (done : List Text) (loop : ChunkLoop) : Prop where
  closed : ∃ groups : List Group, (∀ g ∈ groups, g.Fits maxChars) ∧
    done = groups.flatMap Group.paragraphs++loop.current ∧ loop.chunks = groups.flatMap (Group.chunks maxChars)
  empty : loop.current = [] → loop.currentSection = none
  opened : ∀ q qs, loop.current = q::qs →
    loop.currentSection = sectionPath q ∧ sectionPath q ≠ none ∧ (join blankLine (q::qs)).length ≤ maxChars

section laid

variable {maxChars : Nat} {done : List Text} {loop : ChunkLoop} {groups : List Group} {paragraph : Text}

/-- Closing the current group. -/
theorem Laid.close (h : Laid maxChars done loop) (path : Option Text) :
    ∃ groups : List Group, (∀ g ∈ groups, g.Fits maxChars) ∧ done = groups.flatMap Group.paragraphs ∧
      loop.close path = ⟨groups.flatMap (Group.chunks maxChars),[],if loop.current = [] then none else path⟩ := by
  obtain ⟨groups,hfits,hdone,hchunks⟩ := h.closed
  obtain ⟨chunks,current,currentSection⟩ := loop
  cases current with
  | nil =>
    have hsection : currentSection = none := h.empty rfl
    rw [List.append_nil] at hdone
    exact ⟨groups,hfits,hdone,by simpa [ChunkLoop.close,hsection] using hchunks⟩
  | cons q qs =>
    obtain ⟨hsection,-,hlen⟩ := h.opened q qs rfl
    refine ⟨groups++[.joined q qs],?_,?_,?_⟩
    · intro g hg
      obtain hg | hg := List.mem_append.mp hg
      · exact hfits g hg
      · rw [List.mem_singleton.mp hg]
        exact hlen
    · rw [hdone,List.flatMap_append]
      simp [Group.paragraphs]
    · dsimp only at hsection hchunks
      simp [ChunkLoop.close,hchunks,hsection,Group.chunks]

/-- A paragraph that opens a group. -/
theorem laid_opens (hfits : ∀ g ∈ groups, g.Fits maxChars) (hdone : done = groups.flatMap Group.paragraphs)
    (hpath : sectionPath paragraph ≠ none) :
    Laid maxChars (done++[paragraph])
      (if paragraph.length ≤ maxChars then
        ⟨groups.flatMap (Group.chunks maxChars),[paragraph],sectionPath paragraph⟩
      else
        ⟨groups.flatMap (Group.chunks maxChars)++(splitLongParagraph paragraph maxChars).map (·,sectionPath paragraph),
          [],none⟩) := by
  split
  · next hlen =>
    refine ⟨⟨groups,hfits,by rw [hdone],rfl⟩,fun hx => absurd hx (List.cons_ne_nil _ _),?_⟩
    intro q qs hq
    cases hq
    exact ⟨rfl,hpath,by simpa [join] using hlen⟩
  · next hlen =>
    refine ⟨⟨groups++[.split paragraph],?_,?_,?_⟩,fun _ => rfl,fun q qs hq => by cases hq⟩
    · intro g hg
      obtain hg | hg := List.mem_append.mp hg
      · exact hfits g hg
      · rw [List.mem_singleton.mp hg]
        exact Nat.lt_of_not_le hlen
    · rw [hdone,List.flatMap_append]
      simp [Group.paragraphs]
    · rw [List.flatMap_append]
      simp [Group.chunks]

/-- One paragraph more. -/
theorem Laid.step (h : Laid maxChars done loop) (hpath : sectionPath paragraph ≠ none) :
    Laid maxChars (done++[paragraph]) (chunkParagraph maxChars loop paragraph) := by
  -- after the heading test the current group, closed or not, is laid as before
  have hheading : Laid maxChars done (if looksLikeHeading paragraph then loop.close none else loop) := by
    split
    · obtain ⟨groups,hfits,hdone,hclose⟩ := h.close none
      rw [hclose]
      refine ⟨⟨groups,hfits,by rw [hdone,List.append_nil],rfl⟩,fun _ => ?_,fun q qs hq => by cases hq⟩
      dsimp only
      split <;> rfl
    · exact h
  unfold chunkParagraph
  generalize (if looksLikeHeading paragraph then loop.close none else loop) = loop at hheading
  obtain ⟨groups,hfits,hdone,hclose⟩ := hheading.close (sectionPath paragraph)
  obtain ⟨groups',hfits',hdone',hchunks'⟩ := hheading.closed
  obtain ⟨chunks,current,currentSection⟩ := loop
  cases current with
  | nil =>
    have hsection : currentSection = none := hheading.empty rfl
    have hchunks : chunks = groups.flatMap (Group.chunks maxChars) := congrArg ChunkLoop.chunks hclose
    have hopens := laid_opens hfits hdone hpath
    by_cases hlen : paragraph.length ≤ maxChars
    · simpa [hsection,hchunks,join,hlen] using hopens
    · simpa [hsection,hchunks,ChunkLoop.close,join,hlen] using hopens
  | cons q qs =>
    obtain ⟨hsection,hq,hlen⟩ := hheading.opened q qs rfl
    dsimp only at hsection hdone' hchunks'
    have hsome : currentSection ≠ none := by rw [hsection]; exact hq
    dsimp only
    rw [if_neg hsome]
    split
    · next hfit =>
      refine ⟨⟨groups',hfits',by rw [hdone',List.append_assoc],hchunks'⟩,fun hx => absurd hx (by simp),?_⟩
      intro r rs hr
      cases hr
      exact ⟨hsection,hq,hfit⟩
    · rw [hclose]
      exact laid_opens hfits hdone hpath

theorem laid_foldl (ps : List Text) (hps : ∀ q ∈ ps, sectionPath q ≠ none) (h : Laid maxChars done loop) :
    Laid maxChars (done++ps) (ps.foldl (chunkParagraph maxChars) loop) := by
  induction ps generalizing done loop with
  | nil =>
    rw [List.append_nil]
    exact h
  | cons q ps ih =>
    rw [List.forall_mem_cons] at hps
    have hstep := ih hps.2 (h.step hps.1)
    rwa [List.append_assoc] at hstep

end laid

/-! ## Paragraphs -/

theorem strip_head {t : Text} {c : CodePoint} {r : Text} (h : strip t = c::r) : isSpace c = false := by
  have hfront := strip_strip t
  have hdrop : (strip t).dropWhile isSpace = strip t := by
    apply dropWhile_of_prefix (t := t)
    have hsuffix : (t.dropWhile isSpace).reverse.dropWhile isSpace <:+ (t.dropWhile isSpace).reverse :=
      List.dropWhile_suffix _
    simpa [strip] using List.reverse_prefix.mpr hsuffix
  rw [h] at hdrop
  by_contra hc
  rw [List.dropWhile_cons_of_pos (by simpa using hc)] at hdrop
  have hlen := (List.dropWhile_suffix isSpace (l := r)).length_le
  rw [hdrop,List.length_cons] at hlen
  omega

/-- A paragraph starts with a code point that is not white space. -/
theorem paragraph_head {t paragraph : Text} (h : paragraph ∈ paragraphs t) :
    ∃ c r, paragraph = c::r ∧ isSpace c = false := by
  obtain ⟨hmem,hne⟩ := List.mem_filter.mp h
  obtain ⟨part,-,rfl⟩ := List.mem_map.mp hmem
  obtain ⟨c,r,hcr⟩ := List.exists_cons_of_ne_nil (of_decide_eq_true hne)
  exact ⟨c,r,hcr,strip_head hcr⟩

theorem isLineEnd_space {c : CodePoint} (h : isSpace c = false) : isLineEnd c = false := by
  simp only [isSpace,isLineEnd,Bool.or_eq_false_iff,decide_eq_false_iff_not] at h ⊢
  omega

/-- The first line of a paragraph, without its trailing blanks. -/
def firstLine (paragraph : Text) : Text := strip (paragraph.takeWhile fun c => !isLineEnd c)

theorem sectionPath_paragraph {t paragraph : Text} (h : paragraph ∈ paragraphs t) :
    sectionPath paragraph = some ((firstLine paragraph).take 120) := by
  obtain ⟨c,r,rfl,hc⟩ := paragraph_head h
  have hne : firstLine (c::r) ≠ [] := by
    intro hnil
    have hink : ink (firstLine (c::r)) = [] := by rw [hnil]; rfl
    rw [firstLine,ink_strip,List.takeWhile_cons_of_pos (by simp [isLineEnd_space hc])] at hink
    simp [ink,hc] at hink
  rw [sectionPath]
  exact if_neg hne

theorem ink_paragraph {t paragraph : Text} (h : paragraph ∈ paragraphs t) : ink paragraph ≠ [] := by
  obtain ⟨c,r,rfl,hc⟩ := paragraph_head h
  exact ink_ne_nil.mpr ⟨c,List.mem_cons_self,hc⟩

/-! ## The chunks of the groups -/

/-- The ink of a list of texts. -/
def inked (chunks : List (Text × Option Text)) : Text := chunks.flatMap fun chunk => ink chunk.1

@[simp] theorem inked_append (chunks more : List (Text × Option Text)) : inked (chunks++more) = inked chunks++inked more :=
  List.flatMap_append

@[simp] theorem inked_cons (chunk : Text × Option Text) (chunks : List (Text × Option Text)) :
    inked (chunk::chunks) = ink chunk.1++inked chunks := List.flatMap_cons

/-- The paragraph that holds the code point `k` of the ink. -/
def paragraphAt : List Text → Nat → Option Text
  | [], _ => none
  | paragraph::ps, k =>
    if k < (ink paragraph).length then some paragraph else paragraphAt ps (k-(ink paragraph).length)

theorem paragraphAt_append (ps qs : List Text) (k : Nat) :
    paragraphAt (ps++qs) ((ps.map ink).flatten.length+k) = paragraphAt qs k := by
  induction ps with
  | nil => simp
  | cons p ps ih =>
    rw [List.cons_append,paragraphAt,List.map_cons,List.flatten_cons,List.length_append,if_neg (by omega)]
    rw [show (ink p).length+(ps.map ink).flatten.length+k-(ink p).length = (ps.map ink).flatten.length+k by omega,ih]

section groups

variable {maxChars : Nat} {g : Group} {groups : List Group}

theorem Group.head_mem (g : Group) : ∃ more, g.paragraphs = g.head::more := by
  cases g with
  | joined paragraph more => exact ⟨more,rfl⟩
  | split paragraph => exact ⟨[],rfl⟩

theorem Group.inked_chunks (hn : 0 < maxChars) (g : Group) : inked (g.chunks maxChars) = (g.paragraphs.map ink).flatten := by
  cases g with
  | joined paragraph more =>
    rw [Group.chunks,inked,List.flatMap_singleton,ink_join blankLine rfl]
    rfl
  | split paragraph =>
    have h := ink_splitLongParagraph hn paragraph
    rw [Group.chunks,inked,List.flatMap_map,List.flatMap_def,h]
    simp [Group.paragraphs]

theorem Group.chunks_length (h : g.Fits maxChars) : ∀ chunk ∈ g.chunks maxChars, chunk.1.length ≤ maxChars := by
  cases g with
  | joined paragraph more =>
    intro chunk hc
    rw [List.mem_singleton.mp hc]
    exact h
  | split paragraph =>
    intro chunk hc
    obtain ⟨part,hpart,rfl⟩ := List.mem_map.mp hc
    obtain ⟨piece,hpiece,rfl⟩ := List.mem_map.mp hpart
    exact (strip_length piece).trans (pieces_length _ _ piece hpiece)

theorem Group.chunks_label (g : Group) : ∀ chunk ∈ g.chunks maxChars, chunk.2 = Ingestion.sectionPath g.head := by
  cases g with
  | joined paragraph more =>
    intro chunk hc
    rw [List.mem_singleton.mp hc]
    rfl
  | split paragraph =>
    intro chunk hc
    obtain ⟨part,-,rfl⟩ := List.mem_map.mp hc
    rfl

/-- A chunk of a group that is not blank starts in the first paragraph of the group. -/
theorem Group.starts (hn : 0 < maxChars) (hhead : ink g.head ≠ []) {before after : List (Text × Option Text)}
    {chunk : Text × Option Text} (h : g.chunks maxChars = before++chunk::after) (hc : ink chunk.1 ≠ []) :
    (inked before).length < (ink g.head).length := by
  cases g with
  | joined paragraph more =>
    have hbefore : before = [] := by
      cases before with
      | nil => rfl
      | cons b before =>
        have hlen := congrArg List.length h
        simp only [Group.chunks,List.length_append,List.length_cons,List.length_nil] at hlen
        omega
    rw [hbefore]
    exact List.length_pos_iff.mpr hhead
  | split paragraph =>
    have hink := Group.inked_chunks hn (.split paragraph)
    rw [h,inked_append,inked_cons] at hink
    have hlen := congrArg List.length hink
    simp only [Group.paragraphs,List.map_cons,List.map_nil,List.flatten_cons,List.flatten_nil,List.append_nil,
      List.length_append] at hlen
    have hpos := List.length_pos_iff.mpr hc
    change (inked before).length < (ink paragraph).length
    omega

theorem inked_groups (hn : 0 < maxChars) (groups : List Group) :
    inked (groups.flatMap (Group.chunks maxChars)) = ((groups.flatMap Group.paragraphs).map ink).flatten := by
  induction groups with
  | nil => rfl
  | cons g groups ih =>
    rw [List.flatMap_cons,List.flatMap_cons,inked_append,ih,Group.inked_chunks hn,List.map_append,List.flatten_append]

/-- A chunk that is not blank bears the label of the paragraph that it starts in. -/
theorem labelled_groups (hn : 0 < maxChars) (hp : ∀ p ∈ groups.flatMap Group.paragraphs, ink p ≠ [])
    {before after : List (Text × Option Text)} {chunk : Text × Option Text}
    (h : groups.flatMap (Group.chunks maxChars) = before++chunk::after) (hc : ink chunk.1 ≠ []) :
    ∃ p ∈ groups.flatMap Group.paragraphs,
      paragraphAt (groups.flatMap Group.paragraphs) (inked before).length = some p ∧ chunk.2 = sectionPath p := by
  induction groups generalizing before with
  | nil => exact absurd h.symm (by simp)
  | cons g groups ih =>
    rw [List.flatMap_cons] at h hp ⊢
    obtain ⟨more,hmore⟩ := g.head_mem
    have hhead : ink g.head ≠ [] := hp _ (List.mem_append_left _ (by rw [hmore]; exact List.mem_cons_self))
    -- the chunk belongs to a later group
    have hlater : ∀ rest, before = g.chunks maxChars++rest → groups.flatMap (Group.chunks maxChars) = rest++chunk::after →
        ∃ p ∈ g.paragraphs++groups.flatMap Group.paragraphs,
          paragraphAt (g.paragraphs++groups.flatMap Group.paragraphs) (inked before).length = some p ∧
            chunk.2 = sectionPath p := by
      intro rest hrest hgroups
      obtain ⟨p,hmem,hat,hlabel⟩ := ih (fun p hm => hp p (List.mem_append_right _ hm)) hgroups
      refine ⟨p,List.mem_append_right _ hmem,?_,hlabel⟩
      rw [hrest,inked_append,List.length_append,Group.inked_chunks hn,paragraphAt_append]
      exact hat
    obtain ⟨rest,hrest,hgroups⟩ | ⟨rest,hg,hrest⟩ := List.append_eq_append_iff.mp h
    · exact hlater rest hrest hgroups
    · cases rest with
      | nil => exact hlater [] (by rw [hg,List.append_nil,List.append_nil]) hrest.symm
      | cons d rest =>
        obtain ⟨rfl,-⟩ := List.cons.inj hrest
        refine ⟨g.head,List.mem_append_left _ (by rw [hmore]; exact List.mem_cons_self),?_,?_⟩
        · rw [hmore,List.cons_append,paragraphAt,if_pos (Group.starts hn hhead hg hc)]
        · exact g.chunks_label chunk (by rw [hg]; exact List.mem_append_right _ List.mem_cons_self)

theorem parsed_groups (t : Text) (maxChars : Nat) (hink : ink t ≠ []) :
    ∃ groups : List Group, (∀ g ∈ groups, g.Fits maxChars) ∧ paragraphs t = groups.flatMap Group.paragraphs ∧
      (parsedChunksFromText t maxChars).map (fun chunk => (chunk.1,chunk.2.2)) =
        groups.flatMap (Group.chunks maxChars) := by
  have hne : paragraphs t ≠ [] := by
    intro hnil
    have h := ink_paragraphs t
    rw [hnil] at h
    exact hink h.symm
  have hpath : ∀ q ∈ paragraphs t, sectionPath q ≠ none := by
    intro q hq
    rw [sectionPath_paragraph hq]
    exact Option.some_ne_none _
  have hempty : Laid maxChars [] ⟨[],[],none⟩ :=
    ⟨⟨[],fun g hg => absurd hg List.not_mem_nil,rfl,rfl⟩,fun _ => rfl,fun q qs hq => absurd hq (by simp)⟩
  have hlaid := laid_foldl (paragraphs t) hpath hempty
  rw [List.nil_append] at hlaid
  obtain ⟨groups,hfits,hdone,hclose⟩ := hlaid.close none
  refine ⟨groups,hfits,hdone,?_⟩
  rw [parsedChunksFromText,if_neg hne,List.map_map,hclose]
  exact List.map_id _

end groups

/-! ## The chunks of a text -/

/-- What a chunking must be. -/
structure Chunking (t : Text) (maxChars : Nat) (chunks : List IndexedChunk) : Prop where
  indexed : chunks.map (·.chunkIndex) = List.range chunks.length
  bounded : ∀ chunk ∈ chunks, chunk.text.length ≤ maxChars
  filled : ∀ chunk ∈ chunks, ∃ c ∈ chunk.text, isSpace c = false
  lossless : (chunks.flatMap fun chunk => ink chunk.text) = ink t
  labelled : ∀ before chunk after, chunks = before++chunk::after → ∃ paragraph,
    paragraphAt (paragraphs t) (before.flatMap fun chunk => ink chunk.text).length = some paragraph ∧
      chunk.sectionPath = some ((firstLine paragraph).take 120)

/-- No long paragraph has a window of white space that is cut out of it. -/
def NoBlankWindow (t : Text) (maxChars : Nat) : Prop :=
  ∀ paragraph ∈ paragraphs t, maxChars < paragraph.length → ∀ k, k*maxChars < paragraph.length →
    ∃ c ∈ window paragraph maxChars k, isSpace c = false

theorem indexedChunks_pairs (t : Text) (maxChars : Nat) :
    (indexedChunksFromText t maxChars).map (fun chunk => (chunk.text,chunk.sectionPath)) =
      (parsedChunksFromText t maxChars).map fun chunk => (chunk.1,chunk.2.2) := by
  rw [indexedChunksFromText,List.map_map]
  conv_rhs => rw [← List.zipIdx_map_fst 0 (parsedChunksFromText t maxChars)]
  rw [List.map_map]
  rfl

theorem indexedChunks_indexed (t : Text) (maxChars : Nat) :
    (indexedChunksFromText t maxChars).map (·.chunkIndex) = List.range (indexedChunksFromText t maxChars).length := by
  rw [indexedChunksFromText,List.map_map,List.length_map,List.length_zipIdx,List.range_eq_range']
  exact List.zipIdx_map_snd 0 _

/-- The chunks of the groups are not blank exactly where no blank window is cut out. -/
theorem filled_groups_iff {t : Text} {maxChars : Nat} {groups : List Group} (hmax : 0 < maxChars)
    (hfits : ∀ g ∈ groups, g.Fits maxChars) (hparagraphs : paragraphs t = groups.flatMap Group.paragraphs) :
    (∀ chunk ∈ groups.flatMap (Group.chunks maxChars), ink chunk.1 ≠ []) ↔ NoBlankWindow t maxChars := by
  constructor
  · intro h paragraph hp hlong k hk
    rw [hparagraphs] at hp
    obtain ⟨g,hg,hmem⟩ := List.mem_flatMap.mp hp
    have hfit := hfits g hg
    cases g with
    | joined q qs =>
      have hle : paragraph.length ≤ (join blankLine (q::qs)).length := mem_join_length hmem
      have hle' : (join blankLine (q::qs)).length ≤ maxChars := hfit
      omega
    | split q =>
      rw [List.mem_singleton.mp hmem] at hk ⊢
      have hpiece := (pieces_eq_windows hmax q.length q (Nat.le_refl _) _).mpr ⟨k,hk,rfl⟩
      have hchunk : (strip (window q maxChars k),sectionPath q) ∈ Group.chunks maxChars (.split q) :=
        List.mem_map_of_mem (List.mem_map_of_mem hpiece)
      have hink := h _ (List.mem_flatMap.mpr ⟨.split q,hg,hchunk⟩)
      rw [ink_strip] at hink
      exact ink_ne_nil.mp hink
  · intro h chunk hc
    obtain ⟨g,hg,hmem⟩ := List.mem_flatMap.mp hc
    have hpar : ∀ p ∈ g.paragraphs, p ∈ paragraphs t := by
      intro p hp
      rw [hparagraphs]
      exact List.mem_flatMap.mpr ⟨g,hg,hp⟩
    cases g with
    | joined q qs =>
      rw [List.mem_singleton.mp hmem,ink_join blankLine rfl]
      have hq := ink_paragraph (hpar q List.mem_cons_self)
      simp [hq]
    | split q =>
      obtain ⟨part,hpart,rfl⟩ := List.mem_map.mp hmem
      obtain ⟨piece,hpiece,rfl⟩ := List.mem_map.mp hpart
      obtain ⟨k,hk,rfl⟩ := (pieces_eq_windows hmax q.length q (Nat.le_refl _) piece).mp hpiece
      rw [ink_strip]
      exact ink_ne_nil.mpr (h q (hpar q List.mem_cons_self) (hfits _ hg) k hk)

/-- Chunking loses nothing and stays within its bound; a chunk is blank exactly where a window of white space is cut
out of a long paragraph. -/
theorem chunking_iff (t : Text) (maxChars : Nat) (hink : ∃ c ∈ t, isSpace c = false) (hmax : 1 ≤ maxChars) :
    Chunking t maxChars (indexedChunksFromText t maxChars) ↔ NoBlankWindow t maxChars := by
  obtain ⟨groups,hfits,hparagraphs,hchunks⟩ := parsed_groups t maxChars (ink_ne_nil.mpr hink)
  rw [← indexedChunks_pairs] at hchunks
  have hpair : ∀ chunk ∈ indexedChunksFromText t maxChars,
      ∃ g ∈ groups, (chunk.text,chunk.sectionPath) ∈ g.chunks maxChars := by
    intro chunk hc
    have hmem := List.mem_map_of_mem (f := fun chunk : IndexedChunk => (chunk.text,chunk.sectionPath)) hc
    rw [hchunks] at hmem
    exact List.mem_flatMap.mp hmem
  have hfilled : (∀ chunk ∈ indexedChunksFromText t maxChars, ∃ c ∈ chunk.text, isSpace c = false) ↔
      NoBlankWindow t maxChars := by
    rw [← filled_groups_iff hmax hfits hparagraphs,← hchunks]
    simp only [List.forall_mem_map,ink_ne_nil]
  constructor
  · exact fun h => hfilled.mp h.filled
  · intro h
    have hfilled := hfilled.mpr h
    refine ⟨indexedChunks_indexed t maxChars,?_,hfilled,?_,?_⟩
    · intro chunk hc
      obtain ⟨g,hg,hmem⟩ := hpair chunk hc
      exact Group.chunks_length (hfits g hg) _ hmem
    · have hinked := inked_groups hmax groups
      rw [← hchunks,← hparagraphs,ink_paragraphs,inked,List.flatMap_map] at hinked
      exact hinked
    · intro before chunk after heq
      rw [heq,List.map_append,List.map_cons] at hchunks
      have hc : ink chunk.text ≠ [] :=
        ink_ne_nil.mpr (hfilled chunk (by rw [heq]; exact List.mem_append_right _ List.mem_cons_self))
      have hpar : ∀ p ∈ groups.flatMap Group.paragraphs, ink p ≠ [] := by
        intro p hp
        rw [← hparagraphs] at hp
        exact ink_paragraph hp
      obtain ⟨p,hmem,hat,hlabel⟩ := labelled_groups hmax hpar hchunks.symm hc
      rw [← hparagraphs] at hmem hat
      rw [inked,List.flatMap_map] at hat
      exact ⟨p,hat,hlabel.trans (sectionPath_paragraph hmem)⟩

theorem chunking_iff_sample : Chunking (text "ab") 2 (indexedChunksFromText (text "ab") 2) := by
  apply (chunking_iff (text "ab") 2 ⟨ofChar 'a',by decide,by decide⟩ (by decide)).mpr
  intro paragraph hp hlong
  have hone : paragraphs (text "ab") = [text "ab"] := by decide
  rw [hone] at hp
  rw [List.mem_singleton.mp hp] at hlong
  exact absurd hlong (by decide)

/-- Two blanks that fill a window of a long paragraph are a chunk of their own. -/
theorem blank_chunk : (∃ c ∈ text "ab  cd", isSpace c = false) ∧
    ¬Chunking (text "ab  cd") 2 (indexedChunksFromText (text "ab  cd") 2) := by
  refine ⟨⟨ofChar 'a',by decide,by decide⟩,fun h => ?_⟩
  have htexts : [] ∈ (indexedChunksFromText (text "ab  cd") 2).map (·.text) := by decide +kernel
  obtain ⟨chunk,hc,hnil⟩ := List.mem_map.mp htexts
  obtain ⟨c,hmem,-⟩ := h.filled chunk hc
  rw [hnil] at hmem
  cases hmem

end ParaWorks.Ingestion
