import ParaWorks.Lib.Text

/-!
# Splitting and searching texts
-/

namespace ParaWorks.Lib

/-- `t.split(sep, maxsplit=1)` when `sep in t`. -/
def splitOnce (sep : CodePoint) (t : Text) : Option (Text × Text) :=
  if sep ∈ t then some (t.takeWhile (· ≠ sep),(t.dropWhile (· ≠ sep)).tail) else none

/-- `needle in t`. -/
def contains : Text → Text → Bool
  | needle, [] => needle = []
  | needle, c::t => needle.isPrefixOf (c::t) || contains needle t

/-- `t.partition(sep)`, none where there is no separator. -/
def partition (sep : Text) : Text → Option (Text × Text)
  | [] => if sep = [] then some ([],[]) else none
  | c::t =>
    if sep.isPrefixOf (c::t) then some ([],(c::t).drop sep.length)
    else (partition sep t).map fun (left,right) => (c::left,right)

/-- The runs of other code points between white space. -/
def wordsFrom : Text → Text → List Text
  | [], word => if word = [] then [] else [word.reverse]
  | c::t, word =>
    if isSpace c then if word = [] then wordsFrom t [] else word.reverse::wordsFrom t []
    else wordsFrom t (c::word)

/-- `t.split()`. -/
def words (t : Text) : List Text := wordsFrom t []

/-- `sep.join(parts)`. -/
def join (sep : Text) (parts : List Text) : Text := (parts.intersperse sep).flatten

/-- `t.replace(old, new)` of single code points. -/
def replace (old new : CodePoint) (t : Text) : Text := t.map fun c => if c = old then new else c

theorem splitOnce_append {sep : CodePoint} {left right : Text} (h : sep ∉ left) :
    splitOnce sep (left++sep::right) = some (left,right) := by
  have hleft : ∀ c ∈ left, (decide (c ≠ sep)) = true := by
    intro c hc
    simpa using fun he : c = sep => h (he ▸ hc)
  rw [splitOnce,if_pos (by simp),List.takeWhile_append_of_pos hleft,List.dropWhile_append_of_pos hleft]
  simp

/-- Where the first code point of the separator does not come, the separator does not either. -/
theorem partition_append {c : CodePoint} {sep left : Text} (right : Text) (h : c ∉ left) :
    partition (c::sep) (left++(c::sep++right)) = some (left,right) := by
  induction left with
  | nil =>
    have hstart : (c::sep).isPrefixOf (c::(sep++right)) = true := by
      rw [List.isPrefixOf_iff_prefix]
      exact List.prefix_append _ _
    simp [partition,hstart]
  | cons d left ih =>
    rw [List.mem_cons,not_or] at h
    have hstart : (c::sep).isPrefixOf (d::(left++(c::sep++right))) = false := by
      simp [List.isPrefixOf,h.1]
    rw [List.cons_append,partition,hstart,ih h.2]
    rfl

/-! ## Stripping -/

theorem dropWhile_of_prefix {t u : Text} (h : u <+: t.dropWhile isSpace) : u.dropWhile isSpace = u := by
  cases u with
  | nil => rfl
  | cons c u =>
    obtain ⟨r,hr⟩ := h
    have hhead := List.head?_dropWhile_not isSpace t
    rw [← hr,List.cons_append,List.head?_cons] at hhead
    rw [List.dropWhile_cons_of_neg (by simpa using hhead)]

theorem strip_strip (t : Text) : strip (strip t) = strip t := by
  have hstart : strip t <+: t.dropWhile isSpace := by
    have hsuffix : (t.dropWhile isSpace).reverse.dropWhile isSpace <:+ (t.dropWhile isSpace).reverse :=
      List.dropWhile_suffix _
    simpa [strip] using List.reverse_prefix.mpr hsuffix
  have hfront : (strip t).dropWhile isSpace = strip t := dropWhile_of_prefix hstart
  have hback : ((t.dropWhile isSpace).reverse.dropWhile isSpace).dropWhile isSpace =
      (t.dropWhile isSpace).reverse.dropWhile isSpace := List.dropWhile_idempotent isSpace _
  rw [strip,hfront,strip,List.reverse_reverse,hback]

/-- Stripping before a map of the code points is stripping after it, if it keeps white space. -/
theorem strip_map {f : CodePoint → CodePoint} (hf : ∀ c, isSpace (f c) = isSpace c) (t : Text) :
    strip (t.map f) = (strip t).map f := by
  have hcomp : isSpace ∘ f = isSpace := funext hf
  simp [strip,List.dropWhile_map,hcomp,← List.map_reverse]

end ParaWorks.Lib
