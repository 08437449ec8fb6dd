import ParaWorks.Lib.Text

/-!
# Patterns of repeated classes

The regular expressions that are sequences of classes of code points, each repeated greedily between two bounds, with the
backtracking and the left-to-right search of `re`.
-/

namespace ParaWorks.Lib

/-- A class with the least and the greatest number of its repetitions. -/
structure Piece where
  accepts : CodePoint → Bool
  least : Nat
  most : Option Nat

namespace Piece

def one (accepts : CodePoint → Bool) : Piece := ⟨accepts,1,some 1⟩

def many (accepts : CodePoint → Bool) (least : Nat) : Piece := ⟨accepts,least,none⟩

/-- How far the piece reaches at most. -/
def reach (piece : Piece) (t : Text) : Nat :=
  let run := (t.takeWhile piece.accepts).length
  (piece.most.map (min run)).getD run

end Piece

/-- The first of the lengths from `n` down to `least` at which the rest of the text has a match. -/
def longestFirst {α : Type} (attempt : Nat → Option α) (least : Nat) : Nat → Option (Nat × α)
  | 0 => if least = 0 then (attempt 0).map (0,·) else none
  | n+1 =>
    if n+1 < least then none
    else match attempt (n+1) with
      | some found => some (n+1,found)
      | none => longestFirst attempt least n

/-- What each piece matches at the start of the text. -/
def matchPieces : List Piece → Text → Option (List Text)
  | [], _ => some []
  | piece::pieces, t =>
    (longestFirst (fun n => matchPieces pieces (t.drop n)) piece.least (piece.reach t)).map
      fun found => t.take found.1::found.2

/-- `pattern.finditer(text)` for a pattern without empty matches: the pieces of each match. -/
def findMatches (pieces : List Piece) : Nat → Text → List (List Text)
  | 0, _ => []
  | fuel+1, t =>
    match matchPieces pieces t with
    | some found => found::findMatches pieces fuel (t.drop found.flatten.length)
    | none =>
      match t with
      | [] => []
      | _::rest => findMatches pieces fuel rest

/-- Each step of the search passes a code point. -/
def findIter (pieces : List Piece) (t : Text) : List (List Text) := findMatches pieces (t.length+1) t

def substituteMatches (pieces : List Piece) (replacement : List Text → Text) : Nat → Text → Text
  | 0, t => t
  | fuel+1, t =>
    match matchPieces pieces t with
    | some found => replacement found++substituteMatches pieces replacement fuel (t.drop found.flatten.length)
    | none =>
      match t with
      | [] => []
      | c::rest => c::substituteMatches pieces replacement fuel rest

/-- `pattern.sub(replacement, text)` for a pattern without empty matches. -/
def substitute (pieces : List Piece) (replacement : List Text → Text) (t : Text) : Text :=
  substituteMatches pieces replacement (t.length+1) t

end ParaWorks.Lib
