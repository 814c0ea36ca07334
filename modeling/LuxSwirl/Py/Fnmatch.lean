import LuxSwirl.Py.Text
import Mathlib.Data.List.Infix

/-!
# Shell patterns

`fnmatch.fnmatch(name, pattern)` where file names keep their case: `*` is any
text, `?` any character, `[seq]` one of a set and `[!seq]` one outside it, in
which `a-z` is a range. A bracket that is not closed stands for itself.
-/

namespace LuxSwirl.Py

/-- What one piece of a pattern takes. -/
inductive Glob where
  | star
  | one
  | char (c : CodePoint)
  | oneOf (negated : Bool) (ranges : List (CodePoint × CodePoint))

namespace Glob

/-- Whether a piece other than a star takes the character. -/
def takes (c : CodePoint) : Glob → Bool
  | .star => false
  | .one => true
  | .char d => decide (c = d)
  | .oneOf negated ranges =>
    negated != ranges.any fun range => decide (range.1.ord ≤ c.ord ∧ c.ord ≤ range.2.ord)

/-- The ranges a bracket lists; a character alone is a range of one. -/
def ranges : Text → List (CodePoint × CodePoint)
  | [] => []
  | low :: .scalar '-' :: high :: rest => (low, high) :: ranges rest
  | c :: rest => (c, c) :: ranges rest

/-- What is taken from the front of a text while it is the character. -/
def skip (c : Char) : Text → Text × Text
  | .scalar d :: rest => if d = c then ([.scalar d], rest) else ([], .scalar d :: rest)
  | rest => ([], rest)

/-- The set a bracket opens, and what follows it; none when it is not closed. A
closing bracket that comes first is in the set. -/
def bracket (opened : Text) : Option (Glob × Text) :=
  let (bang, afterBang) := skip '!' opened
  let (first, afterFirst) := skip ']' afterBang
  match afterFirst.span fun c => c ≠ .scalar ']' with
  | (_, []) => none
  | (inside, _ :: rest) => some (.oneOf (!bang.isEmpty) (ranges (first ++ inside)), rest)

/-- The pieces of a pattern, each at least one character of it. -/
def pieces : Nat → Text → List Glob
  | 0, _ => []
  | _, [] => []
  | n + 1, .scalar '*' :: rest => .star :: pieces n rest
  | n + 1, .scalar '?' :: rest => .one :: pieces n rest
  | n + 1, .scalar '[' :: rest =>
    match bracket rest with
    | some (piece, after) => piece :: pieces n after
    | none => .char (.scalar '[') :: pieces n rest
  | n + 1, c :: rest => .char c :: pieces n rest

/-- The pieces take the whole text. -/
def takesAll : List Glob → Text → Bool
  | [], name => name.isEmpty
  | .star :: rest, name => name.tails.any (takesAll rest)
  | _ :: _, [] => false
  | piece :: rest, c :: name => piece.takes c && takesAll rest name

end Glob

def fnmatch (name pattern : Text) : Bool :=
  Glob.takesAll (Glob.pieces pattern.length pattern) name

example : fnmatch (text "api_users") (text "api_[!0-9]*") = true := by decide

end LuxSwirl.Py
