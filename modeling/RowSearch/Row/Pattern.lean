import RowSearch.Text.LetterCase

/-! # Patterns

A pattern is a list of pieces: `%` stands for any run of characters, `_` for any one character,
a backslash makes the next character stand for itself, and a backslash at the end stands for
nothing. Matching goes over the pieces from the last to the first and keeps, for every suffix of
the text, whether the pieces seen so far match it, so its cost is the product of the lengths.
-/
namespace RowSearch

inductive Piece where
  | any
  | one
  | exactly (c : Char)
deriving DecidableEq

namespace Pattern

def pieces : List Char → List Piece
  | [] => []
  | '\\' :: c :: cs => .exactly c :: pieces cs
  | ['\\'] => []
  | '%' :: cs => .any :: pieces cs
  | '_' :: cs => .one :: pieces cs
  | c :: cs => .exactly c :: pieces cs

/-- For each suffix of a list, whether it holds a `true`. -/
def anyFrom : List Bool → List Bool
  | [] => []
  | b :: bs =>
    let later := anyFrom bs
    (b || later.headD false) :: later

/-- For each suffix of the text, the whole text first, whether the pieces match it. -/
def matchSuffixes (same : Char → Char → Bool) (cs : List Char) : List Piece → List Bool
  | [] => cs.map (fun _ => false) ++ [true]
  | .any :: ps => anyFrom (matchSuffixes same cs ps)
  | .one :: ps => (matchSuffixes same cs ps).tail ++ [false]
  | .exactly c :: ps =>
    List.zipWith (fun x b => same c x && b) cs (matchSuffixes same cs ps).tail ++ [false]

/-- Whether the text matches the pattern. Without regard to case, characters with one folding
are the same. -/
def accepts (ignoreCase : Bool) (pattern text : String) : Bool :=
  let same (a b : Char) : Bool :=
    if ignoreCase then Text.fold a == Text.fold b else a == b
  (matchSuffixes same text.toList (pieces pattern.toList)).headD false

end Pattern
end RowSearch
