import RowSearch.Text.Ranges

/-! # Cutting text apart

White space is the property `White_Space`. `pieces` cuts at every separator and keeps empty
pieces, so `n` separators give `n + 1` pieces; `words` cuts at white space and keeps none.
-/
namespace RowSearch.Text

def whiteSpaceRanges : List (Nat × Nat) := [
  (0x85, 0x85), (0xA0, 0xA0), (0x1680, 0x1680), (0x2000, 0x200A), (0x2028, 0x2029),
  (0x202F, 0x202F), (0x205F, 0x205F), (0x3000, 0x3000)]

def isWhiteSpace (c : Char) : Bool :=
  c == ' ' || (9 ≤ c.toNat && c.toNat ≤ 13) || inRanges whiteSpaceRanges c

def trimChars (p : Char → Bool) (cs : List Char) : List Char :=
  ((cs.dropWhile p).reverse.dropWhile p).reverse

def trimBy (p : Char → Bool) (s : String) : String :=
  String.ofList (trimChars p s.toList)

def trim (s : String) : String := trimBy isWhiteSpace s

/-- The pieces between the characters satisfying `sep`, empty ones included. -/
def splitChars (sep : Char → Bool) : List Char → List (List Char)
  | [] => [[]]
  | c :: cs =>
    if sep c then [] :: splitChars sep cs
    else match splitChars sep cs with
      | [] => [[c]]
      | piece :: rest => (c :: piece) :: rest

theorem splitChars_ne_nil (sep : Char → Bool) (cs : List Char) : splitChars sep cs ≠ [] := by
  cases cs with
  | nil => simp [splitChars]
  | cons c cs =>
    unfold splitChars
    split
    · simp
    · split <;> simp

def pieces (sep : Char) (s : String) : List String :=
  (splitChars (· == sep) s.toList).map String.ofList

def words (s : String) : List String :=
  ((splitChars isWhiteSpace s.toList).filter (!·.isEmpty)).map String.ofList

def dropPrefix? : (needle cs : List Char) → Option (List Char)
  | [], cs => some cs
  | _ :: _, [] => none
  | n :: needle, c :: cs => if n == c then dropPrefix? needle cs else none

def before? (needle : List Char) : List Char → Option (List Char)
  | [] => if needle.isEmpty then some [] else none
  | c :: cs =>
    if (dropPrefix? needle (c :: cs)).isSome then some []
    else (before? needle cs).map (c :: ·)

end RowSearch.Text
