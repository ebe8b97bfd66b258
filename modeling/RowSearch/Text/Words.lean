import RowSearch.Text.Alphabetic
import RowSearch.Text.LetterCase
import RowSearch.Text.Split

/-! # Words of a name

A name is cut into words at every character that is not alphanumeric, before an upper-case
letter that follows a lower-case one, and before the last of several upper-case letters when a
lower-case one follows it: `HTTPServer` is `HTTP`, `Server`. Characters without case continue
the case of what stands before them.
-/
namespace RowSearch.Text

/-- The case in force inside a run, unknown right after a cut. -/
inductive CaseState where
  | unknown
  | lower
  | upper
deriving DecidableEq

def CaseState.after (state : CaseState) (c : Char) : CaseState :=
  if isLowercase c then .lower else if isUppercase c then .upper else state

/-- Cuts one run of alphanumeric characters. `word` holds the characters of the current word so
far, last first. -/
def cutRun (state : CaseState) (word : List Char) : List Char → List (List Char)
  | [] => []
  | [c] => [(c :: word).reverse]
  | c :: next :: rest =>
    if state.after c = .lower ∧ isUppercase next then
      (c :: word).reverse :: cutRun .unknown [] (next :: rest)
    else if state = .upper ∧ isUppercase c ∧ isLowercase next then
      word.reverse :: cutRun .unknown [c] (next :: rest)
    else cutRun (state.after c) (c :: word) (next :: rest)

def nameWords (name : List Char) : List (List Char) :=
  (splitChars (!isAlphanumeric ·) name).flatMap (cutRun .unknown [])

/-- The lower case of a word; a capital sigma that ends it takes its final form. -/
def lowerWord : List Char → List Char
  | [] => []
  | [c] => if c == 'Σ' then ['ς'] else lower c
  | c :: rest => lower c ++ lowerWord rest

def capitalWord : List Char → List Char
  | [] => []
  | c :: rest => upper c ++ lowerWord rest

def snakeCase (name : String) : String :=
  String.ofList (List.intercalate ['_'] ((nameWords name.toList).map lowerWord))

def lowerCamelCase (name : String) : String :=
  match nameWords name.toList with
  | [] => ""
  | first :: rest => String.ofList (lowerWord first ++ rest.flatMap capitalWord)

end RowSearch.Text
