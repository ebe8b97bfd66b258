import RowSearch.Error

/-! # Fields and condition keys

A field is reached through relations: segments separated by `.` or `$`, the last of which is the
field. In a key, what follows the last `.` is the operator, up to the next `$`.
-/
namespace RowSearch

structure FieldPath where
  relations : List String
  field : String
deriving DecidableEq

namespace FieldPath

def column (field : String) : FieldPath := ⟨[], field⟩

def isSeparator (c : Char) : Bool := c == '.' || c == '$'

/-- The path of the given segments, blanks around them dropped. `source` is the text an error
names. -/
def ofSegments? (source : String) (segments : List (List Char)) : Except SearchError FieldPath :=
  let names := segments.map (Text.trimChars Text.isWhiteSpace)
  if names.any List.isEmpty then .error (.malformed source .emptySegment)
  else
    let names := names.map String.ofList
    .ok ⟨names.dropLast, names.getLastD ""⟩

def ofChars? (source : String) (cs : List Char) : Except SearchError FieldPath :=
  ofSegments? source (Text.splitChars isSeparator cs)

def parse? (text : String) : Except SearchError FieldPath := ofChars? text text.toList

def beforeArrow (text : String) : String :=
  String.ofList ((Text.before? ['-', '>'] text.toList).getD text.toList)

/-- The field of an entry that is not keyed. A suffix `->..` is dropped first. -/
def parsePositional? (text : String) : Except SearchError FieldPath := parse? (beforeArrow text)

def text (p : FieldPath) : String :=
  String.join (p.relations.map (· ++ ".")) ++ p.field

end FieldPath

/-- The key of a condition: a field and, after its last point, an operator. -/
structure ConditionKey where
  path : FieldPath
  operator? : Option String
deriving DecidableEq

def lastPoint? : List Char → Option (List Char × List Char)
  | [] => none
  | c :: cs =>
    match lastPoint? cs with
    | some (before, after) => some (c :: before, after)
    | none => if c = '.' then some ([], cs) else none

def ConditionKey.parse? (key : String) : Except SearchError ConditionKey :=
  match lastPoint? key.toList with
  | none => (FieldPath.parse? key).map (⟨·, none⟩)
  | some (before, after) =>
    let operator := Text.trimChars Text.isWhiteSpace (after.takeWhile (· ≠ '$'))
    if operator.isEmpty then .error (.malformed key .missingOperator)
    else (FieldPath.ofChars? key before).map (⟨·, some (String.ofList operator)⟩)

end RowSearch
