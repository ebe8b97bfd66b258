import RowSearch.Query.Transcript

/-! # Transcripts as documents

Every recorded call is an object that names the call first. A fragment among the terms of an
order or a grouping shows its bindings only if it has any; a call of its own always does.
-/
namespace RowSearch

def Connective.toJson (join : Connective) : Json := .string join.keyword

def Direction.toJson (direction : Direction) : Json := .string direction.keyword

namespace Fragment

def fields (f : Fragment) : Fields := [("sql", .string f.sql), ("bindings", .array f.bindings)]

def toJson (f : Fragment) : Json :=
  .object (if f.bindings.isEmpty then [("sql", .string f.sql)] else f.fields)

end Fragment

def OrderTerm.toJson : OrderTerm → Json
  | .column field direction =>
    .object [("field", .string field), ("direction", direction.toJson)]
  | .raw fragment => fragment.toJson

def GroupTerm.toJson : GroupTerm → Json
  | .column name => .string name
  | .raw fragment => fragment.toJson

namespace Transcript

mutual

def callJson : Recorded → Json
  | .compare join field operator value =>
    .object [("op", .string "where"), ("boolean", join.toJson), ("field", .string field),
      ("operator", .string operator), ("value", value)]
  | .oneOf join field values =>
    .object [("op", .string "where_in"), ("boolean", join.toJson), ("field", .string field),
      ("values", .array values)]
  | .noneOf join field values =>
    .object [("op", .string "where_not_in"), ("boolean", join.toJson), ("field", .string field),
      ("values", .array values)]
  | .isNull join field =>
    .object [("op", .string "where_null"), ("boolean", join.toJson), ("field", .string field)]
  | .notNull join field =>
    .object [("op", .string "where_not_null"), ("boolean", join.toJson),
      ("field", .string field)]
  | .group join body =>
    .object [("op", .string "where_group"), ("boolean", join.toJson),
      ("ops", .array (callsJson body))]
  | .has relation body =>
    .object [("op", .string "where_has"), ("relation", .string relation),
      ("ops", .array (callsJson body))]
  | .raw join fragment =>
    .object ([("op", .string "where_raw"), ("boolean", join.toJson)] ++ fragment.fields)
  | .orderBy field direction =>
    .object [("op", .string "order_by"), ("field", .string field),
      ("direction", direction.toJson)]
  | .orderByRaw fragment => .object (("op", .string "order_by_raw") :: fragment.fields)
  | .groupBy groups =>
    .object [("op", .string "group_by"), ("groups", .array (groups.map GroupTerm.toJson))]
  | .havingRaw join fragment =>
    .object ([("op", .string "having_raw"), ("boolean", join.toJson)] ++ fragment.fields)
  | .skip count => .object [("op", .string "skip"), ("offset", .count count)]
  | .take count => .object [("op", .string "take"), ("limit", .count count)]

def callsJson : List Recorded → List Json
  | [] => []
  | r :: rs => callJson r :: callsJson rs

end

def toJson (t : Transcript) : Json := .array (callsJson t)

end Transcript
end RowSearch
