import RowSearch.Json.Basic

/-! # Pages

What of an answer a caller will read decides its shape. Without a page the answer is all rows;
with one it is a page with the total, the total alone, or a page that only knows whether another
one follows. Counts are unsigned 64-bit words; sums and products that do not fit are cut to the
largest.
-/
namespace RowSearch

structure Projection where
  rows : Bool
  total : Bool
deriving DecidableEq

namespace Projection

def all : Projection := ⟨true, true⟩

def rowNames : List String := ["items", "data", "rows"]

def totalNames : List String := ["total", "total_count", "totalCount", "count"]

def ofFields (fields : List String) : Projection :=
  let leaves := fields.map fun field => (Text.pieces '.' field).getLastD ""
  ⟨leaves.any rowNames.contains, leaves.any totalNames.contains⟩

end Projection

inductive Shape where
  | rows
  | page
  | pageInfo
  | simplePage
deriving DecidableEq

namespace Shape

def name : Shape → String
  | .rows => "Rows"
  | .page => "Page"
  | .pageInfo => "PageInfo"
  | .simplePage => "SimplePage"

def of (page? : Option UInt64) (p : Projection) : Shape :=
  match page? with
  | none => .rows
  | some _ => if !p.total then .simplePage else if p.rows then .page else .pageInfo

end Shape

def maxCount : Nat := UInt64.size - 1

def saturate (n : Nat) : UInt64 := UInt64.ofNat (min n maxCount)

/-- The first size that is not zero, or the default. -/
def pageSize (conditions? request? : Option UInt64) (default : UInt64) : UInt64 :=
  ((conditions?.filter (· ≠ 0)).or (request?.filter (· ≠ 0))).getD default

/-- A page by its number, from one on, and its size. -/
structure PageWindow where
  page : UInt64
  size : UInt64
deriving DecidableEq

namespace PageWindow

def of (page size : UInt64) : PageWindow := ⟨if page = 0 then 1 else page, size⟩

def offset (w : PageWindow) : UInt64 := saturate ((w.page.toNat - 1) * w.size.toNat)

def hasMore (w : PageWindow) (total : UInt64) : Bool :=
  saturate (w.offset.toNat + w.size.toNat) < total

end PageWindow

inductive Answer where
  | rows (rows : List Json)
  | page (rows : List Json) (total : UInt64) (window : PageWindow) (hasMore : Bool)
  | pageInfo (total : UInt64) (window : PageWindow) (hasMore : Bool)
  | simplePage (rows : List Json) (window : PageWindow) (hasMore : Bool)

namespace Answer

def shownRows : Answer → List Json
  | .rows found | .page found _ _ _ | .simplePage found _ _ => found
  | .pageInfo _ _ _ => []

def total? : Answer → Option UInt64
  | .rows found => some (UInt64.ofNat found.length)
  | .page _ total _ _ | .pageInfo total _ _ => some total
  | .simplePage _ _ _ => none

def shape : Answer → Shape
  | .rows _ => .rows
  | .page _ _ _ _ => .page
  | .pageInfo _ _ _ => .pageInfo
  | .simplePage _ _ _ => .simplePage

def windowFields (w : PageWindow) (hasMore : Bool) : Fields :=
  [("page", .count w.page), ("page_size", .count w.size), ("has_more", .bool hasMore)]

def toJson : Answer → Json
  | .rows found => .object [("kind", .string "rows"), ("rows", .array found)]
  | .page found total w hasMore =>
    .object ([("kind", .string "page"), ("rows", .array found), ("total_count", .count total)]
      ++ windowFields w hasMore)
  | .pageInfo total w hasMore =>
    .object ([("kind", .string "page_info"), ("total_count", .count total)]
      ++ windowFields w hasMore)
  | .simplePage found w hasMore =>
    .object ([("kind", .string "simple_page"), ("rows", .array found)] ++ windowFields w hasMore)

end Answer
end RowSearch
