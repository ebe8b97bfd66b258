import RowSearch.Config
import RowSearch.Plan.Basic
import RowSearch.Query.Table
import RowSearch.Search.Page

/-! # Searches

A search brings a request to criteria, plans them for the table's model, builds the query and
answers it, as a page if the request names one. A page that knows no total asks for one row more
than it shows.
-/
namespace RowSearch.Search

structure Options where
  projection : Projection := .all
  /-- The page size of the caller, used where the request names none. -/
  pageSize? : Option UInt64 := none

def plan (r : Request) (m : Model) (registry : Registry) : Except SearchError Plan := do
  Plan.build (← Criteria.ofRequest r) m registry

def query (r : Request) (m : Model) (registry : Registry) : Except SearchError Query := do
  Query.ofCalls (← plan r m registry).calls

def window (config : Config) (r : Request) (page : UInt64) (options : Options) : PageWindow :=
  .of page (pageSize r.pageSize? options.pageSize? config.defaultPageSize)

def answerPage (q : Query) (rows : List Json) (w : PageWindow) (shape : Shape) :
    Except SearchError Answer := do
  let q := { q with offset := w.offset }
  match shape with
  | .simplePage =>
    let found ← { q with limit? := some (saturate (w.size.toNat + 1)) }.fetch rows
    return .simplePage (found.take w.size.toNat) w (w.size.toNat < found.length)
  | .page =>
    let total ← q.count rows
    let found ← { q with limit? := some w.size }.fetch rows
    return .page found total w (w.hasMore total)
  | _ =>
    let total ← q.count rows
    return .pageInfo total w (w.hasMore total)

def run (config : Config) (registry : Registry) (t : Table) (r : Request) (options : Options) :
    Except SearchError Answer := do
  let q ← query r t.model registry
  match r.page? with
  | none => return .rows (← q.fetch t.rows)
  | some page =>
    answerPage q t.rows (window config r page options) (.of r.page? options.projection)

/-- The number of rows a request finds, whatever its page. -/
def count (registry : Registry) (t : Table) (r : Request) : Except SearchError UInt64 := do
  (← query r t.model registry).count t.rows

end RowSearch.Search
