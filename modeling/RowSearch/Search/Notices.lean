import RowSearch.Plan.Notices
import RowSearch.Request.Notices
import RowSearch.Search.Basic

/-! # Notices of a search

What is passed over on the way to the query, then the page that is asked for, and at last what
was found.
-/
namespace RowSearch.Search

def works (c : Call) : Bool := ({} : Query).call c |>.2.isNone

def planNotices (r : Request) (m : Model) (registry : Registry) : List Notice :=
  let planned := match Criteria.ofRequest r with
    | .ok c => Plan.buildNotices c m registry
    | .error _ => []
  Criteria.notices r ++ planned

def queryNotices (r : Request) (m : Model) (registry : Registry) : List Notice :=
  let made := match plan r m registry with
    | .ok p => Plan.callNotices works p
    | .error _ => []
  planNotices r m registry ++ made

def windowNotices (config : Config) (t : Table) (r : Request) (options : Options) : List Notice :=
  match r.page? with
  | none => []
  | some page =>
    let w := window config r page options
    let shape := Shape.of r.page? options.projection
    [⟨.debug, .search, s!"{t.model.name}: page {w.page} of size {w.size} as {shape.name}"⟩]

def totalText : Option UInt64 → String
  | some total => s!"Some({total})"
  | none => "None"

def answerText (a : Answer) : String :=
  let found := s!"{a.shownRows.length} rows"
  match a.shape with
  | .rows => found
  | _ => s!"{found}, total {totalText a.total?}"

def answerNotice (t : Table) (a : Answer) : Notice :=
  ⟨.info, .search, s!"{t.model.name}: {answerText a}"⟩

def notices (config : Config) (registry : Registry) (t : Table) (r : Request)
    (options : Options) : List Notice :=
  let asked :=
    if (query r t.model registry).isOk then windowNotices config t r options else []
  let answered := match run config registry t r options with
    | .ok a => [answerNotice t a]
    | .error _ => []
  queryNotices r t.model registry ++ asked ++ answered

end RowSearch.Search
