import RowSearch.Error
import RowSearch.Log.Level
import RowSearch.Toml.Document

/-! # Configuration

The page size to use where nobody names one, whether requests without paging get a page, and the
log level. A configuration is valid when its page size is not zero and its log level is known.
-/
namespace RowSearch

structure Config where
  defaultPageSize : UInt64 := 15
  paginateByDefault : Bool := false
  logLevel? : Option String := none

namespace Config

def pageSizeVariable : String := "SEARCHPLAN_PAGE_SIZE"

def logVariable : String := "SEARCHPLAN_LOG"

def validate (c : Config) : Except SearchError Config :=
  if c.defaultPageSize = 0 then .error (.config .zeroPageSize)
  else match c.logLevel? with
    | some text =>
      if (LogLevel.ofText? text).isSome then .ok c else .error (.config (.unknownLogLevel text))
    | none => .ok c

def level? (c : Config) : Option LogLevel := c.logLevel?.bind LogLevel.ofText?

/-- A field of a document, or its default; none if it has the wrong type. -/
def field? {α : Type} (t : Toml.Table) (key : String) (default : α)
    (read : Toml.Value → Option α) : Option α :=
  match t.lookup key with
  | none => some default
  | some (.value v) => read v
  | some _ => none

def ofDocument? (t : Toml.Table) : Option Config := do
  let defaults : Config := {}
  let defaultPageSize ← field? t "default_page_size" defaults.defaultPageSize fun
    | .scalar (.integer n) => if 0 ≤ n then some (UInt64.ofNat n.toNat) else none
    | _ => none
  let paginateByDefault ← field? t "paginate_by_default" defaults.paginateByDefault fun
    | .scalar (.boolean b) => some b
    | _ => none
  let logLevel? ← field? t "log_level" none fun
    | .string s => some (some s)
    | _ => none
  return { defaultPageSize, paginateByDefault, logLevel? }

def ofToml (text : String) : Except SearchError Config :=
  match (Toml.parse? text).bind ofDocument? with
  | some c => c.validate
  | none => .error (.config .unreadable)

def withPageSize (c : Config) (value? : Option String) : Except SearchError Config :=
  match value? with
  | none => c.validate
  | some text =>
    match Json.readCount? (Text.trimChars Text.isWhiteSpace text.toList) with
    | some n => { c with defaultPageSize := n }.validate
    | none => .error (.config (.pageSizeNotInteger pageSizeVariable text))

end Config
end RowSearch
