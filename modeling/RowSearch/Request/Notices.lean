import RowSearch.Log.Level
import RowSearch.Request.Criteria

/-! # Notices of reading a request

What a request asks in vain is passed over in silence, except for the log: sort tokens without a
sign, items of a wrong kind, fields whose operator map is empty. Notices come in the order of
reading and stop where reading fails.
-/
namespace RowSearch

namespace Request

def debug (text : String) : Notice := ⟨.debug, .request, text⟩

def tokenNotices (token : String) : List Notice :=
  if (sortTerm? token).isSome then [] else [debug s!"dropping unprefixed sort token '{token}'"]

def sortNotices : Json → List Notice
  | .string token => tokenNotices token
  | .object _ => []
  | v => [debug s!"dropping sort entry {v.compact}"]

def orderNotices : Json → List Notice
  | .string text => if startsWithSign text then tokenNotices text else []
  | .array items => (items.takeWhile fun v => (itemTerms v).isOk).flatMap sortNotices
  | .object _ | .null => []
  | v => [debug s!"dropping order {v.compact}"]

def groupNotices (v : Json) : List Notice :=
  ((groupItems v).filter fun item => (groupTerm? item).isNone).map fun item =>
    debug s!"dropping group_by entry {item.compact}"

def fieldNotices (fields : Fields) : List Notice :=
  let readable := do
    let _ ← sectionEntries "wheres" fields
    let _ ← sectionEntries "having" fields
  if readable.isOk then
    let order := ((fields.get? "order").map orderNotices).getD []
    let groups := ((fields.get? "group_by").map groupNotices).getD []
    if (sectionTerms fields).isOk then order ++ groups else order
  else []

def notices : Json → List Notice
  | .object fields => fieldNotices fields
  | _ => []

end Request

namespace Entry

def fieldText (e : Entry) : String :=
  match e.key?, e.item with
  | some key, _ => key
  | none, .value v => ((v.get? "field").bind Json.string?).getD ""
  | none, _ => ""

def droppedNotice? (e : Entry) : Option Notice :=
  match e.condition with
  | .ok none =>
    some ⟨.debug, .normalizer, s!"dropping '{e.fieldText}': operator map has no operators"⟩
  | _ => none

end Entry

namespace Criteria

def entryNotices {α : Type} (read : Entry → Except SearchError α) (es : List Entry) :
    List Notice :=
  (es.takeWhile fun e => (read e).isOk).filterMap Entry.droppedNotice?

def notices (r : Request) : List Notice :=
  let wheres := entryNotices Entry.condition r.wheres
  if (wheresOf r.wheres).isOk then wheres ++ entryNotices Entry.havingCondition r.having
  else wheres

end Criteria
end RowSearch
