import RowSearch.Request.Notices
import RowSearch.Template.Directive

/-! # Notices of binding a directive

Sorts of the input that give no term are passed over in silence, except for the log; the last
notice counts what was bound.
-/
namespace RowSearch.Directive

def debug (text : String) : Notice := ⟨.debug, .generator, text⟩

def itemNotices : Json → List Notice
  | .string token => Request.tokenNotices token
  | v => [debug s!"dropping sort entry {v.compact}"]

def sortNotices : Json → List Notice
  | .string token => Request.tokenNotices token
  | .array items => items.flatMap itemNotices
  | .null => []
  | v => [debug s!"dropping {(TemplateValue.value v).kind} in order"]

def boundNotice (r : Request) : Notice :=
  debug s!"bound {r.wheres.length} wheres, {r.having.length} having, {r.order.length} sorts"

def inputSorts (input : Input) : List Json :=
  let (_, rest) := Template.takePaging ({} : Template).pageAliases input.flatten
  (Template.takeSorts rest).1

def bindNotices (d : Directive) (config : Config) (v : Json) : List Notice :=
  let sorts := match Input.ofJson v with
    | .ok input => (inputSorts input).flatMap sortNotices
    | .error _ => []
  let bound := match d.bind config v with
    | .ok r => [boundNotice r]
    | .error _ => []
  sorts ++ bound

end RowSearch.Directive
