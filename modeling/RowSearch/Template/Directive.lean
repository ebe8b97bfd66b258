import RowSearch.Template.Basic

/-! # List directives

A directive declares a list field: its type, which names the model, and fixed arguments. As a
template it filters by every truthy argument, those of the input over the fixed ones.
-/
namespace RowSearch

structure Directive where
  field : String
  returnType : String
  model? : Option String := none
  args : Fields := []

namespace Directive

def ofJson (v : Json) : Except SearchError Directive :=
  match v with
  | .object fields =>
    let text? (key : String) : Option String := (Fields.get? key fields).bind Json.string?
    let directive (args : Fields) : Directive := {
      field := (text? "field").getD ""
      returnType := (text? "type").getD ""
      model? := (text? "model").filter fun m => !(Text.trim m).isEmpty
      args }
    match Fields.get? "args" fields with
    | some (.object args) => .ok (directive args)
    | some .null | none => .ok (directive [])
    | some other => .error (.invalidTemplate (.argsNotObject other))
  | _ => .error (.invalidTemplate .directiveNotObject)

def typeSuffixes : List String := ["Paginator", "Connection"]

/-- What stands before a suffix, wherever it is; the whole name without it. -/
def beforeSuffix (name : List Char) (suffix : String) : List Char :=
  (Text.before? suffix.toList name).getD name

def isTypeMark (c : Char) : Bool := c == '[' || c == ']' || c == '!'

/-- The model of a type: its name without list and non-null marks, up to a suffix. -/
def typeModel (type : String) : String :=
  String.ofList (typeSuffixes.foldl beforeSuffix (Text.trimChars isTypeMark type.toList))

def model (d : Directive) : Except SearchError String :=
  match d.model? with
  | some m => .ok m
  | none =>
    let m := typeModel d.returnType
    if m.isEmpty then .error (.missingModel d.field) else .ok m

def paginatorKey : String := "paginator"

/-- The fixed arguments with those of the input over them. -/
def merged (d : Directive) (input : Input) : Fields := Fields.insertAll input.fields d.args

/-- The filters: every truthy argument under its name. -/
def filters (d : Directive) (input : Input) : List TemplateEntry :=
  (((d.merged input).erase paginatorKey).filter (·.2.truthy)).map fun f => (some f.1, .value f.2)

def template (d : Directive) : Template where
  wheres := d.filters

def bind (d : Directive) (config : Config) (input : Json) : Except SearchError Request :=
  d.template.bind config [] input

end Directive
end RowSearch
