import RowSearch.Raw.Token

/-! # Failures of a search

Each constructor is a cause; `SearchError.message` is the only place that words them.
-/
namespace RowSearch

inductive ConditionFault where
  | emptySegment
  | missingOperator
  | notEntries (v : Json)
  | entryNotObject (v : Json)
  | scopeNameNotText
  | rawNotText
  | unknownDirection (text : String)
  | missingField
  | operatorsExpected (v : Json)
  | missingOperators
  | unsupportedEntry (v : Json)
  | notPositional
  | notForHaving (kind : String)

def ConditionFault.message : ConditionFault → String
  | .emptySegment => "empty path segment"
  | .missingOperator => "missing operator after '.'"
  | .notEntries v => s!"expected a map or a list of entries, got {v.compact}"
  | .entryNotObject v => s!"positional entries must be objects, got {v.compact}"
  | .scopeNameNotText => "scope name must be a string"
  | .rawNotText => "raw expression must be a string"
  | .unknownDirection text => s!"unknown sort direction '{text}'"
  | .missingField => "structured entries need a string 'field'"
  | .operatorsExpected v => s!"operator map expected, got {v.compact}"
  | .missingOperators => "missing operator map 'value'"
  | .unsupportedEntry v => s!"unsupported positional entry {v.compact}"
  | .notPositional => "callbacks, raw expressions and scopes must be positional"
  | .notForHaving kind => s!"having does not accept {kind} conditions"

inductive TemplateFault where
  | unresolved (hops : Nat)
  | entryKind (label kind : String)
  | entryNotInput (v : Json)
  | directiveNotObject
  | argsNotObject (v : Json)

def TemplateFault.message : TemplateFault → String
  | .unresolved hops => s!"template value still unresolved after {hops} producer calls"
  | .entryKind label kind => s!"where entry '{label}' resolved to a {kind}"
  | .entryNotInput v => s!"positional where entry must name an input, got {v.compact}"
  | .directiveNotObject => "list directive must be a JSON object"
  | .argsNotObject v => s!"directive args must be an object, got {v.compact}"

inductive QueryFault where
  | requestNotObject
  | inputNotObject (v : Json)
  | unsupportedOperator (text : String)
  | patternNotScalar (operator : String) (v : Json)
  | raw (sql : String) (fault : Raw.Fault)
  | refused (message : String)

def QueryFault.message : QueryFault → String
  | .requestNotObject => "search request must be a JSON object"
  | .inputNotObject v => s!"request input must be an object, got {v.compact}"
  | .unsupportedOperator text => s!"Unsupported operator: {text}"
  | .patternNotScalar operator v => s!"{operator} needs a scalar pattern, got {v.compact}"
  | .raw sql fault => s!"Cannot evaluate raw expression '{sql}': {fault.message}"
  | .refused message => message

inductive ConfigFault where
  | zeroPageSize
  | unknownLogLevel (text : String)
  | pageSizeNotInteger (name text : String)
  | unreadable

def ConfigFault.message? : ConfigFault → Option String
  | .zeroPageSize => some "default_page_size must be greater than zero"
  | .unknownLogLevel text => some s!"Unknown log level '{text}'"
  | .pageSizeNotInteger name text => some s!"{name} must be an integer, got '{text}'"
  | .unreadable => none

inductive SearchError where
  | malformed (key : String) (fault : ConditionFault)
  | scopeNotFound (scope model : String)
  | missingModel (field : String)
  | invalidTemplate (fault : TemplateFault)
  | invalidQuery (fault : QueryFault)
  | config (fault : ConfigFault)
  | unreadable

def directiveName : String := "getlist"

/-- The wording of an error; none where a document or configuration text cannot be read. -/
def SearchError.message? : SearchError → Option String
  | .malformed key fault => some s!"Malformed condition '{key}': {fault.message}"
  | .scopeNotFound scope model => some s!"Scope '{scope}' not found on model '{model}'"
  | .missingModel field =>
    some (s!"Missing model argument: a `model` argument must be assigned to the " ++
      s!"'{directiveName}' directive on '{field}'")
  | .invalidTemplate fault => some s!"Invalid template: {fault.message}"
  | .invalidQuery fault => some s!"Invalid query: {fault.message}"
  | .config fault => fault.message?.map fun m => s!"Config error: {m}"
  | .unreadable => none

end RowSearch
