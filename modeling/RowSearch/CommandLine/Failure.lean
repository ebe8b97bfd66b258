import RowSearch.Error

/-! # Failures of the command line

A failure says what the program was doing; its cause, where there is one, says what went wrong.
-/
namespace RowSearch.CommandLine

inductive Failure where
  | configNotLoaded (path : String) (cause : SearchError)
  | overrideInvalid (cause : SearchError)
  | logLevelUnknown (text : String)
  | fileNotRead (path : String)
  | notJson (path : String)
  | requestInvalid (path : String) (cause : SearchError)
  | directiveInvalid (path : String) (cause : SearchError)
  | inputNotBound (field : String) (cause : SearchError)
  | dataNotModels (path : String)
  | rowsNotList (model : String)
  | modelMissing (model : String)
  | modelNotChosen
  | notNormalized (cause : SearchError)
  | notPlanned (cause : SearchError)
  | searchFailed (model : String) (cause : SearchError)
  | countFailed (model : String) (cause : SearchError)
  /-- An error that stands for itself. -/
  | plain (e : SearchError)

namespace Failure

def message : Failure → String
  | .configNotLoaded path _ => s!"Failed to load config: {path}"
  | .overrideInvalid _ => "Invalid environment override"
  | .logLevelUnknown text => s!"Unknown log level: {text}"
  | .fileNotRead path => s!"Failed to read file: {path}"
  | .notJson path => s!"Invalid JSON in file: {path}"
  | .requestInvalid path _ => s!"Invalid request in: {path}"
  | .directiveInvalid path _ => s!"Invalid directive in: {path}"
  | .inputNotBound field _ => s!"Failed to bind input to '{field}'"
  | .dataNotModels path => s!"Data file must be an object of models: {path}"
  | .rowsNotList model => s!"Model '{model}' must be an array of rows"
  | .modelMissing model => s!"Model '{model}' not found in data file"
  | .modelNotChosen => "--model required when the data file holds several models"
  | .notNormalized _ => "Failed to normalize request"
  | .notPlanned _ => "Failed to plan request"
  | .searchFailed model _ => s!"Search on '{model}' failed"
  | .countFailed model _ => s!"Count on '{model}' failed"
  | .plain e => e.message?.getD ""

def cause? : Failure → Option SearchError
  | .configNotLoaded _ e | .overrideInvalid e | .requestInvalid _ e | .directiveInvalid _ e
  | .inputNotBound _ e | .notNormalized e | .notPlanned e | .searchFailed _ e
  | .countFailed _ e => some e
  | .logLevelUnknown _ | .fileNotRead _ | .notJson _ | .dataNotModels _ | .rowsNotList _
  | .modelMissing _ | .modelNotChosen | .plain _ => none

def causeText? (f : Failure) : Option String := f.cause?.bind SearchError.message?

end Failure
end RowSearch.CommandLine
