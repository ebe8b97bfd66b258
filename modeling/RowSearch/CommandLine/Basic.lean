import RowSearch.CommandLine.Arguments
import RowSearch.CommandLine.Failure
import RowSearch.Query.Encoding
import RowSearch.Search.Notices
import RowSearch.Template.Notices

/-! # The command line

A job reads its files, brings the request to criteria and prints the calls, the answer or the
number of rows. Whatever it does is noted on the way; the log shows what its level lets through.
-/
namespace RowSearch.CommandLine

structure Environment where
  file? : String → Option String
  setting? : String → Option String

/-- A computation that notes what it does and may fail; the notices up to a failure stay. -/
abbrev Noted (α : Type) := ExceptT Failure (StateM (List Notice)) α

def note (notices : List Notice) : Noted Unit := modify (· ++ notices)

def because {α : Type} (wrap : SearchError → Failure) (r : Except SearchError α) : Noted α :=
  match r with
  | .ok a => pure a
  | .error e => throw (wrap e)

/-! ## Settings -/

def readConfig (env : Environment) (path : String) : Except SearchError Config :=
  match env.file? path with
  | some text => Config.ofToml text
  | none => .error (.config .unreadable)

def loadConfig (env : Environment) (path? : Option String) : Except Failure Config :=
  let size? := env.setting? Config.pageSizeVariable
  match path? with
  | some path =>
    ((readConfig env path).bind (·.withPageSize size?)).mapError (.configNotLoaded path)
  | none => (({} : Config).withPageSize size?).mapError .overrideInvalid

def defaultLevel : LogLevel := .warn

/-- The level of the log: that of the command line, of the configuration or of the environment. -/
def logLevel (env : Environment) (config : Config) (text? : Option String) :
    Except Failure LogLevel :=
  match text? with
  | some text =>
    match LogLevel.ofText? text with
    | some level => .ok level
    | none => .error (.logLevelUnknown text)
  | none =>
    let environmentLevel? := (env.setting? Config.logVariable).bind LogLevel.ofText?
    .ok ((config.level?.or environmentLevel?).getD defaultLevel)

/-! ## Files -/

def readJson (env : Environment) (path : String) : Except Failure Json :=
  match env.file? path with
  | none => .error (.fileNotRead path)
  | some text =>
    match Json.parse? text with
    | some v => .ok v
    | none => .error (.notJson path)

def loadBound (env : Environment) (config : Config) (s : Source) (path : String) (input : Json) :
    Noted (Request × String) := do
  let directive ← because (.directiveInvalid path) (Directive.ofJson (← readJson env path))
  let model ← match s.model? with
    | some model => pure model
    | none => because .plain directive.model
  note (directive.bindNotices config input)
  let request ← because (.inputNotBound directive.field) (directive.bind config input)
  return (request, model)

def loadRequest (env : Environment) (config : Config) (s : Source) :
    Noted (Request × Option String) := do
  let input ← readJson env s.request
  match s.template? with
  | some path =>
    let (request, model) ← loadBound env config s path input
    return (request, some model)
  | none =>
    note (Request.notices input)
    return (← because (.requestInvalid s.request) (Request.ofJson input), s.model?)

def tableOf (f : String × Json) : Except Failure Table :=
  match f.2 with
  | .array rows => .ok (.ofRows f.1 rows)
  | _ => .error (.rowsNotList f.1)

def loadTables (env : Environment) (path : String) : Except Failure (List Table) := do
  match ← readJson env path with
  | .object fields => fields.mapM tableOf
  | _ => throw (.dataNotModels path)

def pickTable (tables : List Table) (model? : Option String) : Except Failure Table :=
  match model?, tables with
  | some model, tables =>
    match tables.find? (·.model.name == model) with
    | some t => .ok t
    | none => .error (.modelMissing model)
  | none, [t] => .ok t
  | none, _ => .error .modelNotChosen

def loadTable (env : Environment) (path : String) (model? : Option String) :
    Except Failure (Table × Registry) := do
  let tables ← loadTables env path
  return (← pickTable tables model?, Registry.ofModels (tables.map (·.model)))

/-! ## Jobs -/

def unnamedModel : String := "Model"

def compileModel (env : Environment) (name : String) (data? : Option String) :
    Except Failure (Model × Registry) :=
  match data? with
  | some path => (loadTable env path (some name)).map fun t => (t.1.model, t.2)
  | none => .ok ({ name }, [])

def compile (env : Environment) (config : Config) (s : Source) (data? : Option String) :
    Noted String := do
  let (request, model?) ← loadRequest env config s
  let (model, registry) ← compileModel env (model?.getD unnamedModel) data?
  note (Criteria.notices request)
  let criteria ← because .notNormalized (Criteria.ofRequest request)
  note (Plan.buildNotices criteria model registry)
  let plan ← because .notPlanned (Plan.build criteria model registry)
  note (Plan.callNotices (fun c => (Transcript.recordCall c).isOk) plan)
  match Transcript.record plan.calls with
  | (calls, none) => return (Transcript.toJson calls).indented
  | (_, some e) => throw (.plain e)

/-- What a caller who names answer fields will read; everything if none is named. -/
def projection (fields : List String) : Projection :=
  if fields.isEmpty then .all else .ofFields fields

def run (env : Environment) (config : Config) (s : Source) (data : String)
    (fields : List String) : Noted String := do
  let (request, model?) ← loadRequest env config s
  let (table, registry) ← loadTable env data model?
  let options : Search.Options := { projection := projection fields }
  note (Search.notices config registry table request options)
  let answer ← because (.searchFailed table.model.name)
    (Search.run config registry table request options)
  return answer.toJson.indented

def count (env : Environment) (config : Config) (s : Source) (data : String) : Noted String := do
  let (request, model?) ← loadRequest env config s
  let (table, registry) ← loadTable env data model?
  note (Search.queryNotices request table.model registry)
  let total ← because (.countFailed table.model.name) (Search.count registry table request)
  return toString total.toNat

def perform (env : Environment) (config : Config) : Job → Noted String
  | .compile s data? => compile env config s data?
  | .run s data fields => run env config s data fields
  | .count s data => count env config s data

/-! ## Outcomes -/

inductive Outcome where
  | misused
  | told (text : String)
  | done (log : List Notice) (output : String)
  | failed (log : List Notice) (f : Failure)

namespace Outcome

def code : Outcome → UInt8
  | .told _ | .done _ _ => 0
  | .failed _ _ => 1
  | .misused => 2

def output : Outcome → String
  | .told text => text
  | .done _ text => text ++ "\n"
  | .misused | .failed _ _ => ""

def log : Outcome → List Notice
  | .done log _ | .failed log _ => log
  | .misused | .told _ => []

end Outcome

def settings (env : Environment) (i : Invocation) : Except Failure (Config × LogLevel) := do
  let config ← loadConfig env i.config?
  return (config, ← logLevel env config i.logLevel?)

def Invocation.outcome (env : Environment) (i : Invocation) : Outcome :=
  match settings env i with
  | .error f => .failed [] f
  | .ok (config, level) =>
    let (result, notices) := (perform env config i.job).run.run []
    let log := notices.filter fun n => level.shows n.level
    match result with
    | .ok output => .done log output
    | .error f => .failed log f

def outcome (env : Environment) (args : List String) : Outcome :=
  match Invocation.ofArguments args with
  | .ok i => i.outcome env
  | .error .misused => .misused
  | .error (.told text) => .told text

end RowSearch.CommandLine
