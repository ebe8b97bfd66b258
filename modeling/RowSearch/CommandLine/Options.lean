/-! # Options of the command line

Options take one value each. Those that name a file need a name that is not empty; only the list
of answer fields may be given more than once.
-/
namespace RowSearch.CommandLine

inductive OptionName where
  | config
  | logLevel
  | request
  | template
  | model
  | data
  | fields
deriving DecidableEq

namespace OptionName

def word : OptionName → String
  | .config => "config"
  | .logLevel => "log-level"
  | .request => "request"
  | .template => "template"
  | .model => "model"
  | .data => "data"
  | .fields => "fields"

def namesFile : OptionName → Bool
  | .config | .request | .template | .data => true
  | .logLevel | .model | .fields => false

def repeats (o : OptionName) : Bool := o = .fields

end OptionName

inductive Command where
  | compile
  | run
  | count
deriving DecidableEq

namespace Command

def all : List Command := [.compile, .run, .count]

def word : Command → String
  | .compile => "compile"
  | .run => "run"
  | .count => "count"

def ofWord? (text : String) : Option Command := all.find? (·.word == text)

end Command

def sharedOptions : List OptionName := [.config, .logLevel]

namespace Command

def options (c : Command) : List OptionName :=
  let fields : List OptionName := if c = .run then [.fields] else []
  [.config, .request, .logLevel, .template, .model, .data] ++ fields

def required (c : Command) : List OptionName :=
  if c = .compile then [.request] else [.request, .data]

end Command
end RowSearch.CommandLine
