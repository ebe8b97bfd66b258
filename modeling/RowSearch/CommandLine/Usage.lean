import RowSearch.CommandLine.Options

/-! # Help

The help of the program lists its commands and options, that of a command its options. The column
of explanations starts two blanks after the longest entry.
-/
namespace RowSearch.CommandLine

def programName : String := "searchplan"

def versionText : String := s!"{programName} 0.1.0\n"

def OptionName.placeholder : OptionName → String
  | .config => "CONFIG"
  | .logLevel => "LOG_LEVEL"
  | .request => "REQUEST"
  | .template => "TEMPLATE"
  | .model => "MODEL"
  | .data => "DATA"
  | .fields => "FIELDS"

def OptionName.shown (o : OptionName) : String := s!"--{o.word} <{o.placeholder}>"

def OptionName.summary (c? : Option Command) : OptionName → String
  | .config => "TOML config file"
  | .logLevel => "error, warn, info, debug or trace"
  | .request => "Request JSON file (a search request, or raw input when --template is set)"
  | .template => "List directive JSON file: \x7b\"field\", \"type\", \"model\", \"args\"\x7d"
  | .model => "Model to search; defaults to the directive's model"
  | .data =>
    match c? with
    | some .run => "Data file: \x7b \"Model\": [rows...], ... \x7d"
    | some .compile => "Data file whose rows provide the model's columns"
    | _ => ""
  | .fields => "Result fields to produce, e.g. items,total"

def Command.summary : Command → String
  | .compile => "Print the query-builder operations a request compiles to"
  | .run => "Run a request against JSON data"
  | .count => "Count matching rows, ignoring paging"

def columns (rows : List (String × String)) : String :=
  let width := (rows.map fun r => r.1.length).foldl max 0
  let line (r : String × String) : String :=
    let gap := String.ofList (List.replicate (width - r.1.length + 2) ' ')
    if r.2.isEmpty then r.1 else r.1 ++ gap ++ r.2
  "\n".intercalate (rows.map line)

def optionRows (c? : Option Command) (options : List OptionName) : List (String × String) :=
  options.map (fun o => ("      " ++ o.shown, o.summary c?)) ++ [("  -h, --help", "Print help")]

def programHelp : String :=
  let commands := Command.all.map fun c => ("  " ++ c.word, c.summary)
  let help := ("  help", "Print this message or the help of the given subcommand(s)")
  let options := optionRows none sharedOptions ++ [("  -V, --version", "Print version")]
  "searchplan CLI - compile search requests into query operations and run them\n\n" ++
    s!"Usage: {programName} [OPTIONS] <COMMAND>\n\n" ++
    s!"Commands:\n{columns (commands ++ [help])}\n\nOptions:\n{columns options}\n"

def Command.help (c : Command) : String :=
  let needed := String.join (c.required.map fun o => " " ++ o.shown)
  s!"{c.summary}\n\nUsage: {programName} {c.word} [OPTIONS]{needed}\n\n" ++
    s!"Options:\n{columns (optionRows (some c) c.options)}\n"

end RowSearch.CommandLine
