import RowSearch.CommandLine.Usage
import RowSearch.Text.Split

/-! # Arguments of the command line

Options may stand before the command, where only the shared ones are known, and after it. Given
on both sides, a shared option takes its value from behind the command. What is wrong first
decides: arguments are read from left to right, and missing options are looked for last.
-/
namespace RowSearch.CommandLine

inductive Stop where
  | misused
  | told (text : String)

inductive Argument where
  /-- Two dashes: no option follows. -/
  | escape
  | long (name : String) (value? : Option String)
  | short (letter : Char)
  | word (text : String)

def Argument.ofText (text : String) : Argument :=
  match text.toList with
  | ['-', '-'] => .escape
  | '-' :: '-' :: cs =>
    match Text.before? ['='] cs with
    | some name => .long (String.ofList name) (some (String.ofList (cs.drop (name.length + 1))))
    | none => .long (String.ofList cs) none
  | '-' :: c :: _ => .short c
  | _ => .word text

abbrev Given := List (OptionName × String)

namespace Given

def value? (g : Given) (o : OptionName) : Option String := g.lookup o

def add (g : Given) (o : OptionName) (v : String) : Except Stop Given :=
  if o.namesFile && v.isEmpty then .error .misused
  else if (g.value? o).isSome && !o.repeats then .error .misused
  else .ok (g ++ [(o, v)])

end Given

structure Level where
  options : List OptionName
  help : String
  version? : Option String

namespace Level

def program : Level := ⟨sharedOptions, programHelp, some versionText⟩

def ofCommand (c : Command) : Level := ⟨c.options, c.help, none⟩

def option? (l : Level) (name : String) : Option OptionName :=
  l.options.find? (·.word == name)

def versionStop (l : Level) : Stop :=
  match l.version? with
  | some text => .told text
  | none => .misused

/-- Reads options up to the first word; what is left starts with that word. -/
def read (l : Level) (given : Given) : List String → Except Stop (Given × List String)
  | [] => .ok (given, [])
  | text :: rest =>
    match Argument.ofText text with
    | .escape => if rest.isEmpty then .ok (given, []) else .error .misused
    | .short letter =>
      if letter = 'h' then .error (.told l.help)
      else if letter = 'V' then .error l.versionStop
      else .error .misused
    | .word _ => .ok (given, text :: rest)
    | .long name value? =>
      match l.option? name, value?, rest with
      | some o, some v, rest =>
        match given.add o v with
        | .ok given => read l given rest
        | .error stop => .error stop
      | some o, none, v :: rest =>
        match Argument.ofText v with
        | .word _ =>
          match given.add o v with
          | .ok given => read l given rest
          | .error stop => .error stop
        | _ => .error .misused
      | some _, none, [] => .error .misused
      | none, some _, _ => .error .misused
      | none, none, _ =>
        if name = "help" then .error (.told l.help)
        else if name = "version" then .error l.versionStop
        else .error .misused

end Level

structure Source where
  request : String
  template? : Option String
  model? : Option String

inductive Job where
  | compile (source : Source) (data? : Option String)
  | run (source : Source) (data : String) (fields : List String)
  | count (source : Source) (data : String)

structure Invocation where
  config? : Option String
  logLevel? : Option String
  job : Job

def helpStop : List String → Stop
  | [] => .told programHelp
  | [word] =>
    match Command.ofWord? word with
    | some c => .told c.help
    | none => if word = "help" then .told programHelp else .misused
  | _ => .misused

def fieldNames (g : Given) : List String :=
  (g.filter (·.1 = .fields)).flatMap fun f => Text.pieces ',' f.2

def job? (c : Command) (g : Given) : Option Job := do
  let source : Source := ⟨← g.value? .request, g.value? .template, g.value? .model⟩
  match c with
  | .compile => return .compile source (g.value? .data)
  | .run => return .run source (← g.value? .data) (fieldNames g)
  | .count => return .count source (← g.value? .data)

def commandInvocation (before : Given) (c : Command) (args : List String) :
    Except Stop Invocation :=
  match (Level.ofCommand c).read [] args with
  | .ok (after, []) =>
    match job? c after with
    | some job =>
      let shared (o : OptionName) : Option String := (after.value? o).or (before.value? o)
      .ok ⟨shared .config, shared .logLevel, job⟩
    | none => .error .misused
  | .ok _ => .error .misused
  | .error stop => .error stop

def Invocation.ofArguments (args : List String) : Except Stop Invocation :=
  match Level.program.read [] args with
  | .ok (before, word :: rest) =>
    match Command.ofWord? word with
    | some c => commandInvocation before c rest
    | none => .error (if word = "help" then helpStop rest else .misused)
  | .ok (_, []) => .error .misused
  | .error stop => .error stop

end RowSearch.CommandLine
