import RowSearch.Toml.Table

/-! # Configuration texts

A text of lines `key = value`, grouped into tables by headers in brackets. A text that breaks a
rule, of the lines or of the tables they make, has no document. Arrays and inline tables may nest
up to a given depth, and keys have no more parts than that.
-/
namespace RowSearch.Toml

/-- The deepest nesting of arrays and inline tables, and the most parts of a key. -/
abbrev nestingLimit : Nat := 127

def isBareKeyChar (c : Char) : Bool := c.isAlphanum || c == '_' || c == '-'

def skipLineBlanks (cs : List Char) : List Char := cs.dropWhile isLineBlank

def keyPart? (cs : List Char) : Option (String × List Char) :=
  match cs with
  | '"' :: rest => basicString? [] rest (cs.length + 1)
  | '\'' :: rest => literalString? [] rest
  | cs =>
    let run := cs.takeWhile isBareKeyChar
    if run.isEmpty then none else some (String.ofList run, cs.dropWhile isBareKeyChar)

def keyPath? (cs : List Char) : Nat → Option (List String × List Char)
  | 0 => none
  | fuel + 1 => do
    let (part, rest) ← keyPart? (skipLineBlanks cs)
    match skipLineBlanks rest with
    | '.' :: rest =>
      let (parts, rest) ← keyPath? rest fuel
      return (part :: parts, rest)
    | rest => return ([part], rest)

def key? (cs : List Char) : Option (List String × List Char) :=
  (keyPath? cs (cs.length + 1)).filter (·.1.length ≤ nestingLimit)

def skipComment? (cs : List Char) : Option (List Char) :=
  match cs with
  | '#' :: rest =>
    let text := rest.takeWhile fun c => c != '\n' && c != '\r'
    if text.any isControl then none else some (rest.drop text.length)
  | cs => some cs

def skipLines? (cs : List Char) : Nat → Option (List Char)
  | 0 => none
  | fuel + 1 => do
    let rest ← skipComment? (skipLineBlanks cs)
    match lineBreak? rest with
    | some rest => skipLines? rest fuel
    | none => return rest

def endOfLine? (cs : List Char) : Option (List Char) := do
  let rest ← skipComment? (skipLineBlanks cs)
  if rest.isEmpty then some [] else lineBreak? rest

mutual

/-- A value, in which containers may nest up to `depth`. Every call takes a unit of fuel. -/
def value? (depth : Nat) (cs : List Char) : Nat → Option (Value × List Char)
  | 0 => none
  | fuel + 1 =>
    match cs with
    | '"' :: _ | '\'' :: _ => (string? cs).map fun r => (.string r.1, r.2)
    | '[' :: rest =>
      match depth with
      | 0 => none
      | depth + 1 => (items? depth rest fuel).map (.array, ·)
    | '{' :: rest =>
      match depth, skipLineBlanks rest with
      | 0, _ => none
      | _ + 1, '}' :: rest => some (.inlineTable [], rest)
      | depth + 1, rest => (fields? depth [] rest fuel).map fun r => (.inlineTable r.1, r.2)
    | cs => do
      let (run, rest) := scalarRun cs
      let s ← scalar? run
      return (.scalar s, rest)

def items? (depth : Nat) (cs : List Char) : Nat → Option (List Char)
  | 0 => none
  | fuel + 1 => do
    match ← skipLines? cs (cs.length + 1) with
    | ']' :: rest => return rest
    | cs =>
      let (_, rest) ← value? depth cs fuel
      match ← skipLines? rest (rest.length + 1) with
      | ',' :: rest => items? depth rest fuel
      | ']' :: rest => return rest
      | _ => none

/-- The fields of an inline table up to its closing brace, added to those before. -/
def fields? (depth : Nat) (fields : List (String × Value)) (cs : List Char) :
    Nat → Option (List (String × Value) × List Char)
  | 0 => none
  | fuel + 1 => do
    let (path, rest) ← key? cs
    let '=' :: rest := rest | none
    let (v, rest) ← value? depth (skipLineBlanks rest) fuel
    let fields ← addField v path fields
    match skipLineBlanks rest with
    | ',' :: rest => fields? depth fields rest fuel
    | '}' :: rest => return (fields, rest)
    | _ => none

end

def header? (closing : List Char) (cs : List Char) : Option (List String × List Char) := do
  let (path, rest) ← key? cs
  if rest.take closing.length = closing then some (path, rest.drop closing.length) else none

/-- The lines of a text. `here` is the path of the table that is open. -/
def lines? (here : List String) (t : Table) (cs : List Char) : Nat → Option Table
  | 0 => none
  | fuel + 1 => do
    match ← skipLines? cs (cs.length + 1) with
    | [] => return t
    | '[' :: '[' :: rest =>
      let (path, rest) ← header? [']', ']'] rest
      lines? path (← openNext path t) (← endOfLine? rest) fuel
    | '[' :: rest =>
      let (path, rest) ← header? [']'] rest
      lines? path (← openTable path t) (← endOfLine? rest) fuel
    | cs =>
      let (path, rest) ← key? cs
      let '=' :: rest := rest | none
      let (v, rest) ← value? nestingLimit (skipLineBlanks rest) (rest.length + 1)
      let t ← changeAt .onTheWay (fun _ => addValue path v) .header here t
      lines? here t (← endOfLine? rest) fuel

def parse? (text : String) : Option Table :=
  let cs := match text.toList with
    | '\uFEFF' :: cs => cs
    | cs => cs
  lines? [] [] cs (cs.length + 1)

end RowSearch.Toml
