import RowSearch.Json.Basic
import RowSearch.Text.Hex

/-! # Written documents

The compact form has no blanks. The indented form puts every item of a non-empty list or object
on a line of its own, two blanks deeper than its container. Strings escape the quote, the
backslash and control characters and nothing else.
-/
namespace RowSearch.Json

def escapeChar (c : Char) : List Char :=
  match c with
  | '"' => ['\\', '"']
  | '\\' => ['\\', '\\']
  | '\n' => ['\\', 'n']
  | '\r' => ['\\', 'r']
  | '\t' => ['\\', 't']
  | '\x08' => ['\\', 'b']
  | '\x0c' => ['\\', 'f']
  | c =>
    if c.toNat < 0x20 then
      ['\\', 'u', '0', '0'] ++ (if c.toNat < 0x10 then ['0'] else []) ++ Text.hex c.toNat
    else [c]

def quote (s : String) : List Char := '"' :: s.toList.flatMap escapeChar ++ ['"']

def separated (sep : List Char) (texts : List (List Char)) : List Char := sep.intercalate texts

mutual

def compactChars : Json → List Char
  | .null => "null".toList
  | .bool b => (if b then "true" else "false").toList
  | .number n => n.text
  | .string s => quote s
  | .array items => '[' :: separated [','] (compactItems items) ++ [']']
  | .object fields => '{' :: separated [','] (compactFields fields) ++ ['}']

def compactItems : List Json → List (List Char)
  | [] => []
  | v :: vs => compactChars v :: compactItems vs

def compactFields : Fields → List (List Char)
  | [] => []
  | (k, v) :: rest => (quote k ++ ':' :: compactChars v) :: compactFields rest

end

def compact (v : Json) : String := String.ofList (compactChars v)

def newLine (depth : Nat) : List Char := '\n' :: List.replicate (2 * depth) ' '

def block (depth : Nat) (opening closing : Char) (texts : List (List Char)) : List Char :=
  if texts.isEmpty then [opening, closing]
  else
    opening :: newLine (depth + 1) ++ separated (',' :: newLine (depth + 1)) texts
      ++ newLine depth ++ [closing]

mutual

def indentedChars (depth : Nat) : Json → List Char
  | .array items => block depth '[' ']' (indentedItems (depth + 1) items)
  | .object fields => block depth '{' '}' (indentedFields (depth + 1) fields)
  | .null => "null".toList
  | .bool b => (if b then "true" else "false").toList
  | .number n => n.text
  | .string s => quote s

def indentedItems (depth : Nat) : List Json → List (List Char)
  | [] => []
  | v :: vs => indentedChars depth v :: indentedItems depth vs

def indentedFields (depth : Nat) : Fields → List (List Char)
  | [] => []
  | (k, v) :: rest =>
    (quote k ++ ':' :: ' ' :: indentedChars depth v) :: indentedFields depth rest

end

def indented (v : Json) : String := String.ofList (indentedChars 0 v)

end RowSearch.Json
