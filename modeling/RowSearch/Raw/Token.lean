import RowSearch.Json.Printer
import RowSearch.Text.Quoted

/-! # Tokens of raw expressions

The tokens of a raw expression, everything that can be wrong with one, and how both are
written.
-/
namespace RowSearch.Raw

inductive Sign where
  | equal
  | doubleEqual
  | bangEqual
  | lessGreater
  | less
  | lessEqual
  | greater
  | greaterEqual
deriving DecidableEq

def Sign.text : Sign → String
  | .equal => "="
  | .doubleEqual => "=="
  | .bangEqual => "!="
  | .lessGreater => "<>"
  | .less => "<"
  | .lessEqual => "<="
  | .greater => ">"
  | .greaterEqual => ">="

inductive Token where
  | word (text : String)
  | number (n : Json.Number)
  | string (text : String)
  | placeholder
  | sign (s : Sign)
  | opening
  | closing
  | comma
  | star
deriving DecidableEq

def Token.name : Token → String
  | .word text => s!"Ident({Text.quoted text})"
  | .number n => s!"Number(Number({String.ofList n.text}))"
  | .string text => s!"Str({Text.quoted text})"
  | .placeholder => "Placeholder"
  | .sign s => s!"Op({Text.quoted s.text})"
  | .opening => "LParen"
  | .closing => "RParen"
  | .comma => "Comma"
  | .star => "Star"

/-- The deepest run of nested parentheses and negations. -/
abbrev nestingLimit : Nat := 64

inductive Fault where
  | unterminatedString
  | unterminatedName
  | badNumber (text : String)
  | loneBang
  | unexpectedCharacter (c : Char)
  | unexpectedToken (t : Token)
  | expected (wanted : Token) (found : Option Token)
  | unexpectedEnd
  | tooDeep
  | nullExpected
  | likeOrInExpected
  | missingBinding
  | bindingCount (placeholders bindings : Nat)
  | unsupportedFunction (name : String)
  | unbalanced
  | badDirection (text : String)
  | unsortable (text : String)
  | unsupportedColumn (text : String)
deriving DecidableEq

def Fault.message : Fault → String
  | .unterminatedString => "unterminated string"
  | .unterminatedName => "unterminated identifier"
  | .badNumber text => s!"bad number '{text}'"
  | .loneBang => "unexpected '!'"
  | .unexpectedCharacter c => s!"unexpected character '{c}'"
  | .unexpectedToken t => s!"unexpected {t.name}"
  | .expected wanted none => s!"expected {wanted.name}, found None"
  | .expected wanted (some t) => s!"expected {wanted.name}, found Some({t.name})"
  | .unexpectedEnd => "unexpected end of expression"
  | .tooDeep => s!"nested deeper than {nestingLimit} levels"
  | .nullExpected => "expected NULL after IS"
  | .likeOrInExpected => "expected LIKE or IN after NOT"
  | .missingBinding => "more placeholders than bindings"
  | .bindingCount placeholders bindings =>
    s!"{placeholders} placeholders for {bindings} bindings"
  | .unsupportedFunction name => s!"unsupported function '{name}'"
  | .unbalanced => "unbalanced parentheses"
  | .badDirection text => s!"bad direction '{text}'"
  | .unsortable text => s!"cannot sort by '{text}'"
  | .unsupportedColumn text => s!"unsupported column '{text}'"

end RowSearch.Raw
