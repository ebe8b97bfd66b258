import RowSearch.Text.LetterCase
import RowSearch.Text.Split

/-! # Log levels and notices

A notice is a line for the log. A level shows the notices of its own severity and of graver ones.
-/
namespace RowSearch

inductive LogLevel where
  | error
  | warn
  | info
  | debug
  | trace
deriving DecidableEq

namespace LogLevel

def all : List LogLevel := [.error, .warn, .info, .debug, .trace]

def name : LogLevel → String
  | .error => "ERROR"
  | .warn => "WARN"
  | .info => "INFO"
  | .debug => "DEBUG"
  | .trace => "TRACE"

def rank : LogLevel → Nat
  | .error => 0
  | .warn => 1
  | .info => 2
  | .debug => 3
  | .trace => 4

def ofText? (text : String) : Option LogLevel :=
  let upper := String.ofList ((Text.trim text).toList.flatMap Text.upper)
  if upper = "WARNING" then some .warn else all.find? (·.name == upper)

def shows (level other : LogLevel) : Bool := other.rank ≤ level.rank

end LogLevel

inductive Origin where
  | request
  | normalizer
  | plan
  | generator
  | search

def Origin.name : Origin → String
  | .request => "searchplan_core::request"
  | .normalizer => "searchplan_core::normalizer"
  | .plan => "searchplan_core::plan"
  | .generator => "searchplan_core::generator"
  | .search => "searchplan_core::search"

structure Notice where
  level : LogLevel
  origin : Origin
  text : String

def Notice.line (n : Notice) : String := s!"[{n.level.name}] {n.origin.name}: {n.text}"

end RowSearch
