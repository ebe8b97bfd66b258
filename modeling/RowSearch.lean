import RowSearch.CommandLine.Basic
import RowSearch.Config
import RowSearch.Json.Compare
import RowSearch.Json.Parser
import RowSearch.Json.Printer
import RowSearch.Main
import RowSearch.Plan.Notices
import RowSearch.Proofs.Query.Calls
import RowSearch.Proofs.Query.Matching
import RowSearch.Proofs.Query.Runs
import RowSearch.Query.Encoding
import RowSearch.Query.Table
import RowSearch.Request.Notices
import RowSearch.Search.Notices
import RowSearch.Template.Notices
import RowSearch.Text.Words
import RowSearch.Proofs.Plan.Isolation
import RowSearch.Proofs.Plan.Relations
import RowSearch.Proofs.Search.Window
import RowSearch.Proofs.Search.Paging
import RowSearch.Proofs.Plan.Window
import RowSearch.Proofs.Plan.Rendering
import RowSearch.Proofs.Plan.Having
import RowSearch.Proofs.Query.Failures
import RowSearch.Proofs.Plan.Building
import RowSearch.Proofs.Template.Binding
import RowSearch.Proofs.Request.Spellings
import RowSearch.Proofs.Template.Paging
import RowSearch.Proofs.Query.Nulls
import RowSearch.Proofs.Raw.ThreeValued
import RowSearch.Proofs.Query.Checked
import RowSearch.Proofs.Query.Integers
import RowSearch.Proofs.Plan.Ordering
import RowSearch.Proofs.Query.Grouping
import RowSearch.Proofs.Query.Sorting
import RowSearch.Proofs.Query.GroupColumns
import RowSearch.Proofs.Row.Expressions
import RowSearch.Proofs.Search.Keywords
import RowSearch.Proofs.Plan.RelationNames
import RowSearch.Proofs.Search.Skipped
import RowSearch.Proofs.Condition.Keys
import RowSearch.Proofs.Template.Resolving
import RowSearch.Proofs.Template.Filters
import RowSearch.Proofs.Raw.Inlining
import RowSearch.Proofs.Raw.QuotedNames
import RowSearch.Proofs.Raw.Height
import RowSearch.Proofs.Plan.ScopeNames
