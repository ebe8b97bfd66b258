import RowSearch.Query.Call
import RowSearch.Template.Input

/-! # Template values

What a template declares for a part of a request. Some values stand for others: a producer for
the one it produces, a choice for one of its branches, or for null where that branch is not set.
They are followed until a concrete value is reached, but not for ever.
-/
namespace RowSearch

/-- What leads from a value to the one it stands for: its call, or the choice of a branch. -/
inductive Hop where
  | call
  | pick (met : Bool)

def Hop.kind : Hop → String
  | .call => "producer"
  | .pick _ => "conditional"

inductive TemplateValue where
  | value (v : Json)
  | raw (fragment : Fragment)
  | callback (body : List Call)
  | scope (ref : ScopeRef)
  /-- Produces another value. -/
  | producer (next : TemplateValue)
  /-- Leads from hop to hop and never to a concrete value; by calls alone it produces itself. -/
  | endless (hops : Nat → Hop := fun _ => .call)
  | choice (met : Bool) (success? fail? : Option TemplateValue)
  | list (items : List TemplateValue)
  /-- Where or having entries; one without a key is positional. -/
  | entries (items : List (Option String × TemplateValue))

instance : Inhabited TemplateValue := ⟨.endless⟩

abbrev TemplateEntry := Option String × TemplateValue

namespace TemplateEntry

def input (path : String) : TemplateEntry := (none, .value (.string path))

end TemplateEntry

namespace TemplateValue

/-- The rounds in which a value is followed; the last of them must find it concrete. -/
abbrev rounds : Nat := 16

def kind : TemplateValue → String
  | .value _ => "value"
  | .raw _ => "raw expression"
  | .callback _ => "callback"
  | .scope _ => "scope"
  | .producer _ => Hop.call.kind
  | .choice met _ _ => (Hop.pick met).kind
  | .endless hops => (hops 0).kind
  | .list _ => "list"
  | .entries _ => "entry list"

def unresolved : SearchError := .invalidTemplate (.unresolved rounds)

def branch? (met : Bool) (success? fail? : Option TemplateValue) : Option TemplateValue :=
  if met then success? else fail?

/-- The value one hop away; none for a concrete value. -/
def hop? : TemplateValue → Option TemplateValue
  | .producer next => some next
  | .endless hops => some (.endless fun n => hops (n + 1))
  | .choice met success? fail? => some ((branch? met success? fail?).getD (.value .null))
  | .value _ | .raw _ | .callback _ | .scope _ | .list _ | .entries _ => none

/-- Follows a value hop by hop. The round that finds it concrete answers with it. -/
def resolveWithin : (left : Nat) → TemplateValue → Except SearchError TemplateValue
  | 0, _ => .error unresolved
  | left + 1, v =>
    match v.hop? with
    | some next => resolveWithin left next
    | none => .ok v

def resolve (v : TemplateValue) : Except SearchError TemplateValue := resolveWithin rounds v

theorem sizeOf_hop? {v next : TemplateValue} (h : v.hop? = some next) :
    sizeOf next ≤ sizeOf v := by
  cases v with
  | producer next =>
    cases h
    simp
  | endless hops =>
    cases h
    simp
  | choice met success? fail? =>
    cases h
    cases met <;> cases success? <;> cases fail? <;> simp [branch?] <;> omega
  | _ => cases h

theorem sizeOf_resolveWithin {left : Nat} {v u : TemplateValue}
    (h : resolveWithin left v = .ok u) : sizeOf u ≤ sizeOf v := by
  induction left generalizing v with
  | zero => cases h
  | succ left ih =>
    rw [resolveWithin] at h
    split at h
    · next hnext => exact Nat.le_trans (ih h) (sizeOf_hop? hnext)
    · cases h
      exact Nat.le_refl _

mutual

/-- The concrete values in a value, with those of lists in place of the lists. -/
def leaves (v : TemplateValue) : Except SearchError (List TemplateValue) :=
  match h : v.resolve with
  | .error e => .error e
  | .ok (.list items) =>
    have := sizeOf_resolveWithin h
    leavesOf items
  | .ok u => .ok [u]
termination_by sizeOf v
decreasing_by simp at this; omega

def leavesOf : List TemplateValue → Except SearchError (List TemplateValue)
  | [] => .ok []
  | v :: vs =>
    match leaves v with
    | .ok found => (leavesOf vs).map (found ++ ·)
    | .error e => .error e
termination_by items => sizeOf items

end

theorem leaves_value (v : Json) : (value v).leaves = .ok [.value v] := by
  rw [leaves]
  rfl

end TemplateValue
end RowSearch
