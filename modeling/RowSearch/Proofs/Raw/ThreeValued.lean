import Mathlib.Data.List.Basic
import RowSearch.Proofs.Raw.Evaluation

/-! # Expressions with unknown truth values

In three-valued logic a test with a missing or null operand is unknown, and so is what hangs on
it. Expressions are answered in two values: an unknown test counts as failed, also where a
negation makes a success of it. Rows on which an expression is true or false are answered as they
should be, so the two readings part only on rows on which the expression is unknown.
-/
namespace RowSearch

inductive Truth where
  | yes
  | no
  | unknown
deriving DecidableEq

namespace Truth

def ofBool : Bool → Truth
  | true => yes
  | false => no

def not : Truth → Truth
  | yes => no
  | no => yes
  | unknown => unknown

def and : Truth → Truth → Truth
  | no, _ | _, no => no
  | yes, yes => yes
  | _, _ => unknown

def or : Truth → Truth → Truth
  | yes, _ | _, yes => yes
  | no, no => no
  | _, _ => unknown

def isYes (t : Truth) : Bool := t = yes

/-- What a known truth value says of an answer; an unknown one says nothing. -/
def Allows : Truth → Bool → Prop
  | yes, b => b = true
  | no, b => b = false
  | unknown, _ => True

@[simp] theorem isYes_ofBool (b : Bool) : (ofBool b).isYes = b := by
  cases b <;> rfl

theorem isYes_or (t u : Truth) : (t.or u).isYes = (t.isYes || u.isYes) := by
  cases t <;> cases u <;> rfl

theorem allows_isYes (t : Truth) : t.Allows t.isYes := by
  cases t <;> trivial

theorem Allows.not {t : Truth} {b : Bool} (h : t.Allows b) : t.not.Allows !b := by
  cases t <;> simp_all [Allows, Truth.not]

theorem Allows.and {t u : Truth} {b c : Bool} (hb : t.Allows b) (hc : u.Allows c) :
    (t.and u).Allows (b && c) := by
  cases t <;> cases u <;> simp_all [Allows, Truth.and]

theorem Allows.or {t u : Truth} {b c : Bool} (hb : t.Allows b) (hc : u.Allows c) :
    (t.or u).Allows (b || c) := by
  cases t <;> cases u <;> simp_all [Allows, Truth.or]

/-- Whether an answer is `true` exactly where a truth value is, or, behind a negation, `false`
exactly where the truth value is. -/
def Agrees (negative : Bool) (t : Truth) (b : Bool) : Prop :=
  if negative then b = false ↔ t = no else b = true ↔ t = yes

/-- A test that counts as failed where it is unknown agrees unless it is behind a negation. -/
theorem agrees_isYes {negative : Bool} {t : Truth} (h : t = unknown → negative = false) :
    Agrees negative t t.isYes := by
  cases t <;> cases negative <;> simp_all [Agrees, isYes]

theorem Agrees.not {negative b : Bool} {t : Truth} (h : Agrees (!negative) t b) :
    Agrees negative t.not !b := by
  cases t <;> cases negative <;> simp_all [Agrees, Truth.not]

theorem Agrees.and {negative b c : Bool} {t u : Truth} (hb : Agrees negative t b)
    (hc : Agrees negative u c) : Agrees negative (t.and u) (b && c) := by
  cases negative <;> cases b <;> cases c <;> cases t <;> cases u <;>
    simp_all [Agrees, Truth.and]

theorem Agrees.or {negative b c : Bool} {t u : Truth} (hb : Agrees negative t b)
    (hc : Agrees negative u c) : Agrees negative (t.or u) (b || c) := by
  cases negative <;> cases b <;> cases c <;> cases t <;> cases u <;>
    simp_all [Agrees, Truth.or]

/-- A list test turned around holds where its value is there and not known to be in the list. -/
theorem allows_not_isYes {t : Truth} {there : Bool} (h : there = false → t = unknown) :
    t.not.Allows (there && !t.isYes) := by
  cases t <;> cases there <;> simp_all [Allows, Truth.not, isYes]

theorem agrees_not_isYes {negative there : Bool} {t : Truth} (h : there = false → t = unknown)
    (hnegative : t.not = unknown → negative = there) :
    Agrees negative t.not (there && !t.isYes) := by
  cases t <;> cases there <;> cases negative <;> simp_all [Agrees, Truth.not, isYes]

end Truth

theorem Json.Number.compare_approx {m n : Number} (h : (m == n) = true) :
    m.approx.compare n.approx = .eq := by
  have hvalue : m.approx.value = n.approx.value := by
    cases m <;> cases n <;> try cases h
    case integer.integer m _ n _ =>
      have hmn : (m == n) = true := h
      rw [approx, approx, eq_of_beq hmn]
    case double.double a b =>
      have hab : (a.value == b.value) = true := h
      exact eq_of_beq hab
  rw [Double.compare, hvalue]
  exact Std.ReflCmp.compare_self

/-- Values that have an order are alike when they are equal in it. -/
theorem Json.alike_eq_of_compare? {a b : Json} {o : Ordering} (h : a.compare? b = some o) :
    a.alike b = (o == .eq) := by
  have hsame : (a == b) = true → o = .eq := by
    intro hab
    cases a <;> cases b <;> try cases hab
    case number.number m n =>
      cases Option.some.inj h
      exact Number.compare_approx hab
    case string.string s t =>
      cases Option.some.inj h
      have hst : (s == t) = true := hab
      obtain rfl := eq_of_beq hst
      exact Std.ReflCmp.compare_self
    case bool.bool s t =>
      cases Option.some.inj h
      have hst : (s == t) = true := hab
      obtain rfl := eq_of_beq hst
      exact Std.ReflCmp.compare_self
    all_goals cases h
  rw [alike, h]
  cases hab : a == b with
  | false => cases o <;> rfl
  | true => rw [hsame hab]; rfl

namespace Raw

def Sign.accepts : Sign → Ordering → Bool
  | .equal, o | .doubleEqual, o => o == .eq
  | .bangEqual, o | .lessGreater, o => o != .eq
  | .less, o => o == .lt
  | .lessEqual, o => o != .gt
  | .greater, o => o == .gt
  | .greaterEqual, o => o != .lt

def Operand.known? (o : Operand) (row : Json) : Option Json := Json.present (o.value? row)

def Relation.truth (a b : Json) : Relation → Truth
  | .sign s => match a.compare? b with
    | some o => .ofBool (s.accepts o)
    | none => .unknown
  | .like negated ignoreCase => match a.scalarText?, b.scalarText? with
    | some text, some pattern => .ofBool (Pattern.accepts ignoreCase pattern text != negated)
    | _, _ => .unknown

def compareTruth (r : Relation) : Option Json → Option Json → Truth
  | some a, some b => r.truth a b
  | _, _ => .unknown

def listTruth : Option Json → List (Option Json) → Truth
  | none, _ => .unknown
  | some a, items => (items.map (compareTruth (.sign .equal) (some a))).foldr Truth.or .no

namespace Expr

def truth (row : Json) : Expr → Truth
  | .and a b => (a.truth row).and (b.truth row)
  | .or a b => (a.truth row).or (b.truth row)
  | .not a => (a.truth row).not
  | .compare left r right => compareTruth r (left.known? row) (right.known? row)
  | .oneOf left items negated =>
    let found := listTruth (left.known? row) (items.map (·.known? row))
    if negated then found.not else found
  | .isNull o negated => .ofBool ((o.known? row).isNone != negated)
  | .truthy o => ((o.known? row).map fun v => Truth.ofBool v.truthy).getD .unknown

/-- The answer to an expression on a row, in two values: a test holds where it is true, a value
that is there is out of a list where it is not known to be in it, and the connectives go by these
answers. -/
def answer (row : Json) : Expr → Bool
  | .and a b => a.answer row && b.answer row
  | .or a b => a.answer row || b.answer row
  | .not a => !a.answer row
  | .oneOf left items true =>
    (left.known? row).isSome && !((Expr.oneOf left items false).truth row).isYes
  | e@(.compare ..) | e@(.oneOf _ _ false) | e@(.isNull ..) | e@(.truthy _) => (e.truth row).isYes

/-- The values that are compared have an order, and those matched with a pattern and the pattern
are scalars. -/
def Typed (row : Json) : Expr → Prop
  | .and a b | .or a b => a.Typed row ∧ b.Typed row
  | .not a => a.Typed row
  | .compare left (.sign _) right => ∀ a ∈ left.known? row, ∀ b ∈ right.known? row,
      (a.compare? b).isSome = true
  | .compare left (.like _ _) right => ∀ a ∈ left.known? row, a.scalarText?.isSome = true ∧
      ∀ b ∈ right.value? row, b.scalarText?.isSome = true
  | .oneOf left items _ => ∀ a ∈ left.known? row, ∀ item ∈ items, ∀ b ∈ item.known? row,
      (a.compare? b).isSome = true
  | .isNull _ _ | .truthy _ => True

/-- Every test that is unknown stands under an even number of negations, where the negation of a
list test counts if its value is there. -/
def Settled (row : Json) (negative : Bool) : Expr → Prop
  | .and a b | .or a b => a.Settled row negative ∧ b.Settled row negative
  | .not a => a.Settled row !negative
  | .oneOf left items negated => (Expr.oneOf left items negated).truth row = .unknown →
      negative = (negated && (left.known? row).isSome)
  | e@(.compare ..) | e@(.isNull ..) | e@(.truthy _) => e.truth row = .unknown → negative = false

variable {row : Json} {e : Expr}

theorem truth_oneOf_missing {left : Operand} (items : List Operand)
    (h : (left.known? row).isSome = false) :
    (Expr.oneOf left items false).truth row = .unknown := by
  cases hleft : left.known? row with
  | none => simp [truth, listTruth, hleft]
  | some v =>
    rw [hleft] at h
    cases h

theorem truth_allows (row : Json) (e : Expr) : (e.truth row).Allows (e.answer row) := by
  induction e with
  | and a b iha ihb => exact iha.and ihb
  | or a b iha ihb => exact iha.or ihb
  | not a ih => exact ih.not
  | oneOf left items negated =>
    cases negated with
    | false => exact Truth.allows_isYes _
    | true => exact Truth.allows_not_isYes (truth_oneOf_missing items)
  | compare => exact Truth.allows_isYes _
  | isNull => exact Truth.allows_isYes _
  | truthy => exact Truth.allows_isYes _

theorem Settled.agrees {negative : Bool} (h : e.Settled row negative) :
    Truth.Agrees negative (e.truth row) (e.answer row) := by
  -- a negation turns the side on which answer and truth agree, so the side is generalized
  induction e generalizing negative with
  | and a b iha ihb => exact (iha h.1).and (ihb h.2)
  | or a b iha ihb => exact (iha h.1).or (ihb h.2)
  | not a ih => exact (ih h).not
  | oneOf left items negated =>
    cases negated with
    | false => exact Truth.agrees_isYes h
    | true => exact Truth.agrees_not_isYes (truth_oneOf_missing items) h
  | compare => exact Truth.agrees_isYes h
  | isNull => exact Truth.agrees_isYes h
  | truthy => exact Truth.agrees_isYes h

end Expr

section Present
variable {actual : Option Json} {a b e : Json}

theorem eq_null_of_present (h : Json.present (some e) = none) : e = .null := by
  cases e <;> first | rfl | cases h

theorem ordered_present (ha : Json.present actual = some a) (hb : Json.present (some e) = some b)
    (p : Ordering → Bool) :
    Comparator.ordered actual e p = ((a.compare? b).map p).getD false := by
  unfold Comparator.ordered
  rw [ha]
  cases e <;> cases hb <;> rfl

theorem equated_present (ha : Json.present actual = some a) (hb : Json.present (some e) = some b)
    (wanted : Bool) : Comparator.equated actual e wanted = (a.alike b == wanted) := by
  unfold Comparator.equated
  rw [ha]
  cases e <;> cases hb <;> rfl

theorem Sign.holds_eq (s : Sign)
    (h : ∀ a ∈ Json.present actual, ∀ b ∈ Json.present (some e), (a.compare? b).isSome = true) :
    s.comparator.holds actual e =
      .ok (compareTruth (.sign s) (Json.present actual) (Json.present (some e))).isYes := by
  cases ha : Json.present actual with
  | none => exact s.comparator.holds_missing e ha
  | some a =>
    cases hb : Json.present (some e) with
    | none =>
      obtain rfl := eq_null_of_present hb
      rcases s.comparator.holds_null actual with h | ⟨_, _, _, hlike, _⟩
      · exact h
      · cases s <;> cases hlike
    | some b =>
      obtain ⟨o, ho⟩ := Option.isSome_iff_exists.mp (h a ha b hb)
      cases s <;> simp [comparator, Comparator.holds, ordered_present ha hb,
        equated_present ha hb, Json.alike_eq_of_compare? ho, compareTruth, Relation.truth, ho,
        accepts, bne]

end Present

section Answers
variable {row : Json}

theorem like_holds_eq {left right : Operand} {negated ignoreCase : Bool}
    (h : (Expr.compare left (.like negated ignoreCase) right).Typed row) :
    (Expr.compare left (.like negated ignoreCase) right).holds row =
      .ok ((Expr.compare left (.like negated ignoreCase) right).answer row) := by
  rw [Expr.Typed] at h
  rw [Expr.holds_compare, Expr.answer, Expr.truth]
  cases hleft : left.known? row with
  | none =>
    split
    · exact Comparator.holds_missing _ _ hleft
    · rfl
  | some a =>
    obtain ⟨htext, hright⟩ := h a hleft
    obtain ⟨text, htext⟩ := Option.isSome_iff_exists.mp htext
    cases hvalue : right.value? row with
    | none =>
      rw [Operand.known?, hvalue]
      rfl
    | some b =>
      obtain ⟨pattern, hpattern⟩ := Option.isSome_iff_exists.mp (hright b hvalue)
      have hb : right.known? row = some b := by
        rw [Operand.known?, hvalue]
        cases b <;> first | rfl | cases hpattern
      have hbind : (Json.present (left.value? row)).bind Json.scalarText? = some text := by
        rw [Operand.known?] at hleft
        rw [hleft, Option.bind_some, htext]
      simp [hb, Relation.comparator, Comparator.holds, hbind, hpattern, compareTruth,
        Relation.truth, htext]

theorem inList_eq {actual : Option Json} {items : List Operand}
    (h : ∀ a ∈ Json.present actual, ∀ item ∈ items, ∀ b ∈ item.known? row,
      (a.compare? b).isSome = true) :
    Comparator.inList actual (items.filterMap (·.value? row)) =
      (listTruth (Json.present actual) (items.map (·.known? row))).isYes := by
  rw [Comparator.inList]
  cases hactual : Json.present actual with
  | none => rfl
  | some a =>
    have ha := Json.isNull_of_present hactual
    replace h := h a hactual
    show List.any _ _ = Truth.isYes (List.foldr _ _ _)
    induction items with
    | nil => rfl
    | cons item items ih =>
      obtain ⟨hitem, hitems⟩ := List.forall_mem_cons.mp h
      rw [List.map_cons, List.map_cons, List.foldr_cons, Truth.isYes_or, ← ih hitems,
        List.filterMap_cons]
      cases hvalue : item.value? row with
      | none =>
        rw [Operand.known?, hvalue]
        rfl
      | some b =>
        -- a null item is not alike to the value, and an equality with it is unknown
        have hfirst : a.alike b =
            (compareTruth (.sign .equal) (some a) (item.known? row)).isYes := by
          rw [Operand.known?, hvalue] at hitem ⊢
          cases hb : Json.present (some b) with
          | none =>
            obtain rfl := eq_null_of_present hb
            exact Json.alike_null ha rfl
          | some c =>
            obtain rfl : c = b := by cases b <;> cases hb <;> rfl
            obtain ⟨o, ho⟩ := Option.isSome_iff_exists.mp (hitem c hb)
            simp [Json.alike_eq_of_compare? ho, compareTruth, Relation.truth, ho, Sign.accepts]
        rw [List.any_cons, hfirst]

/-- The rows that an expression keeps, without the failures of tests that cannot be made. -/
theorem Expr.holds_eq {e : Expr} (h : e.Typed row) : e.holds row = .ok (e.answer row) := by
  induction e with
  | and a b iha ihb =>
    rw [holds_and, iha h.1, ihb h.2, answer]
    cases a.answer row <;> rfl
  | or a b iha ihb =>
    rw [holds_or, iha h.1, ihb h.2, answer]
    cases a.answer row <;> rfl
  | not a ih =>
    rw [holds_not, ih h, answer]
    rfl
  | compare left relation right =>
    cases relation with
    | like => exact like_holds_eq h
    | sign s =>
      rw [holds_compare, answer, truth]
      cases hvalue : right.value? row with
      | none =>
        have hright : right.known? row = none := by
          rw [Operand.known?, hvalue]
          rfl
        rw [hright]
        cases left.known? row <;> rfl
      | some expected =>
        have hright : right.known? row = Json.present (some expected) := by
          rw [Operand.known?, hvalue]
        rw [Typed, hright] at h
        rw [hright]
        exact s.holds_eq h
  | oneOf left items negated =>
    have hleft : Json.present (left.value? row) = left.known? row := rfl
    rw [holds, Comparator.listTest, inList_eq h, hleft]
    cases negated with
    | true => simp [answer, truth]
    | false =>
      rw [answer, truth]
      cases left.known? row with
      | none => rfl
      | some v => simp
  | isNull operand negated =>
    rw [holds, answer, truth, Truth.isYes_ofBool]
    rfl
  | truthy operand =>
    rw [holds, answer, truth, Operand.known?]
    cases hvalue : operand.value? row with
    | none => rfl
    | some v => cases v <;> first | rfl | exact congrArg Except.ok (Truth.isYes_ofBool _).symm

/-- A row is kept where an expression is true in three-valued logic and dropped where it is
false. Where it is unknown the row is answered as if unknown tests had failed: it is dropped, unless
one of these stands behind a negation. So a comparison on a column that is missing or null never
keeps a row, and its negation always does. -/
theorem Expr.holds_truth (row : Json) (e : Expr) (h : e.Typed row) :
    e.holds row = .ok (e.answer row) ∧
    (e.truth row = .yes → e.holds row = .ok true) ∧
    (e.truth row = .no → e.holds row = .ok false) ∧
    (e.Settled row false → (e.holds row = .ok true ↔ e.truth row = .yes)) ∧
    ∀ name r right, Json.present (row.at? name) = none →
      (Expr.compare (.column name) r right).truth row = .unknown ∧
      (Expr.compare (.column name) r right).holds row = .ok false ∧
      (Expr.not (.compare (.column name) r right)).holds row = .ok true := by
  have hanswer := holds_eq h
  have hallows := truth_allows row e
  refine ⟨hanswer, fun hyes => ?_, fun hno => ?_, fun hsettled => ?_, fun name r right hname => ?_⟩
  · rw [hyes] at hallows
    rw [hanswer, show e.answer row = true from hallows]
  · rw [hno] at hallows
    rw [hanswer, show e.answer row = false from hallows]
  · rw [hanswer, Except.ok.injEq]
    exact hsettled.agrees
  · have hmissing : (Expr.compare (.column name) r right).holds row = .ok false := by
      rw [holds_compare]
      split
      · exact Comparator.holds_missing _ _ hname
      · rfl
    refine ⟨?_, hmissing, by rw [holds_not, hmissing]; rfl⟩
    rw [truth, show (Operand.column name).known? row = none from hname]
    rfl

def catRow : Json := .object [("kind", .string "cat"), ("age", .null)]

def isDog : Expr := .compare (.column "kind") (.sign .equal) (.literal (.string "dog"))

def isOld : Expr := .compare (.column "age") (.sign .greater) (.literal (.count 3))

def unlisted : Expr :=
  .oneOf (.column "kind") [.literal (.string "dog"), .literal .null] true

theorem isDog_typed : isDog.Typed catRow := by
  rintro a ⟨⟩ b ⟨⟩
  rfl

theorem isOld_typed : isOld.Typed catRow := by
  rintro a ⟨⟩

theorem Expr.holds_truth_cat :
    (Expr.or (.not isDog) isOld).Typed catRow ∧ (Expr.or (.not isDog) isOld).Settled catRow false ∧
    (Expr.or (.not isDog) isOld).truth catRow = .yes ∧
    (Expr.or (.not isDog) isOld).holds catRow = .ok true ∧
    isOld.holds catRow = .ok false ∧ (Expr.not isOld).holds catRow = .ok true := by
  have htyped : (Expr.or (.not isDog) isOld).Typed catRow := ⟨isDog_typed, isOld_typed⟩
  have hsettled : (Expr.or (.not isDog) isOld).Settled catRow false := by
    refine ⟨fun h => ?_, fun _ => rfl⟩
    cases h
  have htruth : (Expr.or (.not isDog) isOld).truth catRow = .yes := rfl
  obtain ⟨_, _, _, hiff, hnull⟩ := holds_truth catRow (.or (.not isDog) isOld) htyped
  exact ⟨htyped, hsettled, htruth, (hiff hsettled).mpr htruth,
    (hnull "age" (.sign .greater) (.literal (.count 3)) rfl).2⟩

/-- On this row the negation of an unknown comparison is unknown, and so is a list that a value
is not found in because it holds a null; both keep the row. -/
theorem Expr.holds_of_unknown :
    (Expr.not isOld).Typed catRow ∧ (Expr.not isOld).truth catRow = .unknown ∧
    (Expr.not isOld).holds catRow = .ok true ∧
    unlisted.Typed catRow ∧ unlisted.truth catRow = .unknown ∧
    unlisted.holds catRow = .ok true := by
  refine ⟨isOld_typed, rfl, rfl, ?_, rfl, rfl⟩
  rintro a ⟨⟩ item hitem b hb
  rcases List.mem_cons.mp hitem with rfl | hitem
  · cases hb
    rfl
  · obtain rfl := List.mem_singleton.mp hitem
    cases hb

end Answers
end Raw
end RowSearch
