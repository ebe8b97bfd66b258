import RowSearch.Proofs.Raw.Grammar
import RowSearch.Proofs.Raw.Lexing

/-! # Writing expressions

An expression as a fragment. Parentheses stand only where a part binds weaker than its place
asks, strings stand between single quotes, and every other value is a placeholder bound in
order. Reading the fragment gives the expression back, unless parentheses and negations nest
too deep.
-/
namespace RowSearch.Raw

def Token.text : Token → String
  | .word text => text
  | .number n => String.ofList n.text
  | .string text => String.ofList ('\'' :: (doubled text.toList ++ ['\'']))
  | .placeholder => "?"
  | .sign s => s.text
  | .opening => "("
  | .closing => ")"
  | .comma => ","
  | .star => "*"

def textOf (ts : List Token) : String := " ".intercalate (ts.map Token.text)

def Operand.token : Operand → Token
  | .column name => .word name
  | .literal (.string text) => .string text
  | .literal _ => .placeholder

def Operand.bindings : Operand → List Json
  | .column _ | .literal (.string _) => []
  | .literal v => [v]

def negationTokens (negated : Bool) : List Token := if negated then [.word "not"] else []

def Relation.tokens : Relation → List Token
  | .sign s => [.sign s]
  | .like negated ignoreCase =>
    negationTokens negated ++ [.word (likeKeyword ignoreCase)]

def itemTokens (items : List Operand) : List Token :=
  (items.map Operand.token).intersperse .comma

def Expr.level : Expr → Level
  | .or _ _ => .disjunction
  | .and _ _ => .conjunction
  | _ => .unary

def Level.fits : Level → Level → Bool
  | .unary, _ | _, .disjunction | .conjunction, .conjunction => true
  | _, _ => false

def encloseUnless (fits : Bool) (ts : List Token) : List Token :=
  if fits then ts else .opening :: (ts ++ [.closing])

namespace Expr

def tokensAt (level : Level) : Expr → List Token
  | .or a b => encloseUnless (Level.disjunction.fits level)
      (a.tokensAt .disjunction ++ .word "or" :: b.tokensAt .conjunction)
  | .and a b => encloseUnless (Level.conjunction.fits level)
      (a.tokensAt .conjunction ++ .word "and" :: b.tokensAt .unary)
  | .not a => .word "not" :: a.tokensAt .unary
  | .compare left relation right => left.token :: (relation.tokens ++ [right.token])
  | .oneOf left items negated => left.token ::
      (negationTokens negated ++ .word "in" :: .opening :: (itemTokens items ++ [.closing]))
  | .isNull operand negated =>
    operand.token :: .word "is" :: (negationTokens negated ++ [.word "null"])
  | .truthy operand => [operand.token]

/-- How deep negations and the parentheses around parts nest in the tokens at a level. -/
def nestingAt (level : Level) : Expr → Nat
  | .or a b => max (a.nestingAt .disjunction) (b.nestingAt .conjunction) +
      (Level.disjunction.fits level).not.toNat
  | .and a b => max (a.nestingAt .conjunction) (b.nestingAt .unary) +
      (Level.conjunction.fits level).not.toNat
  | .not a => a.nestingAt .unary + 1
  | _ => 0

def bindings : Expr → List Json
  | .or a b | .and a b => a.bindings ++ b.bindings
  | .not a => a.bindings
  | .compare left _ right => left.bindings ++ right.bindings
  | .oneOf left items _ => left.bindings ++ items.flatMap Operand.bindings
  | .isNull operand _ | .truthy operand => operand.bindings

def fragment (e : Expr) : Fragment := ⟨textOf (e.tokensAt .disjunction), e.bindings⟩

end Expr

def Operand.Writable : Operand → Prop
  | .column name => PlainName name
  | .literal _ => True

/-- Columns have plain names and lists are not empty. -/
def Expr.Writable : Expr → Prop
  | .or a b | .and a b => a.Writable ∧ b.Writable
  | .not a => a.Writable
  | .compare left _ right => left.Writable ∧ right.Writable
  | .oneOf left items _ => left.Writable ∧ items ≠ [] ∧ ∀ o ∈ items, o.Writable
  | .isNull operand _ | .truthy operand => operand.Writable

instance : (o : Operand) → Decidable o.Writable
  | .column name => inferInstanceAs (Decidable (PlainName name))
  | .literal _ => .isTrue trivial

instance Expr.decidableWritable : (e : Expr) → Decidable e.Writable
  | .or a b | .and a b =>
    have := a.decidableWritable
    have := b.decidableWritable
    inferInstanceAs (Decidable (a.Writable ∧ b.Writable))
  | .not a => a.decidableWritable
  | .compare left _ right => inferInstanceAs (Decidable (left.Writable ∧ right.Writable))
  | .oneOf left items _ =>
    inferInstanceAs (Decidable (left.Writable ∧ items ≠ [] ∧ ∀ o ∈ items, o.Writable))
  | .isNull operand _ | .truthy operand => inferInstanceAs (Decidable operand.Writable)

/-! ### The tokens spell the expression -/

theorem Operand.Writable.spelled {o : Operand} (h : o.Writable) : o.Spelled o.token o.bindings := by
  cases o with
  | column name => exact .column h
  | literal v =>
    cases v with
    | string text => exact .string text
    | _ => exact .placeholder _

theorem spelled_negationTokens (negated : Bool) :
    NegationSpelled negated (negationTokens negated) := by
  cases negated with
  | false => exact .absent
  | true => exact .present (by decide)

theorem Relation.spelled_tokens (r : Relation) : r.Spelled r.tokens := by
  cases r with
  | sign s => exact .sign s
  | like negated ignoreCase =>
    refine .like (spelled_negationTokens negated) ?_
    cases ignoreCase <;> decide

theorem spelled_itemTokens {items : List Operand} (hne : items ≠ [])
    (h : ∀ o ∈ items, o.Writable) :
    ItemsSpelled items (itemTokens items) (items.flatMap Operand.bindings) := by
  induction items with
  | nil => exact absurd rfl hne
  | cons o items ih =>
    have ho := (h o List.mem_cons_self).spelled
    cases items with
    | nil =>
      rw [List.flatMap_singleton]
      exact .last ho
    | cons next items =>
      have hlater := ih (List.cons_ne_nil next items) fun x hx => h x (List.mem_cons_of_mem o hx)
      exact .cons ho hlater

theorem Expr.Spelled.of_unary {n : Nat} {e : Expr} {ts : List Token} {bs : List Json}
    (h : e.Spelled .unary n ts bs) (level : Level) : e.Spelled level n ts bs := by
  cases level with
  | unary => exact h
  | conjunction => exact .link h
  | disjunction => exact .run (.link h)

/-- A spelling that binds too weak for its place stands there in parentheses. -/
theorem Expr.Spelled.enclosed {own level : Level} {n : Nat} {e : Expr} {ts : List Token}
    {bs : List Json} (h : e.Spelled own n ts bs) :
    e.Spelled level (n + (own.fits level).not.toNat) (encloseUnless (own.fits level) ts) bs := by
  cases own with
  | unary => exact h.of_unary level
  | conjunction =>
    cases level with
    | unary => exact .group (.run h)
    | conjunction => exact h
    | disjunction => exact .run h
  | disjunction =>
    cases level with
    | unary => exact .group h
    | conjunction => exact .link (.group h)
    | disjunction => exact h

theorem Expr.Writable.spelled {e : Expr} (h : e.Writable) (level : Level) :
    e.Spelled level (e.nestingAt level) (e.tokensAt level) e.bindings := by
  induction e generalizing level with
  | or a b iha ihb =>
    exact (Expr.Spelled.or (iha h.1 .disjunction) (by decide) (ihb h.2 .conjunction)).enclosed
  | and a b iha ihb =>
    exact (Expr.Spelled.and (iha h.1 .conjunction) (by decide) (ihb h.2 .unary)).enclosed
  | not a ih => exact (Expr.Spelled.not (by decide) (ih h .unary)).of_unary level
  | compare left relation right =>
    have htest := TestSpelled.compare h.1.spelled relation.spelled_tokens h.2.spelled
    exact (Expr.Spelled.test htest).of_unary level
  | oneOf left items negated =>
    have htest := TestSpelled.oneOf h.1.spelled (spelled_negationTokens negated)
      (t := .word "in") (by decide) (spelled_itemTokens h.2.1 h.2.2)
    exact (Expr.Spelled.test htest).of_unary level
  | isNull operand negated =>
    have htest := TestSpelled.isNull (Operand.Writable.spelled h) (t := .word "is")
      (u := .word "null") (by decide) (spelled_negationTokens negated) (by decide)
    exact (Expr.Spelled.test htest).of_unary level
  | truthy operand =>
    exact (Expr.Spelled.test (.truthy (Operand.Writable.spelled h))).of_unary level

/-! ### The text is cut into the tokens -/

/-- Whether the text of a token is cut into this token: a word is one, and there is no number. -/
def Token.Writable : Token → Prop
  | .word text => isIdentifier text = true
  | .number _ => False
  | _ => True

instance : (t : Token) → Decidable t.Writable
  | .word text => inferInstanceAs (Decidable (isIdentifier text = true))
  | .number _ => .isFalse id
  | .string _ | .placeholder | .sign _ | .opening | .closing | .comma | .star => .isTrue trivial

theorem Token.Writable.lexes {t : Token} (h : t.Writable) : Lexes t.text.toList [t] := by
  cases t with
  | word text => exact .word h
  | number n => exact h.elim
  | string text =>
    rw [Token.text, String.toList_ofList]
    exact .string text
  | placeholder => exact .placeholder .nil
  | sign s => exact .sign s
  | opening => exact .opening .nil
  | closing => exact .closing .nil
  | comma => exact .comma .nil
  | star => exact .token (by decide) (fun _ => .star []) .nil

theorem lexes_textOf {ts : List Token} (h : ∀ t ∈ ts, t.Writable) :
    Lexes (textOf ts).toList ts := by
  rw [textOf, String.toList_intercalate]
  induction ts with
  | nil => exact .nil
  | cons t ts ih =>
    have ht := (h t List.mem_cons_self).lexes
    cases ts with
    | nil => simpa using ht
    | cons u us =>
      have hrest := ih fun v hv => h v (List.mem_cons_of_mem t hv)
      simp only [List.map_cons, List.intercalate_cons_cons, List.append_assoc] at hrest ⊢
      exact ht.blank hrest

theorem Token.writable_of_isKeyword {t : Token} {keyword : String}
    (h : t.isKeyword keyword = true) (hword : isIdentifier keyword = true) : t.Writable := by
  obtain ⟨text, rfl⟩ := word_of_isKeyword h
  exact isIdentifier_of_sameIgnoringCase h hword

theorem Operand.Spelled.writable {o : Operand} {t : Token} {bs : List Json}
    (h : o.Spelled t bs) : t.Writable := by
  cases h with
  | column h => exact h.identifier
  | string => trivial
  | placeholder => trivial

theorem NegationSpelled.writable {negated : Bool} {ns : List Token}
    (h : NegationSpelled negated ns) : ∀ t ∈ ns, t.Writable := by
  cases h with
  | absent => exact List.forall_mem_nil _
  | present hn =>
    rw [List.forall_mem_singleton]
    exact Token.writable_of_isKeyword hn (by decide)

theorem Relation.Spelled.writable {r : Relation} {ts : List Token} (h : r.Spelled ts) :
    ∀ t ∈ ts, t.Writable := by
  cases h with
  | sign s =>
    rw [List.forall_mem_singleton]
    trivial
  | @like negated ignoreCase ns t hn hlike =>
    rw [List.forall_mem_append, List.forall_mem_singleton]
    refine ⟨hn.writable, Token.writable_of_isKeyword (likeKeyword?_eq_some_iff.mp hlike) ?_⟩
    cases ignoreCase <;> decide

theorem ItemsSpelled.writable {os : List Operand} {ts : List Token} {bs : List Json}
    (h : ItemsSpelled os ts bs) : ∀ t ∈ ts, t.Writable := by
  induction h with
  | last h =>
    rw [List.forall_mem_singleton]
    exact h.writable
  | cons h _ ih =>
    rw [List.forall_mem_cons, List.forall_mem_cons]
    exact ⟨h.writable, trivial, ih⟩

theorem TestSpelled.writable {e : Expr} {ts : List Token} {bs : List Json}
    (h : TestSpelled e ts bs) : ∀ t ∈ ts, t.Writable := by
  cases h with
  | compare hl hrel hr =>
    simp only [List.forall_mem_cons, List.forall_mem_append]
    exact ⟨hl.writable, hrel.writable, hr.writable, List.forall_mem_nil _⟩
  | oneOf hl hn hin hitems =>
    simp only [List.forall_mem_cons, List.forall_mem_append]
    exact ⟨hl.writable, hn.writable, Token.writable_of_isKeyword hin (by decide), trivial,
      hitems.writable, trivial, List.forall_mem_nil _⟩
  | isNull hl his hn hnull =>
    simp only [List.forall_mem_cons, List.forall_mem_append]
    exact ⟨hl.writable, Token.writable_of_isKeyword his (by decide), hn.writable,
      Token.writable_of_isKeyword hnull (by decide), List.forall_mem_nil _⟩
  | truthy ho =>
    rw [List.forall_mem_singleton]
    exact ho.writable

theorem Expr.Spelled.writable {level : Level} {n : Nat} {e : Expr} {ts : List Token}
    {bs : List Json} (h : e.Spelled level n ts bs) : ∀ t ∈ ts, t.Writable := by
  induction h with
  | test h => exact h.writable
  | not ht _ ih =>
    rw [List.forall_mem_cons]
    exact ⟨Token.writable_of_isKeyword ht (by decide), ih⟩
  | group _ ih =>
    simp only [List.forall_mem_cons, List.forall_mem_append]
    exact ⟨trivial, ih, trivial, List.forall_mem_nil _⟩
  | link _ ih | run _ ih => exact ih
  | and _ ht _ iha ihb | or _ ht _ iha ihb =>
    rw [List.forall_mem_append, List.forall_mem_cons]
    exact ⟨iha, Token.writable_of_isKeyword ht (by decide), ihb⟩

/-- The text of any spelling is read as what it spells, or refused for its depth alone. -/
theorem Expr.Spelled.parse_textOf {n : Nat} {e : Expr} {ts : List Token} {bs : List Json}
    (h : e.Spelled .disjunction n ts bs) :
    parse ⟨textOf ts, bs⟩ = if n ≤ nestingLimit then .ok e
      else .error (.invalidQuery (.raw (textOf ts) .tooDeep)) :=
  h.parse_eq (lexes_textOf h.writable).lex_eq

/-- Reading what has been written gives the expression back, as deep as the reader goes. -/
theorem parse_fragment {e : Expr} (h : e.Writable) :
    parse e.fragment = if e.nestingAt .disjunction ≤ nestingLimit then .ok e
      else .error (.invalidQuery (.raw e.fragment.sql .tooDeep)) :=
  (h.spelled .disjunction).parse_textOf

def lynnUnpaid : Expr :=
  .and (.not (.or
      (.compare (.column "town") (.like true false) (.literal (.string "King's%")))
      (.oneOf (.column "state") [.literal (.bool true), .literal .null] true)))
    (.isNull (.column "paid.at") false)

theorem parse_fragment_lynnUnpaid :
    lynnUnpaid.Writable ∧ parse lynnUnpaid.fragment = .ok lynnUnpaid ∧
    (Nat.repeat Expr.not 65 lynnUnpaid).Writable ∧
    parse (Nat.repeat Expr.not 65 lynnUnpaid).fragment =
      .error (.invalidQuery (.raw (Nat.repeat Expr.not 65 lynnUnpaid).fragment.sql .tooDeep)) := by
  have hread : lynnUnpaid.Writable := by decide +kernel
  have hdeep : (Nat.repeat Expr.not 65 lynnUnpaid).Writable := hread
  refine ⟨hread, ?_, hdeep, ?_⟩
  · rw [parse_fragment hread, if_pos (by decide)]
  · rw [parse_fragment hdeep, if_neg (by decide)]

example : lynnUnpaid.fragment = ⟨"not ( town not like 'King''s%' or state not in ( ? , ? ) ) " ++
    "and paid.at is null", [.bool true, .null]⟩ := by
  rfl

end RowSearch.Raw
