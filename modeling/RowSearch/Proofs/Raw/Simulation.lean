import RowSearch.Proofs.Answers
import RowSearch.Proofs.Raw.Places

/-! # Readings that agree

Other operands in the places of operands do not change how tokens are read: what is read of the one
is read of the other, with the other operands in it. What is left to read is related place by place,
together with the operands read so far, and a relation that the tokens asked for and the operands
respect is respected by every reader.
-/
namespace RowSearch.Raw

namespace Expr

def operands : Expr → List Operand
  | .and a b | .or a b => a.operands ++ b.operands
  | .not a => a.operands
  | .compare left _ right => [left, right]
  | .oneOf left items _ => left :: items
  | .isNull operand _ | .truthy operand => [operand]

/-- Expressions that differ in their operands alone. -/
inductive SameForm : Expr → Expr → Prop where
  | and {a b c d : Expr} (hl : SameForm a c) (hr : SameForm b d) : SameForm (.and a b) (.and c d)
  | or {a b c d : Expr} (hl : SameForm a c) (hr : SameForm b d) : SameForm (.or a b) (.or c d)
  | not {a b : Expr} (h : SameForm a b) : SameForm (.not a) (.not b)
  | compare (a b c d : Operand) (relation : Relation) :
      SameForm (.compare a relation b) (.compare c relation d)
  | oneOf (a b : Operand) {items others : List Operand} (negated : Bool)
      (h : items.length = others.length) :
      SameForm (.oneOf a items negated) (.oneOf b others negated)
  | isNull (a b : Operand) (negated : Bool) : SameForm (.isNull a negated) (.isNull b negated)
  | truthy (a b : Operand) : SameForm (.truthy a) (.truthy b)

namespace SameForm
variable {a b : Expr}

theorem length_operands (h : a.SameForm b) : a.operands.length = b.operands.length := by
  induction h with
  | and _ _ iha ihb | or _ _ iha ihb => simp only [operands, List.length_append, iha, ihb]
  | not _ ih => exact ih
  | oneOf _ _ _ h => simp only [operands, List.length_cons, h]
  | compare | isNull | truthy => rfl

/-- The form and the operands make up the expression. -/
theorem eq (h : a.SameForm b) (ho : a.operands = b.operands) : a = b := by
  induction h with
  | and ha _ iha ihb | or ha _ iha ihb =>
    obtain ⟨hl, hr⟩ := List.append_inj ho ha.length_operands
    rw [iha hl, ihb hr]
  | not _ ih => rw [ih ho]
  | compare | oneOf | isNull | truthy =>
    cases ho
    rfl

end SameForm
end Expr

variable {α β γ δ : Type} {P : List Operand → List Operand → Place → Pending → Pending → Prop}
  {os os' : List Operand} {a : Place} {p q : Pending}

/-- How the next tokens of two readings stand to each other: they are the same and the reading goes
on alike, or the reader looks for neither of them. -/
inductive HeadsMatch (P : Place → Pending → Pending → Prop) (a : Place) :
    Pending → Pending → Prop where
  | nil (bs cs : List Json) : HeadsMatch P a ⟨[], bs⟩ ⟨[], cs⟩
  | same (t : Token) {ts us : List Token} {bs cs : List Json} (h : P (a.step t) ⟨ts, bs⟩ ⟨us, cs⟩) :
      HeadsMatch P a ⟨t :: ts, bs⟩ ⟨t :: us, cs⟩
  | apart {t u : Token} {ts us : List Token} {bs cs : List Json} (ht : a.asks t = false)
      (hnull : a = .after → t.isKeyword "null" = false) (hu : a.asks u = false) :
      HeadsMatch P a ⟨t :: ts, bs⟩ ⟨u :: us, cs⟩

/-- A relation between the operands read so far and what is left to read, at a place, that operands
respect. -/
structure Simulates (P : List Operand → List Operand → Place → Pending → Pending → Prop) :
    Prop where
  length : ∀ {os os' a p q}, P os os' a p q → q.tokens.length = p.tokens.length
  heads : ∀ {os os' a p q}, P os os' a p q → HeadsMatch (P os os') a p q
  /-- Where neither a negation nor a parenthesis stands, an operand does. -/
  operand_of_test : ∀ {os os' p q}, P os os' .test p q →
    (∀ t ∈ p.tokens.head?, Place.asks .test t = false) → P os os' .operand p q
  operand : ∀ {os os' p q o p'}, P os os' .operand p q → operand p = .ok (o, p') →
    ∃ o' q', operand q = .ok (o', q') ∧ P (os ++ [o]) (os' ++ [o']) .after p' q'
  bindings : ∀ {os os' p q}, P os os' .after p q → p.tokens = [] → p.bindings = [] →
    q.bindings = []

/-- Where the one reading comes to an end, the other does, and what they have read and left is
related. -/
def Carries (Q : α → β → Pending → Pending → Prop) (x : Except Fault (α × Pending))
    (y : Except Fault (β × Pending)) : Prop :=
  ∀ a p, x = .ok (a, p) → ∃ b q, y = .ok (b, q) ∧ Q a b p q

def ReadAlike (P : List Operand → List Operand → Place → Pending → Pending → Prop)
    (os os' : List Operand) (e e' : Expr) (p q : Pending) : Prop :=
  e.SameForm e' ∧ P (os ++ e.operands) (os' ++ e'.operands) .after p q

theorem Carries.ok {Q : α → β → Pending → Pending → Prop} {a : α} {b : β} (h : Q a b p q) :
    Carries Q (.ok (a, p)) (.ok (b, q)) := by
  intro _ _ heq
  cases heq
  exact ⟨b, q, rfl, h⟩

theorem Carries.error {Q : α → β → Pending → Pending → Prop} (fault : Fault)
    (y : Except Fault (β × Pending)) : Carries Q (.error fault) y := by
  intro _ _ heq
  cases heq

theorem Carries.bind {Q : α → β → Pending → Pending → Prop} {S : γ → δ → Pending → Pending → Prop}
    {x : Except Fault (α × Pending)} {y : Except Fault (β × Pending)}
    {f : α × Pending → Except Fault (γ × Pending)} {g : β × Pending → Except Fault (δ × Pending)}
    (hx : Carries Q x y) (hf : ∀ a b p q, Q a b p q → Carries S (f (a, p)) (g (b, q))) :
    Carries S (x >>= f) (y >>= g) := by
  intro c p heq
  obtain ⟨⟨a, p⟩, hxa, heq⟩ := bind_eq_ok_iff.mp heq
  obtain ⟨b, q, hy, hQ⟩ := hx a p hxa
  rw [hy]
  exact hf a b p q hQ c _ heq

namespace Simulates
variable (h : Simulates P)
include h

/-- A token that is looked for stands next in both readings or in none. -/
theorem next (hP : P os os' a p q) {wanted : Token → Prop}
    (hwanted : ∀ t, a.asks t = false → ¬wanted t) :
    (∃ t ts us, wanted t ∧ p.tokens = t :: ts ∧ q.tokens = t :: us ∧
      P os os' (a.step t) ⟨ts, p.bindings⟩ ⟨us, q.bindings⟩) ∨
    (∀ t ∈ p.tokens.head?, ¬wanted t) ∧ ∀ t ∈ q.tokens.head?, ¬wanted t := by
  cases h.heads hP with
  | nil => exact .inr ⟨by simp, by simp⟩
  | @same t ts us _ _ htail =>
    by_cases ht : wanted t
    · exact .inl ⟨t, ts, us, ht, rfl, rfl, htail⟩
    · exact .inr ⟨by simpa using ht, by simpa using ht⟩
  | apart ht _ hu => exact .inr ⟨by simpa using hwanted _ ht, by simpa using hwanted _ hu⟩

theorem next_token (hP : P os os' a p q) (wanted : Token) (hwanted : a.asks wanted = true) :
    (∃ ts us, p.tokens = wanted :: ts ∧ q.tokens = wanted :: us ∧
      P os os' (a.step wanted) ⟨ts, p.bindings⟩ ⟨us, q.bindings⟩) ∨
    p.tokens.head? ≠ some wanted ∧ q.tokens.head? ≠ some wanted := by
  have hasks (t : Token) (ht : a.asks t = false) : t ≠ wanted := by
    rintro rfl
    rw [ht] at hwanted
    cases hwanted
  rcases h.next hP hasks with ⟨_, ts, us, rfl, hts, hus, htail⟩ | ⟨hp, hq⟩
  · exact .inl ⟨ts, us, hts, hus, htail⟩
  · exact .inr ⟨fun heq => hp _ heq rfl, fun heq => hq _ heq rfl⟩

theorem keyword? (hP : P os os' a p q) (keyword : String)
    (hkeyword : a.asks (.word keyword) = true) :
    (∃ p' q', p.keyword? keyword = some p' ∧ q.keyword? keyword = some q' ∧
      P os os' (a.step (.word keyword)) p' q') ∨
      p.keyword? keyword = none ∧ q.keyword? keyword = none := by
  obtain ⟨ts, bs⟩ := p
  obtain ⟨us, cs⟩ := q
  have hasks (t : Token) (ht : a.asks t = false) : ¬t.isKeyword keyword = true := by
    intro hword
    rw [a.asks_of_isKeyword hword, hkeyword] at ht
    cases ht
  have hnone {ts : List Token} {bs : List Json}
      (hts : ∀ t ∈ ts.head?, ¬t.isKeyword keyword = true) :
      (Pending.mk ts bs).keyword? keyword = none := by
    cases ts with
    | nil => rfl
    | cons t ts => exact keyword?_of_not_isKeyword (Bool.eq_false_iff.mpr (hts t rfl))
  rcases h.next hP hasks with ⟨t, ts, us, ht, rfl, rfl, htail⟩ | ⟨hp, hq⟩
  · rw [a.step_of_isKeyword ht] at htail
    exact .inl ⟨_, _, keyword?_of_isKeyword ht, keyword?_of_isKeyword ht, htail⟩
  · exact .inr ⟨hnone hp, hnone hq⟩

/-- A literal null may stand where the one reading has none. -/
theorem keyword?_null (hP : P os os' .after p q) {p' : Pending}
    (hp : p.keyword? "null" = some p') :
    ∃ q', q.keyword? "null" = some q' ∧ P os os' .after p' q' := by
  cases h.heads hP with
  | nil => cases hp
  | same t htail =>
    cases ht : t.isKeyword "null" with
    | true =>
      rw [Place.step_of_isKeyword .after ht] at htail
      rw [keyword?_of_isKeyword ht] at hp
      cases hp
      exact ⟨_, keyword?_of_isKeyword ht, htail⟩
    | false =>
      rw [keyword?_of_not_isKeyword ht] at hp
      cases hp
  | apart _ hnull _ =>
    rw [keyword?_of_not_isKeyword (hnull rfl)] at hp
    cases hp

theorem carries_expect {Q : α → β → Pending → Pending → Prop} (hP : P os os' a p q)
    {wanted : Token} (hwanted : a.asks wanted = true) {f : Reader α} {g : Reader β}
    (hf : ∀ p q, P os os' (a.step wanted) p q → Carries Q (f p) (g q)) :
    Carries Q (expect wanted p >>= f) (expect wanted q >>= g) := by
  obtain ⟨ts, bs⟩ := p
  obtain ⟨us, cs⟩ := q
  rcases h.next_token hP wanted hwanted with ⟨ts, us, rfl, rfl, htail⟩ | ⟨hne, _⟩
  · have htake {ts : List Token} {bs : List Json} :
        expect wanted ⟨wanted :: ts, bs⟩ = .ok ⟨ts, bs⟩ := if_pos rfl
    rw [htake, htake]
    exact hf _ _ htail
  · cases ts with
    | nil => exact Carries.error _ _
    | cons t ts =>
      have hfails : expect wanted ⟨t :: ts, bs⟩ = .error (.expected wanted (some t)) :=
        if_neg fun heq => hne (congrArg some heq)
      rw [hfails]
      exact Carries.error _ _

theorem carries_operand (hP : P os os' .operand p q) :
    Carries (fun o o' p q => P (os ++ [o]) (os' ++ [o']) .after p q) (Raw.operand p)
      (Raw.operand q) :=
  fun _ _ heq => h.operand hP heq

theorem carries_moreItems {items others : List Operand} (hlength : items.length = others.length)
    (hP : P (os ++ items) (os' ++ others) .after p q) (fuel : Nat) :
    Carries (fun items others p q => items.length = others.length ∧
        P (os ++ items) (os' ++ others) .after p q)
      (moreItems items p fuel) (moreItems others q fuel) := by
  induction fuel generalizing items others p q with
  | zero => exact Carries.ok ⟨hlength, hP⟩
  | succ fuel ih =>
    rcases h.next_token hP .comma rfl with ⟨ts, us, hts, hus, htail⟩ | ⟨hp, hq⟩
    · rw [moreItems_comma hts, moreItems_comma hus]
      refine (h.carries_operand htail).bind fun o o' p q hP => ih (by simp [hlength]) ?_
      rwa [← List.append_assoc, ← List.append_assoc]
    · rw [moreItems_of_head? hp, moreItems_of_head? hq]
      exact Carries.ok ⟨hlength, hP⟩

theorem carries_itemList (hP : P os os' .list p q) :
    Carries (fun items others p q => items.length = others.length ∧
        P (os ++ items) (os' ++ others) .after p q)
      (itemList p) (itemList q) := by
  refine h.carries_expect hP rfl fun p q hP => ?_
  refine (h.carries_operand hP).bind fun first first' p q hP => ?_
  dsimp only
  rw [h.length hP]
  have hone : [first].length = [first'].length := rfl
  refine (h.carries_moreItems hone hP _).bind fun items others p q ⟨hlength, hP⟩ => ?_
  exact h.carries_expect hP rfl fun p q hP => Carries.ok ⟨hlength, hP⟩

/-- A comparison takes one operand more. -/
theorem carries_compare {left left' : Operand} (relation : Relation)
    (hP : P (os ++ [left]) (os' ++ [left']) .operand p q) :
    Carries (ReadAlike P os os')
      (Raw.operand p >>= fun r => .ok (.compare left relation r.1, r.2))
      (Raw.operand q >>= fun r => .ok (.compare left' relation r.1, r.2)) := by
  refine (h.carries_operand hP).bind fun right right' p q hP => Carries.ok ?_
  rw [List.append_assoc, List.append_assoc] at hP
  exact ⟨.compare left right left' right' relation, hP⟩

theorem carries_afterNot {left left' : Operand} (negated : Bool)
    (hP : P (os ++ [left]) (os' ++ [left']) .after p q) :
    Carries (ReadAlike P os os') (afterNot left negated p) (afterNot left' negated q) := by
  have hasks (t : Token) (ht : Place.asks .after t = false) : ¬t.likeKeyword? ≠ none :=
    not_not.mpr (likeKeyword?_of_plain (by simpa [Place.asks] using ht))
  obtain ⟨ts, bs⟩ := p
  obtain ⟨us, cs⟩ := q
  rcases h.next hP hasks with ⟨t, ts, us, ht, rfl, rfl, htail⟩ | ⟨hp, hq⟩
  · obtain ⟨ignoreCase, ht⟩ := Option.ne_none_iff_exists'.mp ht
    have hword := likeKeyword?_eq_some_iff.mp ht
    have hstep : Place.step .after (.word (likeKeyword ignoreCase)) = .operand := by
      cases ignoreCase <;> rfl
    rw [Place.step_of_isKeyword .after hword, hstep] at htail
    rw [afterNot, afterNot]
    simp only [List.head?_cons, Option.bind_some, ht, List.tail_cons]
    exact h.carries_compare _ htail
  · have hlike {ts : List Token} (hts : ∀ t ∈ ts.head?, ¬t.likeKeyword? ≠ none) :
        ts.head?.bind Token.likeKeyword? = none :=
      Option.bind_eq_none_iff.mpr fun t ht => not_not.mp (hts t ht)
    rw [afterNot, afterNot, hlike hp, hlike hq]
    dsimp only
    rcases h.keyword? hP "in" (by decide) with ⟨p', q', hp, hq, hP⟩ | ⟨hp, hq⟩
    · rw [hp, hq]
      refine (h.carries_itemList hP).bind fun items others p q hread => Carries.ok ?_
      obtain ⟨hlength, hP⟩ := hread
      rw [List.append_assoc, List.append_assoc] at hP
      exact ⟨.oneOf left left' negated hlength, hP⟩
    · rw [hp, hq]
      cases negated with
      | true => exact Carries.error _ _
      | false => exact Carries.ok ⟨.truthy left left', hP⟩

theorem carries_nullTest {left left' : Operand} (negated : Bool)
    (hP : P (os ++ [left]) (os' ++ [left']) .after p q) :
    Carries (ReadAlike P os os') (nullTest left negated p) (nullTest left' negated q) := by
  rw [nullTest, nullTest]
  cases hp : p.keyword? "null" with
  | none => exact Carries.error _ _
  | some p' =>
    obtain ⟨q', hq, hP⟩ := h.keyword?_null hP hp
    rw [hq]
    exact Carries.ok ⟨.isNull left left' negated, hP⟩

theorem carries_afterOperand {left left' : Operand}
    (hP : P (os ++ [left]) (os' ++ [left']) .after p q) :
    Carries (ReadAlike P os os') (afterOperand left p) (afterOperand left' q) := by
  have hasks (t : Token) (ht : Place.asks .after t = false) : ¬∃ s, t = .sign s := by
    rintro ⟨s, rfl⟩
    cases ht
  rcases h.next hP hasks with ⟨_, ts, us, ⟨s, rfl⟩, hts, hus, htail⟩ | ⟨hp, hq⟩
  · rw [afterOperand_sign hts, afterOperand_sign hus]
    exact h.carries_compare _ htail
  · rw [afterOperand_word hp, afterOperand_word hq]
    rcases h.keyword? hP "is" (by decide) with ⟨p', q', hp, hq, hP'⟩ | ⟨hp, hq⟩
    · rw [hp, hq]
      dsimp only
      rcases h.keyword? hP' "not" (by decide) with ⟨p, q, hp, hq, hP⟩ | ⟨hp, hq⟩
      · rw [hp, hq]
        exact h.carries_nullTest true hP
      · rw [hp, hq]
        exact h.carries_nullTest false hP'
    · rw [hp, hq]
      dsimp only
      rcases h.keyword? hP "not" (by decide) with ⟨p, q, hp, hq, hP'⟩ | ⟨hp, hq⟩
      · rw [hp, hq]
        exact h.carries_afterNot true hP'
      · rw [hp, hq]
        exact h.carries_afterNot false hP

theorem carries_test (hP : P os os' .operand p q) :
    Carries (ReadAlike P os os') (test p) (test q) :=
  (h.carries_operand hP).bind fun _ _ _ _ hP => h.carries_afterOperand hP

structure Joins (join : Expr → Expr → Expr) : Prop where
  sameForm : ∀ {a b c d : Expr}, a.SameForm c → b.SameForm d → (join a b).SameForm (join c d)
  operands : ∀ a b : Expr, (join a b).operands = a.operands ++ b.operands

theorem carries_chainRest {keyword : String} (hkeyword : Place.step .after (.word keyword) = .test)
    (hasks : Place.asks .after (.word keyword) = true) {join : Expr → Expr → Expr}
    (hjoin : Joins join) {link : Reader Expr}
    (hlink : ∀ {os os' p q}, P os os' .test p q → Carries (ReadAlike P os os') (link p) (link q))
    {left left' : Expr} (hleft : ReadAlike P os os' left left' p q) (fuel : Nat) :
    Carries (ReadAlike P os os') (chainRest keyword join link left p fuel)
      (chainRest keyword join link left' q fuel) := by
  induction fuel generalizing left left' p q with
  | zero => exact Carries.ok hleft
  | succ fuel ih =>
    obtain ⟨hform, hP⟩ := hleft
    rcases h.keyword? hP keyword hasks with ⟨p, q, hp, hq, hP⟩ | ⟨hp, hq⟩
    · rw [chainRest_keyword hp, chainRest_keyword hq]
      rw [hkeyword] at hP
      refine (hlink hP).bind fun right right' p q ⟨hright, hP⟩ => ?_
      refine ih ⟨hjoin.sameForm hform hright, ?_⟩
      rwa [hjoin.operands, hjoin.operands, ← List.append_assoc, ← List.append_assoc]
    · rw [chainRest_of_keyword?_eq_none hp, chainRest_of_keyword?_eq_none hq]
      exact Carries.ok ⟨hform, hP⟩

theorem carries_chain {keyword : String} (hkeyword : Place.step .after (.word keyword) = .test)
    (hasks : Place.asks .after (.word keyword) = true) {join : Expr → Expr → Expr}
    (hjoin : Joins join) {link : Reader Expr}
    (hlink : ∀ {os os' p q}, P os os' .test p q → Carries (ReadAlike P os os') (link p) (link q))
    (hP : P os os' .test p q) :
    Carries (ReadAlike P os os') (chain keyword join link p) (chain keyword join link q) := by
  rw [chain_eq, chain_eq]
  refine (hlink hP).bind fun left left' p q hleft => ?_
  dsimp only
  rw [h.length hleft.2]
  exact h.carries_chainRest hkeyword hasks hjoin hlink hleft _

theorem carries_disjunction {link : Reader Expr}
    (hlink : ∀ {os os' p q}, P os os' .test p q → Carries (ReadAlike P os os') (link p) (link q))
    (hP : P os os' .test p q) :
    Carries (ReadAlike P os os') (disjunction link p) (disjunction link q) :=
  h.carries_chain rfl rfl ⟨.or, fun _ _ => rfl⟩
    (fun hP => h.carries_chain rfl rfl ⟨.and, fun _ _ => rfl⟩ hlink hP) hP

theorem carries_unary (depth : Nat) (hP : P os os' .test p q) :
    Carries (ReadAlike P os os') (unary depth p) (unary depth q) := by
  induction depth generalizing os os' p q with
  | zero =>
    rcases h.keyword? hP "not" (by decide) with ⟨p', q', hp, hq, hP'⟩ | ⟨hp, hq⟩
    · rw [unary, hp]
      exact Carries.error _ _
    · rcases h.next_token hP .opening rfl with ⟨ts, us, hts, hus, hP⟩ | ⟨hp', hq'⟩
      · rw [unary, hp, hts]
        exact Carries.error _ _
      · rw [unary_test hp hp', unary_test hq hq']
        exact h.carries_test (h.operand_of_test hP (asks_test_eq_false hp hp'))
  | succ depth ih =>
    rcases h.keyword? hP "not" (by decide) with ⟨p', q', hp, hq, hP'⟩ | ⟨hp, hq⟩
    · rw [unary_not hp, unary_not hq]
      exact (ih hP').bind fun _ _ _ _ hread => Carries.ok ⟨.not hread.1, hread.2⟩
    · rcases h.next_token hP .opening rfl with ⟨ts, us, hts, hus, hP⟩ | ⟨hp', hq'⟩
      · obtain ⟨_, bs⟩ := p
        obtain ⟨_, cs⟩ := q
        subst hts hus
        rw [unary_opening, unary_opening]
        refine (h.carries_disjunction ih hP).bind fun _ _ p q hread => ?_
        exact h.carries_expect hread.2 rfl fun p q hP => Carries.ok ⟨hread.1, hP⟩
      · rw [unary_test hp hp', unary_test hq hq']
        exact h.carries_test (h.operand_of_test hP (asks_test_eq_false hp hp'))

/-- What is read of the one is read of the other, with related operands. -/
theorem parseTokens {ts us : List Token} {bs cs : List Json} (hP : P [] [] .test ⟨ts, bs⟩ ⟨us, cs⟩)
    {e : Expr} (he : parseTokens ts bs = .ok e) :
    ∃ e', Raw.parseTokens us cs = .ok e' ∧ e.SameForm e' ∧
      P e.operands e'.operands .after ⟨[], []⟩ ⟨[], []⟩ := by
  have hread := h.carries_disjunction (h.carries_unary nestingLimit) hP
  obtain ⟨e', ⟨us, cs⟩, hq, hform, hP⟩ := hread _ _ (parseTokens_eq_ok_iff.mp he)
  rw [List.nil_append, List.nil_append] at hP
  have hnil : us = [] := List.eq_nil_of_length_eq_zero (h.length hP)
  have hbindings : cs = [] := h.bindings hP rfl rfl
  subst hnil hbindings
  exact ⟨e', parseTokens_eq_ok_iff.mpr hq, hform, hP⟩

end Simulates
end RowSearch.Raw
