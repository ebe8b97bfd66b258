import RowSearch.Proofs.Raw.Names

/-! # The grammar of raw expressions

How an expression can be spelled, as a relation between the expression, its tokens and the values
its placeholders take. Every spelling is read as the expression it spells, unless parentheses and
negations nest deeper in it than the reader may open levels; then it is refused for that alone.
-/
namespace RowSearch.Raw

theorem not_isKeyword {t : Token} {keyword other : String} (h : t.isKeyword keyword = true)
    (hne : sameIgnoringCase keyword other = false) : t.isKeyword other = false := by
  cases t with
  | word text =>
    simp only [Token.isKeyword, sameIgnoringCase, beq_iff_eq] at h
    simpa only [Token.isKeyword, sameIgnoringCase, h] using hne
  | _ => exact absurd h Bool.false_ne_true

theorem word_of_isKeyword {t : Token} {keyword : String} (h : t.isKeyword keyword = true) :
    ∃ text, t = .word text := by
  cases t with
  | word text => exact ⟨text, rfl⟩
  | _ => exact absurd h Bool.false_ne_true

section Keywords
variable {t : Token} {keyword : String} {rest : List Token} {bindings : List Json}

theorem keyword?_of_isKeyword (h : t.isKeyword keyword = true) :
    (Pending.mk (t :: rest) bindings).keyword? keyword = some ⟨rest, bindings⟩ := if_pos h

theorem keyword?_of_not_isKeyword (h : t.isKeyword keyword = false) :
    (Pending.mk (t :: rest) bindings).keyword? keyword = none := if_neg (by simp [h])

theorem keyword?_nil : (Pending.mk [] bindings).keyword? keyword = none := rfl

end Keywords

inductive Operand.Spelled : Operand → Token → List Json → Prop where
  | column {name : String} (h : PlainName name) : Spelled (.column name) (.word name) []
  | string (text : String) : Spelled (.literal (.string text)) (.string text) []
  | placeholder (v : Json) : Spelled (.literal v) .placeholder [v]

inductive NegationSpelled : Bool → List Token → Prop where
  | absent : NegationSpelled false []
  | present {t : Token} (h : t.isKeyword "not" = true) : NegationSpelled true [t]

inductive Relation.Spelled : Relation → List Token → Prop where
  | sign (s : Sign) : Spelled (.sign s) [.sign s]
  | like {negated ignoreCase : Bool} {ns : List Token} {t : Token}
      (hn : NegationSpelled negated ns) (h : t.likeKeyword? = some ignoreCase) :
      Spelled (.like negated ignoreCase) (ns ++ [t])

inductive ItemsSpelled : List Operand → List Token → List Json → Prop where
  | last {o : Operand} {t : Token} {bs : List Json} (h : o.Spelled t bs) :
      ItemsSpelled [o] [t] bs
  | cons {o : Operand} {t : Token} {bs : List Json} {os : List Operand} {ts : List Token}
      {cs : List Json} (h : o.Spelled t bs) (hrest : ItemsSpelled os ts cs) :
      ItemsSpelled (o :: os) (t :: .comma :: ts) (bs ++ cs)

inductive TestSpelled : Expr → List Token → List Json → Prop where
  | compare {left right : Operand} {relation : Relation} {l r : Token} {ts : List Token}
      {bs cs : List Json} (hl : left.Spelled l bs) (hrel : relation.Spelled ts)
      (hr : right.Spelled r cs) :
      TestSpelled (.compare left relation right) (l :: (ts ++ [r])) (bs ++ cs)
  | oneOf {left : Operand} {items : List Operand} {negated : Bool} {l t : Token}
      {ns us : List Token} {bs cs : List Json} (hl : left.Spelled l bs)
      (hn : NegationSpelled negated ns) (hin : t.isKeyword "in" = true)
      (hitems : ItemsSpelled items us cs) :
      TestSpelled (.oneOf left items negated) (l :: (ns ++ t :: .opening :: (us ++ [.closing])))
        (bs ++ cs)
  | isNull {operand : Operand} {negated : Bool} {l t u : Token} {ns : List Token}
      {bs : List Json} (hl : operand.Spelled l bs) (his : t.isKeyword "is" = true)
      (hn : NegationSpelled negated ns) (hnull : u.isKeyword "null" = true) :
      TestSpelled (.isNull operand negated) (l :: t :: (ns ++ [u])) bs
  | truthy {operand : Operand} {t : Token} {bs : List Json} (h : operand.Spelled t bs) :
      TestSpelled (.truthy operand) [t] bs

/-- What binds tighter stands lower. -/
inductive Level where
  | unary
  | conjunction
  | disjunction

/-- The spellings of an expression at a level, in which parentheses and negations nest `n`
deep. -/
inductive Expr.Spelled : Expr → Level → Nat → List Token → List Json → Prop where
  | test {e : Expr} {ts : List Token} {bs : List Json} (h : TestSpelled e ts bs) :
      Spelled e .unary 0 ts bs
  | not {n : Nat} {e : Expr} {t : Token} {ts : List Token} {bs : List Json}
      (ht : t.isKeyword "not" = true) (h : Spelled e .unary n ts bs) :
      Spelled (.not e) .unary (n + 1) (t :: ts) bs
  | group {n : Nat} {e : Expr} {ts : List Token} {bs : List Json}
      (h : Spelled e .disjunction n ts bs) :
      Spelled e .unary (n + 1) (.opening :: (ts ++ [.closing])) bs
  | link {n : Nat} {e : Expr} {ts : List Token} {bs : List Json}
      (h : Spelled e .unary n ts bs) : Spelled e .conjunction n ts bs
  | and {m n : Nat} {a b : Expr} {t : Token} {ts us : List Token} {bs cs : List Json}
      (ha : Spelled a .conjunction m ts bs) (ht : t.isKeyword "and" = true)
      (hb : Spelled b .unary n us cs) :
      Spelled (.and a b) .conjunction (max m n) (ts ++ t :: us) (bs ++ cs)
  | run {n : Nat} {e : Expr} {ts : List Token} {bs : List Json}
      (h : Spelled e .conjunction n ts bs) : Spelled e .disjunction n ts bs
  | or {m n : Nat} {a b : Expr} {t : Token} {ts us : List Token} {bs cs : List Json}
      (ha : Spelled a .disjunction m ts bs) (ht : t.isKeyword "or" = true)
      (hb : Spelled b .conjunction n us cs) :
      Spelled (.or a b) .disjunction (max m n) (ts ++ t :: us) (bs ++ cs)

/-- What can stand after a test: nothing, a closing parenthesis or a connective. -/
def EndsTest (rest : List Token) : Prop :=
  ∀ t ∈ rest.head?, t = .closing ∨ t.isKeyword "and" = true ∨ t.isKeyword "or" = true

def EndsRun (rest : List Token) : Prop :=
  ∀ t ∈ rest.head?, t = .closing ∨ t.isKeyword "or" = true

theorem EndsRun.endsTest {rest : List Token} (h : EndsRun rest) : EndsTest rest :=
  fun t ht => (h t ht).imp_right Or.inr

theorem EndsRun.closing (rest : List Token) : EndsRun (.closing :: rest) := by
  intro t ht
  cases ht
  exact Or.inl rfl

theorem EndsTest.keyword?_eq_none {rest : List Token} (h : EndsTest rest) (keyword : String)
    (hand : sameIgnoringCase "and" keyword = false) (hor : sameIgnoringCase "or" keyword = false)
    (bindings : List Json) : (Pending.mk rest bindings).keyword? keyword = none := by
  cases rest with
  | nil => rfl
  | cons t rest =>
    apply keyword?_of_not_isKeyword
    rcases h t rfl with rfl | ht | ht
    · rfl
    · exact not_isKeyword ht hand
    · exact not_isKeyword ht hor

/-! ### Tests -/

section Tests
variable {rest : List Token} {more : List Json}

/-- An operand is read from its one token, whatever follows it but a parenthesis that opens. -/
theorem Operand.Spelled.operand_eq {o : Operand} {t : Token} {bs : List Json}
    (h : o.Spelled t bs) (hrest : rest.head? ≠ some .opening) :
    operand ⟨t :: rest, bs ++ more⟩ = .ok (o, ⟨rest, more⟩) := by
  cases h with
  | column hname => exact hname.wordOperand_eq hrest
  | string => rfl
  | placeholder => rfl

theorem Operand.Spelled.not_isKeyword_not {o : Operand} {t : Token} {bs : List Json}
    (h : o.Spelled t bs) : t.isKeyword "not" = false := by
  cases h with
  | column hname => exact hname.notReserved "not" (by decide)
  | string => rfl
  | placeholder => rfl

theorem Operand.Spelled.ne_opening {o : Operand} {t : Token} {bs : List Json}
    (h : o.Spelled t bs) : t ≠ .opening := by
  cases h <;> exact Token.noConfusion

theorem ItemsSpelled.length_le {os : List Operand} {ts : List Token} {bs : List Json}
    (h : ItemsSpelled os ts bs) : os.length ≤ ts.length := by
  induction h with
  | last => simp
  | cons ho hrest ih =>
    simp only [List.length_cons]
    omega

theorem ItemsSpelled.moreItems_eq {os : List Operand} {ts : List Token} {bs : List Json}
    (h : ItemsSpelled os ts bs) (read : List Operand) {fuel : Nat} (hfuel : os.length < fuel) :
    moreItems read ⟨.comma :: (ts ++ .closing :: rest), bs ++ more⟩ fuel =
      .ok (read ++ os, ⟨.closing :: rest, more⟩) := by
  induction h generalizing read fuel with
  | last ho =>
    obtain ⟨fuel, rfl⟩ := Nat.exists_eq_add_of_le' (Nat.one_le_of_lt hfuel)
    rw [moreItems]
    simp only [List.singleton_append]
    rw [ho.operand_eq (by simp)]
    obtain ⟨fuel, rfl⟩ := Nat.exists_eq_add_of_le' (Nat.le_of_lt_succ hfuel)
    rfl
  | cons ho hrest ih =>
    obtain ⟨fuel, rfl⟩ := Nat.exists_eq_add_of_le' (Nat.one_le_of_lt hfuel)
    rw [moreItems]
    simp only [List.cons_append, List.append_assoc]
    rw [ho.operand_eq (by simp)]
    simp only
    rw [ih (read ++ [_]) (Nat.lt_of_succ_lt_succ hfuel), List.append_assoc]
    rfl

theorem ItemsSpelled.itemList_eq {os : List Operand} {ts : List Token} {bs : List Json}
    (h : ItemsSpelled os ts bs) :
    itemList ⟨.opening :: (ts ++ .closing :: rest), bs ++ more⟩ = .ok (os, ⟨rest, more⟩) := by
  have hopen : expect .opening ⟨.opening :: (ts ++ .closing :: rest), bs ++ more⟩ =
      .ok ⟨ts ++ .closing :: rest, bs ++ more⟩ := rfl
  have hclose : expect .closing ⟨.closing :: rest, more⟩ = .ok ⟨rest, more⟩ := rfl
  rw [itemList, hopen]
  cases h with
  | last ho =>
    simp only [bind, Except.bind, List.singleton_append]
    rw [ho.operand_eq (by simp)]
    simp only [List.length_cons, moreItems, hclose]
    rfl
  | cons ho hitems =>
    have hlength := hitems.length_le
    simp only [bind, Except.bind, List.cons_append, List.append_assoc]
    rw [ho.operand_eq (by simp)]
    simp only
    rw [hitems.moreItems_eq _ (by simp only [List.length_cons, List.length_append]; omega)]
    simp only [hclose]
    rfl

def likeKeyword (ignoreCase : Bool) : String := if ignoreCase then "ilike" else "like"

theorem likeKeyword?_eq_some_iff {t : Token} {ignoreCase : Bool} :
    t.likeKeyword? = some ignoreCase ↔ t.isKeyword (likeKeyword ignoreCase) = true := by
  rw [Token.likeKeyword?]
  by_cases hlike : t.isKeyword "like" = true
  · have hilike : t.isKeyword "ilike" = false := not_isKeyword hlike (by decide)
    cases ignoreCase <;> simp [likeKeyword, hlike, hilike]
  · cases ignoreCase <;> simp [likeKeyword, hlike]

theorem likeKeyword?_eq_none {t : Token} (hlike : t.isKeyword "like" = false)
    (hilike : t.isKeyword "ilike" = false) : t.likeKeyword? = none := by
  simp [Token.likeKeyword?, hlike, hilike]

/-- After the left operand a negation is taken off, if there is one. -/
theorem NegationSpelled.afterOperand_eq {negated : Bool} {ns : List Token}
    (h : NegationSpelled negated ns) (left : Operand) {t : Token}
    (hsign : ∀ s, t ≠ .sign s) (his : t.isKeyword "is" = false)
    (hnot : t.isKeyword "not" = false) {bindings : List Json} :
    afterOperand left ⟨ns ++ t :: rest, bindings⟩ =
      afterNot left negated ⟨t :: rest, bindings⟩ := by
  cases h with
  | absent =>
    rw [List.nil_append, afterOperand]
    split
    · next s _ heq =>
      simp only [List.cons.injEq] at heq
      exact absurd heq.1 (hsign s)
    · rw [keyword?_of_not_isKeyword his, keyword?_of_not_isKeyword hnot]
  | present hn =>
    obtain ⟨text, rfl⟩ := word_of_isKeyword hn
    rw [List.singleton_append, afterOperand]
    simp only
    rw [keyword?_of_not_isKeyword (not_isKeyword hn (by decide)), keyword?_of_isKeyword hn]

theorem Relation.Spelled.afterOperand_eq {relation : Relation} {ts : List Token}
    (h : relation.Spelled ts) (left : Operand) {right : Operand} {r : Token} {bs : List Json}
    (hr : right.Spelled r bs) (hrest : rest.head? ≠ some .opening) :
    afterOperand left ⟨ts ++ r :: rest, bs ++ more⟩ =
      .ok (.compare left relation right, ⟨rest, more⟩) := by
  cases h with
  | sign s =>
    rw [List.singleton_append, afterOperand]
    simp only [hr.operand_eq hrest]
    rfl
  | @like negated ignoreCase ns t hn hlike =>
    have hkeyword := likeKeyword?_eq_some_iff.mp hlike
    have his : t.isKeyword "is" = false :=
      not_isKeyword hkeyword (by cases ignoreCase <;> decide)
    have hnot : t.isKeyword "not" = false :=
      not_isKeyword hkeyword (by cases ignoreCase <;> decide)
    obtain ⟨text, rfl⟩ := word_of_isKeyword hkeyword
    rw [List.append_assoc, List.singleton_append,
      hn.afterOperand_eq left (fun _ => Token.noConfusion) his hnot, afterNot]
    simp only [List.head?_cons, Option.bind_some, hlike, List.tail_cons, hr.operand_eq hrest]
    rfl

theorem EndsTest.head?_ne_opening (h : EndsTest rest) : rest.head? ≠ some .opening := by
  intro hrest
  rcases h .opening hrest with hc | hc | hc <;> cases hc

/-- A bare operand is a test of its own. -/
theorem EndsTest.afterOperand_eq (h : EndsTest rest) (left : Operand) :
    afterOperand left ⟨rest, more⟩ = .ok (.truthy left, ⟨rest, more⟩) := by
  have hnot := h.keyword?_eq_none "not" (by decide) (by decide) more
  have hin := h.keyword?_eq_none "in" (by decide) (by decide) more
  have his := h.keyword?_eq_none "is" (by decide) (by decide) more
  have hlike : rest.head?.bind Token.likeKeyword? = none := by
    cases rest with
    | nil => rfl
    | cons t rest =>
      apply likeKeyword?_eq_none <;>
      · rcases h t rfl with rfl | ht | ht
        · rfl
        · exact not_isKeyword ht (by decide)
        · exact not_isKeyword ht (by decide)
  have hnegation : afterNot left false ⟨rest, more⟩ = .ok (.truthy left, ⟨rest, more⟩) := by
    rw [afterNot]
    simp only [hlike, hin]
    rfl
  rw [afterOperand]
  split
  · next s _ heq =>
    simp only at heq
    rcases h (.sign s) (by simp [heq]) with hs | hs | hs <;> cases hs
  · simp only [his, hnot, hnegation]

theorem NegationSpelled.head?_ne_opening {negated : Bool} {ns : List Token}
    (h : NegationSpelled negated ns) {t : Token} {keyword : String}
    (ht : t.isKeyword keyword = true) : (ns ++ t :: rest).head? ≠ some .opening := by
  cases h with
  | absent =>
    obtain ⟨text, rfl⟩ := word_of_isKeyword ht
    simp
  | present hn =>
    obtain ⟨text, rfl⟩ := word_of_isKeyword hn
    simp

theorem Relation.Spelled.head?_ne_opening {relation : Relation} {ts : List Token}
    (h : relation.Spelled ts) : (ts ++ rest).head? ≠ some .opening := by
  cases h with
  | sign => simp
  | like hn hlike =>
    rw [List.append_assoc]
    exact hn.head?_ne_opening (likeKeyword?_eq_some_iff.mp hlike)

/-- A test is read up to what ends it. -/
theorem TestSpelled.test_eq {e : Expr} {ts : List Token} {bs : List Json} (h : TestSpelled e ts bs)
    (hrest : EndsTest rest) : test ⟨ts ++ rest, bs ++ more⟩ = .ok (e, ⟨rest, more⟩) := by
  rw [test]
  cases h with
  | compare hl hrel hr =>
    simp only [bind, Except.bind, List.cons_append, List.append_assoc]
    rw [hl.operand_eq hrel.head?_ne_opening]
    exact hrel.afterOperand_eq _ hr hrest.head?_ne_opening
  | oneOf hl hn hin hitems =>
    have hlike := likeKeyword?_eq_none (not_isKeyword hin (by decide))
      (not_isKeyword hin (by decide))
    simp only [bind, Except.bind, List.cons_append, List.append_assoc]
    rw [hl.operand_eq (hn.head?_ne_opening hin)]
    obtain ⟨text, rfl⟩ := word_of_isKeyword hin
    simp only
    rw [hn.afterOperand_eq _ (fun _ => Token.noConfusion) (not_isKeyword hin (by decide))
      (not_isKeyword hin (by decide)), afterNot]
    simp only [List.head?_cons, Option.bind_some, hlike, keyword?_of_isKeyword hin]
    simp only [List.nil_append, hitems.itemList_eq]
    rfl
  | isNull hl his hn hnull =>
    simp only [bind, Except.bind, List.cons_append, List.append_assoc]
    obtain ⟨text, rfl⟩ := word_of_isKeyword his
    rw [hl.operand_eq (by simp)]
    simp only [afterOperand, keyword?_of_isKeyword his]
    cases hn with
    | absent =>
      have hnot := not_isKeyword hnull (show sameIgnoringCase "null" "not" = false by decide)
      simp only [List.nil_append, keyword?_of_not_isKeyword hnot, keyword?_of_isKeyword hnull]
    | present hn =>
      simp only [List.cons_append, List.nil_append, keyword?_of_isKeyword hn,
        keyword?_of_isKeyword hnull]
  | truthy ho =>
    simp only [bind, Except.bind, List.singleton_append]
    rw [ho.operand_eq hrest.head?_ne_opening]
    exact hrest.afterOperand_eq _

/-- A test starts neither a negation nor an expression in parentheses. -/
theorem TestSpelled.unary_eq {e : Expr} {ts : List Token} {bs : List Json}
    (h : TestSpelled e ts bs) (hrest : EndsTest rest) (depth : Nat) :
    unary depth ⟨ts ++ rest, bs ++ more⟩ = .ok (e, ⟨rest, more⟩) := by
  have hread : test ⟨ts ++ rest, bs ++ more⟩ = .ok (e, ⟨rest, more⟩) := h.test_eq hrest
  have hhead : ∃ t us, ts = t :: us ∧ t.isKeyword "not" = false ∧ t ≠ .opening := by
    cases h with
    | compare ho | oneOf ho | isNull ho | truthy ho =>
      exact ⟨_, _, rfl, ho.not_isKeyword_not, ho.ne_opening⟩
  obtain ⟨t, us, rfl, hnot, hopening⟩ := hhead
  rw [unary, List.cons_append, keyword?_of_not_isKeyword hnot]
  simp only
  split
  · next heq => cases heq
  · next heq =>
    cases heq
    exact absurd rfl hopening
  · exact hread

end Tests

/-! ### Expressions -/

def readAt (depth : Nat) : Level → Reader Expr
  | .unary => unary depth
  | .conjunction => conjunction (unary depth)
  | .disjunction => disjunction (unary depth)

def resumeAt (depth : Nat) (e : Expr) (p : Pending) (fuel : Nat) :
    Level → Except Fault (Expr × Pending)
  | .unary => .ok (e, p)
  | .conjunction => chainRest "and" .and (unary depth) e p fuel
  | .disjunction => chainRest "or" .or (conjunction (unary depth)) e p fuel

def EndsAt : Level → List Token → Prop
  | .disjunction => EndsRun
  | _ => EndsTest

section Reading
variable {rest : List Token} {more : List Json}

theorem chainRest_of_keyword?_eq_none {keyword : String} {join : Expr → Expr → Expr}
    {link : Reader Expr} {e : Expr} {p : Pending} (h : p.keyword? keyword = none) (fuel : Nat) :
    chainRest keyword join link e p fuel = .ok (e, p) := by
  cases fuel with
  | zero => rfl
  | succ fuel => rw [chainRest, h]

theorem EndsRun.chainRest_and (h : EndsRun rest) (link : Reader Expr) (e : Expr) (fuel : Nat) :
    chainRest "and" .and link e ⟨rest, more⟩ fuel = .ok (e, ⟨rest, more⟩) := by
  apply chainRest_of_keyword?_eq_none
  cases rest with
  | nil => rfl
  | cons t rest =>
    apply keyword?_of_not_isKeyword
    rcases h t rfl with rfl | ht
    · rfl
    · exact not_isKeyword ht (by decide)

theorem EndsTest.of_keyword {t : Token} (h : t.isKeyword "and" = true ∨ t.isKeyword "or" = true) :
    EndsTest (t :: rest) := by
  intro u hu
  cases hu
  exact Or.inr h

/-- A chain starts with its first link. -/
theorem chain_first {keyword : String} {join : Expr → Expr → Expr} {link : Reader Expr}
    {n depth : Nat} {e : Expr} {p q : Pending}
    (h : link p = if n ≤ depth then .ok (e, q) else .error .tooDeep) :
    chain keyword join link p =
      if n ≤ depth then chainRest keyword join link e q q.tokens.length
      else .error .tooDeep := by
  rw [chain, h]
  by_cases hn : n ≤ depth
  · simp only [if_pos hn]
  · simp only [if_neg hn]

/-- A chain that has been read goes on over its next link. -/
theorem chain_link {keyword : String} {join : Expr → Expr → Expr} {link : Reader Expr}
    {m n depth fuel : Nat} {a b : Expr} {t : Token} {p q : Pending} {us : List Token}
    {cs : List Json} (ht : t.isKeyword keyword = true)
    (hfuel : (t :: (us ++ q.tokens)).length ≤ fuel)
    (ha : chain keyword join link p =
      if m ≤ depth then
        chainRest keyword join link a ⟨t :: (us ++ q.tokens), cs ++ q.bindings⟩ fuel
      else .error .tooDeep)
    (hb : link ⟨us ++ q.tokens, cs ++ q.bindings⟩ =
      if n ≤ depth then .ok (b, q) else .error .tooDeep) :
    ∃ fuel, q.tokens.length ≤ fuel ∧ chain keyword join link p =
      if max m n ≤ depth then chainRest keyword join link (join a b) q fuel
      else .error .tooDeep := by
  rw [List.length_cons, List.length_append] at hfuel
  obtain ⟨fuel, rfl⟩ := Nat.exists_eq_add_of_le' (Nat.one_le_of_lt hfuel)
  refine ⟨fuel, by omega, ?_⟩
  rw [ha, chainRest, keyword?_of_isKeyword ht]
  simp only [hb, Nat.max_le]
  by_cases hm : m ≤ depth <;> by_cases hn : n ≤ depth <;> simp [hm, hn]

/-- A spelling is read, and the reader of its level goes on behind it, unless it is too deep. -/
theorem Expr.Spelled.readAt_eq {level : Level} {n : Nat} {e : Expr} {ts : List Token}
    {bs : List Json} (h : e.Spelled level n ts bs) (depth : Nat) {rest : List Token}
    (hrest : EndsAt level rest) (more : List Json) :
    ∃ fuel, rest.length ≤ fuel ∧ readAt depth level ⟨ts ++ rest, bs ++ more⟩ =
      if n ≤ depth then resumeAt depth e ⟨rest, more⟩ fuel level else .error .tooDeep := by
  -- A left part of a chain is not read as a whole: the reader goes on behind it with the links
  -- that follow, so the statement is about what it does there and how much fuel it has left.
  induction h generalizing depth rest more with
  | test h =>
    refine ⟨rest.length, Nat.le_refl _, ?_⟩
    rw [if_pos depth.zero_le]
    exact h.unary_eq hrest depth
  | @not n _ _ _ _ ht _ ih =>
    refine ⟨rest.length, Nat.le_refl _, ?_⟩
    rw [readAt, List.cons_append, unary, keyword?_of_isKeyword ht]
    cases depth with
    | zero => rfl
    | succ depth =>
      obtain ⟨_, _, hread⟩ := ih depth hrest more
      simp only [readAt, resumeAt] at hread
      simp only [hread, Nat.succ_le_succ_iff]
      by_cases hn : n ≤ depth <;> simp only [hn, if_true, if_false] <;> rfl
  | @group n _ _ _ _ ih =>
    refine ⟨rest.length, Nat.le_refl _, ?_⟩
    rw [readAt, List.cons_append, unary, keyword?_of_not_isKeyword rfl]
    cases depth with
    | zero => rfl
    | succ depth =>
      have hnone : (Pending.mk (.closing :: rest) more).keyword? "or" = none := rfl
      obtain ⟨_, _, hread⟩ := ih depth (EndsRun.closing rest) more
      simp only [readAt, resumeAt, chainRest_of_keyword?_eq_none hnone] at hread
      simp only [List.append_assoc, List.singleton_append, hread, Nat.succ_le_succ_iff]
      by_cases hn : n ≤ depth <;> simp only [hn, if_true, if_false] <;> rfl
  | @link n _ _ _ _ ih =>
    obtain ⟨_, _, hread⟩ := ih depth hrest more
    refine ⟨rest.length, Nat.le_refl _, ?_⟩
    exact chain_first hread
  | @and m n a b t ts us bs cs _ ht _ iha ihb =>
    obtain ⟨_, hfuel, ha⟩ := iha depth (EndsTest.of_keyword (.inl ht)) (cs ++ more)
    obtain ⟨_, _, hb⟩ := ihb depth hrest more
    rw [List.append_assoc, List.append_assoc]
    exact chain_link (q := ⟨rest, more⟩) ht hfuel ha hb
  | @run n _ _ _ _ ih =>
    obtain ⟨_, _, hread⟩ := ih depth hrest.endsTest more
    refine ⟨rest.length, Nat.le_refl _, ?_⟩
    simp only [readAt, resumeAt, EndsRun.chainRest_and hrest] at hread
    exact chain_first hread
  | @or m n a b t ts us bs cs _ ht _ iha ihb =>
    have hor : EndsRun (t :: (us ++ rest)) := by
      intro u hu
      cases hu
      exact Or.inr ht
    obtain ⟨_, hfuel, ha⟩ := iha depth hor (cs ++ more)
    obtain ⟨_, _, hb⟩ := ihb depth hrest.endsTest more
    simp only [resumeAt, EndsRun.chainRest_and hrest] at hb
    rw [List.append_assoc, List.append_assoc]
    exact chain_link (q := ⟨rest, more⟩) ht hfuel ha hb

/-- A whole spelling is read as the expression it spells, or refused for its depth alone. -/
theorem Expr.Spelled.parseTokens_eq {n : Nat} {e : Expr} {ts : List Token} {bs : List Json}
    (h : e.Spelled .disjunction n ts bs) :
    parseTokens ts bs = if n ≤ nestingLimit then .ok e else .error .tooDeep := by
  have hend : EndsRun [] := fun t ht => nomatch ht
  obtain ⟨_, _, hread⟩ := h.readAt_eq nestingLimit hend []
  simp only [readAt, resumeAt, List.append_nil, chainRest_of_keyword?_eq_none keyword?_nil] at hread
  rw [parseTokens, hread]
  by_cases hn : n ≤ nestingLimit <;> simp only [hn, if_true, if_false]

theorem Expr.Spelled.parse_eq {n : Nat} {e : Expr} {ts : List Token} {f : Fragment}
    (h : e.Spelled .disjunction n ts f.bindings) (hlex : lex f.sql.toList = .ok ts) :
    parse f = if n ≤ nestingLimit then .ok e
      else .error (.invalidQuery (.raw f.sql .tooDeep)) := by
  rw [parse_eq_parseTokens, hlex]
  simp only [h.parseTokens_eq]
  by_cases hn : n ≤ nestingLimit <;> simp only [hn, if_true, if_false]

end Reading
end RowSearch.Raw
