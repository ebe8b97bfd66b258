import RowSearch.Proofs.Raw.Grammar

/-! # Places between tokens

Reading goes through the tokens from left to right, and the tokens before a place tell what the
reader asks for there: a test or what can stand before one, an operand, or what follows an operand.
What each reader does is stated by the token it finds next.
-/
namespace RowSearch.Raw

def grammarWords : List String := ["and", "or", "not", "is", "in", "like", "ilike"]

def Token.plain : Token → Bool
  | .number _ | .string _ | .placeholder => true
  | .word text => grammarWords.all fun word => !sameIgnoringCase text word
  | _ => false

theorem not_isKeyword_of_plain {t : Token} (h : t.plain = true) {keyword : String}
    (hkeyword : keyword ∈ grammarWords) : t.isKeyword keyword = false := by
  cases t with
  | word text =>
    have hall := List.all_eq_true.mp h keyword hkeyword
    simpa [Token.isKeyword] using hall
  | _ => rfl

theorem likeKeyword?_of_plain {t : Token} (h : t.plain = true) : t.likeKeyword? = none :=
  likeKeyword?_eq_none (not_isKeyword_of_plain h (by decide))
    (not_isKeyword_of_plain h (by decide))

/-- What the reader is about at a place. -/
inductive Place where
  /-- A test is to come, and before it negations and parentheses. -/
  | test
  | operand
  /-- What may follow an operand: what is asked of it, what joins a test or ends it. -/
  | after
  /-- The parenthesis that opens a list of items. -/
  | list
  /-- The arguments of a call, where so many more parentheses than one have to close. -/
  | call (depth : Nat)
deriving DecidableEq

namespace Place

/-- Whether the reader looks for the token at the place. -/
def asks : Place → Token → Bool
  | .test, t => t = .opening || t.isKeyword "not"
  | .after, t | .list, t => !t.plain
  | .operand, _ | .call _, _ => false

/-- Whether the token is read as an operand at the place. -/
def takes : Place → Token → Bool
  | .test, t => !asks .test t
  | .operand, _ => true
  | _, _ => false

/-- The place behind a token. A parenthesis right behind an operand opens the arguments of a
call. -/
def step : Place → Token → Place
  | .test, t => if takes .test t then .after else .test
  | .operand, _ => .after
  | .after, .opening => .call 0
  | .after, .sign _ | .after, .comma => .operand
  | .after, t =>
    if t.isKeyword "and" || t.isKeyword "or" then .test
    else if t.isKeyword "like" || t.isKeyword "ilike" then .operand
    else if t.isKeyword "in" then .list
    else .after
  | .list, .opening => .operand
  | .list, _ => .after
  | .call depth, .opening => .call (depth + 1)
  | .call 0, .closing => .after
  | .call (depth + 1), .closing => .call depth
  | .call depth, _ => .call depth

theorem takes_of_asks {a : Place} {t : Token} (h : a.asks t = true) : a.takes t = false := by
  cases a with
  | test => simp [takes, h]
  | operand => cases h
  | after | list | call => rfl

theorem asks_of_takes {a : Place} {t : Token} (h : a.takes t = true) : a.asks t = false := by
  by_contra hasks
  rw [takes_of_asks (Bool.of_not_eq_false hasks)] at h
  cases h

end Place

section Keywords
variable {t : Token} {keyword : String}

/-- A keyword is asked about in one way, whatever the case of its letters. -/
theorem isKeyword_congr (h : t.isKeyword keyword = true) (other : String) :
    t.isKeyword other = (Token.word keyword).isKeyword other := by
  obtain ⟨text, rfl⟩ := word_of_isKeyword h
  simp only [Token.isKeyword, sameIgnoringCase, beq_iff_eq] at h ⊢
  rw [h]

theorem plain_congr (h : t.isKeyword keyword = true) : t.plain = (Token.word keyword).plain := by
  obtain ⟨text, rfl⟩ := word_of_isKeyword h
  exact List.all_congr rfl fun word => congrArg Bool.not (isKeyword_congr h word)

theorem Place.asks_of_isKeyword (a : Place) (h : t.isKeyword keyword = true) :
    a.asks t = a.asks (.word keyword) := by
  obtain ⟨text, rfl⟩ := word_of_isKeyword h
  cases a <;> simp [Place.asks, isKeyword_congr h, plain_congr h]

/-- What a keyword leads to. -/
theorem Place.step_of_isKeyword (a : Place) (h : t.isKeyword keyword = true) :
    a.step t = a.step (.word keyword) := by
  have hasks := Place.test.asks_of_isKeyword h
  obtain ⟨text, rfl⟩ := word_of_isKeyword h
  cases a <;> simp [Place.step, Place.takes, hasks, isKeyword_congr h]

theorem Place.asks_of_plain (a : Place) (h : t.plain = true) : a.asks t = false := by
  have hnot : t.isKeyword "not" = false := not_isKeyword_of_plain h (by decide)
  have hopening : t ≠ .opening := by
    rintro rfl
    cases h
  cases a <;> simp [Place.asks, h, hnot, hopening]

end Keywords

section Steps
variable {p : Pending} {left : Operand} {ts : List Token}

/-- What follows the `is` of a null test and an optional `not`. -/
def nullTest (left : Operand) (negated : Bool) : Reader Expr := fun p =>
  match p.keyword? "null" with
  | some p => .ok (.isNull left negated, p)
  | none => .error .nullExpected

theorem afterOperand_sign {s : Sign} (h : p.tokens = .sign s :: ts) :
    afterOperand left p = (operand ⟨ts, p.bindings⟩ >>= fun r =>
      .ok (.compare left (.sign s) r.1, r.2)) := by
  obtain ⟨_, bs⟩ := p
  subst h
  rfl

theorem afterOperand_word (h : ∀ t ∈ p.tokens.head?, ¬∃ s, t = .sign s) :
    afterOperand left p =
      match p.keyword? "is" with
      | some p =>
        match p.keyword? "not" with
        | some p => nullTest left true p
        | none => nullTest left false p
      | none =>
        match p.keyword? "not" with
        | some p => afterNot left true p
        | none => afterNot left false p := by
  rw [afterOperand]
  split
  · next s rest heq => exact absurd ⟨s, rfl⟩ (h (.sign s) (by rw [heq]; rfl))
  · cases p.keyword? "is" with
    | none => rfl
    | some p =>
      dsimp only
      cases p.keyword? "not" <;> rfl

theorem moreItems_comma {items : List Operand} (h : p.tokens = .comma :: ts) (fuel : Nat) :
    moreItems items p (fuel + 1) = operand ⟨ts, p.bindings⟩ >>= fun r =>
      moreItems (items ++ [r.1]) r.2 fuel := by
  rw [moreItems, h]
  dsimp only
  cases operand ⟨ts, p.bindings⟩ <;> rfl

theorem moreItems_of_head? {items : List Operand} (h : p.tokens.head? ≠ some .comma)
    (fuel : Nat) : moreItems items p fuel = .ok (items, p) := by
  cases fuel with
  | zero => rfl
  | succ fuel =>
    rw [moreItems]
    split
    · next heq => exact absurd (by rw [heq]; rfl) h
    · rfl

theorem chainRest_keyword {keyword : String} {join : Expr → Expr → Expr} {link : Reader Expr}
    {e : Expr} {p' : Pending} (h : p.keyword? keyword = some p') (fuel : Nat) :
    chainRest keyword join link e p (fuel + 1) = link p' >>= fun r =>
      chainRest keyword join link (join e r.1) r.2 fuel := by
  rw [chainRest, h]
  dsimp only
  cases link p' <;> rfl

theorem chain_eq {keyword : String} {join : Expr → Expr → Expr} {link : Reader Expr} :
    chain keyword join link p = link p >>= fun r =>
      chainRest keyword join link r.1 r.2 r.2.tokens.length := by
  rw [chain]
  cases link p <;> rfl

theorem unary_test {depth : Nat} (hnot : p.keyword? "not" = none)
    (hopening : p.tokens.head? ≠ some .opening) : unary depth p = test p := by
  rw [unary, hnot]
  split
  · next heq => cases heq
  · next heq => exact absurd (by rw [heq]; rfl) hopening
  · rfl

theorem asks_test_eq_false (hnot : p.keyword? "not" = none)
    (hopening : p.tokens.head? ≠ some .opening) :
    ∀ t ∈ p.tokens.head?, Place.asks .test t = false := by
  obtain ⟨ts, bs⟩ := p
  intro t ht
  obtain ⟨us, rfl⟩ := List.head?_eq_some_iff.mp ht
  have hword : t.isKeyword "not" = false := by
    by_contra hword
    rw [keyword?_of_isKeyword (Bool.of_not_eq_false hword)] at hnot
    cases hnot
  have hne : t ≠ .opening := fun heq => hopening (by rw [heq]; rfl)
  simp [Place.asks, hne, hword]

theorem unary_not {depth : Nat} {p' : Pending} (h : p.keyword? "not" = some p') :
    unary (depth + 1) p = unary depth p' >>= fun r => .ok (.not r.1, r.2) := by
  rw [unary, h]
  dsimp only
  cases unary depth p' <;> rfl

theorem unary_opening {depth : Nat} {bs : List Json} :
    unary (depth + 1) ⟨.opening :: ts, bs⟩ =
      disjunction (unary depth) ⟨ts, bs⟩ >>= fun r =>
        expect .closing r.2 >>= fun p => .ok (r.1, p) := rfl

/-- What is skipped does not depend on what follows. -/
theorem skipClosed?_eq_some {depth : Nat} {ts rest : List Token}
    (h : skipClosed? depth ts = some rest) :
    ∃ args, ts = args ++ rest ∧ ∀ other, skipClosed? depth (args ++ other) = some other := by
  fun_induction skipClosed? depth ts with
  | case1 ts =>
    cases h
    exact ⟨[], rfl, fun _ => by rw [List.nil_append, skipClosed?]⟩
  | case2 => cases h
  | case3 depth ts ih =>
    obtain ⟨args, rfl, hargs⟩ := ih h
    exact ⟨.opening :: args, rfl, fun other => by rw [List.cons_append, skipClosed?, hargs]⟩
  | case4 depth ts ih =>
    obtain ⟨args, rfl, hargs⟩ := ih h
    exact ⟨.closing :: args, rfl, fun other => by rw [List.cons_append, skipClosed?, hargs]⟩
  | case5 depth t ts hopening hclosing ih =>
    obtain ⟨args, rfl, hargs⟩ := ih h
    refine ⟨t :: args, rfl, fun other => ?_⟩
    rw [List.cons_append, skipClosed?, hargs]
    · exact hopening
    · exact hclosing

def constant? (text : String) : Option Json :=
  let lowered := text.toList.flatMap Text.lower
  if lowered = "null".toList then some .null
  else if lowered = "true".toList then some (.bool true)
  else if lowered = "false".toList then some (.bool false)
  else none

theorem wordOperand_constant {text : String} {v : Json} (h : constant? text = some v)
    (p : Pending) : wordOperand text p = .ok (.literal v, p) := by
  unfold constant? at h
  unfold wordOperand
  dsimp only at h ⊢
  split at h
  · next hnull =>
    cases h
    exact if_pos hnull
  split at h
  · next hnull htrue =>
    cases h
    rw [if_neg hnull, if_pos htrue]
  split at h
  · next hnull htrue hfalse =>
    cases h
    rw [if_neg hnull, if_neg htrue, if_pos hfalse]
  · cases h

theorem wordOperand_name {text : String} (h : constant? text = none) (p : Pending) :
    wordOperand text p =
      match p.tokens with
      | .opening :: rest =>
        if text.toList.flatMap Text.lower = countColumn.toList then
          match skipClosed? 1 rest with
          | some rest => .ok (.column countColumn, { p with tokens := rest })
          | none => .error .unbalanced
        else .error (.unsupportedFunction text)
      | _ => .ok (.column text, p) := by
  unfold constant? at h
  dsimp only at h
  split at h
  · cases h
  split at h
  · cases h
  split at h
  · cases h
  · next hnull htrue hfalse =>
    unfold wordOperand
    exact (if_neg hnull).trans ((if_neg htrue).trans (if_neg hfalse))

/-- A word is a constant or a column, which a parenthesis may follow only behind a constant, or a
call of `count`. -/
theorem wordOperand_cases {text : String} {p' : Pending} {o : Operand}
    (h : wordOperand text p = .ok (o, p')) :
    (p' = p ∧ ∀ q : Pending, (q.tokens.head? = some .opening → p.tokens.head? = some .opening) →
      wordOperand text q = .ok (o, q)) ∨
    (text.toList.flatMap Text.lower = countColumn.toList ∧ ∃ args rest,
      p.tokens = .opening :: (args ++ rest) ∧ skipClosed? 1 (args ++ rest) = some rest ∧
      p' = { p with tokens := rest } ∧ ∀ other bs,
        wordOperand text ⟨.opening :: (args ++ other), bs⟩ = .ok (o, ⟨other, bs⟩)) := by
  cases hconstant : constant? text with
  | some v =>
    rw [wordOperand_constant hconstant] at h
    cases h
    exact .inl ⟨rfl, fun q _ => wordOperand_constant hconstant q⟩
  | none =>
    rw [wordOperand_name hconstant] at h
    split at h
    · next hopening =>
      split at h
      · next hcount =>
        split at h
        · next hskip =>
          cases h
          obtain ⟨args, rfl, hargs⟩ := skipClosed?_eq_some hskip
          refine .inr ⟨hcount, args, _, hopening, hskip, rfl, fun other bs => ?_⟩
          rw [wordOperand_name hconstant]
          simp only [hcount, if_true, hargs]
        · cases h
      · cases h
    · next hopening =>
      cases h
      refine .inl ⟨rfl, fun q hq => ?_⟩
      rw [wordOperand_name hconstant]
      split
      · next rest hrest =>
        obtain ⟨us, hus⟩ := List.head?_eq_some_iff.mp (hq (by rw [hrest]; rfl))
        exact absurd hus (hopening us)
      · rfl

end Steps

section Fragments
variable {f : Fragment} {ts : List Token} {e : Expr}

/-- Tokens are read to their end and take all bindings. -/
theorem parseTokens_eq_ok_iff {bs : List Json} :
    parseTokens ts bs = .ok e ↔ disjunction (unary nestingLimit) ⟨ts, bs⟩ = .ok (e, ⟨[], []⟩) := by
  rw [parseTokens]
  split
  · next heq => simp [heq]
  · next heq => simp [heq]
  · next heq => simp [heq]
  · next hne heq =>
    rw [heq]
    constructor
    · intro hread
      cases hread
    · intro hread
      cases hread
      exact absurd rfl hne

theorem parse_eq_ok_iff (hlex : lex f.sql.toList = .ok ts) :
    parse f = .ok e ↔ parseTokens ts f.bindings = .ok e := by
  rw [parse_eq_parseTokens, hlex]
  dsimp only
  cases parseTokens ts f.bindings <;> simp

theorem exists_tokens_of_parse (h : parse f = .ok e) :
    ∃ ts, lex f.sql.toList = .ok ts ∧ parseTokens ts f.bindings = .ok e := by
  cases hlex : lex f.sql.toList with
  | error fault =>
    rw [parse_eq_parseTokens, hlex] at h
    cases h
  | ok ts => exact ⟨ts, rfl, (parse_eq_ok_iff hlex).mp h⟩

/-- What is not read is refused. -/
theorem exists_fault_of_parse (h : ∀ e, parse f ≠ .ok e) :
    ∃ fault, parse f = .error (.invalidQuery (.raw f.sql fault)) := by
  cases hlex : lex f.sql.toList with
  | error fault => exact ⟨fault, by rw [parse_eq_parseTokens, hlex]⟩
  | ok ts =>
    cases hread : parseTokens ts f.bindings with
    | error fault => exact ⟨fault, by rw [parse_eq_parseTokens, hlex]; simp only [hread]⟩
    | ok e => exact absurd ((parse_eq_ok_iff hlex).mpr hread) (h e)

end Fragments

end RowSearch.Raw
