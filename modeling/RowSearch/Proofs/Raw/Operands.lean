import RowSearch.Proofs.Raw.Simulation
import RowSearch.Proofs.Raw.Writing

/-! # The operands of what is read

The operands of an expression that is read stand in its tokens in the same order, each at a place
where an operand is read, and the placeholders among them take the values in order, one each. Only
the arguments of a call are passed over, and the placeholders among them take no value.
-/
namespace RowSearch.Raw

/-- What a token stands for as an operand, with the tokens behind it. A placeholder stands for a
value that is not in the tokens. -/
def Token.slot : Token → List Token → Option Operand
  | .number n, _ => some (.literal (.number n))
  | .string text, _ => some (.literal (.string text))
  | .word text, ts =>
    match constant? text with
    | some v => some (.literal v)
    | none => some (.column (if ts.head? = some .opening then countColumn else text))
  | _, _ => none

def slots : Place → List Token → List (Option Operand)
  | _, [] => []
  | a, t :: ts => if a.takes t then t.slot ts :: slots (a.step t) ts else slots (a.step t) ts

def marks (ss : List (Option Operand)) : Nat := ss.countP Option.isNone

def filled : List (Option Operand) → List Json → List Operand
  | [], _ => []
  | some o :: ss, vs => o :: filled ss vs
  | none :: ss, v :: vs => .literal v :: filled ss vs
  | none :: ss, [] => filled ss []

def callMarks : Place → List Token → Nat
  | _, [] => 0
  | .call depth, .placeholder :: ts => callMarks (.call depth) ts + 1
  | a, t :: ts => callMarks (a.step t) ts

section Filling
variable {o : Operand} {ss tt : List (Option Operand)} {v : Json} {vs ws : List Json}

theorem filled_append (h : vs.length = marks ss) :
    filled (ss ++ tt) (vs ++ ws) = filled ss vs ++ filled tt ws := by
  induction ss generalizing vs with
  | nil =>
    rw [List.eq_nil_of_length_eq_zero h]
    rfl
  | cons s ss ih =>
    cases s with
    | some o => exact congrArg (o :: ·) (ih h)
    | none =>
      have hmarks : marks (none :: ss) = marks ss + 1 := List.countP_cons
      rw [hmarks] at h
      obtain ⟨v, vs, rfl⟩ := List.exists_cons_of_length_eq_add_one h
      exact congrArg (.literal v :: ·) (ih (Nat.succ.inj h))

theorem filled_concat_some (h : vs.length = marks ss) :
    filled (ss ++ [some o]) vs = filled ss vs ++ [o] := by
  have happend : filled (ss ++ [some o]) (vs ++ []) = filled ss vs ++ filled [some o] [] :=
    filled_append h
  simpa [filled] using happend

theorem filled_concat_none (h : vs.length = marks ss) :
    filled (ss ++ [none]) (vs ++ [v]) = filled ss vs ++ [.literal v] :=
  filled_append h

theorem marks_concat (s : Option Operand) :
    marks (ss ++ [s]) = marks ss + if s.isNone then 1 else 0 := by
  rw [marks, List.countP_append, List.countP_singleton]
  rfl

end Filling

section Places
variable {a : Place} {t : Token} {ts rest : List Token}

theorem slots_of_takes (h : a.takes t = true) :
    slots a (t :: ts) = t.slot ts :: slots (a.step t) ts := if_pos h

theorem slots_of_not_takes (h : a.takes t = false) :
    slots a (t :: ts) = slots (a.step t) ts := if_neg (by simp [h])

theorem callMarks_cons (h : t = .placeholder → ∀ depth, a ≠ .call depth) :
    callMarks a (t :: ts) = callMarks (a.step t) ts := by
  rw [callMarks]
  rintro depth rfl rfl
  exact h rfl depth rfl

/-- Among the arguments of a call no operand is read, and the placeholders among them are all that
do not stand behind it. -/
theorem call_closed {depth : Nat} (h : skipClosed? (depth + 1) ts = some rest) :
    slots (.call depth) ts = slots .after rest ∧
      callMarks (.call depth) ts + rest.count .placeholder =
        callMarks .after rest + ts.count .placeholder := by
  induction ts generalizing depth with
  | nil => cases h
  | cons t ts ih =>
    cases t with
    | opening =>
      obtain ⟨hslots, hmarks⟩ := @ih (depth + 1) h
      refine ⟨hslots, ?_⟩
      rwa [callMarks_cons (by simp), List.count_cons_of_ne (by simp)]
    | closing =>
      cases depth with
      | zero =>
        rw [skipClosed?, skipClosed?] at h
        cases h
        refine ⟨rfl, ?_⟩
        rw [callMarks_cons (by simp), List.count_cons_of_ne (by simp)]
        rfl
      | succ depth =>
        obtain ⟨hslots, hmarks⟩ := @ih depth h
        refine ⟨hslots, ?_⟩
        rwa [callMarks_cons (by simp), List.count_cons_of_ne (by simp)]
    | placeholder =>
      obtain ⟨hslots, hmarks⟩ := @ih depth h
      refine ⟨hslots, ?_⟩
      rw [callMarks, List.count_cons_self]
      omega
    | word | number | string | sign | comma | star =>
      obtain ⟨hslots, hmarks⟩ := @ih depth h
      refine ⟨hslots, ?_⟩
      rwa [callMarks_cons (by simp), List.count_cons_of_ne (by simp)]

/-- An operand that is no placeholder is read as the token says, whatever the values are. -/
structure ReadAs (t : Token) (ts : List Token) (o : Operand) (rest : List Token) : Prop where
  slot : t.slot ts = some o
  ne : t ≠ .placeholder
  slots : slots .after ts = slots .after rest
  marks : callMarks .after ts + rest.count .placeholder =
    callMarks .after rest + ts.count .placeholder
  read : ∀ bs, operand ⟨t :: ts, bs⟩ = .ok (o, ⟨rest, bs⟩)

theorem wordOperand_readAs {text : String} {bs : List Json} {o : Operand} {p : Pending}
    (h : wordOperand text ⟨ts, bs⟩ = .ok (o, p)) :
    ReadAs (.word text) ts o p.tokens ∧ p.bindings = bs := by
  cases hconstant : constant? text with
  | some v =>
    rw [wordOperand_constant hconstant] at h
    cases h
    have hslot : (Token.word text).slot ts = some (.literal v) := by rw [Token.slot, hconstant]
    exact ⟨⟨hslot, Token.noConfusion, rfl, rfl, fun _ => wordOperand_constant hconstant _⟩, rfl⟩
  | none =>
    have hread (ts : List Token) (bs : List Json) :
        operand ⟨.word text :: ts, bs⟩ = _ := wordOperand_name hconstant ⟨ts, bs⟩
    rw [wordOperand_name hconstant] at h
    split at h
    · next after hopening =>
      dsimp only at hopening
      subst hopening
      split at h
      · next hcount =>
        split at h
        · next rest hskip =>
          cases h
          obtain ⟨hslots, hmarks⟩ := call_closed hskip
          refine ⟨⟨?_, Token.noConfusion, hslots, ?_, fun bs => (hread _ bs).trans ?_⟩, rfl⟩
          · rw [Token.slot, hconstant]
            rfl
          · rwa [callMarks_cons (by simp), List.count_cons_of_ne (by simp)]
          · simp only [hcount, hskip, if_true]
        · cases h
      · cases h
    · next hopening =>
      cases h
      have hhead : ts.head? ≠ some .opening := fun hhead =>
        (List.head?_eq_some_iff.mp hhead).elim hopening
      have hslot : (Token.word text).slot ts = some (.column text) := by
        rw [Token.slot, hconstant]
        dsimp only
        rw [if_neg hhead]
      refine ⟨⟨hslot, Token.noConfusion, rfl, rfl, fun bs => (hread ts bs).trans ?_⟩, rfl⟩
      split
      · next heq => exact absurd heq (hopening _)
      · rfl

theorem operand_readAs {bs : List Json} {o : Operand} {p : Pending}
    (h : operand ⟨t :: ts, bs⟩ = .ok (o, p)) :
    (t = .placeholder ∧ ∃ v, o = .literal v ∧ p.tokens = ts ∧ bs = v :: p.bindings) ∨
      ReadAs t ts o p.tokens ∧ p.bindings = bs := by
  cases t with
  | number n =>
    cases h
    exact .inr ⟨⟨rfl, Token.noConfusion, rfl, rfl, fun _ => rfl⟩, rfl⟩
  | string text =>
    cases h
    exact .inr ⟨⟨rfl, Token.noConfusion, rfl, rfl, fun _ => rfl⟩, rfl⟩
  | placeholder =>
    cases bs with
    | nil => cases h
    | cons v bs =>
      cases h
      exact .inl ⟨rfl, v, rfl, rfl, rfl⟩
  | word text => exact .inr (wordOperand_readAs h)
  | sign | opening | closing | comma | star => cases h

end Places

/-- What has been read of tokens with values, and with other values in their places, up to a
place. -/
structure Reading (ts : List Token) (bs cs : List Json) (os os' : List Operand) (a : Place)
    (p q : Pending) : Prop where
  tokens : q.tokens = p.tokens
  bindings : q.bindings.length = p.bindings.length
  count : ts.count .placeholder + callMarks a p.tokens + p.bindings.length =
    bs.length + callMarks .test ts + p.tokens.count .placeholder
  parts : ∃ ss vs ws, slots .test ts = ss ++ slots a p.tokens ∧ vs.length = marks ss ∧
    ws.length = marks ss ∧ bs = vs ++ p.bindings ∧ cs = ws ++ q.bindings ∧
    os = filled ss vs ∧ os' = filled ss ws

variable {ts : List Token} {bs cs : List Json} {os os' : List Operand} {a : Place} {p q : Pending}

theorem Reading.start (h : cs.length = bs.length) :
    Reading ts bs cs [] [] .test ⟨ts, bs⟩ ⟨ts, cs⟩ :=
  ⟨rfl, h, by dsimp only; omega, [], [], [], rfl, rfl, rfl, rfl, rfl, rfl, rfl⟩

/-- A token that is no operand is passed over. -/
theorem Reading.pass {t : Token} {us : List Token} {vs ws : List Json}
    (h : Reading ts bs cs os os' a ⟨t :: us, vs⟩ ⟨t :: us, ws⟩) (htakes : a.takes t = false)
    (hmark : t ≠ .placeholder) : Reading ts bs cs os os' (a.step t) ⟨us, vs⟩ ⟨us, ws⟩ := by
  obtain ⟨-, hbindings, hmarks, ss, hread⟩ := h
  rw [callMarks_cons fun heq => absurd heq hmark, List.count_cons_of_ne hmark] at hmarks
  rw [slots_of_not_takes htakes] at hread
  exact ⟨rfl, hbindings, hmarks, ss, hread⟩

theorem Reading.heads (h : Reading ts bs cs os os' a p q) :
    HeadsMatch (Reading ts bs cs os os') a p q := by
  obtain ⟨_, vs⟩ := p
  obtain ⟨us, ws⟩ := q
  obtain rfl := h.tokens
  cases us with
  | nil => exact .nil _ _
  | cons t us =>
    by_cases hasks : a.asks t = true
    · have hmark : t ≠ .placeholder := by
        rintro rfl
        rw [a.asks_of_plain rfl] at hasks
        cases hasks
      exact .same t (h.pass (Place.takes_of_asks hasks) hmark)
    · by_cases hnull : a = .after ∧ t.isKeyword "null" = true
      · obtain ⟨rfl, hnull⟩ := hnull
        have hmark : t ≠ .placeholder := by
          rintro rfl
          cases hnull
        exact .same t (h.pass rfl hmark)
      · have hasks := Bool.eq_false_iff.mpr hasks
        refine .apart hasks (fun ha => ?_) hasks
        exact Bool.eq_false_iff.mpr fun ht => hnull ⟨ha, ht⟩

theorem Reading.operand_of_test (h : Reading ts bs cs os os' .test p q)
    (hasks : ∀ t ∈ p.tokens.head?, Place.asks .test t = false) :
    Reading ts bs cs os os' .operand p q := by
  obtain ⟨htokens, hbindings, hcount, hparts⟩ := h
  have hsame : slots .operand p.tokens = slots .test p.tokens ∧
      callMarks .operand p.tokens = callMarks .test p.tokens := by
    cases hp : p.tokens with
    | nil => exact ⟨rfl, rfl⟩
    | cons t us =>
      have htakes : Place.takes .test t = true := by simp [Place.takes, hasks t (by rw [hp]; rfl)]
      have hstep : Place.step .test t = .after := if_pos htakes
      rw [slots_of_takes htakes, slots_of_takes rfl, callMarks_cons (by simp),
        callMarks_cons (by simp), hstep]
      exact ⟨rfl, rfl⟩
  rw [← hsame.2] at hcount
  rw [← hsame.1] at hparts
  exact ⟨htokens, hbindings, hcount, hparts⟩

theorem Reading.operand {o : Operand} {p' : Pending}
    (h : Reading ts bs cs os os' .operand p q) (ho : Raw.operand p = .ok (o, p')) :
    ∃ o' q', Raw.operand q = .ok (o', q') ∧
      Reading ts bs cs (os ++ [o]) (os' ++ [o']) .after p' q' := by
  obtain ⟨_, vs⟩ := p
  obtain ⟨us, ws⟩ := q
  obtain rfl := h.tokens
  obtain ⟨-, hbindings, hcount, ss, vs', ws', hslots, hvs, hws, hbs, hcs, hos, hos'⟩ := h
  dsimp only at *
  cases us with
  | nil => cases ho
  | cons t us =>
    rw [callMarks_cons (by simp)] at hcount
    rw [slots_of_takes rfl] at hslots
    rcases operand_readAs ho with ⟨rfl, v, rfl, rfl, rfl⟩ | ⟨hread, rfl⟩
    · -- both readings take a value
      obtain ⟨w, ws, rfl⟩ := List.exists_cons_of_length_eq_add_one hbindings
      rw [List.count_cons_self, List.length_cons] at hcount
      refine ⟨.literal w, ⟨p'.tokens, ws⟩, rfl, rfl, Nat.succ.inj hbindings, ?_,
        ss ++ [none], vs' ++ [v], ws' ++ [w], ?_⟩
      · dsimp only [Place.step] at hcount
        omega
      · rw [filled_concat_none hvs, filled_concat_none hws, marks_concat, hslots]
        simp [hvs, hws, hbs, hcs, hos, hos', Token.slot, Place.step]
    · have hmarks := hread.marks
      rw [List.count_cons_of_ne hread.ne] at hcount
      refine ⟨o, ⟨p'.tokens, ws⟩, hread.read ws, rfl, hbindings, ?_, ss ++ [some o], vs', ws', ?_⟩
      · dsimp only [Place.step] at hcount
        omega
      · rw [filled_concat_some hvs, filled_concat_some hws, marks_concat, hslots, hread.slot]
        simp [hvs, hws, hbs, hcs, hos, hos', hread.slots, Place.step]

theorem simulates_reading : Simulates (Reading ts bs cs) where
  length h := by rw [h.tokens]
  heads := Reading.heads
  operand_of_test := Reading.operand_of_test
  operand := Reading.operand
  bindings h htokens hbindings := by
    have hlength := h.bindings
    rw [hbindings] at hlength
    exact List.eq_nil_of_length_eq_zero hlength

/-- The operands of what is read are those of the tokens, with the values in the places of the
placeholders, and as many placeholders stand outside of calls as there are values. Other values are
read alike. -/
theorem parseTokens_operands (hlength : cs.length = bs.length) {e : Expr}
    (h : parseTokens ts bs = .ok e) :
    ts.count .placeholder = bs.length + callMarks .test ts ∧ marks (slots .test ts) = bs.length ∧
      e.operands = filled (slots .test ts) bs ∧
      ∃ e', parseTokens ts cs = .ok e' ∧ e.SameForm e' ∧
        e'.operands = filled (slots .test ts) cs := by
  obtain ⟨e', he', hform, hread⟩ := simulates_reading.parseTokens (.start hlength) h
  obtain ⟨-, -, hcount, ss, vs, ws, hslots, hvs, -, rfl, rfl, hos, hos'⟩ := hread
  have hall : slots .test ts = ss := hslots.trans (List.append_nil ss)
  rw [List.append_nil] at he' hcount
  rw [hall, List.append_nil, List.append_nil]
  exact ⟨by simpa [callMarks] using hcount, hvs.symm, hos, e', he', hform, hos'⟩

/-- A text that is read has as many placeholders outside the arguments of calls as there are
bindings, and from left to right each of these stands for one binding; any other number of bindings
is refused. What stands in a placeholder does not matter to how the rest is read. -/
theorem parse_placeholders {sql : String} (hlex : lex sql.toList = .ok ts) (bs : List Json) :
    (∀ e, parse ⟨sql, bs⟩ = .ok e →
      ts.count .placeholder = bs.length + callMarks .test ts ∧
        marks (slots .test ts) = bs.length ∧ e.operands = filled (slots .test ts) bs ∧
        ∀ cs : List Json, cs.length = bs.length → ∃ e', parse ⟨sql, cs⟩ = .ok e' ∧
          e.SameForm e' ∧ e'.operands = filled (slots .test ts) cs) ∧
    (ts.count .placeholder ≠ bs.length + callMarks .test ts →
      ∃ fault, parse ⟨sql, bs⟩ = .error (.invalidQuery (.raw sql fault))) := by
  have hread {cs : List Json} {e : Expr} :
      parse ⟨sql, cs⟩ = .ok e ↔ parseTokens ts cs = .ok e := parse_eq_ok_iff hlex
  constructor
  · intro e he
    obtain ⟨hcount, hmarks, hoperands, -⟩ := parseTokens_operands rfl (hread.mp he)
    refine ⟨hcount, hmarks, hoperands, fun cs hcs => ?_⟩
    obtain ⟨-, -, -, e', he', hform, hother⟩ := parseTokens_operands hcs (hread.mp he)
    exact ⟨e', hread.mpr he', hform, hother⟩
  · intro hne
    refine exists_fault_of_parse fun e he => hne ?_
    exact (parseTokens_operands rfl (hread.mp he)).1

def orderTokens : List Token :=
  [.word "count", .opening, .star, .closing, .sign .greater, .placeholder, .word "and",
    .opening, .placeholder, .word "in", .opening, .word "town", .comma, .placeholder, .closing,
    .word "or", .word "not", .word "name", .word "like", .placeholder, .closing]

def orderValues : List Json := [.count 2, .string "Oslo", .null, .string "%a"]

theorem parse_placeholders_orders : ∃ e, parse ⟨textOf orderTokens, orderValues⟩ = .ok e ∧
    e.operands = [.column "count", .literal (.count 2), .literal (.string "Oslo"), .column "town",
      .literal .null, .column "name", .literal (.string "%a")] ∧
    ∃ fault, parse ⟨textOf orderTokens, []⟩ =
      .error (.invalidQuery (.raw (textOf orderTokens) fault)) := by
  have hlex : lex (textOf orderTokens).toList = .ok orderTokens :=
    (lexes_textOf (by decide)).lex_eq
  obtain ⟨e, he⟩ : ∃ e, parse ⟨textOf orderTokens, orderValues⟩ = .ok e := by
    obtain ⟨e, he⟩ : ∃ e, parseTokens orderTokens orderValues = .ok e := ⟨_, rfl⟩
    exact ⟨e, (parse_eq_ok_iff hlex).mpr he⟩
  refine ⟨e, he, ?_, ?_⟩
  · obtain ⟨-, -, hoperands, -⟩ := (parse_placeholders hlex orderValues).1 e he
    exact hoperands
  · exact (parse_placeholders hlex []).2 (by decide)

def callTokens : List Token :=
  [.word "count", .opening, .placeholder, .closing, .sign .greater, .placeholder]

/-- The placeholder in the call takes no binding, so that one binding is enough for two
placeholders and stands for the second of them, and two bindings are refused. -/
theorem parse_callMark : textOf callTokens = "count ( ? ) > ?" ∧
    lex "count ( ? ) > ?".toList = .ok callTokens ∧ callTokens.count .placeholder = 2 ∧
    parse ⟨"count ( ? ) > ?", [.count 2]⟩ =
      .ok (.compare (.column "count") (.sign .greater) (.literal (.count 2))) ∧
    parse ⟨"count ( ? ) > ?", [.count 7, .count 2]⟩ =
      .error (.invalidQuery (.raw "count ( ? ) > ?" (.bindingCount 1 2))) := by
  have htext : textOf callTokens = "count ( ? ) > ?" := rfl
  have hlex : lex (textOf callTokens).toList = .ok callTokens :=
    (lexes_textOf (by decide)).lex_eq
  rw [htext] at hlex
  refine ⟨htext, hlex, by decide, ?_, ?_⟩
  · rw [parse_eq_parseTokens, hlex]
    rfl
  · rw [parse_eq_parseTokens, hlex]
    rfl

end RowSearch.Raw
