import RowSearch.Proofs.Raw.Joining

/-! # Tests that are refused

Between a column and a placeholder, tokens that spell no relation make no test. The reader fails
at them or stops before a token with which nothing goes on, and then all that encloses it fails or
stops there too.
-/
namespace RowSearch.Raw

/-- A token that neither joins tests nor opens a parenthesis. -/
structure Inert (t : Token) : Prop where
  ne_opening : t ≠ .opening
  not_and : t.isKeyword "and" = false
  not_or : t.isKeyword "or" = false

instance (t : Token) : Decidable (Inert t) :=
  decidable_of_iff (t ≠ .opening ∧ t.isKeyword "and" = false ∧ t.isKeyword "or" = false)
    ⟨fun h => ⟨h.1, h.2.1, h.2.2⟩, fun h => ⟨h.ne_opening, h.not_and, h.not_or⟩⟩

theorem Inert.placeholder : Inert .placeholder := ⟨Token.noConfusion, rfl, rfl⟩

/-- A reader that has failed, or stopped before a token with which nothing goes on. -/
inductive Stops : Except Fault (Expr × Pending) → Prop where
  | failed (fault : Fault) : Stops (.error fault)
  | before (e : Expr) {t : Token} (ts : List Token) (bs : List Json) (ht : Inert t) :
      Stops (.ok (e, ⟨t :: ts, bs⟩))

section Tests
variable {ws rest : List Token} {bs : List Json}

theorem exists_head (hws : ∀ t ∈ ws, Inert t) (rest : List Token) :
    ∃ t ts, ws ++ .placeholder :: rest = t :: ts ∧ Inert t := by
  cases ws with
  | nil => exact ⟨.placeholder, rest, rfl, .placeholder⟩
  | cons t ws => exact ⟨t, ws ++ .placeholder :: rest, rfl, hws t List.mem_cons_self⟩

theorem stops_before (hws : ∀ t ∈ ws, Inert t) (e : Expr) (rest : List Token) (bs : List Json) :
    Stops (.ok (e, ⟨ws ++ .placeholder :: rest, bs⟩)) := by
  obtain ⟨t, ts, hts, ht⟩ := exists_head hws rest
  rw [hts]
  exact .before e ts bs ht

theorem head?_ne_opening (hws : ∀ t ∈ ws, Inert t) (rest : List Token) :
    (ws ++ .placeholder :: rest).head? ≠ some .opening := by
  obtain ⟨t, ts, hts, ht⟩ := exists_head hws rest
  rw [hts]
  exact fun h => ht.ne_opening (Option.some.inj h)

/-- An operand takes one token, unless a parenthesis follows. -/
theorem operand_cases (t : Token) (bs : List Json) {ts : List Token}
    (hts : ts.head? ≠ some .opening) :
    (∃ fault, operand ⟨t :: ts, bs⟩ = .error fault) ∨
      ∃ o cs, operand ⟨t :: ts, bs⟩ = .ok (o, ⟨ts, cs⟩) := by
  cases t with
  | number n => exact .inr ⟨_, bs, rfl⟩
  | string text => exact .inr ⟨_, bs, rfl⟩
  | placeholder =>
    cases bs with
    | nil => exact .inl ⟨_, rfl⟩
    | cons v bs => exact .inr ⟨_, bs, rfl⟩
  | word text =>
    right
    simp only [operand, wordOperand]
    split
    · exact ⟨_, bs, rfl⟩
    split
    · exact ⟨_, bs, rfl⟩
    split
    · exact ⟨_, bs, rfl⟩
    split
    · exact absurd rfl hts
    · exact ⟨_, bs, rfl⟩
  | _ => exact .inl ⟨_, rfl⟩

/-- A test whose right operand is not the last of the tokens stops behind it. -/
theorem operand_stops (hws : ∀ t ∈ ws, Inert t) (hne : ws ≠ []) (f : Operand → Expr) :
    Stops (do let (o, p) ← operand ⟨ws ++ .placeholder :: rest, bs⟩; return (f o, p)) := by
  cases ws with
  | nil => exact absurd rfl hne
  | cons t ws =>
    have hlater : ∀ u ∈ ws, Inert u := fun u hu => hws u (List.mem_cons_of_mem t hu)
    rcases operand_cases t bs (head?_ne_opening hlater rest) with ⟨fault, h⟩ | ⟨o, cs, h⟩
    · rw [List.cons_append, h]
      exact .failed fault
    · rw [List.cons_append, h]
      exact stops_before hlater (f o) rest cs

/-- A keyword that is found is the first of the tokens. -/
theorem keyword?_tail {keyword : String} {p : Pending}
    (h : (Pending.mk (ws ++ .placeholder :: rest) bs).keyword? keyword = some p) :
    ∃ t us, ws = t :: us ∧ t.isKeyword keyword = true ∧ p = ⟨us ++ .placeholder :: rest, bs⟩ := by
  cases ws with
  | nil => cases h
  | cons t us =>
    rw [List.cons_append] at h
    by_cases ht : t.isKeyword keyword = true
    · rw [keyword?_of_isKeyword ht] at h
      exact ⟨t, us, rfl, ht, (Option.some.inj h).symm⟩
    · rw [keyword?_of_not_isKeyword (Bool.eq_false_iff.mpr ht)] at h
      cases h

theorem afterNot_stops (hws : ∀ t ∈ ws, Inert t) (left : Operand) (negated : Bool)
    (hlike : ∀ t, ws = [t] → t.likeKeyword? = none) :
    Stops (afterNot left negated ⟨ws ++ .placeholder :: rest, bs⟩) := by
  rw [afterNot]
  split
  · next ignoreCase hkeyword =>
    cases ws with
    | nil => cases hkeyword
    | cons t ws =>
      refine operand_stops (fun u hu => hws u (List.mem_cons_of_mem t hu)) ?_ _
      rintro rfl
      have hsome : t.likeKeyword? = some ignoreCase := hkeyword
      rw [hlike t rfl] at hsome
      cases hsome
  · split
    · next p hin =>
      obtain ⟨t, us, rfl, _, rfl⟩ := keyword?_tail hin
      obtain ⟨u, ts, hts, hu⟩ := exists_head (fun u hu => hws u (List.mem_cons_of_mem t hu)) rest
      have hexpect : expect .opening ⟨u :: ts, bs⟩ = .error (.expected .opening (some u)) :=
        if_neg hu.ne_opening
      rw [itemList, hts, hexpect]
      exact .failed _
    · split
      · exact .failed _
      · exact stops_before hws _ rest bs

theorem null_stops (hws : ∀ t ∈ ws, Inert t) (left : Operand) (negated : Bool) :
    Stops (match (Pending.mk (ws ++ .placeholder :: rest) bs).keyword? "null" with
      | some p => .ok (.isNull left negated, p)
      | none => .error .nullExpected) := by
  split
  · next p hnull =>
    obtain ⟨t, us, rfl, _, rfl⟩ := keyword?_tail hnull
    exact stops_before (fun u hu => hws u (List.mem_cons_of_mem t hu)) _ rest bs
  · exact .failed _

/-- Tokens between a column and a placeholder that spell no relation make no test. -/
theorem afterOperand_stops (hws : ∀ t ∈ ws, Inert t) (hrel : ∀ r : Relation, ¬ r.Spelled ws)
    (left : Operand) : Stops (afterOperand left ⟨ws ++ .placeholder :: rest, bs⟩) := by
  have htail {t : Token} {us : List Token} (h : ws = t :: us) : ∀ u ∈ us, Inert u :=
    fun u hu => hws u (h ▸ List.mem_cons_of_mem t hu)
  rw [afterOperand]
  split
  · next s _ hsign =>
    cases ws with
    | nil => cases hsign
    | cons t us =>
      cases hsign
      refine operand_stops (htail rfl) ?_ _
      rintro rfl
      exact hrel (.sign s) (.sign s)
  · split
    · next p his =>
      obtain ⟨t, us, rfl, _, rfl⟩ := keyword?_tail his
      cases hnot : (Pending.mk (us ++ .placeholder :: rest) bs).keyword? "not" with
      | none => exact null_stops (htail rfl) left false
      | some p =>
        obtain ⟨u, vs, rfl, _, rfl⟩ := keyword?_tail hnot
        exact null_stops (fun v hv => htail rfl v (List.mem_cons_of_mem u hv)) left true
    · split
      · next p hnot =>
        obtain ⟨t, us, rfl, ht, rfl⟩ := keyword?_tail hnot
        refine afterNot_stops (htail rfl) left true ?_
        rintro u rfl
        by_contra hlike
        obtain ⟨ignoreCase, hlike⟩ := Option.ne_none_iff_exists'.mp hlike
        exact hrel (.like true ignoreCase) (.like (.present ht) hlike)
      · refine afterNot_stops hws left false ?_
        rintro u rfl
        by_contra hlike
        obtain ⟨ignoreCase, hlike⟩ := Option.ne_none_iff_exists'.mp hlike
        exact hrel (.like false ignoreCase) (.like .absent hlike)

theorem unary_stops {column : String} (hcolumn : PlainName column) (hws : ∀ t ∈ ws, Inert t)
    (hrel : ∀ r : Relation, ¬ r.Spelled ws) (depth : Nat) :
    Stops (unary depth ⟨.word column :: (ws ++ .placeholder :: rest), bs⟩) := by
  have hnot : (Token.word column).isKeyword "not" = false :=
    (Operand.Spelled.column hcolumn).not_isKeyword_not
  have hread : operand ⟨.word column :: (ws ++ .placeholder :: rest), bs⟩ =
      .ok (.column column, ⟨ws ++ .placeholder :: rest, bs⟩) :=
    hcolumn.wordOperand_eq (head?_ne_opening hws rest)
  rw [unary, keyword?_of_not_isKeyword hnot]
  simp only [test, hread]
  exact afterOperand_stops hws hrel (.column column)

end Tests

section Chains
variable {keyword : String} {join : Expr → Expr → Expr} {link : Reader Expr} {p : Pending}

theorem chainRest_stops {e : Expr} {t : Token} {ts : List Token} {bs : List Json}
    (hkeyword : t.isKeyword keyword = false) (ht : Inert t) (fuel : Nat) :
    Stops (chainRest keyword join link e ⟨t :: ts, bs⟩ fuel) := by
  rw [chainRest_of_keyword?_eq_none (keyword?_of_not_isKeyword hkeyword)]
  exact .before e ts bs ht

/-- A chain stops where its first link does. -/
theorem chain_stops (hkeyword : ∀ t, Inert t → t.isKeyword keyword = false)
    (h : Stops (link p)) : Stops (chain keyword join link p) := by
  rw [chain]
  generalize link p = r at h
  cases h with
  | failed fault => exact .failed fault
  | before e ts bs ht => exact chainRest_stops (hkeyword _ ht) ht _

/-- A chain stops where a later link does. -/
theorem chainRest_link_stops (hkeyword : ∀ t, Inert t → t.isKeyword keyword = false) {e : Expr}
    {t : Token} {ts : List Token} {bs : List Json} (ht : t.isKeyword keyword = true)
    (h : Stops (link ⟨ts, bs⟩)) {fuel : Nat} (hfuel : (t :: ts).length ≤ fuel) :
    Stops (chainRest keyword join link e ⟨t :: ts, bs⟩ fuel) := by
  obtain ⟨fuel, rfl⟩ := Nat.exists_eq_add_of_le' (Nat.one_le_of_lt hfuel)
  rw [chainRest, keyword?_of_isKeyword ht]
  dsimp only
  generalize link ⟨ts, bs⟩ = r at h
  cases h with
  | failed fault => exact .failed fault
  | before e ts bs ht => exact chainRest_stops (hkeyword _ ht) ht _

end Chains

theorem Expr.Spelled.conjunction_stops {depth m : Nat} {e : Expr} {ts us : List Token}
    {bs more : List Json} (h : e.Spelled .conjunction m ts bs) (hm : m ≤ depth)
    (hstops : Stops (unary depth ⟨us, more⟩)) :
    Stops (conjunction (unary depth) ⟨ts ++ .word "and" :: us, bs ++ more⟩) := by
  have hand : (Token.word "and").isKeyword "and" = true := by decide
  obtain ⟨fuel, hfuel, hread⟩ := h.readAt_eq depth (EndsTest.of_keyword (.inl hand)) more
  rw [if_pos hm] at hread
  simp only [readAt, resumeAt] at hread
  rw [hread]
  exact chainRest_link_stops (fun _ h => h.not_and) hand hstops hfuel

theorem Expr.Spelled.disjunction_stops {depth m : Nat} {e : Expr} {t : Token}
    {ts us : List Token} {bs : List Json} (h : e.Spelled .disjunction m ts bs) (hm : m ≤ depth)
    (ht : t.isKeyword "or" = true) {more : List Json}
    (hstops : Stops (conjunction (unary depth) ⟨us, more⟩)) :
    Stops (disjunction (unary depth) ⟨ts ++ t :: us, bs ++ more⟩) := by
  have hends : EndsRun (t :: us) := fun u hu => by cases hu; exact Or.inr ht
  obtain ⟨fuel, hfuel, hread⟩ := h.readAt_eq depth hends more
  rw [if_pos hm] at hread
  simp only [readAt, resumeAt] at hread
  rw [hread]
  exact chainRest_link_stops (fun _ h => h.not_or) ht hstops hfuel

/-- Tests that have been read do not help where the next one stops. -/
theorem Running.stops {n depth : Nat} {before? : Option Expr} {run : Expr} {ts us : List Token}
    {bs more : List Json} (h : Running n before? run ts bs) (hn : n ≤ depth) (join : Connective)
    (hstops : Stops (unary depth ⟨us, more⟩)) :
    Stops (disjunction (unary depth) ⟨ts ++ .word join.keyword :: us, bs ++ more⟩) := by
  cases join with
  | or =>
    obtain ⟨m, hm, hspelled⟩ := h.spelled
    exact hspelled.disjunction_stops (Nat.le_trans hm hn) (by decide)
      (chain_stops (fun _ h => h.not_and) hstops)
  | and =>
    cases h with
    | first hm h =>
      have hrun := h.conjunction_stops (Nat.le_trans hm hn) hstops
      exact chain_stops (fun _ h => h.not_or) hrun
    | later hl hb ht hm h =>
      have hrun := h.conjunction_stops (Nat.le_trans hm hn) hstops
      rw [List.append_assoc, List.append_assoc]
      exact hb.disjunction_stops (Nat.le_trans hl hn) ht hrun

/-- An expression whose reader stops is refused. -/
theorem parseTokens_of_stops {ts : List Token} {bs : List Json}
    (h : Stops (disjunction (unary nestingLimit) ⟨ts, bs⟩)) :
    ∃ fault, parseTokens ts bs = .error fault := by
  rw [parseTokens]
  generalize disjunction (unary nestingLimit) ⟨ts, bs⟩ = r at h
  cases h with
  | failed fault => exact ⟨fault, rfl⟩
  | @before e t ts bs ht => exact ⟨.unexpectedToken t, rfl⟩

/-- A fragment whose tokens, if there are any, stop the reader is refused. -/
theorem parse_of_stops {f : Fragment} (h : ∀ ts, lex f.sql.toList = .ok ts →
      Stops (disjunction (unary nestingLimit) ⟨ts, f.bindings⟩)) :
    ∃ fault, parse f = .error (.invalidQuery (.raw f.sql fault)) := by
  rw [parse_eq_parseTokens]
  cases hlex : lex f.sql.toList with
  | error fault => exact ⟨fault, rfl⟩
  | ok ts =>
    obtain ⟨fault, hfault⟩ := parseTokens_of_stops (h ts hlex)
    exact ⟨fault, by simp only [hfault]⟩

/-- A fragment at which the reader stops, whatever stands around it. -/
def StopsReader (f : Fragment) : Prop :=
  ∀ before later ts, lexFrom before (f.sql.toList ++ later) = .ok ts →
    ∀ depth bs, Stops (unary depth ⟨ts, bs⟩)

theorem StopsReader.parse_first {f : Fragment} (h : StopsReader f)
    (rest : List (Connective × Fragment)) :
    ∃ fault, parse (joined f rest) = .error (.invalidQuery (.raw (joined f rest).sql fault)) := by
  apply parse_of_stops
  intro ts hts
  rw [joined, String.toList_append, lex] at hts
  have hunary := h false _ ts hts nestingLimit (joined f rest).bindings
  exact chain_stops (fun _ h => h.not_or) (chain_stops (fun _ h => h.not_and) hunary)

theorem StopsReader.parse_later {f : Fragment} (h : StopsReader f) {n : Nat} {first : Fragment}
    {e : Expr} {parts : List (Connective × Fragment)} {tests : List (Connective × Expr)}
    (hn : n ≤ nestingLimit) (hfirst : ReadsAs n first e)
    (hparts : List.Forall₂ (PartReads n) parts tests)
    (join : Connective) (more : List (Connective × Fragment)) :
    ∃ fault, parse (joined first (parts ++ (join, f) :: more)) =
      .error (.invalidQuery (.raw (joined first (parts ++ (join, f) :: more)).sql fault)) := by
  obtain ⟨us, hus, hrun⟩ := hfirst.running
  obtain ⟨_, _, us, hus, hrun, _⟩ := Running.joined hparts hus hrun
  have htext : (joined first (parts ++ (join, f) :: more)).sql.toList =
      (first.sql ++ laterText parts).toList ++
        ' ' :: (join.keyword.toList ++ ' ' :: (f.sql.toList ++ (laterText more).toList)) := by
    simp [joined, laterText_append, laterText, toString]
  have hbindings : (joined first (parts ++ (join, f) :: more)).bindings =
      (first.bindings ++ parts.flatMap (·.2.bindings)) ++
        (f.bindings ++ more.flatMap (·.2.bindings)) := by
    simp [joined]
  apply parse_of_stops
  intro ts hts
  have hkeyword : isIdentifier join.keyword = true := by cases join <;> decide
  rw [htext, lex] at hts
  obtain ⟨vs, hvs, rfl⟩ := lexFrom_blank (hus false) hts
  obtain ⟨ws, hws, rfl⟩ := lexFrom_blank (Lexes.word hkeyword _) hvs
  rw [hbindings]
  exact hrun.stops hn join (h _ _ ws hws nestingLimit _)

end RowSearch.Raw
