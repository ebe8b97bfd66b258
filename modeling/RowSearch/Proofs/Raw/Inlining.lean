import Mathlib.Data.List.Infix
import RowSearch.Proofs.Raw.Literals
import RowSearch.Proofs.Raw.Simulation

/-! # Values written into the text

A value that has a literal can stand in the text in the place of its placeholder, with a blank on
each side. The text is cut into the same tokens then, with the literals for the placeholders, and
read as the same expression. Only a negative number cannot follow a token that an operand may end
with, as its sign has no place there.
-/
namespace RowSearch.Raw

/-! ### The text with the literals -/

/-- The text with the literals in the places of its placeholders. A quotation that is open is
left as it is up to its quote. -/
def inlinedText : List Json → Option Char → List Char → List Char
  | _, _, [] => []
  | vs, some quote, c :: cs => c :: inlinedText vs (if c = quote then none else some quote) cs
  | v :: vs, none, '?' :: cs => ' ' :: (literalText v ++ ' ' :: inlinedText vs none cs)
  | vs, none, c :: cs => c :: inlinedText vs (if Unquoted c then none else some c) cs

def inlined (f : Fragment) : Fragment :=
  ⟨String.ofList (inlinedText f.bindings none f.sql.toList), []⟩

def inlinedTokens : List Json → List Token → List Token
  | _, [] => []
  | v :: vs, .placeholder :: ts => literalToken v :: inlinedTokens vs ts
  | vs, t :: ts => t :: inlinedTokens vs ts

/-- Whether a negative number is bound to a placeholder behind a token that an operand may end
with. -/
def minusMisplaced : (before : Bool) → List Json → List Token → Bool
  | _, _, [] => false
  | before, v :: vs, .placeholder :: ts => before && isNegative v || minusMisplaced true vs ts
  | _, vs, t :: ts => minusMisplaced t.endsOperand vs ts

theorem kept_or_replaced {α : Type} (a mark : α) (vs : List Json) :
    (a = mark → vs = []) ∨ a = mark ∧ ∃ v ws, vs = v :: ws := by
  cases vs with
  | nil => exact .inl fun _ => rfl
  | cons v ws =>
    by_cases h : a = mark
    · exact .inr ⟨h, v, ws, rfl⟩
    · exact .inl fun heq => absurd heq h

theorem inlinedTokens_cons {vs : List Json} {t : Token} {ts : List Token}
    (h : t = .placeholder → vs = []) : inlinedTokens vs (t :: ts) = t :: inlinedTokens vs ts := by
  rw [inlinedTokens]
  rintro v ws rfl rfl
  exact absurd (h rfl) (List.cons_ne_nil v ws)

theorem minusMisplaced_cons {vs : List Json} {before : Bool} {t : Token} {ts : List Token}
    (h : t = .placeholder → vs = []) :
    minusMisplaced before vs (t :: ts) = minusMisplaced t.endsOperand vs ts := by
  rw [minusMisplaced]
  rintro v ws rfl rfl
  exact absurd (h rfl) (List.cons_ne_nil v ws)

section Text
variable {vs : List Json} {c quote : Char} {cs text rest : List Char}

theorem inlinedText_cons (h : c = '?' → vs = []) :
    inlinedText vs none (c :: cs) =
      c :: inlinedText vs (if Unquoted c then none else some c) cs := by
  rw [inlinedText]
  rintro v ws rfl rfl
  exact absurd (h rfl) (List.cons_ne_nil v ws)

theorem inlinedText_unquoted (hc : Unquoted c) (hmark : c ≠ '?') :
    inlinedText vs none (c :: cs) = c :: inlinedText vs none cs := by
  rw [inlinedText_cons fun h => absurd h hmark, if_pos hc]

/-- A placeholder gives way to a blank, and every other character stays. -/
theorem exists_inlinedText_cons (vs : List Json) (c : Char) (cs : List Char) :
    ∃ d ds, inlinedText vs none (c :: cs) = d :: ds ∧ (d = c ∨ c = '?' ∧ d = ' ') := by
  rcases kept_or_replaced c '?' vs with h | ⟨rfl, v, ws, rfl⟩
  · exact ⟨c, _, inlinedText_cons h, .inl rfl⟩
  · exact ⟨' ', _, rfl, .inr ⟨rfl, rfl⟩⟩

theorem takeWhile_inlinedText (vs : List Json) (cs : List Char) {p : Char → Bool}
    (hp : [' ', '?', '\'', '"', backquote].any p = false) :
    (inlinedText vs none cs).takeWhile p = cs.takeWhile p ∧
      (inlinedText vs none cs).dropWhile p = inlinedText vs none (cs.dropWhile p) := by
  rw [List.any_eq_false] at hp
  induction cs with
  | nil => exact ⟨rfl, rfl⟩
  | cons c cs ih =>
    by_cases hc : p c = true
    · have hapart : c ∉ [' ', '?', '\'', '"', backquote] := fun hmem => hp c hmem hc
      simp only [List.mem_cons, not_or] at hapart
      obtain ⟨_, hmark, hsingle, hdouble, hname, _⟩ := hapart
      rw [inlinedText_unquoted ⟨not_or.mpr ⟨hsingle, hdouble⟩, hname⟩ hmark]
      simp [hc, ih]
    · obtain ⟨d, ds, htext, hd⟩ := exists_inlinedText_cons vs c cs
      have hpd : ¬p d = true := by
        rcases hd with rfl | ⟨_, rfl⟩
        · exact hc
        · exact hp ' ' (by decide)
      simp [hc, htext, hpd]

theorem startsNumber_inlinedText (before : Bool) :
    startsNumber before c (inlinedText vs none cs) = startsNumber before c cs := by
  cases cs with
  | nil => rfl
  | cons e cs =>
    obtain ⟨d, ds, htext, hd⟩ := exists_inlinedText_cons vs e cs
    rw [htext]
    rcases hd with rfl | ⟨rfl, rfl⟩ <;> rfl

theorem takeSign?_inlinedText :
    takeSign? c (inlinedText vs none cs) =
      (takeSign? c cs).map fun r => (r.1, inlinedText vs none r.2) := by
  cases cs with
  | nil => unfold takeSign?; split <;> simp_all [inlinedText]
  | cons e cs =>
    by_cases he : e = '=' ∨ e = '>'
    · have htext : inlinedText vs none (e :: cs) = e :: inlinedText vs none cs := by
        rcases he with rfl | rfl <;> exact inlinedText_unquoted (by decide) (by decide)
      rw [htext]
      rcases he with rfl | rfl <;> unfold takeSign? <;> split <;> simp_all [inlinedText]
    · obtain ⟨heq, hgt⟩ := not_or.mp he
      obtain ⟨d, ds, htext, hd⟩ := exists_inlinedText_cons vs e cs
      have hdeq : '=' ≠ d := by rcases hd with rfl | ⟨_, rfl⟩ <;> [exact Ne.symm heq; decide]
      have hdgt : '>' ≠ d := by rcases hd with rfl | ⟨_, rfl⟩ <;> [exact Ne.symm hgt; decide]
      unfold takeSign?
      split <;> simp_all

theorem takeQuoted?_inlinedText (hq : quote = '\'' ∨ quote = '"')
    (h : takeQuoted? quote cs = some (text, rest)) :
    takeQuoted? quote (inlinedText vs (some quote) cs) = some (text, inlinedText vs none rest) := by
  have hquoted : ¬Unquoted quote := fun h => h.1 hq
  have hmark : quote ≠ '?' := by rcases hq with rfl | rfl <;> decide
  have hblank : ' ' ≠ quote := by rcases hq with rfl | rfl <;> decide
  fun_induction takeQuoted? quote cs generalizing text rest with
  | case1 => cases h
  | case2 =>
    cases h
    simp [inlinedText, takeQuoted?]
  | case3 rest' ih =>
    obtain ⟨r, hr, he⟩ := Option.map_eq_some_iff.mp h
    cases he
    rw [inlinedText, if_pos rfl, inlinedText_cons fun h => absurd h hmark, if_neg hquoted]
    simp [takeQuoted?, ih hr]
  | case4 d rest' hne =>
    cases h
    obtain ⟨e, es, htext, he⟩ := exists_inlinedText_cons vs d rest'
    have hequote : e ≠ quote := by
      rcases he with rfl | ⟨_, rfl⟩
      · exact hne
      · exact hblank
    rw [inlinedText, if_pos rfl, htext]
    simp [takeQuoted?, hequote]
  | case5 c cs hc ih =>
    obtain ⟨r, hr, he⟩ := Option.map_eq_some_iff.mp h
    cases he
    rw [inlinedText, if_neg hc]
    unfold takeQuoted?
    rw [if_neg hc, ih hr]
    rfl

theorem takeName?_inlinedText (h : takeName? cs = some (text, rest)) :
    takeName? (inlinedText vs (some backquote) cs) = some (text, inlinedText vs none rest) := by
  fun_induction takeName? cs generalizing text rest with
  | case1 => cases h
  | case2 cs =>
    cases h
    simp [inlinedText, takeName?]
  | case3 c cs hc ih =>
    obtain ⟨r, hr, he⟩ := Option.map_eq_some_iff.mp h
    cases he
    simp [inlinedText, takeName?, hc, ih hr]

end Text

theorem unquoted_of_isWhiteSpace {c : Char} (h : Text.isWhiteSpace c = true) :
    Unquoted c ∧ c ≠ '?' := by
  refine ⟨⟨?_, ?_⟩, ?_⟩
  · rintro (rfl | rfl) <;> exact absurd h (by decide)
  · rintro rfl
    exact absurd h (by decide)
  · rintro rfl
    exact absurd h (by decide)

/-- A token stands in the text with the literals as well, unless it is a placeholder that has given
way to one. -/
theorem Starts.inlined {vs : List Json} {before : Bool} {c : Char} {cs rest : List Char} {t : Token}
    (h : Starts before c cs t rest) (ht : t = .placeholder → vs = []) :
    ∃ ds, inlinedText vs none (c :: cs) = c :: ds ∧
      Starts before c ds t (inlinedText vs none rest) := by
  cases h with
  | opening => exact ⟨_, inlinedText_unquoted (by decide) (by decide), .opening _⟩
  | closing => exact ⟨_, inlinedText_unquoted (by decide) (by decide), .closing _⟩
  | comma => exact ⟨_, inlinedText_unquoted (by decide) (by decide), .comma _⟩
  | star => exact ⟨_, inlinedText_unquoted (by decide) (by decide), .star _⟩
  | placeholder => exact ⟨_, inlinedText_cons fun _ => ht rfl, .placeholder _⟩
  | string hq htake =>
    have hmark : c ≠ '?' := by rcases hq with rfl | rfl <;> decide
    refine ⟨_, inlinedText_cons fun h => absurd h hmark, ?_⟩
    rw [if_neg fun h => h.1 hq]
    exact .string hq (takeQuoted?_inlinedText hq htake)
  | quotedName htake =>
    exact ⟨_, inlinedText_cons fun h => absurd h (by decide),
      .quotedName (takeName?_inlinedText htake)⟩
  | number hs hn =>
    obtain ⟨_, _, _, _, hmark, hquote, hname⟩ := special_cases before _ (.inr (.inl hs))
    obtain ⟨htake, hdrop⟩ := takeWhile_inlinedText vs cs (p := isNumberChar)
      (by decide)
    refine ⟨_, inlinedText_unquoted ⟨hquote, hname⟩ hmark, ?_⟩
    rw [← hdrop]
    exact .number (by rwa [startsNumber_inlinedText]) (by rwa [htake])
  | word hc =>
    obtain ⟨_, _, _, _, hmark, hquote, hname⟩ := special_cases before cs (.inl hc)
    obtain ⟨htake, hdrop⟩ := takeWhile_inlinedText vs cs (p := isWordChar)
      (by decide)
    refine ⟨_, inlinedText_unquoted ⟨hquote, hname⟩ hmark, ?_⟩
    rw [← hdrop, ← htake]
    exact .word hc
  | sign htake =>
    obtain ⟨_, _, _, _, hmark, hquote, hname⟩ := special_cases before _ (.inr (.inr ⟨_, htake⟩))
    refine ⟨_, inlinedText_unquoted ⟨hquote, hname⟩ hmark, .sign ?_⟩
    rw [takeSign?_inlinedText, htake]
    rfl

/-- The text with the literals is cut into the tokens with the literals, unless a sign has no
place. -/
theorem lexFrom_inlinedText {vs : List Json} (hvs : ∀ v ∈ vs, HasLiteral v) {before : Bool}
    {cs : List Char} {ts : List Token} (h : lexFrom before cs = .ok ts) :
    lexFrom before (inlinedText vs none cs) =
      if minusMisplaced before vs ts then .error (.unexpectedCharacter '-')
      else .ok (inlinedTokens vs ts) := by
  refine lexFrom_cases (motive := fun before cs ts => ∀ vs, (∀ v ∈ vs, HasLiteral v) →
    lexFrom before (inlinedText vs none cs) =
      if minusMisplaced before vs ts then .error (.unexpectedCharacter '-')
      else .ok (inlinedTokens vs ts)) ?_ ?_ ?_ h vs hvs
  · intro before vs _
    rw [inlinedText, lexFrom]
    rfl
  · intro before c cs ts hws _ ih vs hvs
    obtain ⟨hunquoted, hmark⟩ := unquoted_of_isWhiteSpace hws
    rw [inlinedText_unquoted hunquoted hmark, lexFrom_whiteSpace hws, ih vs hvs]
  · intro before c cs t rest ts hws ht _ ih vs hvs
    have hstarts := takeToken?_eq_ok_iff.mp ht
    rcases kept_or_replaced t .placeholder vs with hkept | ⟨rfl, v, vs, rfl⟩
    · obtain ⟨ds, htext, hstarts⟩ := hstarts.inlined hkept
      rw [htext, lexFrom_token hws (takeToken?_eq_ok_iff.mpr hstarts), ih vs hvs,
        minusMisplaced_cons hkept, inlinedTokens_cons hkept]
      split <;> rfl
    · rw [List.forall_mem_cons] at hvs
      cases hstarts
      rw [inlinedText, lexFrom_whiteSpace (by decide), lexFrom_literal hvs.1, minusMisplaced,
        inlinedTokens]
      by_cases hminus : (before && isNegative v) = true
      · simp [hminus]
      · rw [if_neg hminus, Bool.eq_false_iff.mpr hminus, Bool.false_or]
        have hlater := ih vs hvs.2
        rw [Token.endsOperand] at hlater
        rw [hlater]
        split <;> rfl

/-! ### Reading the literals -/

/-- Whether a call of `count` stands first and skips a placeholder among its arguments. -/
def skipsMark : List Token → Bool
  | .word name :: .opening :: ts =>
    decide (name.toList.flatMap Text.lower = countColumn.toList) &&
      (skipClosed? 1 ts).any fun rest => rest.count .placeholder != ts.count .placeholder
  | _ => false

/-- No placeholder stands among the arguments of a call of `count`. -/
def MarksOutsideCalls (ts : List Token) : Prop := ∀ us ∈ ts.tails, skipsMark us = false

instance (ts : List Token) : Decidable (MarksOutsideCalls ts) :=
  inferInstanceAs (Decidable (∀ us ∈ ts.tails, skipsMark us = false))

theorem MarksOutsideCalls.of_suffix {ts us : List Token} (h : MarksOutsideCalls ts)
    (hus : us <:+ ts) : MarksOutsideCalls us := fun vs hvs =>
  h vs ((List.mem_tails vs ts).mpr (((List.mem_tails vs us).mp hvs).trans hus))

section Reading
variable {vs : List Json} {t : Token} {ts : List Token}

theorem length_inlinedTokens : (inlinedTokens vs ts).length = ts.length := by
  fun_induction inlinedTokens vs ts with
  | case1 => rfl
  | case2 _ _ _ ih | case3 _ _ _ _ ih => rw [List.length_cons, List.length_cons, ih]

theorem inlinedTokens_append {args : List Token} (h : .placeholder ∉ args) :
    inlinedTokens vs (args ++ ts) = args ++ inlinedTokens vs ts := by
  induction args with
  | nil => rfl
  | cons t args ih =>
    obtain ⟨hne, hargs⟩ := not_or.mp (mt List.mem_cons.mpr h)
    rw [List.cons_append, inlinedTokens_cons fun heq => absurd heq.symm hne, ih hargs,
      List.cons_append]

/-- No literal is a parenthesis. -/
theorem head?_inlinedTokens (h : (inlinedTokens vs ts).head? = some .opening) :
    ts.head? = some .opening := by
  cases ts with
  | nil => cases h
  | cons t ts =>
    rcases kept_or_replaced t .placeholder vs with hkept | ⟨rfl, v, vs, rfl⟩
    · rwa [inlinedTokens_cons hkept] at h
    · have hliteral : literalToken v = .opening := Option.some.inj h
      cases v with
      | bool b => cases b <;> cases hliteral
      | _ => cases hliteral

theorem plain_literalToken {v : Json} (hv : HasLiteral v) : (literalToken v).plain = true := by
  cases v with
  | null => decide
  | bool b => cases b <;> decide
  | number n => rfl
  | string text => rfl
  | array items => exact hv.elim
  | object fields => exact hv.elim

theorem operand_literalToken {v : Json} (hv : HasLiteral v) (bs : List Json) :
    operand ⟨literalToken v :: ts, bs⟩ = .ok (.literal v, ⟨ts, bs⟩) := by
  cases v with
  | null => rfl
  | bool b => cases b <;> rfl
  | number n => rfl
  | string text => rfl
  | array items => exact hv.elim
  | object fields => exact hv.elim

end Reading

/-- What is left to read of a text and of the one with the literals. -/
structure Inlines (p q : Pending) : Prop where
  marks : MarksOutsideCalls p.tokens
  values : ∀ v ∈ p.bindings, HasLiteral v
  eq : q = ⟨inlinedTokens p.bindings p.tokens, []⟩

theorem Inlines.heads {p q : Pending} (h : Inlines p q) (a : Place) :
    HeadsMatch (fun _ => Inlines) a p q := by
  obtain ⟨hmarks, hvalues, rfl⟩ := h
  obtain ⟨ts, vs⟩ := p
  cases ts with
  | nil => exact .nil _ _
  | cons t ts =>
    dsimp only at hvalues ⊢
    rcases kept_or_replaced t .placeholder vs with hkept | ⟨rfl, v, vs, rfl⟩
    · rw [inlinedTokens_cons hkept]
      exact .same t ⟨hmarks.of_suffix (List.suffix_cons t ts), hvalues, rfl⟩
    · have hplain := plain_literalToken (List.forall_mem_cons.mp hvalues).1
      exact .apart (Place.asks_of_plain a rfl) (fun _ => rfl) (Place.asks_of_plain a hplain)

theorem Inlines.operand {p q p' : Pending} {o : Operand} (h : Inlines p q)
    (ho : operand p = .ok (o, p')) : ∃ o' q', Raw.operand q = .ok (o', q') ∧ o = o' ∧
      Inlines p' q' := by
  obtain ⟨hmarks, hvalues, rfl⟩ := h
  obtain ⟨ts, vs⟩ := p
  dsimp only at hmarks hvalues ⊢
  cases ts with
  | nil => cases ho
  | cons t ts =>
    have htail : MarksOutsideCalls ts := hmarks.of_suffix (List.suffix_cons t ts)
    cases t with
    | number n =>
      cases ho
      exact ⟨_, _, rfl, rfl, htail, hvalues, rfl⟩
    | string text =>
      cases ho
      exact ⟨_, _, rfl, rfl, htail, hvalues, rfl⟩
    | placeholder =>
      cases vs with
      | nil => cases ho
      | cons v vs =>
        cases ho
        rw [List.forall_mem_cons] at hvalues
        exact ⟨_, _, operand_literalToken hvalues.1 [], rfl, htail, hvalues.2, rfl⟩
    | word text =>
      have hword : wordOperand text ⟨ts, vs⟩ = .ok (o, p') := ho
      have hkept : inlinedTokens vs (.word text :: ts) = .word text :: inlinedTokens vs ts :=
        inlinedTokens_cons (by simp)
      rw [hkept]
      rcases wordOperand_cases hword with
        ⟨rfl, hread⟩ | ⟨hcount, args, rest, hts, hskip, rfl, hread⟩
      · refine ⟨o, _, hread ⟨inlinedTokens vs ts, []⟩ head?_inlinedTokens, rfl, htail, hvalues, rfl⟩
      · dsimp only at hts
        subst hts
        have hskips : skipsMark (.word text :: .opening :: (args ++ rest)) = false :=
          hmarks _ ((List.mem_tails _ _).mpr (List.suffix_refl _))
        have hargs : args.count .placeholder = 0 := by
          simpa [skipsMark, hcount, hskip] using hskips
        rw [inlinedTokens_cons (t := .opening) (by simp),
          inlinedTokens_append (List.count_eq_zero.mp hargs)]
        have hrest : MarksOutsideCalls rest := htail.of_suffix ⟨.opening :: args, rfl⟩
        exact ⟨o, _, hread _ [], rfl, hrest, hvalues, rfl⟩
    | sign | opening | closing | comma | star => cases ho

theorem simulates_inlines : Simulates fun os os' _ p q => os = os' ∧ Inlines p q where
  length h := by rw [h.2.eq, length_inlinedTokens]
  heads h := by
    obtain ⟨rfl, hinlines⟩ := h
    simpa using hinlines.heads _
  operand_of_test h _ := h
  operand := by
    rintro os _ p q o p' ⟨rfl, hinlines⟩ ho
    obtain ⟨o', q', hread, rfl, hlater⟩ := hinlines.operand ho
    exact ⟨o, q', hread, rfl, hlater⟩
  bindings h _ _ := by rw [h.2.eq]

theorem lex_inlined {f : Fragment} {ts : List Token} (hlex : lex f.sql.toList = .ok ts)
    (hvalues : ∀ v ∈ f.bindings, HasLiteral v) :
    lex (inlined f).sql.toList =
      if minusMisplaced false f.bindings ts then .error (.unexpectedCharacter '-')
      else .ok (inlinedTokens f.bindings ts) := by
  rw [inlined, String.toList_ofList]
  exact lexFrom_inlinedText hvalues hlex

/-- A text whose values are written into it is read as it was with its bindings, unless a negative
number stands behind a token that an operand may end with: then its sign is refused. -/
theorem parse_inlined {f : Fragment} {ts : List Token} {e : Expr}
    (hlex : lex f.sql.toList = .ok ts) (h : parse f = .ok e)
    (hvalues : ∀ v ∈ f.bindings, HasLiteral v) (hmarks : MarksOutsideCalls ts) :
    parse (inlined f) =
      if minusMisplaced false f.bindings ts then
        .error (.invalidQuery (.raw (inlined f).sql (.unexpectedCharacter '-')))
      else .ok e := by
  rw [parse_eq_parseTokens, hlex] at h
  rw [parse_eq_parseTokens, lex_inlined hlex hvalues]
  by_cases hminus : minusMisplaced false f.bindings ts = true
  · rw [if_pos hminus, if_pos hminus]
  · rw [if_neg hminus, if_neg hminus]
    dsimp only at h ⊢
    cases hread : parseTokens ts f.bindings with
    | error fault =>
      rw [hread] at h
      cases h
    | ok e' =>
      rw [hread] at h
      cases h
      obtain ⟨e', he', hform, hoperands, -⟩ :=
        simulates_inlines.parseTokens ⟨rfl, hmarks, hvalues, rfl⟩ hread
      have hbindings : (inlined f).bindings = [] := rfl
      rw [hbindings, he', ← hform.eq hoperands]

def namedTokens : List Token :=
  [.word "not", .word "name", .word "like", .placeholder, .word "or",
    .word "count", .opening, .star, .closing, .sign .greater, .placeholder, .word "and",
    .word "team", .word "in", .opening, .placeholder, .comma, .placeholder, .closing]

def namedFragment : Fragment :=
  ⟨textOf namedTokens, [.string "it's ?%", .number (.integer (-5) (by decide)), .null, .bool true]⟩

theorem parse_inlined_named : ∃ e, parse namedFragment = .ok e ∧
    inlined namedFragment = ⟨"not name like  'it''s ?%'  or count ( * ) >  -5  " ++
      "and team in (  null  ,  true  )", []⟩ ∧
    parse (inlined namedFragment) = .ok e := by
  have hlex : lex namedFragment.sql.toList = .ok namedTokens :=
    (lexes_textOf (by decide)).lex_eq
  have hread : ∃ e, parseTokens namedTokens namedFragment.bindings = .ok e := ⟨_, rfl⟩
  obtain ⟨e, hread⟩ := hread
  have hparse : parse namedFragment = .ok e := by
    rw [parse_eq_parseTokens, hlex]
    dsimp only
    rw [hread]
  refine ⟨e, hparse, ?_, ?_⟩
  · rfl
  · rw [parse_inlined hlex hparse (by decide) (by decide +kernel)]
    rfl

def frostTokens : List Token :=
  [.word "open", .word "and", .placeholder, .sign .greater, .word "temp"]

def frostFragment : Fragment :=
  ⟨textOf frostTokens, [.number (.integer (-5) (by decide))]⟩

/-- With its placeholder the text is read, with the number in it is not. -/
theorem parse_inlined_frost : parse frostFragment =
      .ok (.and (.truthy (.column "open")) (.compare
        (.literal (.number (.integer (-5) (by decide)))) (.sign .greater) (.column "temp"))) ∧
    inlined frostFragment = ⟨"open and  -5  > temp", []⟩ ∧
    parse ⟨"open and  -5  > temp", []⟩ =
      .error (.invalidQuery (.raw "open and  -5  > temp" (.unexpectedCharacter '-'))) := by
  have hlex : lex frostFragment.sql.toList = .ok frostTokens :=
    (lexes_textOf (by decide)).lex_eq
  have htext : inlined frostFragment = ⟨"open and  -5  > temp", []⟩ := by rfl
  refine ⟨?_, htext, ?_⟩
  · rw [parse_eq_parseTokens, hlex]
    rfl
  · have hrefused := lex_inlined hlex (by decide)
    rw [htext] at hrefused
    rw [parse_eq_parseTokens, hrefused]
    rfl

end RowSearch.Raw
