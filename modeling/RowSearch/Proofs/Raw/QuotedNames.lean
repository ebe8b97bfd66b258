import RowSearch.Proofs.Raw.Operands

/-! # Names between backquotes

A name between backquotes is cut into one word, and what the word is read as depends on its spelling
alone. In the place of a column it is read as the column of that name, and nothing else of the
expression changes, unless it spells a constant, or a negation where a test may start.
-/
namespace RowSearch.Raw

def quotedName (name : String) : String := String.ofList (backquote :: (name.toList ++ [backquote]))

theorem starts_quotedName {name : String} (h : backquote ∉ name.toList) (before : Bool)
    (rest : List Char) :
    Starts before backquote (name.toList ++ backquote :: rest) (.word name) rest := by
  have hstarts : Starts before backquote (name.toList ++ backquote :: rest) _ rest :=
    .quotedName (takeName?_eq_some_iff.mpr ⟨h, rfl⟩)
  rwa [String.ofList_toList] at hstarts

/-- Between two texts that are cut on their own a name between backquotes is a word. -/
theorem lex_quotedName {front rest name : String} {us vs : List Token}
    (hfront : lex front.toList = .ok us) (hrest : lexFrom true rest.toList = .ok vs)
    (h : backquote ∉ name.toList) :
    lex (front ++ quotedName name ++ rest).toList = .ok (us ++ .word name :: vs) := by
  have htext : (front ++ quotedName name ++ rest).toList =
      front.toList ++ backquote :: (name.toList ++ backquote :: rest.toList) := by
    simp [quotedName]
  rw [lex, htext, lexFrom_append (by decide) _ hfront,
    lexFrom_token (by decide) (takeToken?_eq_ok_iff.mpr (starts_quotedName h _ rest.toList)),
    Token.endsOperand, hrest]
  rfl

/-- A word of a text stands there as it is or between backquotes, and what stands before it and
behind it is cut on its own. -/
theorem exists_word_of_lexFrom {before : Bool} {cs : List Char} {x : String} {us vs : List Token}
    (h : lexFrom before cs = .ok (us ++ .word x :: vs)) :
    ∃ front word rest, cs = front ++ (word ++ rest) ∧
      (word = x.toList ∨ word = (quotedName x).toList) ∧
      lexFrom before front = .ok us ∧ lexFrom true rest = .ok vs := by
  refine lexFrom_cases (motive := fun before cs ts => ∀ us, ts = us ++ .word x :: vs →
    ∃ front word rest, cs = front ++ (word ++ rest) ∧
      (word = x.toList ∨ word = (quotedName x).toList) ∧
      lexFrom before front = .ok us ∧ lexFrom true rest = .ok vs) ?_ ?_ ?_ h us rfl
  · intro _ us hts
    cases us <;> cases hts
  · intro before c cs ts hws _ ih us hts
    obtain ⟨front, word, rest, rfl, hword, hfront, hrest⟩ := ih us hts
    exact ⟨c :: front, word, rest, rfl, hword, by rw [lexFrom_whiteSpace hws, hfront], hrest⟩
  · intro before c cs t rest ts hws ht hlater ih us hts
    have hstarts := takeToken?_eq_ok_iff.mp ht
    cases us with
    | nil =>
      cases hts
      have hnil : lexFrom before [] = .ok [] := by rw [lexFrom]
      generalize hw : Token.word x = w at hstarts
      cases hstarts with
      | quotedName htake =>
        cases hw
        obtain ⟨-, rfl⟩ := takeName?_eq_some_iff.mp htake
        exact ⟨[], _, rest, by simp [quotedName], .inr rfl, hnil, hlater⟩
      | word =>
        cases hw
        refine ⟨[], c :: cs.takeWhile isWordChar, _, ?_, .inl (by simp), hnil, hlater⟩
        simp [List.takeWhile_append_dropWhile]
      | _ => cases hw
    | cons u us =>
      cases hts
      obtain ⟨front, word, rest, rfl, hword, hfront, hrest⟩ := ih us rfl
      obtain ⟨used, rfl, hused⟩ := hstarts.resume
      have hcut : Starts before c (used ++ front) t front := by
        refine hused front fun d hd => .inr ?_
        cases front with
        | nil => cases hd
        | cons => exact hd
      refine ⟨c :: (used ++ front), word, rest, by simp, hword, ?_, hrest⟩
      rw [lexFrom_token hws (takeToken?_eq_ok_iff.mpr hcut), hfront]
      rfl

/-! ### Another word in the place of a column -/

section Renaming
variable {x m : String} {us vs : List Token} {a : Place} {p q : Pending}

/-- What is left to read of tokens that differ in one word: the word is still ahead, at a place
where both words are read as operands, or nothing differs any more. -/
inductive Renaming (x m : String) (vs : List Token) : Place → Pending → Pending → Prop where
  | ahead {a : Place} (us : List Token) (bs : List Json)
      (hx : (us.foldl Place.step a).takes (.word x) = true)
      (hm : (us.foldl Place.step a).takes (.word m) = true) :
      Renaming x m vs a ⟨us ++ .word x :: vs, bs⟩ ⟨us ++ .word m :: vs, bs⟩
  | behind (a : Place) (p : Pending) : Renaming x m vs a p p

theorem Renaming.heads (h : Renaming x m vs a p q) : HeadsMatch (Renaming x m vs) a p q := by
  cases h with
  | behind =>
    obtain ⟨ts, bs⟩ := p
    cases ts with
    | nil => exact .nil _ _
    | cons t ts => exact .same t (.behind _ _)
  | ahead us bs hx hm =>
    cases us with
    | nil =>
      refine .apart (Place.asks_of_takes hx) ?_ (Place.asks_of_takes hm)
      rintro rfl
      cases hx
    | cons t us => exact .same t (.ahead us bs hx hm)

/-- Whatever is read as a word is read as an operand where no call follows. -/
theorem operand_word (m : String) (hvs : vs.head? ≠ some .opening) (bs : List Json) :
    operand ⟨.word m :: vs, bs⟩ =
      .ok (((constant? m).map Operand.literal).getD (.column m), ⟨vs, bs⟩) := by
  cases hconstant : constant? m with
  | some v => exact wordOperand_constant hconstant _
  | none =>
    have hread : wordOperand m ⟨vs, bs⟩ = _ := wordOperand_name hconstant _
    refine hread.trans ?_
    split
    · next heq => exact absurd (by rw [show vs = _ from heq]; rfl) hvs
    · rfl

/-- The arguments of a call end before a place where an operand is read. -/
theorem exists_of_skipClosed? {depth : Nat} {rest : List Token}
    (h : skipClosed? (depth + 1) (us ++ .word x :: vs) = some rest)
    (hx : (us.foldl Place.step (.call depth)).takes (.word x) = true) :
    ∃ ws, rest = ws ++ .word x :: vs ∧
      us.foldl Place.step (.call depth) = ws.foldl Place.step .after := by
  induction us generalizing depth with
  | nil => cases hx
  | cons t us ih =>
    cases t with
    | opening => exact @ih (depth + 1) h hx
    | closing =>
      cases depth with
      | zero =>
        rw [List.cons_append, skipClosed?, skipClosed?] at h
        cases h
        exact ⟨us, rfl, rfl⟩
      | succ depth => exact @ih depth h hx
    | word | number | string | placeholder | sign | comma | star => exact @ih depth h hx

/-- A word that is read as an operand ahead of the place, a call or not, is read alike. -/
theorem Renaming.wordOperand {text : String} {bs : List Json} {o : Operand} {p' : Pending}
    (hx : (us.foldl Place.step .after).takes (.word x) = true)
    (hm : (us.foldl Place.step .after).takes (.word m) = true)
    (ho : Raw.wordOperand text ⟨us ++ .word x :: vs, bs⟩ = .ok (o, p')) :
    ∃ q', Raw.wordOperand text ⟨us ++ .word m :: vs, bs⟩ = .ok (o, q') ∧
      Renaming x m vs .after p' q' := by
  rcases wordOperand_cases ho with ⟨rfl, hread⟩ | ⟨-, args, rest, hts, hskip, rfl, hread⟩
  · refine ⟨_, hread ⟨us ++ .word m :: vs, bs⟩ ?_, .ahead us bs hx hm⟩
    cases us with
    | nil => exact fun hopening => absurd hopening (by simp)
    | cons t us => exact id
  · -- the word that differs stands behind the arguments of the call
    cases us with
    | nil => cases hts
    | cons t us =>
      obtain ⟨rfl, hargs⟩ := List.cons.inj hts
      rw [← hargs] at hskip
      obtain ⟨ws, rfl, hplace⟩ := exists_of_skipClosed? hskip hx
      have hus : us = args ++ ws := by
        rw [← List.append_assoc] at hargs
        exact List.append_cancel_right hargs
      subst hus
      have hread := hread (ws ++ .word m :: vs) bs
      rw [← List.append_assoc] at hread
      refine ⟨⟨ws ++ .word m :: vs, bs⟩, hread, .ahead ws bs ?_ ?_⟩ <;> rwa [← hplace]

theorem Renaming.operand (hvs : vs.head? ≠ some .opening) {o : Operand} {p' : Pending}
    (h : Renaming x m vs .operand p q) (ho : Raw.operand p = .ok (o, p')) :
    ∃ o' q', Raw.operand q = .ok (o', q') ∧ Renaming x m vs .after p' q' := by
  cases h with
  | behind => exact ⟨o, p', ho, .behind _ _⟩
  | ahead us bs hx hm =>
    cases us with
    | nil =>
      rw [List.nil_append, operand_word x hvs] at ho
      cases ho
      exact ⟨_, _, operand_word m hvs bs, .behind _ _⟩
    | cons t us =>
      cases t with
      | number n =>
        cases ho
        exact ⟨_, _, rfl, .ahead us bs hx hm⟩
      | string text =>
        cases ho
        exact ⟨_, _, rfl, .ahead us bs hx hm⟩
      | placeholder =>
        cases bs with
        | nil => cases ho
        | cons v bs =>
          cases ho
          exact ⟨_, _, rfl, .ahead us bs hx hm⟩
      | word text => exact ⟨o, Renaming.wordOperand hx hm ho⟩
      | sign | opening | closing | comma | star => cases ho

theorem Renaming.operand_of_test (h : Renaming x m vs .test p q)
    (hasks : ∀ t ∈ p.tokens.head?, Place.asks .test t = false) : Renaming x m vs .operand p q := by
  cases h with
  | behind => exact .behind _ _
  | ahead us bs hx hm =>
    cases us with
    | nil => exact .ahead [] bs rfl rfl
    | cons t us =>
      have htakes : Place.takes .test t = true := by simp [Place.takes, hasks t rfl]
      have hstep : Place.step .test t = .after := if_pos htakes
      rw [List.foldl_cons, hstep] at hx hm
      exact .ahead (t :: us) bs hx hm

theorem simulates_renaming (hvs : vs.head? ≠ some .opening) :
    Simulates fun _ _ => Renaming x m vs where
  length h := by cases h <;> simp
  heads := Renaming.heads
  operand_of_test := Renaming.operand_of_test
  operand := Renaming.operand hvs
  bindings h htokens hbindings := by
    cases h with
    | behind => exact hbindings
    | ahead us => exact absurd htokens (by simp)

/-- A word in the place of another one is read as an operand like it. -/
theorem parseTokens_word (hvs : vs.head? ≠ some .opening) {bs : List Json} {e : Expr}
    (hx : (us.foldl Place.step .test).takes (.word x) = true)
    (hm : (us.foldl Place.step .test).takes (.word m) = true)
    (h : parseTokens (us ++ .word x :: vs) bs = .ok e) :
    ∃ e', parseTokens (us ++ .word m :: vs) bs = .ok e' ∧ e.SameForm e' := by
  obtain ⟨e', he', hform, -⟩ := (simulates_renaming hvs).parseTokens (.ahead us bs hx hm) h
  exact ⟨e', he', hform⟩

end Renaming

/-! ### What the word stands for -/

section Slots
variable {m x : String} {us vs rest : List Token} {bs : List Json}

/-- What follows tokens does not matter to what stands in them, but for the parenthesis of a
call. -/
theorem slots_append (h : rest.head? ≠ some .opening) (a : Place) (us : List Token) :
    slots a (us ++ rest) = slots a us ++ slots (us.foldl Place.step a) rest := by
  induction us generalizing a with
  | nil => rfl
  | cons t us ih =>
    have hslot : t.slot (us ++ rest) = t.slot us := by
      cases us with
      | nil => cases t <;> simp [Token.slot, h]
      | cons u us => cases t <;> rfl
    rw [List.cons_append, slots, slots, hslot, ih]
    split <;> rfl

/-- The first operand of a test is no column named like a negation. -/
theorem head?_slots_ne (hm : Place.test.takes (.word m) = false) (vs : List Token) :
    (slots .test vs).head? ≠ some (some (.column m)) := by
  induction vs with
  | nil => simp [slots]
  | cons t vs ih =>
    cases htakes : Place.test.takes t with
    | false =>
      have hstep : Place.test.step t = .test := if_neg (by simp [htakes])
      rwa [slots_of_not_takes htakes, hstep]
    | true =>
      rw [slots_of_takes htakes, List.head?_cons]
      intro hslot
      have hslot := Option.some.inj hslot
      cases t with
      | word text =>
        rw [Token.slot] at hslot
        split at hslot
        · cases hslot
        · obtain rfl := Operand.column.inj (Option.some.inj hslot)
          split at hm
          · cases hm
          · rw [hm] at htakes
            cases htakes
      | number | string | placeholder | opening | closing | sign | comma | star => cases hslot

theorem slot_word (hm : constant? m = none) (hvs : vs.head? ≠ some .opening) :
    (Token.word m).slot vs = some (.column m) := by
  rw [Token.slot, hm]
  dsimp only
  rw [if_neg hvs]

/-- A word that is neither a constant nor a negation where a test may start is read as the column of
that name, and no other word is. -/
theorem filled_word_iff {a : Place} (hvs : vs.head? ≠ some .opening) (ha : a = .test ∨ a = .operand)
    (hmarks : bs.length = marks (slots a (.word m :: vs))) :
    filled (slots a (.word m :: vs)) bs = .column m :: filled (slots .after vs) bs ↔
      constant? m = none ∧ a.takes (.word m) = true := by
  constructor
  · intro h
    cases htakes : a.takes (.word m) with
    | true =>
      refine ⟨?_, rfl⟩
      cases hm : constant? m with
      | none => rfl
      | some v =>
        have hslot : (Token.word m).slot vs = some (.literal v) := by rw [Token.slot, hm]
        rw [slots_of_takes htakes, hslot, filled] at h
        cases h
    | false =>
      obtain rfl : a = .test := ha.resolve_right (by rintro rfl; cases htakes)
      have hstep : Place.test.step (.word m) = .test := if_neg (by simp [htakes])
      rw [slots_of_not_takes htakes, hstep] at h hmarks
      have hne := head?_slots_ne htakes vs
      revert h hmarks hne
      cases slots .test vs with
      | nil =>
        intro _ h
        cases h
      | cons s ss =>
        intro hmarks h hne
        cases s with
        | some o =>
          obtain ⟨rfl, -⟩ := List.cons.inj h
          exact absurd rfl hne
        | none =>
          cases bs with
          | nil => simp [marks] at hmarks
          | cons v bs => cases h
  · rintro ⟨hm, htakes⟩
    have hstep : a.step (.word m) = .after := by
      rcases ha with rfl | rfl
      · exact if_pos htakes
      · rfl
    rw [slots_of_takes htakes, slot_word hm hvs, hstep]
    rfl

end Slots

structure ColumnAt (us : List Token) (x : String) (vs : List Token) : Prop where
  takes : (us.foldl Place.step .test).takes (.word x) = true
  constant : constant? x = none
  call : vs.head? ≠ some .opening

section Columns
variable {us vs : List Token} {x : String} {bs : List Json} {e : Expr}

theorem ColumnAt.place (h : ColumnAt us x vs) :
    us.foldl Place.step .test = .test ∨ us.foldl Place.step .test = .operand := by
  have htakes := h.takes
  revert htakes
  cases us.foldl Place.step .test with
  | test => exact fun _ => .inl rfl
  | operand => exact fun _ => .inr rfl
  | after | list | call => exact fun htakes => nomatch htakes

/-- The operands of what is read around a column, and which words are read as columns in its
place. -/
theorem ColumnAt.parseTokens (h : ColumnAt us x vs)
    (he : parseTokens (us ++ .word x :: vs) bs = .ok e) :
    ∃ before after, e.operands = before ++ .column x :: after ∧ ∀ m,
      (∃ e', Raw.parseTokens (us ++ .word m :: vs) bs = .ok e' ∧ e.SameForm e' ∧
        e'.operands = before ++ .column m :: after) ↔
      constant? m = none ∧ (us.foldl Place.step .test).takes (.word m) = true := by
  have hslots (m : String) : slots .test (us ++ .word m :: vs) =
      slots .test us ++ slots (us.foldl Place.step .test) (.word m :: vs) :=
    slots_append (by simp) .test us
  obtain ⟨-, hmarks, hoperands, -⟩ := parseTokens_operands rfl he
  -- the values of the placeholders in front of the word
  obtain ⟨front, rest, rfl, hfront⟩ :
      ∃ front rest, bs = front ++ rest ∧ front.length = marks (slots .test us) := by
    refine ⟨bs.take (marks (slots .test us)), bs.drop _, (List.take_append_drop _ _).symm, ?_⟩
    rw [hslots, marks, List.countP_append] at hmarks
    exact List.length_take_of_le (hmarks ▸ Nat.le_add_right _ _)
  have hfilled (m : String) : filled (slots .test (us ++ .word m :: vs)) (front ++ rest) =
      filled (slots .test us) front ++
        filled (slots (us.foldl Place.step .test) (.word m :: vs)) rest := by
    rw [hslots, filled_append hfront]
  have hrest {m : String} (h : marks (slots .test (us ++ .word m :: vs)) = (front ++ rest).length) :
      rest.length = marks (slots (us.foldl Place.step .test) (.word m :: vs)) := by
    rw [hslots, marks, List.countP_append, List.length_append, hfront] at h
    exact (Nat.add_left_cancel h).symm
  have hx := (filled_word_iff h.call h.place (hrest hmarks)).mpr ⟨h.constant, h.takes⟩
  refine ⟨filled (slots .test us) front, filled (slots .after vs) rest, ?_, fun m => ?_⟩
  · rw [hoperands, hfilled, hx]
  · constructor
    · rintro ⟨e', he', -, hoperands'⟩
      obtain ⟨-, hmarks', hread, -⟩ := parseTokens_operands rfl he'
      rw [hread, hfilled] at hoperands'
      exact (filled_word_iff h.call h.place (hrest hmarks')).mp (List.append_cancel_left hoperands')
    · rintro ⟨hm, htakes⟩
      obtain ⟨e', he', hform⟩ := parseTokens_word h.call h.takes htakes he
      obtain ⟨-, hmarks', hread, -⟩ := parseTokens_operands rfl he'
      refine ⟨e', he', hform, ?_⟩
      rw [hread, hfilled, (filled_word_iff h.call h.place (hrest hmarks')).mpr ⟨hm, htakes⟩]

/-- A name between backquotes in the place of a column is read as the column of that name, and
nothing else of what is read changes, if and only if the name spells no constant, and no negation
where a test may start. -/
theorem parse_quotedName {sql : String} (hlex : lex sql.toList = .ok (us ++ .word x :: vs))
    (hcolumn : ColumnAt us x vs) (he : parse ⟨sql, bs⟩ = .ok e) :
    ∃ front word rest before after, sql = front ++ word ++ rest ∧ (word = x ∨ word = quotedName x) ∧
      lex front.toList = .ok us ∧ e.operands = before ++ .column x :: after ∧
      ∀ m : String, backquote ∉ m.toList →
        ((∃ e', parse ⟨front ++ quotedName m ++ rest, bs⟩ = .ok e' ∧ e.SameForm e' ∧
            e'.operands = before ++ .column m :: after) ↔
          constant? m = none ∧ (us.foldl Place.step .test).takes (.word m) = true) := by
  obtain ⟨front, word, rest, htext, hword, hfront, hrest⟩ := exists_word_of_lexFrom hlex
  rw [← String.toList_ofList (l := front)] at hfront
  rw [← String.toList_ofList (l := rest)] at hrest
  obtain ⟨before, after, hoperands, hread⟩ :=
    hcolumn.parseTokens ((parse_eq_ok_iff hlex).mp he)
  refine ⟨String.ofList front, String.ofList word, String.ofList rest, before, after, ?_, ?_,
    hfront, hoperands, fun m hm => ?_⟩
  · apply String.toList_injective
    simpa using htext
  · rcases hword with rfl | rfl <;> simp
  · have hlex := lex_quotedName hfront hrest hm
    rw [← hread]
    exact exists_congr fun e' => and_congr_left' (@parse_eq_ok_iff ⟨_, bs⟩ _ e' hlex)

end Columns

def ranked : Expr :=
  .and (.compare (.column "count") (.sign .greater) (.literal (.count 2)))
    (.not (.or (.oneOf (.column "town") [.literal (.string "Oslo"), .column "rank"] false)
      (.isNull (.column "town") false)))

def beforeRank : List Token :=
  [.word "count", .sign .greater, .placeholder, .word "and", .word "not", .opening, .word "town",
    .word "in", .opening, .string "Oslo", .comma]

def behindRank : List Token :=
  [.closing, .word "or", .word "town", .word "is", .word "null", .closing]

theorem parse_quotedName_ranked : parse ranked.fragment = .ok ranked ∧
    lex ranked.fragment.sql.toList = .ok (beforeRank ++ .word "rank" :: behindRank) ∧
    ColumnAt beforeRank "rank" behindRank ∧
    ∃ front word rest before after, ranked.fragment.sql = front ++ word ++ rest ∧
      (word = "rank" ∨ word = quotedName "rank") ∧
      ranked.operands = before ++ .column "rank" :: after ∧
      ∃ e, parse ⟨front ++ quotedName "or" ++ rest, [.count 2]⟩ = .ok e ∧ ranked.SameForm e ∧
        e.operands = before ++ .column "or" :: after := by
  have hwritable : ranked.Writable := by decide
  have hspelled := hwritable.spelled .disjunction
  have hparse : parse ranked.fragment = .ok ranked :=
    hspelled.parse_textOf.trans (if_pos (by decide))
  have hlex : lex ranked.fragment.sql.toList = .ok (beforeRank ++ .word "rank" :: behindRank) :=
    (lexes_textOf hspelled.writable).lex_eq
  have hcolumn : ColumnAt beforeRank "rank" behindRank := ⟨by decide, by decide, by decide⟩
  obtain ⟨front, word, rest, before, after, htext, hword, -, hoperands, hread⟩ :=
    parse_quotedName hlex hcolumn hparse
  exact ⟨hparse, hlex, hcolumn, front, word, rest, before, after, htext, hword, hoperands,
    (hread "or" (by decide)).mpr ⟨by decide, by decide⟩⟩

/-- The name between backquotes is read as a constant or a negation where it spells one. -/
theorem parse_quotedNull :
    quotedName "null" ++ " is null" = "`null` is null" ∧
    quotedName "not" ++ " is null" = "`not` is null" ∧
    parse ⟨"state is null", []⟩ = .ok (.isNull (.column "state") false) ∧
    parse ⟨"`null` is null", []⟩ = .ok (.isNull (.literal .null) false) ∧
    parse ⟨"`not` is null", []⟩ =
      .error (.invalidQuery (.raw "`not` is null" (.unexpectedToken (.word "null")))) := by
  have hstate : lex "state is null".toList = .ok [.word "state", .word "is", .word "null"] := by
    have hwords : Lexes (textOf [.word "state", .word "is", .word "null"]).toList _ :=
      lexes_textOf (by decide)
    exact hwords.lex_eq
  have hrest : lexFrom true " is null".toList = .ok [.word "is", .word "null"] := by
    have hwords : Lexes (textOf [.word "is", .word "null"]).toList _ := lexes_textOf (by decide)
    exact (lexFrom_whiteSpace (by decide)).trans (hwords true)
  have hquoted {name text : String} (htext : quotedName name ++ " is null" = text)
      (h : backquote ∉ name.toList) :
      lex text.toList = .ok [.word name, .word "is", .word "null"] := by
    have hlex := lex_quotedName (show lex "".toList = .ok [] from Lexes.nil.lex_eq) hrest h
    rwa [String.empty_append, htext] at hlex
  have hnull : quotedName "null" ++ " is null" = "`null` is null" := by
    simp [quotedName, backquote]
  have hnot : quotedName "not" ++ " is null" = "`not` is null" := by
    simp [quotedName, backquote]
  refine ⟨hnull, hnot, (parse_eq_ok_iff hstate).mpr rfl,
    (parse_eq_ok_iff (hquoted hnull (by decide))).mpr rfl, ?_⟩
  rw [parse_eq_parseTokens, hquoted hnot (by decide)]
  rfl

end RowSearch.Raw
