import RowSearch.Proofs.Answers
import RowSearch.Proofs.Raw.Names
import Mathlib.Data.List.TakeWhile

/-! # Cutting text at separators

A blank, a closing parenthesis, a comma and a backquote end every token before them, so a text that
stands before one of them is cut as it is cut alone. Texts that are cut in one way whatever stands
before them are put together from pieces this way.
-/
namespace RowSearch.Raw

theorem map_id {ε α : Type} (x : Except ε (List α)) : x.map ([] ++ ·) = x := by
  cases x <;> rfl

def endsAfter (before : Bool) (ts : List Token) : Bool :=
  ts.foldl (fun _ t => t.endsOperand) before

inductive Starts (before : Bool) : Char → List Char → Token → List Char → Prop where
  | opening (cs : List Char) : Starts before '(' cs .opening cs
  | closing (cs : List Char) : Starts before ')' cs .closing cs
  | comma (cs : List Char) : Starts before ',' cs .comma cs
  | star (cs : List Char) : Starts before '*' cs .star cs
  | placeholder (cs : List Char) : Starts before '?' cs .placeholder cs
  | string {quote : Char} {cs text rest : List Char} (hq : quote = '\'' ∨ quote = '"')
      (h : takeQuoted? quote cs = some (text, rest)) :
      Starts before quote cs (.string (String.ofList text)) rest
  | quotedName {cs name rest : List Char} (h : takeName? cs = some (name, rest)) :
      Starts before backquote cs (.word (String.ofList name)) rest
  | number {c : Char} {cs : List Char} {n : Json.Number} (hs : startsNumber before c cs = true)
      (hn : readNumber? (c :: cs.takeWhile isNumberChar) = some n) :
      Starts before c cs (.number n) (cs.dropWhile isNumberChar)
  | word {c : Char} {cs : List Char} (hc : isWordStart c = true) :
      Starts before c cs (.word (String.ofList (c :: cs.takeWhile isWordChar)))
        (cs.dropWhile isWordChar)
  | sign {c : Char} {cs rest : List Char} {s : Sign} (h : takeSign? c cs = some (s, rest)) :
      Starts before c cs (.sign s) rest

section Steps
variable {before : Bool} {c : Char} {cs : List Char}

/-- A word, a number or a sign starts with no character that is a token of its own and with none
that opens a quotation. -/
theorem special_cases (before : Bool) {c : Char} (cs : List Char)
    (h : isWordStart c = true ∨ startsNumber before c cs = true ∨
      ∃ r, takeSign? c cs = some r) :
    c ≠ '(' ∧ c ≠ ')' ∧ c ≠ ',' ∧ c ≠ '*' ∧ c ≠ '?' ∧ ¬(c = '\'' ∨ c = '"') ∧ c ≠ backquote := by
  rcases h with h | h | ⟨r, h⟩ <;>
  · refine ⟨?_, ?_, ?_, ?_, ?_, not_or.mpr ⟨?_, ?_⟩, ?_⟩ <;>
    · rintro rfl
      cases h

theorem startsNumber_of_isWordStart (h : isWordStart c = true) :
    startsNumber before c cs = false := by
  have hdigit : c.isDigit = false := by
    by_cases hc : c.toNat < 128
    · have hall := of_ascii (p := fun c => !isWordStart c || !c.isDigit) (by decide +kernel) hc
      simpa [h] using hall
    · have hnine : ¬c.val ≤ 57 := fun hle => hc (Nat.lt_of_le_of_lt hle (by decide))
      simp [Char.isDigit, hnine]
  have hne : c ≠ '-' := by
    rintro rfl
    exact absurd h (by decide)
  simp [startsNumber, hdigit, hne]

theorem not_starts_of_takeSign? {r : Sign × List Char} (h : takeSign? c cs = some r) :
    startsNumber before c cs = false ∧ isWordStart c = false := by
  unfold takeSign? at h
  split at h <;> cases h <;> exact ⟨rfl, rfl⟩

theorem takeToken?_eq_ok_iff {t : Token} {rest : List Char} :
    takeToken? before c cs = .ok (t, rest) ↔ Starts before c cs t rest := by
  constructor
  · intro h
    unfold takeToken? at h
    by_cases hopening : c = '('
    · rw [if_pos hopening] at h
      cases h
      exact hopening ▸ .opening _
    rw [if_neg hopening] at h
    by_cases hclosing : c = ')'
    · rw [if_pos hclosing] at h
      cases h
      exact hclosing ▸ .closing _
    rw [if_neg hclosing] at h
    by_cases hcomma : c = ','
    · rw [if_pos hcomma] at h
      cases h
      exact hcomma ▸ .comma _
    rw [if_neg hcomma] at h
    by_cases hstar : c = '*'
    · rw [if_pos hstar] at h
      cases h
      exact hstar ▸ .star _
    rw [if_neg hstar] at h
    by_cases hmark : c = '?'
    · rw [if_pos hmark] at h
      cases h
      exact hmark ▸ .placeholder _
    rw [if_neg hmark] at h
    by_cases hquote : c = '\'' ∨ c = '"'
    · rw [if_pos hquote] at h
      split at h
      · next htake => cases h; exact .string hquote htake
      · cases h
    rw [if_neg hquote] at h
    by_cases hname : c = backquote
    · rw [if_pos hname] at h
      split at h
      · next htake => cases h; exact hname ▸ .quotedName htake
      · cases h
    rw [if_neg hname] at h
    by_cases hnumber : startsNumber before c cs = true
    · rw [if_pos hnumber] at h
      dsimp only at h
      split at h
      · next hn => cases h; exact .number hnumber hn
      · cases h
    rw [if_neg hnumber] at h
    by_cases hword : isWordStart c = true
    · rw [if_pos hword] at h
      cases h
      exact .word hword
    rw [if_neg hword] at h
    split at h
    · next htake => cases h; exact .sign htake
    · cases h
  · intro h
    unfold takeToken?
    cases h with
    | opening | closing | comma | star | placeholder => rfl
    | string hq htake =>
      rcases hq with rfl | rfl <;> simp [htake]
    | quotedName htake => simp [backquote, htake]
    | number hs hn => simp [special_cases before _ (.inr (.inl hs)), hs, hn]
    | word hc =>
      have hspecial := special_cases before cs (.inl hc)
      simp [hspecial, startsNumber_of_isWordStart hc, hc]
    | sign htake =>
      have hspecial := special_cases before _ (.inr (.inr ⟨_, htake⟩))
      obtain ⟨hs, hw⟩ : startsNumber before c cs = false ∧ isWordStart c = false :=
        not_starts_of_takeSign? htake
      simp [hspecial, hs, hw, htake]

theorem lexFrom_whiteSpace (h : Text.isWhiteSpace c = true) :
    lexFrom before (c :: cs) = lexFrom before cs := by
  rw [lexFrom, if_pos h]

theorem lexFrom_token (h : Text.isWhiteSpace c = false) {t : Token} {rest : List Char}
    (ht : takeToken? before c cs = .ok (t, rest)) :
    lexFrom before (c :: cs) = (lexFrom t.endsOperand rest).map (t :: ·) := by
  rw [lexFrom, if_neg (by simp [h])]
  split
  · next heq => simp [ht] at heq
  · next heq =>
    rw [ht] at heq
    cases heq
    rfl

theorem lexFrom_fault (h : Text.isWhiteSpace c = false) {fault : Fault}
    (ht : takeToken? before c cs = .error fault) : lexFrom before (c :: cs) = .error fault := by
  rw [lexFrom, if_neg (by simp [h])]
  split
  · next heq =>
    rw [ht] at heq
    cases heq
    rfl
  · next heq => simp [ht] at heq

theorem exists_token_of_lexFrom (h : Text.isWhiteSpace c = false) {ts : List Token}
    (hlex : lexFrom before (c :: cs) = .ok ts) :
    ∃ t rest us, Starts before c cs t rest ∧ lexFrom t.endsOperand rest = .ok us ∧
      ts = t :: us := by
  cases ht : takeToken? before c cs with
  | error fault =>
    rw [lexFrom_fault h ht] at hlex
    cases hlex
  | ok r =>
    obtain ⟨t, rest⟩ := r
    rw [lexFrom_token h ht] at hlex
    obtain ⟨us, hus, rfl⟩ := map_eq_ok_iff.mp hlex
    exact ⟨t, rest, us, takeToken?_eq_ok_iff.mp ht, hus, rfl⟩

/-- A text that is cut is empty, or starts with white space or a token. -/
theorem lexFrom_cases {motive : Bool → List Char → List Token → Prop}
    (nil : ∀ before, motive before [] [])
    (whiteSpace : ∀ before c cs ts, Text.isWhiteSpace c = true → lexFrom before cs = .ok ts →
      motive before cs ts → motive before (c :: cs) ts)
    (token : ∀ before c cs t rest ts, Text.isWhiteSpace c = false →
      takeToken? before c cs = .ok (t, rest) → lexFrom t.endsOperand rest = .ok ts →
      motive t.endsOperand rest ts → motive before (c :: cs) (t :: ts))
    {before : Bool} {cs : List Char} {ts : List Token} (h : lexFrom before cs = .ok ts) :
    motive before cs ts := by
  fun_induction lexFrom before cs generalizing ts with
  | case1 before =>
    cases h
    exact nil before
  | case2 before c rest hws ih => exact whiteSpace before c rest ts hws h (ih h)
  | case3 => cases h
  | case4 before c rest hws t rest' ht ih =>
    obtain ⟨us, hus, rfl⟩ := map_eq_ok_iff.mp h
    exact token before c rest t rest' us (Bool.eq_false_iff.mpr hws) ht hus (ih hus)

end Steps

def Unquoted (c : Char) : Prop := ¬(c = '\'' ∨ c = '"') ∧ c ≠ backquote

instance : DecidablePred Unquoted := fun c =>
  inferInstanceAs (Decidable (¬(c = '\'' ∨ c = '"') ∧ c ≠ backquote))

def separates (c : Char) : Bool :=
  Text.isWhiteSpace c || c == ')' || c == ',' || c == backquote

section Separators
variable {d : Char} (hd : separates d = true) (more : List Char)
include hd

theorem takeWhile_append_separator {p : Char → Bool} (hp : ∀ c, separates c = true → p c = false)
    (cs : List Char) :
    (cs ++ d :: more).takeWhile p = cs.takeWhile p ∧
      (cs ++ d :: more).dropWhile p = cs.dropWhile p ++ d :: more := by
  induction cs with
  | nil => simp [hp d hd]
  | cons c cs ih =>
    by_cases hc : p c = true
    · simp [hc, ih]
    · simp [hc]

omit more in
theorem not_isWordChar_of_separates : isWordChar d = false := by
  by_contra hword
  have hws := isWhiteSpace_of_isWordChar (Bool.of_not_eq_false hword)
  simp only [separates, hws, Bool.false_or, Bool.or_eq_true, beq_iff_eq] at hd
  rcases hd with (rfl | rfl) | rfl <;> exact hword (by decide)

omit more in
theorem not_isNumberChar_of_separates : isNumberChar d = false := by
  have hword := not_isWordChar_of_separates hd
  by_cases hc : d.toNat < 128
  · have hall := of_ascii (p := fun c => isWordChar c || !isNumberChar c) (by decide +kernel) hc
    simpa [hword] using hall
  · have hnine : ¬d.val ≤ 57 := fun hle => hc (Nat.lt_of_le_of_lt hle (by decide))
    have hpoint : d ≠ '.' := by
      rintro rfl
      exact hc (by decide)
    simp [isNumberChar, Char.isDigit, hnine, hpoint]

end Separators

/-- What may stand behind a token in the place of what does: it starts alike or with a separator. -/
def Resumes (rest other : List Char) : Prop :=
  ∀ d ∈ other.head?, separates d = true ∨ rest.head? = some d

theorem takeQuoted?_resume {quote : Char} {cs text rest : List Char}
    (h : takeQuoted? quote cs = some (text, rest)) :
    rest.head? ≠ some quote ∧ ∃ used, cs = used ++ rest ∧ ∀ other : List Char,
      other.head? ≠ some quote → takeQuoted? quote (used ++ other) = some (text, other) := by
  fun_induction takeQuoted? quote cs generalizing text rest with
  | case1 => cases h
  | case2 =>
    cases h
    refine ⟨by simp, [quote], rfl, fun other hother => ?_⟩
    cases other with
    | nil => simp [takeQuoted?]
    | cons d other => simpa [takeQuoted?] using hother
  | case3 rest' ih =>
    obtain ⟨r, hr, he⟩ := Option.map_eq_some_iff.mp h
    cases he
    obtain ⟨hne, used, rfl, hused⟩ := ih hr
    refine ⟨hne, quote :: quote :: used, rfl, fun other hother => ?_⟩
    simp [takeQuoted?, hused other hother]
  | case4 d rest' hd =>
    cases h
    refine ⟨by simpa using hd, [quote], rfl, fun other hother => ?_⟩
    cases other with
    | nil => simp [takeQuoted?]
    | cons d other => simpa [takeQuoted?] using hother
  | case5 c cs hc ih =>
    obtain ⟨r, hr, he⟩ := Option.map_eq_some_iff.mp h
    cases he
    obtain ⟨hne, used, rfl, hused⟩ := ih hr
    refine ⟨hne, c :: used, rfl, fun other hother => ?_⟩
    rw [List.cons_append]
    unfold takeQuoted?
    rw [if_neg hc, hused other hother]
    rfl

/-- A name goes up to the next backquote. -/
theorem takeName?_eq_some_iff {cs name rest : List Char} :
    takeName? cs = some (name, rest) ↔ backquote ∉ name ∧ cs = name ++ backquote :: rest := by
  constructor
  · intro h
    fun_induction takeName? cs generalizing name rest with
    | case1 => cases h
    | case2 cs =>
      cases h
      exact ⟨List.not_mem_nil, rfl⟩
    | case3 c cs hc ih =>
      obtain ⟨r, hr, he⟩ := Option.map_eq_some_iff.mp h
      cases he
      obtain ⟨hname, rfl⟩ := ih hr
      exact ⟨by simp [Ne.symm hc, hname], rfl⟩
  · rintro ⟨h, rfl⟩
    induction name with
    | nil => simp [takeName?]
    | cons c cs ih =>
      obtain ⟨hc, hcs⟩ := not_or.mp (mt List.mem_cons.mpr h)
      simp [takeName?, Ne.symm hc, ih hcs]

theorem takeWhile_resume {p : Char → Bool} (hp : ∀ c, separates c = true → p c = false)
    {cs other : List Char} (h : Resumes (cs.dropWhile p) other) :
    (cs.takeWhile p ++ other).takeWhile p = cs.takeWhile p ∧
      (cs.takeWhile p ++ other).dropWhile p = other := by
  have hall : ∀ c ∈ cs.takeWhile p, p c = true := fun c hc => List.mem_takeWhile_imp hc
  rw [List.takeWhile_append_of_pos hall, List.dropWhile_append_of_pos hall]
  cases other with
  | nil => simp
  | cons d other =>
    have hd : p d = false := by
      rcases h d rfl with hd | hd
      · exact hp d hd
      · have hnot := List.head?_dropWhile_not p cs
        rw [hd] at hnot
        simpa using hnot
    simp [hd]

theorem takeSign?_resume {c : Char} {cs rest : List Char} {s : Sign}
    (h : takeSign? c cs = some (s, rest)) :
    ∃ used, cs = used ++ rest ∧ ∀ other, Resumes rest other →
      takeSign? c (used ++ other) = some (s, other) := by
  have hend {d : Char} {rest other : List Char} (hother : Resumes rest (d :: other)) :
      (d = '=' → rest.head? = some '=') ∧ (d = '>' → rest.head? = some '>') := by
    constructor
    · rintro rfl
      exact (hother _ rfl).resolve_left (by decide)
    · rintro rfl
      exact (hother _ rfl).resolve_left (by decide)
  unfold takeSign? at h
  split at h
  all_goals cases h
  · exact ⟨['='], rfl, fun other _ => rfl⟩
  · exact ⟨['='], rfl, fun other _ => rfl⟩
  · exact ⟨['='], rfl, fun other _ => rfl⟩
  · exact ⟨['='], rfl, fun other _ => rfl⟩
  · exact ⟨['>'], rfl, fun other _ => rfl⟩
  all_goals
    refine ⟨[], rfl, fun other hother => ?_⟩
    rw [List.nil_append]
    cases other with
    | nil => rfl
    | cons d other =>
      obtain ⟨heq, hgt⟩ := hend hother
      unfold takeSign?
      split <;> simp_all [List.head?_eq_some_iff]

/-- A token ends where it ends whatever may stand behind it. -/
theorem Starts.resume {before : Bool} {c : Char} {cs rest : List Char} {t : Token}
    (h : Starts before c cs t rest) :
    ∃ used, cs = used ++ rest ∧ ∀ other, Resumes rest other →
      Starts before c (used ++ other) t other := by
  cases h with
  | opening => exact ⟨[], rfl, fun other _ => .opening other⟩
  | closing => exact ⟨[], rfl, fun other _ => .closing other⟩
  | comma => exact ⟨[], rfl, fun other _ => .comma other⟩
  | star => exact ⟨[], rfl, fun other _ => .star other⟩
  | placeholder => exact ⟨[], rfl, fun other _ => .placeholder other⟩
  | string hq htake =>
    obtain ⟨hne, used, rfl, hused⟩ := takeQuoted?_resume htake
    refine ⟨used, rfl, fun other hother => .string hq (hused other fun hhead => ?_)⟩
    rcases hother _ hhead with hd | hrest
    · rcases hq with rfl | rfl <;> exact absurd hd (by decide)
    · exact hne hrest
  | @quotedName _ name _ htake =>
    obtain ⟨hname, rfl⟩ := takeName?_eq_some_iff.mp htake
    refine ⟨name ++ [backquote], by simp, fun other _ => .quotedName ?_⟩
    exact takeName?_eq_some_iff.mpr ⟨hname, by simp⟩
  | number hs hn =>
    refine ⟨_, (List.takeWhile_append_dropWhile).symm, fun other hother => ?_⟩
    obtain ⟨htake, hdrop⟩ := takeWhile_resume (p := isNumberChar)
      (fun _ h => not_isNumberChar_of_separates h) hother
    have hstarts : startsNumber before c (cs.takeWhile isNumberChar ++ other) = true := by
      cases cs with
      | nil => simp_all [startsNumber]
      | cons e cs =>
        by_cases he : isNumberChar e = true
        · rw [List.takeWhile_cons_of_pos he]
          exact hs
        · have hdigit : e.isDigit = false := by simp_all [isNumberChar]
          have hc : c.isDigit = true := by simpa [startsNumber, hdigit] using hs
          simp [startsNumber, hc]
    have hnumber := Starts.number hstarts (by rw [htake]; exact hn)
    rwa [hdrop] at hnumber
  | word hc =>
    refine ⟨_, (List.takeWhile_append_dropWhile).symm, fun other hother => ?_⟩
    obtain ⟨htake, hdrop⟩ := takeWhile_resume (p := isWordChar)
      (fun _ h => not_isWordChar_of_separates h) hother
    have hword : Starts before c (cs.takeWhile isWordChar ++ other) _ _ := .word hc
    rwa [htake, hdrop] at hword
  | sign htake =>
    obtain ⟨used, rfl, hused⟩ := takeSign?_resume htake
    exact ⟨used, rfl, fun other hother => .sign (hused other hother)⟩

section Separators
variable {d : Char} (hd : separates d = true) (more : List Char)
include hd

theorem takeSign?_append (c : Char) (cs : List Char) :
    takeSign? c (cs ++ d :: more) = (takeSign? c cs).map fun r => (r.1, r.2 ++ d :: more) := by
  have heq : d ≠ '=' := by rintro rfl; cases hd
  have hgt : d ≠ '>' := by rintro rfl; cases hd
  cases cs with
  | nil => unfold takeSign?; split <;> simp_all
  | cons e cs => unfold takeSign?; split <;> simp_all

theorem startsNumber_append (before : Bool) (c : Char) (cs : List Char) :
    startsNumber before c (cs ++ d :: more) = startsNumber before c cs := by
  have hdigit : d.isDigit = false :=
    (Bool.or_eq_false_iff.mp (not_isNumberChar_of_separates hd)).1
  cases cs with
  | nil => simp [startsNumber, hdigit]
  | cons e cs => rfl

/-- What a token is and what follows it does not change when a separator ends the text. -/
theorem Starts.append {before : Bool} {c : Char} {cs rest : List Char} {t : Token}
    (h : Starts before c cs t rest) : Starts before c (cs ++ d :: more) t (rest ++ d :: more) := by
  obtain ⟨used, rfl, hused⟩ := h.resume
  rw [List.append_assoc]
  refine hused _ fun e he => ?_
  cases rest with
  | nil =>
    cases he
    exact .inl hd
  | cons r rest => exact .inr he

/-- A text before a separator is cut as it is cut alone. -/
theorem lexFrom_append {before : Bool} {cs : List Char} {ts : List Token}
    (h : lexFrom before cs = .ok ts) :
    lexFrom before (cs ++ d :: more) =
      (lexFrom (endsAfter before ts) (d :: more)).map (ts ++ ·) := by
  refine lexFrom_cases (motive := fun before cs ts => lexFrom before (cs ++ d :: more) =
    (lexFrom (endsAfter before ts) (d :: more)).map (ts ++ ·)) ?_ ?_ ?_ h
  · intro before
    exact (map_id _).symm
  · intro before c cs ts hws _ ih
    rw [List.cons_append, lexFrom_whiteSpace hws, ih]
  · intro before c cs t rest ts hws ht _ ih
    have hstarts := (takeToken?_eq_ok_iff.mp ht).append hd more
    rw [List.cons_append, lexFrom_token hws (takeToken?_eq_ok_iff.mpr hstarts), ih, map_map]
    rfl

omit hd in
/-- What is cut before a blank and what is cut after it. -/
theorem lexFrom_blank {before : Bool} {cs ds : List Char} {ts us : List Token}
    (hcs : lexFrom before cs = .ok ts) (h : lexFrom before (cs ++ ' ' :: ds) = .ok us) :
    ∃ vs, lexFrom (endsAfter before ts) ds = .ok vs ∧ us = ts ++ vs := by
  rw [lexFrom_append (by decide) ds hcs, lexFrom_whiteSpace (by decide)] at h
  obtain ⟨vs, hvs, rfl⟩ := map_eq_ok_iff.mp h
  exact ⟨vs, hvs, rfl⟩

/-- Where no quotation can be open, a token that is none stays none. -/
theorem takeToken?_append_error {before : Bool} {c : Char} {cs : List Char} {fault : Fault}
    (hc : Unquoted c) (h : takeToken? before c cs = .error fault) :
    takeToken? before c (cs ++ d :: more) = .error fault := by
  obtain ⟨hquote, hname⟩ := hc
  have hspecial : c ≠ '(' ∧ c ≠ ')' ∧ c ≠ ',' ∧ c ≠ '*' ∧ c ≠ '?' := by
    refine ⟨?_, ?_, ?_, ?_, ?_⟩ <;>
    · rintro rfl
      cases h
  obtain ⟨htake, -⟩ := takeWhile_append_separator hd more (p := isNumberChar)
    (fun _ h => not_isNumberChar_of_separates h) cs
  simp only [takeToken?, hspecial, hquote, hname, if_false, startsNumber_append hd, htake,
    takeSign?_append hd] at h ⊢
  split at h
  · next hs =>
    rw [if_pos hs]
    split at h
    · cases h
    · exact h
  · next hs =>
    rw [if_neg hs]
    split at h
    · cases h
    · next hw =>
      rw [if_neg hw]
      split at h
      · cases h
      · next htake => rw [htake]; exact h

/-- Where no quotation can be open, a text that is not cut is not cut before a separator. -/
theorem lexFrom_append_error {before : Bool} {cs : List Char} {fault : Fault}
    (hquotes : ∀ c ∈ cs, Unquoted c) (h : lexFrom before cs = .error fault) :
    lexFrom before (cs ++ d :: more) = .error fault := by
  fun_induction lexFrom before cs with
  | case1 => cases h
  | case2 before c rest hws ih =>
    rw [List.cons_append, lexFrom_whiteSpace hws]
    exact ih (fun x hx => hquotes x (List.mem_cons_of_mem c hx)) h
  | case3 before c rest hws e ht =>
    cases h
    have hc := hquotes c List.mem_cons_self
    exact lexFrom_fault (Bool.eq_false_iff.mpr hws) (takeToken?_append_error hd more hc ht)
  | case4 before c rest hws t rest' ht ih =>
    have hc := hquotes c List.mem_cons_self
    have hstarts := takeToken?_eq_ok_iff.mp ht
    -- What follows a token that is no quotation stands in the text and opens none either.
    obtain ⟨used, hcut, -⟩ := hstarts.resume
    have hrest : ∀ x ∈ rest', Unquoted x := fun x hx =>
      hquotes x (List.mem_cons_of_mem c (hcut ▸ List.mem_append_right used hx))
    have hlater : lexFrom t.endsOperand rest' = .error fault := by
      cases hr : lexFrom t.endsOperand rest' with
      | error e => simpa [hr, Except.map] using h
      | ok ts => simp [hr, Except.map] at h
    rw [List.cons_append, lexFrom_token (Bool.eq_false_iff.mpr hws)
      (takeToken?_eq_ok_iff.mpr (hstarts.append hd more)), ih hrest hlater]
    rfl

end Separators

/-- A text that is cut into the tokens whatever stands before it. -/
def Lexes (cs : List Char) (ts : List Token) : Prop := ∀ before, lexFrom before cs = .ok ts

namespace Lexes
variable {c : Char} {cs ds : List Char} {ts us : List Token}

theorem lex_eq (h : Lexes cs ts) : lex cs = .ok ts := h false

theorem nil : Lexes [] [] := fun before => by rw [lexFrom]

theorem whiteSpace (hc : Text.isWhiteSpace c = true) (h : Lexes cs ts) : Lexes (c :: cs) ts :=
  fun before => by rw [lexFrom_whiteSpace hc, h]

theorem token (hc : Text.isWhiteSpace c = false) {t : Token} {rest : List Char}
    (ht : ∀ before, Starts before c cs t rest) (h : Lexes rest ts) : Lexes (c :: cs) (t :: ts) := by
  intro before
  rw [lexFrom_token hc (takeToken?_eq_ok_iff.mpr (ht before)), h]
  rfl

/-- What stands before a text matters only to a number at its start, whose sign it may be. -/
theorem of_lexFrom {before : Bool} {t : Token} (h : lexFrom before cs = .ok (t :: ts))
    (ht : ∀ n, t ≠ .number n) : Lexes cs (t :: ts) := by
  refine lexFrom_cases (motive := fun _ cs us => us = t :: ts → Lexes cs us) ?_ ?_ ?_ h rfl
  · rintro - hts
    cases hts
  · intro _ c cs us hws _ ih hts
    exact (ih hts).whiteSpace hws
  · intro before c cs u rest us hws hu hrest _ hts
    cases hts
    intro before
    have hstarts : Starts before c cs t rest := by
      cases takeToken?_eq_ok_iff.mp hu with
      | opening => exact .opening _
      | closing => exact .closing _
      | comma => exact .comma _
      | star => exact .star _
      | placeholder => exact .placeholder _
      | string hq htake => exact .string hq htake
      | quotedName htake => exact .quotedName htake
      | number => exact absurd rfl (ht _)
      | word hc => exact .word hc
      | sign htake => exact .sign htake
    rw [lexFrom_token hws (takeToken?_eq_ok_iff.mpr hstarts), hrest]
    rfl

theorem opening (h : Lexes cs ts) : Lexes ('(' :: cs) (.opening :: ts) :=
  token (by decide) (fun _ => .opening cs) h

theorem closing (h : Lexes cs ts) : Lexes (')' :: cs) (.closing :: ts) :=
  token (by decide) (fun _ => .closing cs) h

theorem comma (h : Lexes cs ts) : Lexes (',' :: cs) (.comma :: ts) :=
  token (by decide) (fun _ => .comma cs) h

theorem placeholder (h : Lexes cs ts) : Lexes ('?' :: cs) (.placeholder :: ts) :=
  token (by decide) (fun _ => .placeholder cs) h

theorem append (h : Lexes cs ts) (hd : separates c = true) (hds : Lexes (c :: ds) us) :
    Lexes (cs ++ c :: ds) (ts ++ us) := by
  intro before
  rw [lexFrom_append hd ds (h before), hds]
  rfl

/-- Texts with a blank between them are cut one after the other. -/
theorem blank (h : Lexes cs ts) (hds : Lexes ds us) : Lexes (cs ++ ' ' :: ds) (ts ++ us) :=
  h.append (by decide) (hds.whiteSpace (by decide))

theorem word {name : String} (h : isIdentifier name = true) :
    Lexes name.toList [.word name] := by
  rw [isIdentifier] at h
  split at h
  · next c cs hname =>
    obtain ⟨hc, hcs⟩ := Bool.and_eq_true_iff.mp h
    have htake : cs.takeWhile isWordChar = cs := List.takeWhile_eq_self_iff.mpr fun d hd =>
      List.all_eq_true.mp hcs d hd
    have hdrop : cs.dropWhile isWordChar = [] := List.dropWhile_eq_nil_iff.mpr fun d hd =>
      List.all_eq_true.mp hcs d hd
    have hws := isWhiteSpace_of_isWordChar (isWordChar_of_isWordStart hc)
    have hstarts (before : Bool) : Starts before c cs
        (.word (String.ofList (c :: cs.takeWhile isWordChar))) (cs.dropWhile isWordChar) :=
      .word hc
    rw [htake, hdrop, ← hname, String.ofList_toList] at hstarts
    rw [hname]
    exact token hws hstarts nil
  · cases h

theorem sign (s : Sign) : Lexes s.text.toList [.sign s] := by
  cases s <;> exact token (by decide) (fun _ => .sign rfl) nil

end Lexes

def doubled (text : List Char) : List Char :=
  text.flatMap fun c => if c = '\'' then ['\'', '\''] else [c]

theorem takeQuoted?_doubled (cs : List Char) :
    takeQuoted? '\'' (doubled cs ++ ['\'']) = some (cs, []) := by
  rw [doubled]
  induction cs with
  | nil => rfl
  | cons c cs ih =>
    by_cases hc : c = '\''
    · subst hc
      simp [takeQuoted?, ih]
    · rw [List.flatMap_cons, if_neg hc, List.append_assoc, List.singleton_append]
      unfold takeQuoted?
      rw [if_neg hc, ih]
      rfl

theorem Lexes.string (text : String) :
    Lexes ('\'' :: (doubled text.toList ++ ['\''])) [.string text] := by
  have hstarts (before : Bool) : Starts before '\'' (doubled text.toList ++ ['\''])
      (.string (String.ofList text.toList)) [] :=
    .string (.inl rfl) (takeQuoted?_doubled text.toList)
  rw [String.ofList_toList] at hstarts
  exact token (by decide) hstarts nil

end RowSearch.Raw
