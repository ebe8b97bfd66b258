import Mathlib.Data.List.Forall2
import Mathlib.Data.List.Infix
import RowSearch.Row.Pattern

/-! # Texts that a pattern matches

A text matches a pattern when it can be cut into consecutive parts, one for each unit of the
pattern. Matching keeps a table with an answer for every suffix of the text; each kind of piece
turns a table that tells which suffixes the later pieces fit into one for all of them, so no way
to cut the text is missed.
-/
namespace RowSearch.Pattern

/-- A text cut into consecutive parts, one for each unit of a pattern from left to right. -/
inductive Cut : List Char → List Char → Prop where
  | nil : Cut [] []
  | run (part : List Char) {pattern rest : List Char} (h : Cut pattern rest) :
      Cut ('%' :: pattern) (part ++ rest)
  | one (c : Char) {pattern rest : List Char} (h : Cut pattern rest) :
      Cut ('_' :: pattern) (c :: rest)
  | escaped (c : Char) {pattern rest : List Char} (h : Cut pattern rest) :
      Cut ('\\' :: c :: pattern) (c :: rest)
  | dangling : Cut ['\\'] []
  | itself {c : Char} (hc : c ≠ '%' ∧ c ≠ '_' ∧ c ≠ '\\') {pattern rest : List Char}
      (h : Cut pattern rest) : Cut (c :: pattern) (c :: rest)

/-- A text put together from parts, one for each piece, where `same` tells which characters stand
for each other. -/
inductive Fits (same : Char → Char → Bool) : List Piece → List Char → Prop where
  | nil : Fits same [] []
  | any (part : List Char) {ps : List Piece} {rest : List Char} (h : Fits same ps rest) :
      Fits same (.any :: ps) (part ++ rest)
  | one (c : Char) {ps : List Piece} {rest : List Char} (h : Fits same ps rest) :
      Fits same (.one :: ps) (c :: rest)
  | exactly {c d : Char} (hd : same c d = true) {ps : List Piece} {rest : List Char}
      (h : Fits same ps rest) : Fits same (.exactly c :: ps) (d :: rest)

def alike (ignoreCase : Bool) (a b : Char) : Bool :=
  if ignoreCase then Text.fold a == Text.fold b else a == b

section Tables
variable {same : Char → Char → Bool} {p : List Char → Prop} {cs : List Char} {bs : List Bool}

/-- A table that answers for each suffix of a text, the whole text first. -/
def Tells (p : List Char → Prop) (cs : List Char) (bs : List Bool) : Prop :=
  List.Forall₂ (fun suffix b => b = true ↔ p suffix) cs.tails bs

theorem tells_nil_iff : Tells p [] bs ↔ ∃ b, bs = [b] ∧ (b = true ↔ p []) := by
  rw [Tells, List.tails, List.forall₂_cons_left_iff]
  simp [and_comm]

theorem tells_cons_iff {c : Char} :
    Tells p (c :: cs) bs ↔
      ∃ b rest, (b = true ↔ p (c :: cs)) ∧ Tells p cs rest ∧ bs = b :: rest := by
  rw [Tells, List.tails_cons, List.forall₂_cons_left_iff]
  rfl

theorem Tells.headD (h : Tells p cs bs) : bs.headD false = true ↔ p cs := by
  cases cs with
  | nil =>
    obtain ⟨b, rfl, hb⟩ := tells_nil_iff.mp h
    exact hb
  | cons c cs =>
    obtain ⟨b, rest, hb, _, rfl⟩ := tells_cons_iff.mp h
    exact hb

theorem Tells.exists_head (h : Tells p cs bs) : ∃ b, bs = b :: bs.tail ∧ (b = true ↔ p cs) := by
  refine ⟨bs.headD false, ?_, h.headD⟩
  cases cs with
  | nil =>
    obtain ⟨b, rfl, _⟩ := tells_nil_iff.mp h
    rfl
  | cons c cs =>
    obtain ⟨b, rest, _, _, rfl⟩ := tells_cons_iff.mp h
    rfl

theorem tells_none : Tells (Fits same []) cs (cs.map (fun _ => false) ++ [true]) := by
  induction cs with
  | nil => exact tells_nil_iff.mpr ⟨true, rfl, iff_of_true rfl .nil⟩
  | cons c cs ih =>
    refine tells_cons_iff.mpr ⟨false, _, iff_of_false Bool.false_ne_true ?_, ih, rfl⟩
    intro h
    cases h

theorem fits_any_cons_iff {ps : List Piece} {c : Char} :
    Fits same (.any :: ps) (c :: cs) ↔ Fits same ps (c :: cs) ∨ Fits same (.any :: ps) cs := by
  constructor
  · intro h
    generalize htext : c :: cs = text at h
    cases h with
    | any part h =>
      cases part with
      | nil =>
        obtain rfl : c :: cs = _ := htext
        exact .inl h
      | cons d part =>
        cases htext
        exact .inr (.any part h)
  · rintro (h | h)
    · exact .any [] h
    · cases h with
      | any part h => exact .any (c :: part) h

theorem tells_any {ps : List Piece} (h : Tells (Fits same ps) cs bs) :
    Tells (Fits same (.any :: ps)) cs (anyFrom bs) := by
  induction cs generalizing bs with
  | nil =>
    obtain ⟨b, rfl, hb⟩ := tells_nil_iff.mp h
    refine tells_nil_iff.mpr ⟨b, by simp [anyFrom], hb.trans ⟨.any [], fun h => ?_⟩⟩
    generalize htext : [] = text at h
    cases h with
    | any part h =>
      obtain ⟨rfl, rfl⟩ := List.append_eq_nil_iff.mp htext.symm
      exact h
  | cons c cs ih =>
    obtain ⟨b, rest, hb, hrest, rfl⟩ := tells_cons_iff.mp h
    have hlater := ih hrest
    refine tells_cons_iff.mpr ⟨_, _, ?_, hlater, rfl⟩
    rw [Bool.or_eq_true, hb, hlater.headD, fits_any_cons_iff]

theorem tells_one {ps : List Piece} (h : Tells (Fits same ps) cs bs) :
    Tells (Fits same (.one :: ps)) cs (bs.tail ++ [false]) := by
  induction cs generalizing bs with
  | nil =>
    obtain ⟨b, rfl, _⟩ := tells_nil_iff.mp h
    refine tells_nil_iff.mpr ⟨false, rfl, iff_of_false Bool.false_ne_true ?_⟩
    intro h
    cases h
  | cons c cs ih =>
    obtain ⟨_, rest, _, hrest, rfl⟩ := tells_cons_iff.mp h
    obtain ⟨b, hcons, hb⟩ := hrest.exists_head
    refine tells_cons_iff.mpr ⟨b, _, hb.trans ⟨.one c, fun h => ?_⟩, ih hrest, ?_⟩
    · cases h with
      | one _ h => exact h
    · rw [List.tail_cons, hcons]
      rfl

theorem tells_exactly {ps : List Piece} (c : Char) (h : Tells (Fits same ps) cs bs) :
    Tells (Fits same (.exactly c :: ps)) cs
      (List.zipWith (fun x b => same c x && b) cs bs.tail ++ [false]) := by
  induction cs generalizing bs with
  | nil =>
    refine tells_nil_iff.mpr ⟨false, rfl, iff_of_false Bool.false_ne_true ?_⟩
    intro h
    cases h
  | cons d cs ih =>
    obtain ⟨_, rest, _, hrest, rfl⟩ := tells_cons_iff.mp h
    obtain ⟨b, hcons, hb⟩ := hrest.exists_head
    refine tells_cons_iff.mpr ⟨same c d && b, _, ?_, ih hrest, ?_⟩
    · rw [Bool.and_eq_true, hb]
      constructor
      · rintro ⟨hd, h⟩
        exact .exactly hd h
      · intro h
        cases h with
        | exactly hd h => exact ⟨hd, h⟩
    · rw [List.tail_cons, hcons]
      rfl

/-- The table of some pieces tells which suffixes they fit. -/
theorem tells_matchSuffixes (same : Char → Char → Bool) (cs : List Char) (ps : List Piece) :
    Tells (Fits same ps) cs (matchSuffixes same cs ps) := by
  induction ps with
  | nil => exact tells_none
  | cons piece ps ih =>
    cases piece with
    | any => exact tells_any ih
    | one => exact tells_one ih
    | exactly c => exact tells_exactly c ih

end Tables

theorem accepts_iff_fits (ignoreCase : Bool) (pattern text : String) :
    accepts ignoreCase pattern text = true ↔
      Fits (alike ignoreCase) (pieces pattern.toList) text.toList :=
  (tells_matchSuffixes (alike ignoreCase) text.toList (pieces pattern.toList)).headD

theorem Fits.mono {same like : Char → Char → Bool}
    (hsame : ∀ c d, same c d = true → like c d = true)
    {ps : List Piece} {cs : List Char} (h : Fits same ps cs) : Fits like ps cs := by
  induction h with
  | nil => exact .nil
  | any part _ ih => exact .any part ih
  | one c _ ih => exact .one c ih
  | exactly hd _ ih => exact .exactly (hsame _ _ hd) ih

theorem alike_false_iff {c d : Char} : alike false c d = true ↔ c = d := by simp [alike]

theorem alike_of_eq {c d : Char} (h : alike false c d = true) (ignoreCase : Bool) :
    alike ignoreCase c d = true := by
  obtain rfl := alike_false_iff.mp h
  simp [alike]

theorem not_backslash {c : Char} {cs : List Char}
    (hesc : ∀ d ds, c = '\\' → cs = d :: ds → False) (hlone : c = '\\' → cs = [] → False) :
    c ≠ '\\' := by
  intro hc
  cases cs with
  | nil => exact hlone hc rfl
  | cons d ds => exact hesc d ds hc rfl

theorem pieces_cons {c : Char} (hc : c ≠ '%' ∧ c ≠ '_' ∧ c ≠ '\\') (cs : List Char) :
    pieces (c :: cs) = .exactly c :: pieces cs := by
  obtain ⟨hany, hone, hesc⟩ := hc
  rw [pieces]
  · exact fun _ _ h => absurd h hesc
  · exact fun h => absurd h hesc
  · exact hany
  · exact hone

/-- The parts of a text that a pattern cuts it into are those that fit its pieces. -/
theorem fits_pieces_iff (pattern text : List Char) :
    Fits (alike false) (pieces pattern) text ↔ Cut pattern text := by
  constructor
  · intro h
    fun_induction pieces pattern generalizing text with
    | case1 =>
      cases h
      exact .nil
    | case2 c cs ih =>
      cases h with
      | exactly hd h =>
        obtain rfl := alike_false_iff.mp hd
        exact .escaped c (ih _ h)
    | case3 =>
      cases h
      exact .dangling
    | case4 cs ih =>
      cases h with
      | any part h => exact .run part (ih _ h)
    | case5 cs ih =>
      cases h with
      | one c h => exact .one c (ih _ h)
    | case6 c cs hesc hlone hany hone ih =>
      cases h with
      | exactly hd h =>
        obtain rfl := alike_false_iff.mp hd
        exact .itself ⟨hany, hone, not_backslash hesc hlone⟩ (ih _ h)
  · intro h
    induction h with
    | nil => exact .nil
    | run part _ ih => exact .any part ih
    | one c _ ih => exact .one c ih
    | escaped c _ ih => exact .exactly (alike_false_iff.mpr rfl) ih
    | dangling => exact .nil
    | itself hc _ ih =>
      rw [pieces_cons hc]
      exact .exactly (alike_false_iff.mpr rfl) ih

section Joined
variable {same : Char → Char → Bool}

theorem fits_append_iff {ps qs : List Piece} {text : List Char} :
    Fits same (ps ++ qs) text ↔ ∃ a b, text = a ++ b ∧ Fits same ps a ∧ Fits same qs b := by
  constructor
  · intro h
    induction ps generalizing text with
    | nil => exact ⟨[], text, rfl, .nil, h⟩
    | cons piece ps ih =>
      cases h with
      | any part h =>
        obtain ⟨a, b, rfl, ha, hb⟩ := ih h
        exact ⟨part ++ a, b, (List.append_assoc part a b).symm, .any part ha, hb⟩
      | one c h =>
        obtain ⟨a, b, rfl, ha, hb⟩ := ih h
        exact ⟨c :: a, b, rfl, .one c ha, hb⟩
      | exactly hd h =>
        obtain ⟨a, b, rfl, ha, hb⟩ := ih h
        exact ⟨_ :: a, b, rfl, .exactly hd ha, hb⟩
  · rintro ⟨a, b, rfl, ha, hb⟩
    induction ha with
    | nil => exact hb
    | any part _ ih =>
      rw [List.append_assoc]
      exact .any part ih
    | one c _ ih => exact .one c ih
    | exactly hd _ ih => exact .exactly hd ih

theorem fits_any (text : List Char) : Fits same [.any] text := by
  have h : Fits same [.any] (text ++ []) := .any text .nil
  rwa [List.append_nil] at h

/-- Between two pieces for any run, pieces fit the texts that hold a part they fit. -/
theorem fits_within_iff {ps : List Piece} {text : List Char} :
    Fits same (.any :: (ps ++ [.any])) text ↔ ∃ part, part <:+: text ∧ Fits same ps part := by
  constructor
  · intro h
    cases h with
    | any before h =>
      obtain ⟨part, after, rfl, hpart, _⟩ := fits_append_iff.mp h
      exact ⟨part, ⟨before, after, List.append_assoc before part after⟩, hpart⟩
  · rintro ⟨part, ⟨before, after, rfl⟩, hpart⟩
    rw [List.append_assoc]
    exact .any before (fits_append_iff.mpr ⟨part, after, rfl, hpart, fits_any after⟩)

end Joined

def dangles : List Char → Bool
  | [] => false
  | '\\' :: _ :: cs => dangles cs
  | ['\\'] => true
  | _ :: cs => dangles cs

theorem dangles_cons {c : Char} (hc : c ≠ '\\') (cs : List Char) :
    dangles (c :: cs) = dangles cs := by
  rw [dangles]
  · exact fun _ _ h => absurd h hc
  · exact fun h => absurd h hc

/-- What is put behind a pattern keeps its meaning, unless a dangling backslash escapes its first
character. -/
theorem pieces_append (pattern more : List Char) : pieces (pattern ++ more) =
    pieces pattern ++ pieces (if dangles pattern then '\\' :: more else more) := by
  fun_induction pieces pattern with
  | case1 => rfl
  | case2 c cs ih => simpa [pieces, dangles] using ih
  | case3 => rfl
  | case4 cs ih | case5 cs ih => simpa [pieces, dangles] using ih
  | case6 c cs hesc hlone hany hone ih =>
    have hc := not_backslash hesc hlone
    rw [List.cons_append, pieces_cons ⟨hany, hone, hc⟩, ih, dangles_cons hc, List.cons_append]

/-- A pattern without backslashes fits itself. -/
theorem fits_self {pattern : List Char} (h : '\\' ∉ pattern) :
    Fits (alike false) (pieces pattern) pattern := by
  induction pattern with
  | nil => exact .nil
  | cons c cs ih =>
    obtain ⟨hc, hcs⟩ := not_or.mp (mt List.mem_cons.mpr h)
    by_cases hany : c = '%'
    · subst hany
      exact .any ['%'] (ih hcs)
    · by_cases hone : c = '_'
      · subst hone
        exact .one '_' (ih hcs)
      · rw [pieces_cons ⟨hany, hone, Ne.symm hc⟩]
        exact .exactly (alike_false_iff.mpr rfl) (ih hcs)

theorem dangles_of_not_mem {pattern : List Char} (h : '\\' ∉ pattern) :
    dangles pattern = false := by
  induction pattern with
  | nil => rfl
  | cons c cs ih =>
    obtain ⟨hc, hcs⟩ := not_or.mp (mt List.mem_cons.mpr h)
    rw [dangles_cons (Ne.symm hc), ih hcs]

end RowSearch.Pattern
