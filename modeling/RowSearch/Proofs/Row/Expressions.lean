import RowSearch.Proofs.Row.Patterns

/-! # Patterns as regular expressions

A pattern can be written as a regular expression, anchored at both ends, in which a backslash
stands before every character that has a meaning of its own there. Read by the rules of regular
expressions it finds a match in the texts that the pattern accepts and in no others, and these
are the texts that the units of the pattern cut into parts.
-/
namespace RowSearch

namespace Regex

inductive Part where
  | start
  | finish
  | one
  | run
  | literal (c : Char)

end Regex

/-- A regular expression and its flags. Unless `lineBreaks` is set, the parts for any character
leave out the line feed. -/
structure Regex where
  ignoreCase : Bool
  lineBreaks : Bool
  parts : List Regex.Part

namespace Regex

/-- The characters with a meaning of their own, which a backslash before them takes away. -/
def isMeta (c : Char) : Bool := "\\.+*?()|[]\x7b\x7d^$#&-~".toList.contains c

def escape (c : Char) : List Char := if isMeta c then ['\\', c] else [c]

def readParts? : List Char → Option (List Part)
  | [] => some []
  | '\\' :: c :: cs => if isMeta c then (readParts? cs).map (.literal c :: ·) else none
  | '.' :: '*' :: cs => (readParts? cs).map (.run :: ·)
  | '.' :: cs => (readParts? cs).map (.one :: ·)
  | '^' :: cs => (readParts? cs).map (.start :: ·)
  | '$' :: cs => (readParts? cs).map (.finish :: ·)
  | c :: cs => if isMeta c then none else (readParts? cs).map (.literal c :: ·)

/-- The expression that a text spells: flags, each in parentheses, and then parts. -/
def read? : List Char → Option Regex
  | '(' :: '?' :: 'i' :: ')' :: cs => (read? cs).map fun r => { r with ignoreCase := true }
  | '(' :: '?' :: 's' :: ')' :: cs => (read? cs).map fun r => { r with lineBreaks := true }
  | cs => (readParts? cs).map (⟨false, false, ·⟩)

def Takes (r : Regex) (c : Char) : Prop := r.lineBreaks = true ∨ c ≠ '\n'

/-- Parts that match from a place in a text on, given by what stands before and after it. -/
inductive MatchesAt (r : Regex) : List Part → (before after : List Char) → Prop where
  | nil (before after : List Char) : MatchesAt r [] before after
  | start {ps : List Part} {after : List Char} (h : MatchesAt r ps [] after) :
      MatchesAt r (.start :: ps) [] after
  | finish {ps : List Part} {before : List Char} (h : MatchesAt r ps before []) :
      MatchesAt r (.finish :: ps) before []
  | one {c : Char} (hc : r.Takes c) {ps : List Part} {before after : List Char}
      (h : MatchesAt r ps (before ++ [c]) after) : MatchesAt r (.one :: ps) before (c :: after)
  | run {cs : List Char} (hcs : ∀ c ∈ cs, r.Takes c) {ps : List Part} {before after : List Char}
      (h : MatchesAt r ps (before ++ cs) after) : MatchesAt r (.run :: ps) before (cs ++ after)
  | literal {c d : Char} (hd : Pattern.alike r.ignoreCase c d = true) {ps : List Part}
      {before after : List Char} (h : MatchesAt r ps (before ++ [d]) after) :
      MatchesAt r (.literal c :: ps) before (d :: after)

def Finds (r : Regex) (text : List Char) : Prop :=
  ∃ before after, text = before ++ after ∧ r.MatchesAt r.parts before after

/-- A character as it is escaped is read as itself. -/
theorem readParts?_escape (c : Char) (cs : List Char) :
    readParts? (escape c ++ cs) = (readParts? cs).map (.literal c :: ·) := by
  rw [escape]
  by_cases hc : isMeta c = true
  · rw [if_pos hc]
    exact if_pos hc
  · rw [if_neg hc, List.singleton_append, readParts?]
    · exact if_neg hc
    all_goals
      intros
      subst_vars
      exact absurd (by decide) hc

theorem head?_escape (c : Char) (cs : List Char) : (escape c ++ cs).head? ≠ some '*' := by
  rw [escape]
  by_cases hc : isMeta c = true
  · rw [if_pos hc]
    simp
  · rw [if_neg hc]
    rintro h
    obtain rfl : c = '*' := by simpa using h
    exact hc (by decide)

theorem readParts?_one {cs : List Char} (h : cs.head? ≠ some '*') :
    readParts? ('.' :: cs) = (readParts? cs).map (.one :: ·) := by
  rw [readParts?]
  rintro rest rfl
  exact h rfl

end Regex

def Piece.part : Piece → Regex.Part
  | .any => .run
  | .one => .one
  | .exactly c => .literal c

namespace Pattern

def expressionParts : List Char → List Char
  | [] => []
  | '\\' :: c :: cs => Regex.escape c ++ expressionParts cs
  | ['\\'] => []
  | '%' :: cs => '.' :: '*' :: expressionParts cs
  | '_' :: cs => '.' :: expressionParts cs
  | c :: cs => Regex.escape c ++ expressionParts cs

def expression (ignoreCase : Bool) (pattern : List Char) : List Char :=
  (if ignoreCase then ['(', '?', 'i', ')'] else []) ++
    '(' :: '?' :: 's' :: ')' :: '^' :: (expressionParts pattern ++ ['$'])

theorem head?_expressionParts (pattern : List Char) :
    (expressionParts pattern ++ ['$']).head? ≠ some '*' := by
  fun_cases expressionParts pattern with
  | case1 | case3 | case4 | case5 => simp
  | case2 c cs | case6 c cs =>
    rw [List.append_assoc]
    exact Regex.head?_escape c _

/-- The parts of a pattern's expression are those of its pieces. -/
theorem readParts?_expressionParts (pattern : List Char) :
    Regex.readParts? (expressionParts pattern ++ ['$']) =
      some ((pieces pattern).map Piece.part ++ [.finish]) := by
  fun_induction expressionParts pattern with
  | case1 => rfl
  | case2 c cs ih =>
    rw [List.append_assoc, Regex.readParts?_escape, ih, pieces]
    rfl
  | case3 => rfl
  | case4 cs ih =>
    rw [List.cons_append, List.cons_append, Regex.readParts?, ih, pieces]
    rfl
  | case5 cs ih =>
    rw [List.cons_append, Regex.readParts?_one (head?_expressionParts cs), ih, pieces]
    rfl
  | case6 c cs hesc hlone hany hone ih =>
    rw [List.append_assoc, Regex.readParts?_escape, ih,
      pieces_cons ⟨hany, hone, not_backslash hesc hlone⟩]
    rfl

theorem read?_expression (ignoreCase : Bool) (pattern : List Char) :
    Regex.read? (expression ignoreCase pattern) =
      some ⟨ignoreCase, true, .start :: ((pieces pattern).map Piece.part ++ [.finish])⟩ := by
  have hparts : Regex.read? ('^' :: (expressionParts pattern ++ ['$'])) =
      some ⟨false, false, .start :: ((pieces pattern).map Piece.part ++ [.finish])⟩ := by
    rw [Regex.read?, Regex.readParts?, readParts?_expressionParts]
    · rfl
    all_goals exact fun _ h => absurd h (by simp)
  cases ignoreCase <;> simp [expression, Regex.read?, hparts]

/-- From any place on, the parts of pieces match up to the end what the pieces fit. -/
theorem matchesAt_parts_iff {r : Regex} (hr : r.lineBreaks = true) {ps : List Piece}
    {before after : List Char} :
    r.MatchesAt (ps.map Piece.part ++ [.finish]) before after ↔
      Fits (alike r.ignoreCase) ps after := by
  constructor
  · intro h
    induction ps generalizing before after with
    | nil =>
      cases h
      exact .nil
    | cons piece ps ih =>
      cases piece with
      | any =>
        cases h with
        | run _ h => exact .any _ (ih h)
      | one =>
        cases h with
        | one _ h => exact .one _ (ih h)
      | exactly c =>
        cases h with
        | literal hd h => exact .exactly hd (ih h)
  · intro h
    induction h generalizing before with
    | nil => exact .finish (.nil _ _)
    | any part _ ih => exact .run (fun _ _ => .inl hr) ih
    | one c _ ih => exact .one (.inl hr) ih
    | exactly hd _ ih => exact .literal hd ih

theorem finds_iff_fits {r : Regex} (hr : r.lineBreaks = true) {ps : List Piece} {text : List Char}
    (hparts : r.parts = .start :: (ps.map Piece.part ++ [.finish])) :
    r.Finds text ↔ Fits (alike r.ignoreCase) ps text := by
  rw [Regex.Finds, hparts]
  constructor
  · rintro ⟨before, after, rfl, h⟩
    cases h with
    | start h => exact (matchesAt_parts_iff hr).mp h
  · intro h
    exact ⟨[], text, rfl, .start ((matchesAt_parts_iff hr).mpr h)⟩

/-- A pattern accepts the texts that its units cut into consecutive parts. With regard to case or
without, these are the texts that its regular expression finds a match in, and a text accepted
with regard to case is accepted without. -/
theorem accepts_iff_cut (pattern text : String) :
    (accepts false pattern text = true ↔ Cut pattern.toList text.toList) ∧
    (∀ ignoreCase, ∃ r, Regex.read? (expression ignoreCase pattern.toList) = some r ∧
      (accepts ignoreCase pattern text = true ↔ r.Finds text.toList)) ∧
    (accepts false pattern text = true → accepts true pattern text = true) := by
  refine ⟨?_, fun ignoreCase => ⟨_, read?_expression ignoreCase _, ?_⟩, ?_⟩
  · rw [accepts_iff_fits, fits_pieces_iff]
  · rw [accepts_iff_fits, finds_iff_fits rfl rfl]
  · rw [accepts_iff_fits, accepts_iff_fits]
    exact Fits.mono fun _ _ h => alike_of_eq h true

end Pattern
end RowSearch
