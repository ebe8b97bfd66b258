import RowSearch.Proofs.Double.Text
import RowSearch.Proofs.Raw.Writing

/-! # Literals

Null, the truth values, texts and the integers of 64 bits with a sign can be written as a token of
their own, and the text of this token is cut into it. Only the sign of a negative number depends on
what stands before: behind a token that an operand may end with it is no part of a number.
-/
namespace RowSearch.Raw

def HasLiteral : Json → Prop
  | .null | .bool _ | .string _ => True
  | .number (.integer n _) => n ≤ 9223372036854775807
  | _ => False

instance : DecidablePred HasLiteral
  | .null | .bool _ | .string _ => .isTrue trivial
  | .number (.integer n _) => inferInstanceAs (Decidable (n ≤ 9223372036854775807))
  | .number (.double _) | .array _ | .object _ => .isFalse id

/-- The literal of a value; a value without one keeps its placeholder. -/
def literalToken : Json → Token
  | .null => .word "null"
  | .bool true => .word "true"
  | .bool false => .word "false"
  | .number n => .number n
  | .string text => .string text
  | _ => .placeholder

def literalText (v : Json) : List Char := (literalToken v).text.toList

def isNegative : Json → Bool
  | .number (.integer n _) => n < 0
  | _ => false

/-- Digits are read as the integer they write, with a sign before them or without. -/
theorem readNumber?_text {n : Int} (h : Json.IntegerRange n) (hn : n ≤ 9223372036854775807) :
    readNumber? (Json.Number.integer n h).text = some (.integer n h) := by
  have hdigits := allDigits_toDigits n.natAbs
  have hall : (Nat.toDigits 10 n.natAbs).all Char.isDigit = true := List.all_eq_true.mpr hdigits
  have hne : (!(Nat.toDigits 10 n.natAbs).isEmpty) = true := by simp [Nat.toDigits_ne_nil]
  have hrange : -9223372036854775808 ≤ n ∧ n ≤ 9223372036854775807 := ⟨h.1, hn⟩
  have hsame {m : Int} (hm : m = n) (hm' : Json.IntegerRange m) :
      some (Json.Number.integer m hm') = some (.integer n h) := by
    subst hm
    rfl
  rw [Json.Number.text.eq_def]
  dsimp only
  by_cases hneg : n < 0
  · have hvalue : -(digitsValue (Nat.toDigits 10 n.natAbs) : Int) = n := by
      rw [digitsValue_toDigits]
      omega
    rw [if_pos hneg, readNumber?]
    rw [← hvalue] at hrange
    exact (dif_pos ⟨hne, hall, hrange⟩).trans (hsame hvalue _)
  · have hvalue : (digitsValue (Nat.toDigits 10 n.natAbs) : Int) = n := by
      rw [digitsValue_toDigits]
      omega
    rw [if_neg hneg, readNumber?]
    · rw [← hvalue] at hrange
      exact (dif_pos ⟨hne, hall, hrange⟩).trans (hsame hvalue _)
    · intro ds heq
      exact absurd (hdigits '-' (by simp [heq])) (by decide)

theorem lexFrom_number {before : Bool} {n : Int} (h : Json.IntegerRange n)
    (hn : n ≤ 9223372036854775807) (hbefore : (before && decide (n < 0)) = false) :
    lexFrom before (Json.Number.integer n h).text = .ok [.number (.integer n h)] := by
  have hread := readNumber?_text h hn
  have hdigits := allDigits_toDigits n.natAbs
  have hnumber {c : Char} (hc : c.isDigit = true) : isNumberChar c = true := by
    rw [isNumberChar, hc, Bool.true_or]
  obtain ⟨c, cs, htext, hstart, hws, hcs⟩ : ∃ c cs, (Json.Number.integer n h).text = c :: cs ∧
      startsNumber before c cs = true ∧ Text.isWhiteSpace c = false ∧
      ∀ d ∈ cs, isNumberChar d = true := by
    cases hds : Nat.toDigits 10 n.natAbs with
    | nil => exact absurd hds Nat.toDigits_ne_nil
    | cons d ds =>
      rw [hds] at hdigits
      have hd : d.isDigit = true := hdigits d List.mem_cons_self
      have hws : Text.isWhiteSpace d = false := by
        by_contra hws
        have hapart := not_isNumberChar_of_separates (d := d) (by simp [separates, hws])
        rw [hnumber hd] at hapart
        cases hapart
      rw [Json.Number.text.eq_def]
      dsimp only
      by_cases hneg : n < 0
      · have hb : before = false := by simpa [hneg] using hbefore
        exact ⟨'-', d :: ds, by rw [if_pos hneg, hds], by simp [startsNumber, hd, hb], by decide,
          fun e he => hnumber (hdigits e he)⟩
      · exact ⟨d, ds, by rw [if_neg hneg, hds], by simp [startsNumber, hd], hws,
          fun e he => hnumber (hdigits e (List.mem_cons_of_mem d he))⟩
  have htake : cs.takeWhile isNumberChar = cs := List.takeWhile_eq_self_iff.mpr hcs
  have hdrop : cs.dropWhile isNumberChar = [] := List.dropWhile_eq_nil_iff.mpr hcs
  rw [htext] at hread ⊢
  have hstarts := Starts.number hstart (htake.symm ▸ hread)
  rw [hdrop] at hstarts
  rw [lexFrom_token hws (takeToken?_eq_ok_iff.mpr hstarts), lexFrom]
  rfl
/-- Behind a token that an operand may end with, a minus sign is no token. -/
theorem lexFrom_minus (cs : List Char) :
    lexFrom true ('-' :: cs) = .error (.unexpectedCharacter '-') := by
  apply lexFrom_fault (by decide)
  have hnumber : startsNumber true '-' cs = false := by simp [startsNumber]
  have hword : isWordStart '-' = false := by decide
  simp [takeToken?, hnumber, hword, takeSign?, backquote]

/-- A literal is cut into its token, unless its sign has no place. -/
theorem lexFrom_literal {v : Json} (hv : HasLiteral v) (before : Bool) (more : List Char) :
    lexFrom before (literalText v ++ ' ' :: more) =
      if before && isNegative v then .error (.unexpectedCharacter '-')
      else (lexFrom true more).map (literalToken v :: ·) := by
  by_cases hminus : (before && isNegative v) = true
  · rw [if_pos hminus]
    obtain ⟨rfl, hnegative⟩ := Bool.and_eq_true_iff.mp hminus
    cases v with
    | number n =>
      cases n with
      | integer n h =>
        have hneg : n < 0 := by simpa [isNegative] using hnegative
        have htext : literalText (.number (.integer n h)) =
            '-' :: Nat.toDigits 10 n.natAbs := by
          rw [literalText, literalToken, Token.text, String.toList_ofList]
          exact if_pos hneg
        rw [htext]
        exact lexFrom_minus _
      | double d => cases hnegative
    | _ => cases hnegative
  · rw [if_neg hminus]
    have hcut : lexFrom before (literalText v) = .ok [literalToken v] := by
      cases v with
      | null => exact Token.Writable.lexes (t := .word "null") (by decide) before
      | bool b => cases b <;> exact Token.Writable.lexes (t := .word _) (by decide) before
      | string text => exact Token.Writable.lexes (t := .string text) trivial before
      | number n =>
        cases n with
        | integer n h =>
          rw [literalText, literalToken, Token.text, String.toList_ofList]
          exact lexFrom_number h hv (Bool.eq_false_iff.mpr hminus)
        | double d => exact hv.elim
      | array items => exact hv.elim
      | object fields => exact hv.elim
    have hends : (literalToken v).endsOperand = true := by
      cases v with
      | bool b => cases b <;> rfl
      | _ => rfl
    rw [lexFrom_append (by decide) more hcut, lexFrom_whiteSpace (by decide)]
    exact congrArg (fun b => (lexFrom b more).map (literalToken v :: ·)) hends

end RowSearch.Raw
