import Mathlib.Data.List.Basic
import Mathlib.Data.List.TakeWhile
import RowSearch.Json.Parser
import RowSearch.Json.Printer
import RowSearch.Proofs.Double.Text

/-! # Texts of strings and numbers

A quoted string is read back as the string whatever follows it, so its text has a definite end. The
text of a number ends where the characters of numbers end.
-/
namespace RowSearch.Json

section Strings
variable {c : Char} {read rest : List Char}

/-- The digits of a control character. -/
theorem hexValue?_control {n : Nat} (h : n < 0x20) :
    ∃ a b, (if n < 0x10 then ['0'] else []) ++ Text.hex n = [a, b] ∧
      Text.hexValue? ['0', '0', a, b] = some n := by
  have hall : ∀ n < 0x20, ((if n < 0x10 then ['0'] else []) ++ Text.hex n).length = 2 ∧
      Text.hexValue? ('0' :: '0' :: ((if n < 0x10 then ['0'] else []) ++ Text.hex n)) = some n := by
    decide
  obtain ⟨hlength, hvalue⟩ := hall n h
  obtain ⟨a, b, hdigits⟩ := List.length_eq_two.mp hlength
  exact ⟨a, b, hdigits, hdigits ▸ hvalue⟩

theorem readString?_escapeChar (c : Char) (read rest : List Char) :
    readString? none read (escapeChar c ++ rest) = readString? none (c :: read) rest := by
  unfold escapeChar
  split
  · rfl
  · rfl
  · rfl
  · rfl
  · rfl
  · rfl
  · rfl
  · next hquote hslash _ _ _ _ _ =>
    split
    · next hcontrol =>
      obtain ⟨a, b, hdigits, hvalue⟩ := hexValue?_control hcontrol
      rw [List.append_assoc [_, _, _, _], hdigits]
      have hnot : ¬ (0xD800 ≤ c.toNat ∧ c.toNat < 0xDC00) := by omega
      have hnot' : ¬ (0xDC00 ≤ c.toNat ∧ c.toNat < 0xE000) := by omega
      simp only [List.cons_append, List.nil_append]
      conv_lhs => unfold readString?
      simp only [hvalue]
      rw [if_neg hnot, if_neg hnot', Char.ofNat_toNat]
    · next hplain =>
      rw [List.singleton_append, readString?]
      · rw [if_neg (by decide), if_neg hquote, if_neg (not_or.mpr ⟨hplain, hslash⟩)]
      · intro _ _ _ _ _ h
        exact absurd h hslash
      · intro _ _ h
        exact absurd h hslash

theorem readString?_flatMap (cs read rest : List Char) :
    readString? none read (cs.flatMap escapeChar ++ '"' :: rest) =
      some (String.ofList (read.reverse ++ cs), rest) := by
  induction cs generalizing read with
  | nil => simp [readString?]
  | cons c cs ih =>
    rw [List.flatMap_cons, List.append_assoc, readString?_escapeChar, ih, List.reverse_cons,
      List.append_assoc, List.singleton_append]

/-- A quoted string reads back. -/
theorem readScalar?_quote (s : String) (rest : List Char) :
    readScalar? (quote s ++ rest) = some (.string s, rest) := by
  have hread := readString?_flatMap s.toList [] rest
  rw [List.reverse_nil, List.nil_append, String.ofList_toList] at hread
  have htext : quote s ++ rest = '"' :: (s.toList.flatMap escapeChar ++ '"' :: rest) := by
    rw [quote, List.append_assoc]
    rfl
  rw [htext, readScalar?, hread]
  rfl

end Strings

section Numbers

/-- Characters of a kind end where others follow. -/
theorem append_inj_of_all {p : Char → Bool} {s t x y : List Char} (hs : ∀ c ∈ s, p c = true)
    (ht : ∀ c ∈ t, p c = true) (hx : x.takeWhile p = []) (hy : y.takeWhile p = [])
    (h : s ++ x = t ++ y) : s = t ∧ x = y := by
  have hst : s = t := by
    have htake := congrArg (List.takeWhile p) h
    rw [List.takeWhile_append_of_pos hs, List.takeWhile_append_of_pos ht, hx, hy, List.append_nil,
      List.append_nil] at htake
    exact htake
  rw [hst] at h
  exact ⟨hst, List.append_cancel_left h⟩

/-- Numbers that their texts tell apart. -/
structure Legible (numbers : Number → Prop) : Prop where
  head : ∀ n, numbers n → ∃ c rest, n.text = c :: rest ∧ (c.isDigit || c == '-') = true
  chars : ∀ n, numbers n → ∀ c ∈ n.text, isNumeralChar c = true
  inj : ∀ m n, numbers m → numbers n → m.text = n.text → m = n

theorem Number.beq_self (n : Number) : (n == n) = true := by
  cases n with
  | integer n _ => exact beq_self_eq_true n
  | double d => exact beq_self_eq_true d.value

def Number.Stored : Number → Prop
  | .integer _ _ => True
  | .double d => Double.OnGrid d.units

def Number.IsInteger : Number → Prop
  | .integer _ _ => True
  | .double _ => False

section Integers
variable {m n : Int}

def integerText (n : Int) : List Char :=
  if n < 0 then '-' :: Nat.toDigits 10 n.natAbs else Nat.toDigits 10 n.natAbs

theorem integerText_chars (n : Int) : ∀ c ∈ integerText n, (c.isDigit || c == '-') = true := by
  intro c hc
  have hdigits (hc : c ∈ Nat.toDigits 10 n.natAbs) : (c.isDigit || c == '-') = true := by
    rw [allDigits_toDigits _ c hc, Bool.true_or]
  unfold integerText at hc
  split at hc
  · rcases List.mem_cons.mp hc with rfl | hc
    · rfl
    · exact hdigits hc
  · exact hdigits hc

theorem integerText_ne_nil (n : Int) : integerText n ≠ [] := by
  unfold integerText
  split
  · exact List.cons_ne_nil _ _
  · exact Nat.toDigits_ne_nil

theorem integerText_inj (h : integerText m = integerText n) : m = n := by
  have hminus (k l : Nat) : Nat.toDigits 10 k ≠ '-' :: Nat.toDigits 10 l := by
    intro heq
    have hdigit : '-'.isDigit = true := by
      apply allDigits_toDigits k
      rw [heq]
      exact List.mem_cons_self
    exact absurd hdigit (by decide)
  have hdigits {k l : Nat} (heq : Nat.toDigits 10 k = Nat.toDigits 10 l) : k = l := by
    rw [← digitsValue_toDigits k, heq, digitsValue_toDigits]
  unfold integerText at h
  split at h <;> split at h
  · have := hdigits (List.cons.inj h).2
    omega
  · exact absurd h.symm (hminus _ _)
  · exact absurd h (hminus _ _)
  · have := hdigits h
    omega

/-- Integers do not look like doubles. -/
theorem integerText_ne_text {d : Double} (hd : Double.OnGrid d.units) :
    integerText n ≠ d.text.toList := by
  intro h
  obtain ⟨_, _, hmark⟩ := Double.text_spec hd
  rw [← h] at hmark
  rcases hmark with hmark | hmark
  · exact absurd (integerText_chars n _ hmark) (by decide)
  · exact absurd (integerText_chars n _ hmark) (by decide)

end Integers

theorem legible_stored : Legible Number.Stored where
  head := by
    rintro (⟨n, hn⟩ | d) h
    · obtain ⟨c, rest, hc⟩ := List.exists_cons_of_ne_nil (integerText_ne_nil n)
      exact ⟨c, rest, hc, integerText_chars n c (hc ▸ List.mem_cons_self)⟩
    · exact (Double.text_spec h).2.1
  chars := by
    rintro (⟨n, hn⟩ | d) h c hc
    · rcases Bool.or_eq_true_iff.mp (integerText_chars n c hc) with hdigit | hminus
      · rw [isNumeralChar, hdigit, Bool.true_or]
      · rw [beq_iff_eq.mp hminus]
        rfl
    · exact (Double.text_spec h).1 c hc
  inj := by
    rintro (⟨m, hm⟩ | d) (⟨n, hn⟩ | e) hd he h
    · have heq := integerText_inj h
      subst heq
      rfl
    · exact absurd h (integerText_ne_text he)
    · exact absurd h.symm (integerText_ne_text hd)
    · rw [Double.text_inj hd he (String.toList_injective h)]

theorem Number.IsInteger.stored {n : Number} (h : n.IsInteger) : n.Stored := by
  cases n with
  | integer => trivial
  | double d => exact h.elim

theorem legible_isInteger : Legible Number.IsInteger where
  head n h := legible_stored.head n h.stored
  chars n h := legible_stored.chars n h.stored
  inj m n hm hn := legible_stored.inj m n hm.stored hn.stored

end Numbers
end RowSearch.Json
