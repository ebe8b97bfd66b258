import RowSearch.Proofs.Raw.Grammar
import RowSearch.Proofs.Raw.Lexing
import RowSearch.Proofs.Text.Splitting
import Mathlib.Data.List.Forall2

/-! # Operators in raw expressions

An operator text names a comparator by its words, letter case and blanks aside. Between a column
and a placeholder the same text is cut into tokens; where it names a comparator they spell the
relation of that comparator, and a text whose tokens spell a relation names its comparator.
-/
namespace RowSearch

open Raw

/-! ### Words -/

def wordsOf (cs : List Char) : List (List Char) :=
  (Text.splitChars Text.isWhiteSpace cs).filter (!·.isEmpty)

section Words
variable {c : Char} {cs w rest : List Char}

theorem wordsOf_whiteSpace (h : Text.isWhiteSpace c = true) : wordsOf (c :: cs) = wordsOf cs := by
  rw [wordsOf, Text.splitChars, if_pos h]
  rfl

/-- A word stands up to white space or the end. -/
theorem wordsOf_append (hne : w ≠ []) (hw : ∀ c ∈ w, Text.isWhiteSpace c = false)
    (hrest : ∀ c ∈ rest.head?, Text.isWhiteSpace c = true) :
    wordsOf (w ++ rest) = w :: wordsOf rest := by
  rw [wordsOf, Text.splitChars_append hw hrest, List.filter_cons_of_pos (by simpa using hne),
    wordsOf]
  cases rest with
  | nil => rfl
  | cons d ds =>
    rw [Text.splitChars, if_pos (hrest d rfl)]
    rfl

/-- A text is empty, or starts with white space or a word. -/
theorem words_induction {motive : List Char → List (List Char) → Prop} (nil : motive [] [])
    (whiteSpace : ∀ c cs, Text.isWhiteSpace c = true → motive cs (wordsOf cs) →
      motive (c :: cs) (wordsOf cs))
    (word : ∀ w rest, (∀ c ∈ w, Text.isWhiteSpace c = false) →
      (∀ c ∈ rest.head?, Text.isWhiteSpace c = true) → motive rest (wordsOf rest) →
      motive (w ++ rest) (w :: wordsOf rest))
    (cs : List Char) : motive cs (wordsOf cs) := by
  induction hn : cs.length using Nat.strong_induction_on generalizing cs with
  | _ n ih =>
    subst hn
    cases cs with
    | nil => exact nil
    | cons c cs =>
      by_cases hc : Text.isWhiteSpace c = true
      · rw [wordsOf_whiteSpace hc]
        exact whiteSpace c cs hc (ih cs.length (Nat.lt_succ_self _) cs rfl)
      · let p (d : Char) : Bool := !Text.isWhiteSpace d
        have hsplit : c :: cs = (c :: cs.takeWhile p) ++ cs.dropWhile p := by
          rw [List.cons_append, List.takeWhile_append_dropWhile]
        have hw : ∀ d ∈ c :: cs.takeWhile p, Text.isWhiteSpace d = false := by
          rw [List.forall_mem_cons]
          exact ⟨by simpa using hc, fun d hd => by simpa [p] using List.mem_takeWhile_imp hd⟩
        have hrest : ∀ d ∈ (cs.dropWhile p).head?, Text.isWhiteSpace d = true := by
          intro d hd
          have hnot := List.head?_dropWhile_not p cs
          rw [Option.mem_def.mp hd] at hnot
          simpa [p] using hnot
        have hlength : (cs.dropWhile p).length < (c :: cs).length :=
          Nat.lt_succ_of_le (List.dropWhile_suffix p).length_le
        rw [hsplit, wordsOf_append (List.cons_ne_nil _ _) hw hrest]
        exact word _ _ hw hrest (ih _ hlength _ rfl)

theorem mem_of_mem_wordsOf (hw : w ∈ wordsOf cs) {c : Char} (hc : c ∈ w) :
    c ∈ cs ∧ Text.isWhiteSpace c = false := by
  refine words_induction (motive := fun cs ws => w ∈ ws → c ∈ cs ∧ Text.isWhiteSpace c = false)
    (fun h => absurd h List.not_mem_nil) ?_ ?_ cs hw
  · intro d cs _ ih h
    exact ⟨List.mem_cons_of_mem d (ih h).1, (ih h).2⟩
  · intro v rest hv _ ih h
    rcases List.mem_cons.mp h with rfl | h
    · exact ⟨List.mem_append_left rest hc, hv c hc⟩
    · exact ⟨List.mem_append_right v (ih h).1, (ih h).2⟩

end Words

/-- A text is cut word by word. -/
theorem lexes_of_wordsOf {cs : List Char} {ws : List (List Char)} {tss : List (List Token)}
    (hws : wordsOf cs = ws) (h : List.Forall₂ Lexes ws tss) : Lexes cs tss.flatten := by
  subst hws
  refine words_induction (motive := fun cs ws => ∀ tss, List.Forall₂ Lexes ws tss →
    Lexes cs tss.flatten) ?_ ?_ ?_ cs tss h
  · intro tss h
    rw [List.forall₂_nil_left_iff.mp h]
    exact .nil
  · intro c cs hc ih tss h
    exact (ih tss h).whiteSpace hc
  · intro w rest _ hrest ih tss h
    obtain ⟨ts, tss, hts, htss, rfl⟩ := List.forall₂_cons_left_iff.mp h
    have hlater := ih tss htss
    cases rest with
    | nil =>
      rw [List.forall₂_nil_left_iff.mp htss, List.append_nil, List.flatten_cons, List.flatten_nil,
        List.append_nil]
      exact hts
    | cons d ds => exact hts.append (by simp [separates, hrest d rfl]) hlater

/-! ### Spellings -/

theorem flatMap_intercalate {α β : Type} (f : α → List β) (sep : List α) (ls : List (List α)) :
    (sep.intercalate ls).flatMap f = (sep.flatMap f).intercalate (ls.map (·.flatMap f)) := by
  induction ls with
  | nil => rfl
  | cons l ls ih =>
    cases ls with
    | nil => simp
    | cons m ls =>
      simp only [List.intercalate_cons_cons, List.flatMap_append, List.map_cons] at ih ⊢
      rw [ih]

/-- The spelling of a text is its words in lower case. -/
theorem normalSpelling_toList (text : String) :
    (Comparator.normalSpelling text).toList =
      [' '].intercalate ((wordsOf text.toList).map (·.flatMap Text.lower)) := by
  have hwords : (Text.words text).map String.toList = wordsOf text.toList := by
    rw [Text.words, List.map_map]
    exact List.map_id'' (fun _ => String.toList_ofList) _
  rw [Comparator.normalSpelling, String.toList_ofList, String.toList_intercalate, hwords,
    flatMap_intercalate]
  rfl

namespace Raw

def Relation.words : Relation → List String
  | .sign s => [s.text]
  | .like negated ignoreCase =>
    (if negated then ["not"] else []) ++ [likeKeyword ignoreCase]

theorem Relation.toList_text (r : Relation) :
    r.text.toList = [' '].intercalate (r.words.map String.toList) := by
  cases r with
  | sign s => simp [Relation.text, Relation.words]
  | like negated ignoreCase => cases negated <;> cases ignoreCase <;> rfl

theorem Relation.words_ne_nil (r : Relation) : r.words ≠ [] := by
  cases r <;> simp [Relation.words]

theorem Relation.blank_not_mem_words (r : Relation) : ∀ w ∈ r.words, ' ' ∉ w.toList := by
  cases r with
  | sign s => cases s <;> decide
  | like negated ignoreCase => cases negated <;> cases ignoreCase <;> decide

section Ascii
variable {text : String} (hascii : Ascii text)
include hascii

theorem lowerWords_of_ascii : (wordsOf text.toList).map (·.flatMap Text.lower) =
    (wordsOf text.toList).map (·.map Char.toLower) := by
  refine List.map_congr_left fun w hw => ?_
  rw [List.flatMap_congr fun c hc => lower_of_ascii (hascii c (mem_of_mem_wordsOf hw hc).1)]
  exact List.flatMap_pure_eq_map Char.toLower w

/-- A text that names a relation has its words, letter case aside. -/
theorem Relation.words_of_normalSpelling {r : Relation}
    (h : Comparator.normalSpelling text = r.text) :
    (wordsOf text.toList).map (·.map Char.toLower) = r.words.map String.toList := by
  have hjoin : [' '].intercalate ((wordsOf text.toList).map (·.map Char.toLower)) =
      [' '].intercalate (r.words.map String.toList) := by
    rw [← lowerWords_of_ascii hascii, ← normalSpelling_toList, ← r.toList_text, h]
  have hblank : ∀ l ∈ (wordsOf text.toList).map (·.map Char.toLower), ' ' ∉ l := by
    intro l hl hmem
    obtain ⟨w, hw, rfl⟩ := List.mem_map.mp hl
    obtain ⟨c, hc, hlower⟩ := List.mem_map.mp hmem
    obtain ⟨hmem, hws⟩ := mem_of_mem_wordsOf hw hc
    have hall := of_ascii (p := fun c => c.toLower != ' ' || Text.isWhiteSpace c)
      (by decide +kernel) (hascii c hmem)
    simp [hlower, hws] at hall
  have hne : (wordsOf text.toList).map (·.map Char.toLower) ≠ [] := by
    intro hnil
    rw [hnil, ← r.toList_text] at hjoin
    cases r with
    | sign s => cases s <;> cases hjoin
    | like negated ignoreCase => cases negated <;> cases ignoreCase <;> cases hjoin
  have hwords : ∀ l ∈ r.words.map String.toList, ' ' ∉ l := by
    simpa using r.blank_not_mem_words
  rw [← List.splitOn_intercalate ' ' hblank hne, hjoin,
    List.splitOn_intercalate ' ' hwords (by simpa using r.words_ne_nil)]

end Ascii

/-- A sign has neither letters nor white space. -/
theorem Sign.of_mem_text (s : Sign) :
    ∀ d ∈ s.text.toList, isWordStart d = false ∧ Text.isWhiteSpace d = false := by
  have hall : (s.text.toList.all fun d => !isWordStart d && !Text.isWhiteSpace d) = true := by
    cases s <;> decide
  simpa using hall

/-- What has no letters has one letter case. -/
theorem eq_of_map_toLower {w ds : List Char} (hds : ∀ d ∈ ds, isWordStart d = false)
    (h : w.map Char.toLower = ds) : w = ds := by
  have hself : ∀ c ∈ w, c.toLower = c := by
    intro c hc
    have hstart := hds c.toLower (h ▸ List.mem_map_of_mem hc)
    rw [isWordStart_toLower] at hstart
    by_cases hascii : c.toNat < 128
    · have hall := of_ascii (p := fun c => isWordStart c || c.toLower == c)
        (by decide +kernel) hascii
      simpa [hstart] using hall
    · exact toLower_of_not_ascii (Nat.not_lt.mp hascii)
  rw [← h, List.map_congr_left hself, List.map_id']

theorem lexes_keyword {w : List Char} (keyword : String) (hword : isIdentifier keyword = true)
    (hlower : keyword.toList.map Char.toLower = keyword.toList)
    (h : w.map Char.toLower = keyword.toList) :
    Lexes w [.word (String.ofList w)] ∧
      (Token.word (String.ofList w)).isKeyword keyword = true := by
  have hsame : sameIgnoringCase (String.ofList w) keyword = true := by
    rw [sameIgnoringCase, String.toList_ofList, h, hlower]
    exact beq_self_eq_true _
  have hlexes := Lexes.word (isIdentifier_of_sameIgnoringCase hsame hword)
  rw [String.toList_ofList] at hlexes
  exact ⟨hlexes, hsame⟩

/-- The tokens of a text in ASCII that names a relation spell it. -/
theorem Relation.lexes_of_normalSpelling {r : Relation} {text : String}
    (hascii : Ascii text) (h : Comparator.normalSpelling text = r.text) :
    ∃ ts, Lexes text.toList ts ∧ r.Spelled ts := by
  have hwords := Relation.words_of_normalSpelling hascii h
  cases r with
  | sign s =>
    obtain ⟨w, hw, hlower⟩ := List.map_eq_singleton_iff.mp hwords
    have hsign := eq_of_map_toLower (fun d hd => (s.of_mem_text d hd).1) hlower
    subst hsign
    exact ⟨_, lexes_of_wordsOf hw (.cons (.sign s) .nil), .sign s⟩
  | like negated ignoreCase =>
    have hkeyword {w : List Char} := lexes_keyword (w := w) (likeKeyword ignoreCase)
      (by cases ignoreCase <;> decide) (by cases ignoreCase <;> decide)
    cases negated with
    | false =>
      obtain ⟨w, hw, hlower⟩ := List.map_eq_singleton_iff.mp hwords
      obtain ⟨hlexes, hlike⟩ := hkeyword hlower
      refine ⟨_, lexes_of_wordsOf hw (.cons hlexes .nil), ?_⟩
      exact .like .absent (likeKeyword?_eq_some_iff.mpr hlike)
    | true =>
      obtain ⟨n, ws, hn, hnot, hrest⟩ := List.map_eq_cons_iff.mp hwords
      obtain ⟨w, rfl, hlower⟩ := List.map_eq_singleton_iff.mp hrest
      obtain ⟨hlexes, hlike⟩ := hkeyword hlower
      obtain ⟨hlexesNot, hisNot⟩ := lexes_keyword "not" (by decide) (by decide) hnot
      refine ⟨_, lexes_of_wordsOf hn (.cons hlexesNot (.cons hlexes .nil)), ?_⟩
      exact .like (.present hisNot) (likeKeyword?_eq_some_iff.mpr hlike)

/-! ### Names from tokens -/

/-- Without a backquote, words next to each other have white space between them. -/
theorem wordsOf_of_lexFrom {before : Bool} {cs : List Char} {ts : List Token}
    (h : lexFrom before cs = .ok ts) (hquote : backquote ∉ cs) (names : List String)
    (hts : ts = names.map .word) : wordsOf cs = names.map String.toList := by
  refine lexFrom_cases (motive := fun before cs ts => backquote ∉ cs → ∀ names : List String,
    ts = names.map .word → wordsOf cs = names.map String.toList) ?_ ?_ ?_ h hquote names hts
  · rintro before - names hts
    rw [List.map_eq_nil_iff.mp hts.symm]
    rfl
  · intro before c cs ts hws _ ih hquote names hts
    rw [wordsOf_whiteSpace hws]
    exact ih (mt (List.mem_cons_of_mem c) hquote) names hts
  · intro before c cs t rest ts hws ht hlex ih hquote names hts
    obtain ⟨name, names, rfl, rfl, rfl⟩ := List.map_eq_cons_iff.mp hts.symm
    cases takeToken?_eq_ok_iff.mp ht with
    | quotedName => exact absurd List.mem_cons_self hquote
    | word hc =>
      have hlater : backquote ∉ cs.dropWhile isWordChar := fun hmem =>
        hquote (List.mem_cons_of_mem c ((List.dropWhile_sublist _).mem hmem))
      -- Right behind a word another one would have to be quoted, for it would have gone on.
      have hhead : ∀ d ∈ (cs.dropWhile isWordChar).head?, Text.isWhiteSpace d = true := by
        intro d hd
        have hend := List.head?_dropWhile_not isWordChar cs
        rw [Option.mem_def.mp hd] at hend
        obtain ⟨ds, hds⟩ := List.head?_eq_some_iff.mp hd
        by_contra hnot
        rw [hds] at hlex hlater
        obtain ⟨u, rest, us, hstarts, _, hus⟩ :=
          exists_token_of_lexFrom (Bool.eq_false_iff.mpr hnot) hlex
        obtain ⟨next, _, _, rfl, _⟩ := List.map_eq_cons_iff.mp hus
        cases hstarts with
        | quotedName => exact hlater List.mem_cons_self
        | word hstart =>
          exact absurd (isWordChar_of_isWordStart hstart) (Bool.eq_false_iff.mp hend)
      have hname : ∀ d ∈ c :: cs.takeWhile isWordChar, Text.isWhiteSpace d = false := by
        rw [List.forall_mem_cons]
        exact ⟨hws, fun d hd => isWhiteSpace_of_isWordChar (List.mem_takeWhile_imp hd)⟩
      have happend := wordsOf_append (List.cons_ne_nil _ _) hname hhead
      rw [List.cons_append, List.takeWhile_append_dropWhile] at happend
      rw [happend, ih hlater names rfl, List.map_cons, String.toList_ofList]

theorem takeSign?_eq_append {c : Char} {cs rest : List Char} {s : Sign}
    (h : takeSign? c cs = some (s, rest)) : c :: cs = s.text.toList ++ rest := by
  unfold takeSign? at h
  split at h <;> cases h <;> rfl

theorem wordsOf_of_lexFrom_sign {before : Bool} {cs : List Char} {s : Sign}
    (h : lexFrom before cs = .ok [.sign s]) (hquote : backquote ∉ cs) :
    wordsOf cs = [s.text.toList] := by
  refine lexFrom_cases (motive := fun _ cs ts => backquote ∉ cs → ts = [.sign s] →
    wordsOf cs = [s.text.toList]) ?_ ?_ ?_ h hquote rfl
  · rintro before - hts
    cases hts
  · intro before c cs ts hws _ ih hquote hts
    rw [wordsOf_whiteSpace hws]
    exact ih (mt (List.mem_cons_of_mem c) hquote) hts
  · intro before c cs t rest ts hws ht hlex _ hquote hts
    cases hts
    cases takeToken?_eq_ok_iff.mp ht with
    | sign htake =>
      have hcs := takeSign?_eq_append htake
      have hlater : backquote ∉ rest := fun hmem =>
        hquote (hcs ▸ List.mem_append_right _ hmem)
      have hhead : ∀ d ∈ rest.head?, Text.isWhiteSpace d = true := by
        intro d hd
        obtain ⟨ds, rfl⟩ := List.head?_eq_some_iff.mp hd
        by_contra hnot
        obtain ⟨_, _, _, _, _, hus⟩ :=
          exists_token_of_lexFrom (Bool.eq_false_iff.mpr hnot) hlex
        cases hus
      have hnone := wordsOf_of_lexFrom hlex hlater [] rfl
      have hne : s.text.toList ≠ [] := by cases s <;> decide
      rw [hcs, wordsOf_append hne (fun d hd => (s.of_mem_text d hd).2) hhead, hnone]
      rfl

theorem lower_of_isKeyword {text keyword : String}
    (h : (Token.word text).isKeyword keyword = true)
    (hascii : Ascii keyword)
    (hlower : keyword.toList.map Char.toLower = keyword.toList) :
    text.toList.flatMap Text.lower = keyword.toList := by
  rw [Token.isKeyword, sameIgnoringCase, beq_iff_eq, hlower] at h
  have htext : Ascii text := by
    intro c hc
    by_contra hnot
    have hmem := hascii c.toLower (h ▸ List.mem_map_of_mem hc)
    rw [toLower_of_not_ascii (Nat.not_lt.mp hnot)] at hmem
    exact hnot hmem
  rw [← h, List.flatMap_congr fun c hc => lower_of_ascii (htext c hc)]
  exact List.flatMap_pure_eq_map Char.toLower _

/-- Tokens that spell a relation start with no number. -/
theorem Relation.Spelled.lexes {r : Relation} {ts : List Token} (h : r.Spelled ts)
    {before : Bool} {cs : List Char} (hlex : lexFrom before cs = .ok ts) : Lexes cs ts := by
  cases h with
  | sign s => exact .of_lexFrom hlex fun _ => Token.noConfusion
  | like hn hlike =>
    obtain ⟨text, rfl⟩ := word_of_isKeyword (likeKeyword?_eq_some_iff.mp hlike)
    cases hn with
    | absent => exact .of_lexFrom hlex fun _ => Token.noConfusion
    | present hn =>
      obtain ⟨n, rfl⟩ := word_of_isKeyword hn
      exact .of_lexFrom hlex fun _ => Token.noConfusion

/-- A text without a backquote whose tokens spell a relation names it. -/
theorem Relation.Spelled.normalSpelling_eq {r : Relation} {ts : List Token} (h : r.Spelled ts)
    {before : Bool} {text : String} (hlex : lexFrom before text.toList = .ok ts)
    (hquote : backquote ∉ text.toList) : Comparator.normalSpelling text = r.text := by
  rw [← String.toList_inj, normalSpelling_toList, r.toList_text]
  congr 1
  cases h with
  | sign s =>
    rw [wordsOf_of_lexFrom_sign hlex hquote]
    cases s <;> decide
  | @like negated ignoreCase ns t hn hlike =>
    have hkeyword := likeKeyword?_eq_some_iff.mp hlike
    obtain ⟨text, rfl⟩ := word_of_isKeyword hkeyword
    have hlower := lower_of_isKeyword hkeyword (by cases ignoreCase <;> decide)
      (by cases ignoreCase <;> decide)
    cases hn with
    | absent =>
      rw [wordsOf_of_lexFrom hlex hquote [text] rfl]
      simp [Relation.words, hlower]
    | present hn =>
      obtain ⟨n, rfl⟩ := word_of_isKeyword hn
      have hnot := lower_of_isKeyword hn (by decide) (by decide)
      rw [wordsOf_of_lexFrom hlex hquote [n, text] rfl]
      simp [Relation.words, hlower, hnot]

def Relation.all : List Relation := [
  .sign .equal, .sign .doubleEqual, .sign .lessGreater, .sign .bangEqual, .sign .greater,
  .sign .greaterEqual, .sign .less, .sign .lessEqual, .like false false, .like true false,
  .like false true, .like true true]

def Relation.ofText? (text : String) : Option Relation :=
  Relation.all.find? fun r => r.text = Comparator.normalSpelling text

theorem Relation.ofText?_eq_some_iff {text : String} {r : Relation} :
    Relation.ofText? text = some r ↔ Comparator.normalSpelling text = r.text := by
  constructor
  · intro h
    have hr := List.find?_some h
    exact (of_decide_eq_true hr).symm
  · intro h
    rw [Relation.ofText?, h]
    cases r with
    | sign s => cases s <;> decide
    | like negated ignoreCase => cases negated <;> cases ignoreCase <;> decide

end Raw

/-- A text spells a comparator when it names a relation that stands for it. -/
theorem Comparator.ofText?_eq_ok_iff {text : String} {k : Comparator} :
    ofText? text = .ok k ↔ ∃ r, Relation.ofText? text = some r ∧ r.comparator = k := by
  have hspellings : spellings = Relation.all.map fun r => (r.text, r.comparator) := by decide
  rw [ofText?]
  constructor
  · intro h
    split at h
    · next c hlookup =>
      cases h
      obtain ⟨before, after, heq, _⟩ := List.lookup_eq_some_iff.mp hlookup
      have hmem : (normalSpelling text, k) ∈ spellings := by simp [heq]
      rw [hspellings] at hmem
      obtain ⟨r, _, hr⟩ := List.mem_map.mp hmem
      have htext : r.text = normalSpelling text := congrArg Prod.fst hr
      exact ⟨r, Relation.ofText?_eq_some_iff.mpr htext.symm, congrArg Prod.snd hr⟩
    · cases h
  · rintro ⟨r, htext, rfl⟩
    have hlookup : spellings.lookup r.text = some r.comparator := by
      cases r with
      | sign s => cases s <;> decide
      | like negated ignoreCase => cases negated <;> cases ignoreCase <;> decide
    rw [Relation.ofText?_eq_some_iff.mp htext, hlookup]

end RowSearch
