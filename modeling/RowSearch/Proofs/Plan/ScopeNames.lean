import RowSearch.Plan.Model
import RowSearch.Proofs.Text.CamelCase

/-! # Scopes under other spellings

A scope is kept under the words of its name, without a `scope` in front, and looked for under the
words of the name that is asked for. No letter is lost in a spelling, so a scope is found under
another spelling of its name exactly where the words are the same again, and a `scope` put in front
is the only one.
-/
namespace RowSearch

namespace Model
open Text

def scopeWord : List Char := "scope".toList

def Prefixed (ws : List (List Char)) : Prop := ws.head? = some scopeWord ∧ ws.tail ≠ []

instance (ws : List (List Char)) : Decidable (Prefixed ws) := inferInstanceAs (Decidable (_ ∧ _))

def unprefixed (ws : List (List Char)) : List (List Char) := if Prefixed ws then ws.tail else ws

section Words
variable {vs ws : List (List Char)}

theorem exists_of_prefixed (h : Prefixed ws) : ∃ w rest, ws = scopeWord :: w :: rest := by
  obtain ⟨hhead, htail⟩ := h
  obtain ⟨tail, rfl⟩ := List.head?_eq_some_iff.mp hhead
  obtain ⟨w, rest, rfl⟩ := List.exists_cons_of_ne_nil htail
  exact ⟨w, rest, rfl⟩

theorem length_unprefixed (ws : List (List Char)) :
    (unprefixed ws).flatten.length + (if Prefixed ws then scopeWord.length else 0) =
      ws.flatten.length := by
  by_cases h : Prefixed ws
  · obtain ⟨w, rest, rfl⟩ := exists_of_prefixed h
    rw [unprefixed, if_pos h, if_pos h, List.flatten_cons, List.length_append, List.tail_cons,
      Nat.add_comm]
  · rw [unprefixed, if_neg h, if_neg h, Nat.add_zero]

/-- Words of the same letters are the same if they are without a `scope` in front. -/
theorem unprefixed_eq_iff (h : vs.flatten.length = ws.flatten.length) :
    unprefixed vs = unprefixed ws ↔ vs = ws := by
  constructor
  · intro heq
    have hv := length_unprefixed vs
    have hw := length_unprefixed ws
    rw [heq] at hv
    have hscope : scopeWord.length = 5 := rfl
    by_cases hpv : Prefixed vs <;> by_cases hpw : Prefixed ws <;>
      simp only [hpv, hpw, if_true, if_false] at hv hw
    · obtain ⟨v, vs, rfl⟩ := exists_of_prefixed hpv
      obtain ⟨w, ws, rfl⟩ := exists_of_prefixed hpw
      rw [unprefixed, unprefixed, if_pos hpv, if_pos hpw, List.tail_cons, List.tail_cons] at heq
      rw [heq]
    · omega
    · omega
    · rwa [unprefixed, unprefixed, if_neg hpv, if_neg hpw] at heq
  · exact congrArg unprefixed

/-- A `scope` is taken off where it is a word of its own, and once. -/
theorem unprefixed_scope_iff (hne : ws ≠ []) (h : vs.flatten = scopeWord ++ ws.flatten) :
    unprefixed vs = unprefixed ws ↔ vs = scopeWord :: ws ∧ ¬Prefixed ws := by
  have hlength := congrArg List.length h
  rw [List.length_append] at hlength
  have hv := length_unprefixed vs
  have hw := length_unprefixed ws
  have hscope : scopeWord.length = 5 := rfl
  constructor
  · intro heq
    rw [heq] at hv
    by_cases hpv : Prefixed vs
    · rw [if_pos hpv] at hv
      have hpw : ¬Prefixed ws := by
        intro hpw
        rw [if_pos hpw] at hw
        omega
      obtain ⟨v, vs, rfl⟩ := exists_of_prefixed hpv
      rw [unprefixed, unprefixed, if_pos hpv, if_neg hpw, List.tail_cons] at heq
      rw [heq]
      exact ⟨rfl, hpw⟩
    · rw [if_neg hpv] at hv
      omega
  · rintro ⟨rfl, hpw⟩
    have hpv : Prefixed (scopeWord :: ws) := ⟨rfl, hne⟩
    rw [unprefixed, unprefixed, if_pos hpv, if_neg hpw, List.tail_cons]

theorem unprefixed_ne_nil (h : ws ≠ []) : unprefixed ws ≠ [] := by
  by_cases hp : Prefixed ws
  · rw [unprefixed, if_pos hp]
    exact hp.2
  · rwa [unprefixed, if_neg hp]

theorem nameWord_of_mem_unprefixed (h : ∀ w ∈ ws, NameWord w) :
    ∀ w ∈ unprefixed ws, NameWord w := by
  by_cases hp : Prefixed ws
  · rw [unprefixed, if_pos hp]
    exact fun w hw => h w (List.mem_of_mem_tail hw)
  · rwa [unprefixed, if_neg hp]

theorem dropPrefix?_intercalate (h : ∀ w ∈ ws, NameWord w) :
    dropPrefix? "scope_".toList (['_'].intercalate ws) =
      if Prefixed ws then some (['_'].intercalate ws.tail) else none := by
  have hscope : "scope_".toList = scopeWord ++ ['_'] := by decide
  have hapart {w : List Char} (hw : NameWord w) : '_' ∉ w := fun hmem => by
    simpa using (hw.chars _ hmem).ne_underscore
  have hnone {w : List Char} (hw : '_' ∉ w) : dropPrefix? "scope_".toList w = none := by
    rw [← Option.not_isSome_iff_eq_none, isSome_dropPrefix?, hscope]
    exact fun hfront => hw (hfront.subset (by simp))
  cases ws with
  | nil => exact hnone List.not_mem_nil
  | cons w ws =>
    obtain ⟨hw, -⟩ := List.forall_mem_cons.mp h
    cases ws with
    | nil =>
      have hp : ¬Prefixed [w] := fun hp => hp.2 rfl
      rw [if_neg hp, List.intercalate_singleton]
      exact hnone (hapart hw)
    | cons v ws =>
      have hp : Prefixed (w :: v :: ws) ↔ w = scopeWord := by simp [Prefixed]
      rw [List.intercalate_cons_cons, List.append_assoc, List.singleton_append, hscope,
        dropPrefix?_append_cons (by decide) (hapart hw), List.tail_cons]
      simp only [hp]

end Words

/-- The words a name is known by. -/
def keyWords (name : String) : List (List Char) := (nameWords name.toList).map lowerWord

/-- The key of a scope joins the words of its name but for a `scope` in front. -/
theorem scopeKey_eq {name : String} (h : ∀ w ∈ keyWords name, NameWord w) :
    scopeKey name = String.ofList (['_'].intercalate (unprefixed (keyWords name))) := by
  have hsnake : (snakeCase name).toList = ['_'].intercalate (keyWords name) := String.toList_ofList
  rw [scopeKey, hsnake, dropPrefix?_intercalate h, unprefixed]
  by_cases hp : Prefixed (keyWords name)
  · obtain ⟨w, rest, hwords⟩ := exists_of_prefixed hp
    have hw : NameWord w := h w (by simp [hwords])
    have htail : ['_'].intercalate (keyWords name).tail ≠ [] := by
      obtain ⟨c, cs, rfl⟩ := List.exists_cons_of_ne_nil hw.ne_nil
      rw [hwords, List.tail_cons]
      cases rest <;> simp [List.intercalate]
    obtain ⟨c, cs, hcons⟩ := List.exists_cons_of_ne_nil htail
    rw [if_pos hp, if_pos hp, hcons]
  · rw [if_neg hp, if_neg hp]
    rfl

theorem scopeKey_eq_iff {name other : String} (h : ∀ w ∈ keyWords name, NameWord w)
    (h' : ∀ w ∈ keyWords other, NameWord w) (hne : keyWords name ≠ [])
    (hne' : keyWords other ≠ []) :
    scopeKey name = scopeKey other ↔ unprefixed (keyWords name) = unprefixed (keyWords other) := by
  rw [scopeKey_eq h, scopeKey_eq h', ← String.toList_inj, String.toList_ofList,
    String.toList_ofList]
  exact ⟨intercalate_injective (nameWord_of_mem_unprefixed h) (nameWord_of_mem_unprefixed h')
    (unprefixed_ne_nil hne) (unprefixed_ne_nil hne'), congrArg _⟩

/-- The scope declared last is found under every name of its key. -/
theorem scope?_withScope (m : Model) (name other : String) (body : ScopeBody) :
    (m.withScope name body).scope? other =
      if scopeKey other = scopeKey name then some body else m.scope? other := by
  rw [scope?, withScope, List.lookup_cons, scope?]
  by_cases h : scopeKey other = scopeKey name
  · rw [h, beq_self_eq_true, if_pos rfl]
  · rw [beq_eq_false_iff_ne.mpr h, if_neg h]

/-! ### The spellings -/

inductive Spelling where
  | snake
  | lowerCamel
  | upperCamel
  | scopeSnake
  | scopeCamel

namespace Spelling

def write (n : String) : Spelling → String
  | .snake => n
  | .lowerCamel => lowerCamelCase n
  | .upperCamel => upperCamelCase n
  | .scopeSnake => "scope_" ++ n
  | .scopeCamel => "scope" ++ upperCamelCase n

/-- Whether the words of a name are told apart again in a spelling. In camel case this takes a
capital before every word but the first that shows that the word starts there, and a `scope` in
front takes away another one that the name starts with. -/
def Reaches : Spelling → List (List Char) → Prop
  | .snake, _ => True
  | .lowerCamel, ws => AllParted ((ws.headD []).foldl CaseState.after .unknown) ws.tail
  | .upperCamel, ws => AllParted (caseAfter .unknown (ws.headD [])) ws.tail
  | .scopeSnake, ws => ¬Prefixed ws
  | .scopeCamel, ws => AllParted .lower ws ∧ ¬Prefixed ws

instance : (s : Spelling) → (ws : List (List Char)) → Decidable (s.Reaches ws)
  | .snake, _ => .isTrue trivial
  | .lowerCamel, ws =>
    inferInstanceAs (Decidable (AllParted ((ws.headD []).foldl CaseState.after .unknown) ws.tail))
  | .upperCamel, ws =>
    inferInstanceAs (Decidable (AllParted (caseAfter .unknown (ws.headD [])) ws.tail))
  | .scopeSnake, ws => inferInstanceAs (Decidable ¬Prefixed ws)
  | .scopeCamel, ws => inferInstanceAs (Decidable (AllParted .lower ws ∧ ¬Prefixed ws))

end Spelling

/-- The words of a name in camel case. -/
theorem keyWords_camel {name : String} {word : List Char} {ws : List (List Char)}
    (hws : ∀ w ∈ ws, NameWord w) (hword : CamelWord word)
    (h : name.toList = word ++ ws.flatMap capitalized) :
    (∀ w ∈ keyWords name, NameWord w) ∧ keyWords name ≠ [] ∧
      (keyWords name).flatten = lowerWord word ++ ws.flatten ∧
      (keyWords name = lowerWord word :: ws ↔
        AllParted (word.foldl CaseState.after .unknown) ws) := by
  rw [keyWords, h, nameWords_append hws hword]
  exact ⟨nameWord_of_mem_regroup hws hword, mt List.map_eq_nil_iff.mp regroup_ne_nil,
    flatten_map_lowerWord hws hword, map_lowerWord_regroup_iff hws⟩

theorem keyWords_intercalate {name : String} {ws : List (List Char)} (hws : ∀ w ∈ ws, NameWord w)
    (hne : ws ≠ []) (h : name.toList = ['_'].intercalate ws) : keyWords name = ws := by
  rw [keyWords, h, nameWords_intercalate hws hne]
  exact (List.map_congr_left fun w hw => lowerWord_eq (hws w hw).chars).trans (List.map_id' ws)

section Spellings
variable {n : String} (hn : ∀ w ∈ snakeWords n, NameWord w)
include hn

theorem keyWords_snake : keyWords n = snakeWords n :=
  keyWords_intercalate hn (splitChars_ne_nil (· == '_') n.toList) (intercalate_snakeWords n).symm

theorem scopeKey_snake_iff {name : String} (h : ∀ w ∈ keyWords name, NameWord w)
    (hne : keyWords name ≠ []) :
    scopeKey name = scopeKey n ↔ unprefixed (keyWords name) = unprefixed (snakeWords n) := by
  have hkey := keyWords_snake hn
  rw [scopeKey_eq_iff h (hkey ▸ hn) hne (hkey ▸ splitChars_ne_nil (· == '_') n.toList), hkey]

/-- A text in camel case of the letters of a name has its key where the words are parted. -/
theorem scopeKey_camel_iff {name : String} {word : List Char} {rest : List (List Char)}
    (hword : CamelWord word) (hsplit : snakeWords n = lowerWord word :: rest)
    (htext : name.toList = word ++ rest.flatMap capitalized) :
    scopeKey name = scopeKey n ↔ AllParted (word.foldl CaseState.after .unknown) rest := by
  have hrest : ∀ w ∈ rest, NameWord w := fun w hw => hn w (hsplit ▸ List.mem_cons_of_mem _ hw)
  obtain ⟨hchars, hne, hletters, hparted⟩ := keyWords_camel hrest hword htext
  have hlength : (keyWords name).flatten.length = (lowerWord word :: rest).flatten.length := by
    rw [hletters, List.flatten_cons]
  rw [scopeKey_snake_iff hn hchars hne, hsplit, unprefixed_eq_iff hlength, hparted]

theorem Spelling.scopeKey_write_iff (s : Spelling) :
    scopeKey (s.write n) = scopeKey n ↔ s.Reaches (snakeWords n) := by
  have hne : snakeWords n ≠ [] := splitChars_ne_nil (· == '_') n.toList
  obtain ⟨first, rest, hsplit⟩ := List.exists_cons_of_ne_nil hne
  have hfirst : NameWord first := hn first (hsplit ▸ List.mem_cons_self)
  have hscope : NameWord scopeWord := by decide +kernel
  cases s with
  | snake => exact iff_of_true rfl trivial
  | lowerCamel =>
    have hcamel := scopeKey_camel_iff hn (.small hfirst)
      (by rw [hsplit, lowerWord_eq hfirst.chars]) (lowerCamelCase_toList hn hsplit)
    rw [hsplit]
    exact hcamel
  | upperCamel =>
    have htext : (upperCamelCase n).toList = capitalized first ++ rest.flatMap capitalized := by
      rw [upperCamelCase_toList hn, hsplit, List.flatMap_cons]
    have hcamel := scopeKey_camel_iff hn (.capital hfirst)
      (by rw [hsplit, lowerWord_capitalized hfirst.chars]) htext
    rw [hsplit]
    exact hcamel
  | scopeSnake =>
    have htext : ("scope_" ++ n).toList = ['_'].intercalate (scopeWord :: snakeWords n) := by
      rw [String.toList_append, ← intercalate_snakeWords n, hsplit, List.intercalate_cons_cons]
      rfl
    have hall : ∀ w ∈ scopeWord :: snakeWords n, NameWord w :=
      List.forall_mem_cons.mpr ⟨hscope, hn⟩
    have hname : keyWords ("scope_" ++ n) = scopeWord :: snakeWords n :=
      keyWords_intercalate hall (List.cons_ne_nil _ _) htext
    rw [write, scopeKey_snake_iff hn (hname ▸ hall) (hname ▸ List.cons_ne_nil _ _), hname,
      unprefixed_scope_iff hne rfl]
    exact and_iff_right rfl
  | scopeCamel =>
    have htext : ("scope" ++ upperCamelCase n).toList =
        scopeWord ++ (snakeWords n).flatMap capitalized := by
      rw [String.toList_append, upperCamelCase_toList hn]
      rfl
    -- the letters of the name stand behind a scope, which ends in a small letter
    obtain ⟨hchars, hname, hletters, hparted⟩ := keyWords_camel hn (.small hscope) htext
    rw [lowerWord_eq hscope.chars] at hletters hparted
    rw [foldl_after_of_startsSmall hscope.chars (by decide +kernel)] at hparted
    rw [write, scopeKey_snake_iff hn hchars hname, unprefixed_scope_iff hne hletters, hparted]
    rfl

/-- A scope is found under a spelling of its name exactly where the words of the name are told apart
again in it; elsewhere the look-up is what it was before. -/
theorem scope?_spelling (m : Model) (body : ScopeBody) (s : Spelling) :
    (m.withScope n body).scope? (s.write n) =
      if s.Reaches (snakeWords n) then some body else m.scope? (s.write n) := by
  rw [scope?_withScope]
  exact if_congr (Spelling.scopeKey_write_iff hn s) rfl rfl

end Spellings

def chart : Model := { name := "Chart", columns := ["title"] }

def untitled : ScopeBody := fun _ => [.isNull .and "title"]

theorem scope?_spelling_axisLabel :
    (∀ w ∈ snakeWords "x_axis2_label", NameWord w) ∧
      ∀ s : Spelling, (chart.withScope "x_axis2_label" untitled).scope?
        (s.write "x_axis2_label") = some untitled := by
  have hn : ∀ w ∈ snakeWords "x_axis2_label", NameWord w := by decide +kernel
  refine ⟨hn, fun s => ?_⟩
  rw [scope?_spelling hn chart untitled s, if_pos]
  cases s <;> decide +kernel

/-- A number and a letter alone grow together with the word before them, and a `scope` in front of
another one hides it. -/
theorem scope?_grownNames :
    Spelling.lowerCamel.write "line_2" = "line2" ∧
    (chart.withScope "line_2" untitled).scope? "line2" = none ∧
    Spelling.upperCamel.write "x_y" = "XY" ∧
    (chart.withScope "x_y" untitled).scope? "XY" = none ∧
    Spelling.scopeSnake.write "scope_open" = "scope_scope_open" ∧
    (chart.withScope "scope_open" untitled).scope? "scope_scope_open" = none := by
  refine ⟨?_, ?_, ?_, ?_, ?_, ?_⟩
  · decide +kernel
  · exact Option.isNone_iff_eq_none.mp (by decide +kernel)
  · decide +kernel
  · exact Option.isNone_iff_eq_none.mp (by decide +kernel)
  · decide +kernel
  · exact Option.isNone_iff_eq_none.mp (by decide +kernel)

end Model
end RowSearch
