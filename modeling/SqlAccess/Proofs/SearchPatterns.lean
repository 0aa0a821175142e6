/-
What the patterns of search terms match.

`Like` is the matcher that a database runs on a pattern.  A pattern is read into items
(`Like.parse?`), which is refused for a pattern that ends in an escape, and the items are matched
against a text, trying for each `%` all that it may pass over (`Like.isMatch`).  Both are compared
with the rules by which a text matches (`Like.Matches`).

The main statement is `Search.terms_match`: an escaped term matches itself alone, and the pattern
of a term matches the texts in which the term occurs.
-/
import Mathlib.Data.List.Infix
import SqlAccess.Search

namespace SqlAccess

namespace Like

/-! ### Patterns -/

/-- The character that takes the meaning from the one behind it. -/
def escapeSign : Char := '\\'

/-- An item of a pattern. -/
inductive Item where
  | char (c : Char)
  | anyChar
  | anyText
  deriving DecidableEq, Repr

/-- What a character means that is no escape. -/
def Item.ofChar (c : Char) : Item :=
  if c = '%' then .anyText else if c = '_' then .anyChar else .char c

/-- Reads a pattern. -/
def parse? : List Char → Option (List Item)
  | [] => some []
  | c :: cs =>
    if c = escapeSign then
      match cs with
      | [] => none
      | d :: cs => (parse? cs).map (.char d :: ·)
    else (parse? cs).map (.ofChar c :: ·)

/-- The texts that match. -/
inductive Matches : List Item → List Char → Prop
  | nil : Matches [] []
  | char {p x} (c : Char) (h : Matches p x) : Matches (.char c :: p) (c :: x)
  | anyChar {p x} (c : Char) (h : Matches p x) : Matches (.anyChar :: p) (c :: x)
  | anyText {p x} (skipped : List Char) (h : Matches p x) : Matches (.anyText :: p) (skipped ++ x)

/-- Matches a text, going back to the last `%` where what follows it does not match. -/
def isMatch : List Item → List Char → Bool
  | [], x => x.isEmpty
  | .char c :: p, d :: x => c == d && isMatch p x
  | .anyChar :: p, _ :: x => isMatch p x
  | .anyText :: p, x => x.tails.any (isMatch p)
  | _ :: _, [] => false

/-- Whether a text matches a pattern; a pattern that ends in an escape is refused. -/
def like? (pattern text : String) : Option Bool :=
  (parse? pattern.toList).map fun p => isMatch p text.toList

theorem parse?_of_ne {c : Char} (h : c ≠ escapeSign) (cs : List Char) :
    parse? (c :: cs) = (parse? cs).map (.ofChar c :: ·) := by
  rw [parse?.eq_def]
  exact if_neg h

/-- A pattern is read in front of another. -/
theorem parse?_append {front : List Char} {p : List Item} (h : parse? front = some p)
    (cs : List Char) : parse? (front ++ cs) = (parse? cs).map (p ++ ·) := by
  fun_induction parse? front generalizing p with
  | case1 =>
    cases h
    exact Option.map_id'.symm
  | case2 => cases h
  | case3 d front ih =>
    obtain ⟨q, hq, rfl⟩ := Option.map_eq_some_iff.1 h
    show (parse? (front ++ cs)).map (.char d :: ·) = _
    rw [ih hq, Option.map_map]
    rfl
  | case4 c front hescape ih =>
    obtain ⟨q, hq, rfl⟩ := Option.map_eq_some_iff.1 h
    rw [List.cons_append, parse?_of_ne hescape, ih hq, Option.map_map]
    rfl

/-- Only a pattern that ends in an escape is refused. -/
theorem parse?_eq_none_iff (cs : List Char) :
    parse? cs = none ↔ ∃ front, parse? front ≠ none ∧ cs = front ++ [escapeSign] := by
  constructor
  · intro h
    fun_induction parse? cs with
    | case1 => cases h
    | case2 => exact ⟨[], by simp [parse?], rfl⟩
    | case3 d cs ih =>
      obtain ⟨front, hfront, rfl⟩ := ih (Option.map_eq_none_iff.1 h)
      exact ⟨escapeSign :: d :: front, by simpa [parse?] using hfront, rfl⟩
    | case4 c cs hescape ih =>
      obtain ⟨front, hfront, rfl⟩ := ih (Option.map_eq_none_iff.1 h)
      refine ⟨c :: front, ?_, rfl⟩
      rw [parse?_of_ne hescape]
      simpa using hfront
  · rintro ⟨front, hfront, rfl⟩
    obtain ⟨p, hp⟩ := Option.ne_none_iff_exists'.1 hfront
    rw [parse?_append hp]
    rfl

/-- A term that is escaped is read as its characters. -/
theorem parse?_escape (term : List Char) :
    parse? (Search.escape term) = some (term.map .char) := by
  induction term with
  | nil => rfl
  | cons c term ih =>
    have hchar : parse? (Search.escapeChar c) = some [.char c] := by
      rw [Search.escapeChar]
      split
      · rfl
      · next h =>
        simp only [Search.isMeta, Bool.or_eq_true, beq_iff_eq, not_or] at h
        obtain ⟨⟨hescape, hpercent⟩, hunderscore⟩ := h
        rw [parse?_of_ne hescape, Item.ofChar, if_neg hpercent, if_neg hunderscore]
        rfl
    rw [Search.escape, List.flatMap_cons, parse?_append hchar]
    exact congrArg (Option.map ([Item.char c] ++ ·)) ih

/-! ### Matching -/

variable {p : List Item} {x : List Char}

theorem matches_anyText_iff : Matches (.anyText :: p) x ↔ ∃ y, y <:+ x ∧ Matches p y := by
  constructor
  · intro h
    cases h with
    | anyText skipped h => exact ⟨_, List.suffix_append skipped _, h⟩
  · rintro ⟨y, ⟨skipped, rfl⟩, h⟩
    exact .anyText skipped h

/-- The matcher finds out whether a text matches. -/
theorem isMatch_iff : isMatch p x = true ↔ Matches p x := by
  -- item by item; only `%` leaves a choice, and the matcher tries every suffix for it
  induction p generalizing x with
  | nil =>
    rw [isMatch, List.isEmpty_iff]
    constructor
    · rintro rfl
      exact .nil
    · intro h
      cases h
      rfl
  | cons item p ih =>
    cases item with
    | char c =>
      cases x with
      | nil =>
        refine iff_of_false (by simp [isMatch]) ?_
        intro h
        cases h
      | cons d x =>
        rw [isMatch, Bool.and_eq_true, beq_iff_eq, ih]
        constructor
        · rintro ⟨rfl, h⟩
          exact .char c h
        · intro h
          cases h with
          | char c h => exact ⟨rfl, h⟩
    | anyChar =>
      cases x with
      | nil =>
        refine iff_of_false (by simp [isMatch]) ?_
        intro h
        cases h
      | cons d x =>
        rw [isMatch, ih]
        constructor
        · exact .anyChar d
        · intro h
          cases h with
          | anyChar d h => exact h
    | anyText => simp only [isMatch, List.any_eq_true, List.mem_tails, ih, matches_anyText_iff]

theorem matches_chars_append_iff {term : List Char} :
    Matches (term.map .char ++ p) x ↔ ∃ y, x = term ++ y ∧ Matches p y := by
  induction term generalizing x with
  | nil => simp
  | cons c term ih =>
    constructor
    · intro h
      cases h with
      | char c h =>
        obtain ⟨y, rfl, hy⟩ := ih.1 h
        exact ⟨y, rfl, hy⟩
    · rintro ⟨y, rfl, hy⟩
      exact .char c (ih.2 ⟨y, rfl, hy⟩)

theorem matches_anyText (x : List Char) : Matches [.anyText] x :=
  matches_anyText_iff.2 ⟨[], List.nil_suffix, .nil⟩

theorem matches_chars_iff {term : List Char} : Matches (term.map .char) x ↔ x = term := by
  rw [← List.append_nil (term.map Item.char), matches_chars_append_iff]
  constructor
  · rintro ⟨y, rfl, hy⟩
    cases hy
    exact List.append_nil term
  · rintro rfl
    exact ⟨[], (List.append_nil x).symm, .nil⟩

/-- Characters between two `%` may stand anywhere in the text. -/
theorem matches_part_iff {term : List Char} :
    Matches (.anyText :: (term.map .char ++ [.anyText])) x ↔ term <:+: x := by
  rw [matches_anyText_iff]
  constructor
  · rintro ⟨y, ⟨skipped, rfl⟩, h⟩
    obtain ⟨z, rfl, -⟩ := matches_chars_append_iff.1 h
    exact ⟨skipped, z, List.append_assoc skipped term z⟩
  · rintro ⟨skipped, z, rfl⟩
    refine ⟨term ++ z, ⟨skipped, (List.append_assoc skipped term z).symm⟩, ?_⟩
    exact matches_chars_append_iff.2 ⟨z, rfl, matches_anyText z⟩

theorem like?_eq_some {pattern text : String} {q : Prop} [Decidable q]
    (hparse : parse? pattern.toList = some p) (hmatch : Matches p text.toList ↔ q) :
    like? pattern text = some (decide q) := by
  rw [like?, hparse, Option.map_some, Option.some_inj, Bool.eq_iff_iff, isMatch_iff, hmatch,
    decide_eq_true_iff]

end Like

namespace Search

open Like (like?)

theorem parse?_wildcard {term : String} (hne : term ≠ "") (h : isExact term = false) :
    Like.parse? (wildcard (some term)).toList =
      some (.anyText :: (term.toList.map .char ++ [.anyText])) := by
  have hpattern : pattern term.toList = '%' :: (escape term.toList ++ ['%']) := by
    cases hterm : term.toList with
    | nil => exact absurd (String.toList_eq_nil_iff.1 hterm) hne
    | cons c cs =>
      have hc : c ≠ exactSign := by
        rintro rfl
        rw [isExact, hterm] at h
        cases h
      rw [pattern, if_neg hc]
      rfl
  rw [wildcard, String.toList_ofList, hpattern, Like.parse?_of_ne (by decide),
    Like.parse?_append (Like.parse?_escape term.toList)]
  rfl

/-- **Search terms match as parts of a text.**  With the escape character that the condition
names, an escaped term matches itself alone, and the pattern of a term that is not matched as it
is written matches the texts in which the term occurs.  Without a term everything matches.  None
of these patterns is refused, as a pattern is that ends in an escape. -/
theorem terms_match :
    (∀ column, likeClause column =
        column ++ " LIKE ? ESCAPE '" ++ String.singleton Like.escapeSign ++ "'") ∧
      (∀ pattern text, like? pattern text = none ↔
        ∃ front, Like.parse? front ≠ none ∧ pattern.toList = front ++ [Like.escapeSign]) ∧
      (∀ term text, like? (escaped term) text = some (decide (text = term))) ∧
      (∀ term text, isExact term = false →
        like? (wildcard (some term)) text = some (decide (term.toList <:+: text.toList))) ∧
      ∀ text, like? (wildcard none) text = some true ∧
        like? (wildcard (some "")) text = some true := by
  refine ⟨fun column => ?_, fun pattern text => ?_, fun term text => ?_,
    fun term text hexact => ?_, fun text => ?_⟩
  · rw [likeClause, String.append_assoc, String.append_assoc]
    rfl
  · rw [like?, Option.map_eq_none_iff, Like.parse?_eq_none_iff]
  · have hparse : Like.parse? (escaped term).toList = some (term.toList.map .char) := by
      rw [escaped, String.toList_ofList, Like.parse?_escape]
    refine Like.like?_eq_some hparse ?_
    rw [Like.matches_chars_iff, String.toList_inj]
  · by_cases hne : term = ""
    · subst hne
      exact Like.like?_eq_some (p := [.anyText]) rfl
        (iff_of_true (Like.matches_anyText text.toList) (List.nil_infix))
    · exact Like.like?_eq_some (parse?_wildcard hne hexact) Like.matches_part_iff
  · have hall : ∀ pattern : String, Like.parse? pattern.toList = some [.anyText] →
        like? pattern text = some true := by
      intro pattern hparse
      exact Like.like?_eq_some (q := True) hparse
        (iff_of_true (Like.matches_anyText text.toList) trivial)
    exact ⟨hall _ rfl, hall _ rfl⟩

/-- A term with both metacharacters of its own matches them, and nothing in their place. -/
theorem terms_match_of_rate :
    isExact "5%_\\" = false ∧ wildcard (some "5%_\\") = "%5\\%\\_\\\\%" ∧
      like? (wildcard (some "5%_\\")) "15%_\\%" = some true ∧
      like? (wildcard (some "5%_\\")) "15%x\\%" = some false := by
  obtain ⟨-, -, -, hpart, -⟩ := terms_match
  have hexact : isExact "5%_\\" = false := by decide
  refine ⟨hexact, by decide, ?_, ?_⟩
  · rw [hpart _ _ hexact]
    decide
  · rw [hpart _ _ hexact]
    decide

end Search

end SqlAccess
