/-
The scanner of placeholders, piece by piece.

Scanning a text that was put together is scanning its pieces, each in the mode that the
earlier ones left (`Placeholder.count_append`).  A piece that leaves no literal open
(`Placeholder.Spans`) hides nothing of what follows it, and its placeholders come first:
such pieces can be put one after another and their placeholders be added up.

`Statement.BindsAfter` says what the parameters of a statement are for: the placeholder
after a piece of the SQL takes the parameter whose number is that of the placeholders in
the piece.
-/
import SqlAccess.Dialect
import SqlAccess.Statement

namespace SqlAccess

namespace Placeholder

theorem stepAll_append (mode : Mode) (a b : List Char) :
    stepAll mode (a ++ b) = stepAll (stepAll mode a) b :=
  List.foldl_append

/-- The placeholders of the second text are counted in the mode after the first. -/
theorem count_append (mode : Mode) (a b : List Char) :
    count mode (a ++ b) = count mode a + count (stepAll mode a) b := by
  induction a generalizing mode with
  | nil => exact (Nat.zero_add _).symm
  | cons c a ih =>
    rw [List.cons_append, count, ih, count, Nat.add_assoc]
    rfl

/-- A text that leaves no literal open, with its number of placeholders. -/
structure Spans (n : Nat) (s : String) : Prop where
  count : placeholderCount s = n
  mode : stepAll none s.toList = none

theorem placeholderCount_append {n : Nat} {s : String} (h : Spans n s) (t : String) :
    placeholderCount (s ++ t) = n + placeholderCount t := by
  rw [placeholderCount, String.toList_append, count_append, h.mode]
  exact congrArg (· + placeholderCount t) h.count

namespace Spans

variable {m n : Nat} {s t : String}

theorem append (hs : Spans m s) (ht : Spans n t) : Spans (m + n) (s ++ t) where
  count := by rw [placeholderCount_append hs, ht.count]
  mode := by rw [String.toList_append, stepAll_append, hs.mode, ht.mode]

/-- What follows a text without placeholders has them all. -/
theorem after (hs : Spans 0 s) (ht : Spans n t) : Spans n (s ++ t) :=
  Nat.zero_add n ▸ hs.append ht

/-- What stands before a text without placeholders has them all. -/
theorem before (hs : Spans n s) (ht : Spans 0 t) : Spans n (s ++ t) :=
  hs.append ht

theorem empty : Spans 0 "" := ⟨rfl, rfl⟩

theorem question : Spans 1 "?" := ⟨rfl, rfl⟩

end Spans

/-! ### Texts without placeholders -/

/-- A text without question marks and quotes. -/
def Plain (s : String) : Prop := ∀ c ∈ s.toList, c ≠ '?' ∧ c ≠ '\'' ∧ c ≠ '"'

instance (s : String) : Decidable (Plain s) := List.decidableBAll _ _

theorem stepAll_of_plain {cs : List Char} (h : ∀ c ∈ cs, c ≠ '?' ∧ c ≠ '\'' ∧ c ≠ '"') :
    count none cs = 0 ∧ stepAll none cs = none := by
  induction cs with
  | nil => exact ⟨rfl, rfl⟩
  | cons c cs ih =>
    obtain ⟨hquestion, hsingle, hdouble⟩ := h c List.mem_cons_self
    obtain ⟨hcount, hmode⟩ := ih fun d hd => h d (List.mem_cons_of_mem c hd)
    have hstep : step none c = none := by
      rw [step, if_neg]
      rintro (hc | hc)
      · exact hsingle hc
      · exact hdouble hc
    constructor
    · rw [count, hstep, hcount, if_neg fun hc => hquestion hc.2]
    · rw [stepAll, List.foldl_cons, hstep]
      exact hmode

theorem Spans.of_plain {s : String} (h : Plain s) : Spans 0 s :=
  ⟨(stepAll_of_plain h).1, (stepAll_of_plain h).2⟩

/-- The literals in the expression of SQLite are closed. -/
theorem spans_currentTimestamp (d : Dialect) : Spans 0 d.currentTimestamp := by
  cases d <;> exact ⟨rfl, rfl⟩

theorem spans_sequenceValue (d : Dialect) : Spans 0 d.sequenceValue := by
  cases d <;> exact ⟨rfl, rfl⟩

/-! ### Lists of texts -/

/-- A list of texts with separators, around one of them. -/
theorem intercalate_append_cons (sep s : String) (earlier later : List String) :
    sep.intercalate (earlier ++ s :: later) =
      String.join (earlier.map (· ++ sep)) ++ s ++ String.join (later.map (sep ++ ·)) := by
  induction earlier with
  | nil =>
    -- the separators stand before the later texts
    rw [List.nil_append, List.map_nil, String.join_nil, String.empty_append]
    induction later generalizing s with
    | nil => rw [String.intercalate_singleton, List.map_nil, String.join_nil, String.append_empty]
    | cons t later ih =>
      rw [String.intercalate_cons_cons, ih, List.map_cons, String.join_cons]
      simp only [String.append_assoc]
  | cons t earlier ih =>
    rw [List.cons_append, String.intercalate_cons_of_ne_nil (by simp), ih, List.map_cons,
      String.join_cons]
    simp only [String.append_assoc]

variable {α : Type} {f : α → String} {p : α → Bool} {xs : List α}

/-- Texts that each have one placeholder or none. -/
theorem Spans.join (h : ∀ x ∈ xs, Spans (if p x = true then 1 else 0) (f x)) :
    Spans (xs.countP p) (String.join (xs.map f)) := by
  induction xs with
  | nil => exact Spans.empty
  | cons x xs ih =>
    rw [List.map_cons, String.join_cons, List.countP_cons, Nat.add_comm]
    exact (h x List.mem_cons_self).append (ih fun y hy => h y (List.mem_cons_of_mem x hy))

/-- Separators without placeholders add none. -/
theorem Spans.intercalate {sep : String} (hsep : Spans 0 sep)
    (h : ∀ x ∈ xs, Spans (if p x = true then 1 else 0) (f x)) :
    Spans (xs.countP p) (sep.intercalate (xs.map f)) := by
  cases xs with
  | nil =>
    rw [List.map_nil, String.intercalate_nil]
    exact Spans.empty
  | cons x xs =>
    have hlater : Spans (xs.countP p) (String.join (xs.map fun y => sep ++ f y)) :=
      Spans.join fun y hy => hsep.after (h y (List.mem_cons_of_mem x hy))
    have hsplit := intercalate_append_cons sep (f x) [] (xs.map f)
    rw [List.nil_append, List.map_nil, String.join_nil, String.empty_append, List.map_map] at hsplit
    rw [List.map_cons, hsplit, List.countP_cons, Nat.add_comm]
    exact (h x List.mem_cons_self).append hlater

end Placeholder

namespace Statement

/-- The parameter for the placeholder after a piece of the SQL. -/
structure BindsAfter (st : Statement) (piece : String) (v : Value) : Prop where
  sql : ∃ rest, st.sql = piece ++ "?" ++ rest
  mode : Placeholder.stepAll none piece.toList = none
  param : st.params[placeholderCount piece]? = some v

end Statement

end SqlAccess
