/-
The parameters of INSERT, UPDATE and DELETE.

The SQL of a statement and its parameters are built apart from each other, each with its
own tests of the flags of a column.  `Query.parameters_line_up` says that they agree: a
statement has as many parameters as its SQL has placeholders, and the placeholder of a
column takes the value of that column.

The heart of the matter is `Query.lined`, which follows the scanner through a list of
items, some of which end in a placeholder, and counts the parameters along.
-/
import Mathlib.Data.List.Forall2
import SqlAccess.Proofs.Placeholders
import SqlAccess.Proofs.QueryStatements

namespace SqlAccess.Query

open Placeholder

/-! ### What lines up -/

/-- Whether a caller fills in the column, so that there is a parameter for it. -/
def isBound (e : String × Column) : Bool := !e.2.isGenerated

theorem isBound_iff {property : String} {c : Column} :
    isBound (property, c) = true ↔ c.isGenerated = false := by
  rw [isBound, Bool.not_eq_true']

/-- The value for a column: what the caller gives is converted, and something stands for what
the caller does not give. -/
def ParamFor (m : Marshaller) (values : Row) (property : String) (c : Column) (v : Value) : Prop :=
  (∃ w, values.get? property = some w ∧ w.isNull = false ∧ c.type.toSql m w = .ok v) ∨
    (∀ w, values.get? property = some w → w.isNull = true) ∧ v = c.type.nullValue

/-- The SQL up to an item of a list. -/
def upTo (head : String) (items : List String) (j : Nat) : String :=
  head ++ String.join ((items.take j).map (· ++ ", "))

/-- A list of items in the SQL of a statement, one for each column.  An item starts with what
leads to the expression for its column; the expression is a placeholder if the caller fills in
the column, and takes the value for the column then. -/
structure Lined (m : Marshaller) (values : Row) (st : Statement) (head : String)
    (lead : Column → String) (columns : List (String × Column)) (items : List String) : Prop where
  length : items.length = columns.length
  item (j : Nat) (property : String) (c : Column) : columns[j]? = some (property, c) →
    ∃ expression, items[j]? = some (lead c ++ expression) ∧
      (expression = "?" ↔ c.isGenerated = false)
  rank (j : Nat) (property : String) (c : Column) : columns[j]? = some (property, c) →
    placeholderCount (upTo head items j ++ lead c) = (columns.take j).countP isBound
  bound (j : Nat) (property : String) (c : Column) : columns[j]? = some (property, c) →
    c.isGenerated = false → ∃ v, ParamFor m values property c v ∧
      st.BindsAfter (upTo head items j ++ lead c) v

/-- The placeholders of the condition, which stands after a piece of the SQL, take the values
that were bound for them. -/
def ClauseBound (q : Query) (st : Statement) (piece : String) : Prop :=
  ∀ clause earlier later, q.condition? = some clause → clause = earlier ++ "?" ++ later →
    stepAll none earlier.toList = none →
      ∃ v, q.binds[placeholderCount earlier]? = some v ∧
        st.BindsAfter (piece ++ " WHERE " ++ earlier) v

/-- How many placeholders the condition has. -/
def conditionPlaceholders (q : Query) : Nat :=
  match q.condition? with
  | some clause => placeholderCount clause
  | none => 0

/-- The INSERT up to the first item. -/
def insertHead (q : Query) : String :=
  "INSERT INTO " ++ q.table ++ " (" ++ ", ".intercalate (q.columns.map (·.2.name)) ++ ") VALUES ("

/-- The UPDATE up to the first item. -/
def updateHead (q : Query) : String := "UPDATE " ++ q.table ++ " SET "

/-- An INSERT with its parameters. -/
structure InsertLined (q : Query) (values : Row) (st : Statement) : Prop where
  complete : st.params.length = st.placeholders
  items : ∃ items, st.sql = q.insertHead ++ ", ".intercalate items ++ ")" ∧
    Lined q.marshaller values st q.insertHead (fun _ => "") q.columns items

/-- An UPDATE with its parameters: those of the columns, then those of the condition. -/
structure UpdateLined (q : Query) (values : Row) (st : Statement) : Prop where
  complete : st.params.length = st.placeholders
  params : ∃ own, own.length = q.columns.countP isBound ∧ st.params = own ++ q.binds
  items : ∃ items, st.sql = q.updateHead ++ ", ".intercalate items ++ q.whereText ∧
    Lined q.marshaller values st q.updateHead (fun c => c.name ++ " = ")
      (q.columns.filter fun e => !e.2.sequence && !e.2.createDate) items ∧
    q.ClauseBound st (q.updateHead ++ ", ".intercalate items)

/-- A DELETE with its parameters. -/
structure DeleteLined (q : Query) (st : Statement) : Prop where
  complete : st.params.length = st.placeholders
  params : st.params = q.binds
  sql : st.sql = "DELETE FROM " ++ q.table ++ q.whereText
  clause : q.ClauseBound st ("DELETE FROM " ++ q.table)

/-! ### Parameters of columns -/

theorem forall₂_of_mapM {α β : Type} {f : α → Result β} {xs : List α} {ys : List β}
    (h : xs.mapM f = .ok ys) : List.Forall₂ (fun x y => f x = .ok y) xs ys := by
  induction xs generalizing ys with
  | nil =>
    cases h
    exact .nil
  | cons x xs ih =>
    rw [List.mapM_cons] at h
    obtain ⟨y, hx, h⟩ := bind_eq_ok h
    obtain ⟨ys', hxs, h⟩ := bind_eq_ok h
    cases h
    exact .cons hx (ih hxs)

theorem paramFor_of_columnParam {m : Marshaller} {values : Row} {property : String} {c : Column}
    {v : Value} (h : columnParam m values property c = .ok v) : ParamFor m values property c v := by
  rw [columnParam] at h
  split at h
  · next w hw =>
    by_cases hnull : w.isNull = true
    · rw [if_pos hnull] at h
      cases h
      refine .inr ⟨fun w' hw' => ?_, rfl⟩
      rw [hw] at hw'
      cases hw'
      exact hnull
    · rw [if_neg hnull] at h
      exact .inl ⟨w, hw, Bool.eq_false_iff.2 hnull, h⟩
  · next hnone =>
    cases h
    refine .inr ⟨fun w hw => ?_, rfl⟩
    rw [hnone] at hw
    cases hw

/-- The parameters of some columns, by the columns that callers fill in. -/
abbrev ParamsFor (m : Marshaller) (values : Row) (columns : List (String × Column))
    (params : List Value) : Prop :=
  List.Forall₂ (fun e v => columnParam m values e.1 e.2 = .ok v) (columns.filter isBound) params

variable {m : Marshaller} {values : Row} {columns : List (String × Column)} {own : List Value}

theorem ParamsFor.length (h : ParamsFor m values columns own) :
    own.length = columns.countP isBound := by
  rw [← h.length_eq, List.countP_eq_length_filter]

/-- The number of a parameter is that of the earlier columns that callers fill in. -/
theorem ParamsFor.param (h : ParamsFor m values columns own) {j : Nat} {property : String}
    {c : Column} (hj : columns[j]? = some (property, c)) (hc : c.isGenerated = false) :
    ∃ v, ParamFor m values property c v ∧ own[(columns.take j).countP isBound]? = some v := by
  -- a column that the database fills in moves the place in the list but not the parameter
  induction columns generalizing j own with
  | nil => cases hj
  | cons e columns ih =>
    rw [ParamsFor] at h
    cases j with
    | zero =>
      cases hj
      rw [List.filter_cons_of_pos (isBound_iff.2 hc)] at h
      cases h with
      | cons hv _ => exact ⟨_, paramFor_of_columnParam hv, rfl⟩
    | succ j =>
      by_cases he : isBound e = true
      · rw [List.filter_cons_of_pos he] at h
        cases h with
        | cons _ hrest =>
          obtain ⟨v, hv, hparam⟩ := ih hrest hj
          refine ⟨v, hv, ?_⟩
          rw [List.take_succ_cons, List.countP_cons_of_pos he]
          exact hparam
      · rw [List.filter_cons_of_neg he] at h
        obtain ⟨v, hv, hparam⟩ := ih h hj
        refine ⟨v, hv, ?_⟩
        rw [List.take_succ_cons, List.countP_cons_of_neg he]
        exact hparam

/-! ### Following the scanner -/

theorem eq_take_append_drop {α : Type} {xs : List α} {j : Nat} {x : α} (h : xs[j]? = some x) :
    xs = xs.take j ++ x :: xs.drop (j + 1) := by
  obtain ⟨hj, rfl⟩ := List.getElem?_eq_some_iff.1 h
  rw [← List.drop_eq_getElem_cons hj, List.take_append_drop]

section Items

variable {st : Statement} {head rest : String} {lead expression : Column → String}
  {more : List Value}

/-- The expressions for some columns are what they should be: placeholders for those that
callers fill in, and texts without placeholders for the others. -/
structure Expressions (lead expression : Column → String) (columns : List (String × Column)) :
    Prop where
  lead (e : String × Column) : e ∈ columns → Spans 0 (lead e.2)
  bound (e : String × Column) : e ∈ columns → isBound e = true → expression e.2 = "?"
  generated (e : String × Column) : e ∈ columns → isBound e = false → Spans 0 (expression e.2)

theorem Expressions.spans (h : Expressions lead expression columns) (e : String × Column)
    (he : e ∈ columns) :
    Spans (if isBound e = true then 1 else 0) (lead e.2 ++ expression e.2) := by
  refine (h.lead e he).after ?_
  by_cases hbound : isBound e = true
  · rw [if_pos hbound, h.bound e he hbound]
    exact Spans.question
  · rw [if_neg hbound]
    exact h.generated e he (Bool.eq_false_iff.2 hbound)

/-- Up to an item there is one placeholder for every earlier column that callers fill in. -/
theorem Expressions.spans_upTo (h : Expressions lead expression columns) (hhead : Spans 0 head)
    (j : Nat) :
    Spans ((columns.take j).countP isBound)
      (upTo head (columns.map fun e => lead e.2 ++ expression e.2) j) := by
  rw [upTo, ← List.map_take, List.map_map]
  refine hhead.after (Spans.join fun e he => ?_)
  exact (h.spans e (List.mem_of_mem_take he)).before ⟨rfl, rfl⟩

/-- **Items line up with parameters.**  The scanner comes to the placeholder of a column with no
literal open, after as many placeholders as there are parameters for earlier columns. -/
theorem lined (h : Expressions lead expression columns) (hhead : Spans 0 head)
    (hown : ParamsFor m values columns own) (hparams : st.params = own ++ more)
    (hsql : st.sql =
      head ++ ", ".intercalate (columns.map fun e => lead e.2 ++ expression e.2) ++ rest) :
    Lined m values st head lead columns
      (columns.map fun e => lead e.2 ++ expression e.2) := by
  have hpiece : ∀ {j property c}, columns[j]? = some (property, c) →
      Spans ((columns.take j).countP isBound)
        (upTo head (columns.map fun e => lead e.2 ++ expression e.2) j ++ lead c) := by
    intro j property c hj
    exact (h.spans_upTo hhead j).before (h.lead _ (List.mem_of_getElem? hj))
  constructor
  case length => exact List.length_map _
  case item =>
    intro j property c hj
    have hmem := List.mem_of_getElem? hj
    refine ⟨expression c, by rw [List.getElem?_map, hj]; rfl, ?_⟩
    constructor
    · -- the expression of any other column has no placeholder
      intro hquestion
      rw [← isBound_iff, ← Bool.not_eq_false]
      intro hgenerated
      have hspans := h.generated _ hmem hgenerated
      rw [hquestion] at hspans
      cases hspans.count
    · intro hc
      exact h.bound _ hmem (isBound_iff.2 hc)
  case rank =>
    intro j property c hj
    exact (hpiece hj).count
  case bound =>
    intro j property c hj hc
    obtain ⟨v, hv, hparam⟩ := hown.param hj hc
    refine ⟨v, hv, ?_, (hpiece hj).mode, ?_⟩
    · have hquestion : expression c = "?" :=
        h.bound _ (List.mem_of_getElem? hj) (isBound_iff.2 hc)
      refine ⟨String.join ((columns.drop (j + 1)).map fun e => ", " ++ (lead e.2 ++ expression e.2))
        ++ rest, ?_⟩
      -- the list of items around that of the column
      have hitems := congrArg (List.map fun e => lead e.2 ++ expression e.2)
        (eq_take_append_drop hj)
      rw [List.map_append, List.map_cons] at hitems
      rw [hsql, hitems, intercalate_append_cons, ← hitems, upTo, ← List.map_take, hquestion,
        List.map_map, List.map_map]
      simp only [String.append_assoc, Function.comp_def]
    · rw [hparams, (hpiece hj).count]
      exact List.getElem?_append_left (List.getElem?_eq_some_iff.1 hparam).1 ▸ hparam

end Items

/-! ### Clauses -/

variable {q : Query} {st : Statement} {n : Nat} {piece : String}

theorem placeholderCount_whereText (q : Query) :
    placeholderCount q.whereText = q.conditionPlaceholders := by
  rw [whereText, conditionPlaceholders]
  cases q.condition? with
  | none => rfl
  | some clause =>
    simp only
    exact (placeholderCount_append (show Spans 0 " WHERE " from ⟨rfl, rfl⟩) clause).trans
      (Nat.zero_add _)

/-- A statement that ends in the condition has parameters for the condition after its own. -/
theorem complete_of_whereText (hbinds : q.binds.length = q.conditionPlaceholders)
    (hpiece : Spans own.length piece) (hsql : st.sql = piece ++ q.whereText)
    (hparams : st.params = own ++ q.binds) : st.params.length = st.placeholders := by
  rw [Statement.placeholders, hsql, placeholderCount_append hpiece, placeholderCount_whereText,
    hparams, List.length_append, hbinds]

theorem clauseBound_of_whereText (hbinds : q.binds.length = q.conditionPlaceholders)
    (hpiece : Spans own.length piece) (hsql : st.sql = piece ++ q.whereText)
    (hparams : st.params = own ++ q.binds) : q.ClauseBound st piece := by
  intro clause earlier later hclause hsplit hmode
  have hearlier : Spans (placeholderCount earlier) earlier := ⟨rfl, hmode⟩
  have hstart : Spans (own.length + placeholderCount earlier) (piece ++ " WHERE " ++ earlier) :=
    (hpiece.before ⟨rfl, rfl⟩).append hearlier
  -- the placeholder itself is one of those of the condition
  have hlt : placeholderCount earlier < q.binds.length := by
    rw [hbinds, conditionPlaceholders, hclause]
    simp only
    rw [hsplit, String.append_assoc, placeholderCount_append hearlier,
      placeholderCount_append Spans.question]
    omega
  refine ⟨q.binds[placeholderCount earlier], List.getElem?_eq_getElem hlt, ?_, hstart.mode, ?_⟩
  · refine ⟨later, ?_⟩
    rw [hsql, whereText, hclause]
    simp only [hsplit, String.append_assoc]
  · rw [hparams, hstart.count, List.getElem?_append_right (Nat.le_add_right _ _),
      Nat.add_sub_cancel_left, List.getElem?_eq_getElem hlt]

/-! ### The SQL of the statements -/

theorem requireColumns_eq_ok {cs : List Column} (h : q.requireColumns = .ok cs) :
    cs = q.columns.map (·.2) := by
  rw [requireColumns] at h
  split at h
  · cases h
  · cases h
    rfl

theorem insertSql_eq_ok {sql : String} (h : q.insertSql = .ok sql) :
    sql = q.insertHead ++
      ", ".intercalate (q.columns.map fun e => "" ++ insertItem q.handle.dialect e.2) ++ ")" := by
  obtain ⟨cs, hcs, h⟩ := bind_eq_ok h
  cases h
  rw [requireColumns_eq_ok hcs, insertHead, List.map_map, List.map_map]
  simp only [String.empty_append, Function.comp_def]

/-- What an UPDATE sets a column to. -/
def updateExpression (d : Dialect) (c : Column) : String :=
  if c.modifyDate then d.currentTimestamp else "?"

theorem updateSql_eq_ok {sql : String} (h : q.updateSql = .ok sql) :
    sql = q.updateHead ++
      ", ".intercalate ((q.columns.filter fun e => !e.2.sequence && !e.2.createDate).map
        fun e => e.2.name ++ " = " ++ updateExpression q.handle.dialect e.2) ++ q.whereText := by
  obtain ⟨cs, hcs, h⟩ := bind_eq_ok h
  simp only at h
  split at h
  · cases h
  · cases h
    rw [requireColumns_eq_ok hcs, updateHead, List.filter_map, List.map_map]
    rfl

theorem insertion_eq_ok {sql : String} {params : List Value}
    (h : q.insertion values = .ok (sql, params)) :
    q.insertSql = .ok sql ∧ q.columnParams values = .ok params := by
  obtain ⟨_, hsql, h⟩ := bind_eq_ok h
  obtain ⟨_, hparams, h⟩ := bind_eq_ok h
  cases h
  exact ⟨hsql, hparams⟩

theorem modification_eq_ok {sql : String} {params : List Value}
    (h : q.modification values = .ok (sql, params)) :
    q.updateSql = .ok sql ∧ ∃ own, q.columnParams values = .ok own ∧ params = own ++ q.binds := by
  obtain ⟨_, hsql, h⟩ := bind_eq_ok h
  obtain ⟨own, hown, h⟩ := bind_eq_ok h
  cases h
  exact ⟨hsql, own, hown, rfl⟩

/-! ### Statements -/

theorem spans_insertHead (htable : Plain q.table) (hnames : ∀ e ∈ q.columns, Plain e.2.name) :
    Spans 0 q.insertHead := by
  have hlist : Spans 0 (", ".intercalate (q.columns.map (·.2.name))) := by
    have h := @Spans.intercalate _ (fun e : String × Column => e.2.name) (fun _ => false)
      q.columns ", " ⟨rfl, rfl⟩ fun e he => Spans.of_plain (hnames e he)
    rw [List.countP_false] at h
    exact h
  exact (((Spans.after ⟨rfl, rfl⟩ (Spans.of_plain htable)).before ⟨rfl, rfl⟩).after hlist).before
    ⟨rfl, rfl⟩

theorem spans_updateHead (htable : Plain q.table) : Spans 0 q.updateHead :=
  (Spans.after ⟨rfl, rfl⟩ (Spans.of_plain htable)).before ⟨rfl, rfl⟩

theorem expressions_insert (d : Dialect) (columns : List (String × Column)) :
    Expressions (fun _ => "") (insertItem d) columns where
  lead _ _ := Spans.empty
  bound e _ h := by
    rw [isBound, Column.isGenerated] at h
    rw [insertItem]
    cases hs : e.2.sequence <;> cases hc : e.2.createDate <;> cases hm : e.2.modifyDate <;>
      simp_all
  generated e _ h := by
    rw [isBound, Column.isGenerated] at h
    rw [insertItem]
    split
    · exact spans_sequenceValue d
    · split
      · exact spans_currentTimestamp d
      · simp_all

theorem expressions_update (d : Dialect) (hnames : ∀ e ∈ q.columns, Plain e.2.name) :
    Expressions (fun c => c.name ++ " = ") (updateExpression d)
      (q.columns.filter fun e => !e.2.sequence && !e.2.createDate) where
  lead e he :=
    (Spans.of_plain (hnames e (List.mem_of_mem_filter he))).before ⟨rfl, rfl⟩
  bound e _ h := by
    rw [isBound, Column.isGenerated] at h
    rw [updateExpression, if_neg]
    simp_all
  generated e he h := by
    have hupdatable := (List.mem_filter.1 he).2
    rw [isBound, Column.isGenerated] at h
    rw [updateExpression, if_pos]
    · exact spans_currentTimestamp d
    · simp_all

theorem paramsFor_of_columnParams (h : q.columnParams values = .ok own) :
    ParamsFor q.marshaller values q.columns own :=
  forall₂_of_mapM h

/-- An UPDATE leaves out no column that callers fill in. -/
theorem paramsFor_updatable (h : q.columnParams values = .ok own) :
    ParamsFor q.marshaller values (q.columns.filter fun e => !e.2.sequence && !e.2.createDate)
      own := by
  have hfilter : (fun e : String × Column => isBound e && (!e.2.sequence && !e.2.createDate)) =
      isBound := by
    funext e
    rw [isBound, Column.isGenerated]
    cases e.2.sequence <;> cases e.2.createDate <;> cases e.2.modifyDate <;> rfl
  rw [ParamsFor, List.filter_filter, hfilter]
  exact paramsFor_of_columnParams h

theorem insertLined {sql : String} {params : List Value} (htable : Plain q.table)
    (hnames : ∀ e ∈ q.columns, Plain e.2.name) (h : q.insertion values = .ok (sql, params)) :
    q.InsertLined values ⟨sql, params⟩ := by
  obtain ⟨hsql, hparams⟩ := insertion_eq_ok h
  have hown := paramsFor_of_columnParams hparams
  have hhead := spans_insertHead htable hnames
  have hexpressions := expressions_insert q.handle.dialect q.columns
  have hlayout := insertSql_eq_ok hsql
  constructor
  case complete =>
    have hspans : Spans (q.columns.countP isBound) sql := by
      rw [hlayout]
      exact (hhead.after (Spans.intercalate ⟨rfl, rfl⟩ hexpressions.spans)).before ⟨rfl, rfl⟩
    exact hown.length.trans hspans.count.symm
  case items =>
    exact ⟨_, hlayout, lined hexpressions hhead hown (List.append_nil _).symm hlayout⟩

theorem updateLined {sql : String} {params : List Value} (htable : Plain q.table)
    (hnames : ∀ e ∈ q.columns, Plain e.2.name) (hbinds : q.binds.length = q.conditionPlaceholders)
    (h : q.modification values = .ok (sql, params)) : q.UpdateLined values ⟨sql, params⟩ := by
  obtain ⟨hsql, own, hparams, happend⟩ := modification_eq_ok h
  have hown := paramsFor_updatable hparams
  have hhead := spans_updateHead htable
  have hexpressions := expressions_update q.handle.dialect hnames
  have hlayout := updateSql_eq_ok hsql
  -- what stands before the condition
  have hpiece := hhead.after
    (Spans.intercalate (show Spans 0 ", " from ⟨rfl, rfl⟩) hexpressions.spans)
  rw [← hown.length] at hpiece
  constructor
  case complete => exact complete_of_whereText hbinds hpiece hlayout happend
  case params => exact ⟨own, (paramsFor_of_columnParams hparams).length, happend⟩
  case items =>
    exact ⟨_, hlayout, lined hexpressions hhead hown happend hlayout,
      clauseBound_of_whereText hbinds hpiece hlayout happend⟩

theorem deleteLined (htable : Plain q.table) (hbinds : q.binds.length = q.conditionPlaceholders) :
    q.DeleteLined ⟨q.deleteSql, q.binds⟩ := by
  -- there are no parameters before those of the condition
  have hpiece : Spans ([] : List Value).length ("DELETE FROM " ++ q.table) :=
    Spans.after ⟨rfl, rfl⟩ (Spans.of_plain htable)
  constructor
  case complete => exact complete_of_whereText hbinds hpiece rfl rfl
  case params => rfl
  case sql => rfl
  case clause => exact clauseBound_of_whereText hbinds hpiece rfl rfl

/-- **Placeholders and parameters line up.**  Every statement that an insertion, an update or a
deletion runs has a parameter for each of its placeholders, and every placeholder takes the
parameter that is meant for it.  What succeeds has run such a statement. -/
theorem parameters_line_up (q : Query) (s : Session) (values : Row) (htable : Plain q.table)
    (hnames : ∀ e ∈ q.columns, Plain e.2.name)
    (hbinds : q.binds.length = q.conditionPlaceholders) :
    (Session.RunsOnly (q.InsertLined values) s (q.insert s values).2.2 ∧
        (Session.isOk (q.insert s values).1 = true → ∃ st, s.Ran (q.insert s values).2.2 st)) ∧
      (Session.RunsOnly (q.UpdateLined values) s (q.update s values).2.2 ∧
        (Session.isOk (q.update s values).1 = true → ∃ st, s.Ran (q.update s values).2.2 st)) ∧
      (Session.RunsOnly q.DeleteLined s (q.delete s).2.2 ∧
        (Session.isOk (q.delete s).1 = true → ∃ st, s.Ran (q.delete s).2.2 st)) := by
  refine ⟨⟨?_, ran_insert⟩, ⟨?_, ran_update⟩, ?_, ran_delete⟩
  · exact q.runsOnly_insert s values fun _ _ hbuilt => insertLined htable hnames hbuilt
  · exact q.runsOnly_update s values fun _ _ hbuilt => updateLined htable hnames hbinds hbuilt
  · exact q.runsOnly_delete s (deleteLined htable hbinds)

/-- An update of one column next to two that the database fills in. -/
theorem parameters_line_up_of_guests :
    ∃ (q : Query) (s : Session) (values : Row) (st : Statement),
      q.columns.map (·.2.isGenerated) = [true, false, true] ∧
        s.Ran (q.update s values).2.2 st ∧ q.UpdateLined values st := by
  let q : Query :=
    { onConnection ⟨0, .scripted, .sqlite⟩ "guests" .json none with
      columns := [("id", ⟨"id", .integer, true, false, false⟩),
        ("name", .plain "full_name" .other),
        ("changed", ⟨"changed_at", .timestamp, false, false, true⟩)]
      whereClause := some "note = '?' AND id = ?"
      binds := [.int 7] }
  let s := Session.start ⟨.sqlite, 1, fun _ _ => false, fun _ => none⟩ []
  have hran : s.Ran (q.update s ∅).2.2
      ⟨"UPDATE guests SET full_name = ?, changed_at = strftime('%Y-%m-%d %H:%M:%f', 'now')" ++
        " WHERE note = '?' AND id = ?", [.null, .int 7]⟩ :=
    ⟨(q.update s ∅).2.2.history, (List.append_nil _).symm, _, .tail _ (.head _), rfl⟩
  exact ⟨q, s, ∅, _, rfl, hran,
    hran.of_runsOnly (parameters_line_up q s ∅ (by decide) (by decide) rfl).2.1.1⟩

end SqlAccess.Query
