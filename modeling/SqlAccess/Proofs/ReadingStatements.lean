/-
The parameters of statements that read.

A query binds one list of values for the placeholders of its condition and its supplement, and
hands all of them to every statement that reads.  The SELECT contains both clauses, so its
parameters are as many as its placeholders.  The statement that counts leaves the supplement out
but not its values: `Query.reading_parameters` says that it has a parameter too many for each
placeholder of the supplement, and `Query.count_with_surplus` shows such a count.

A page whose total is not known is counted first, so it is read as it should be only if the
supplement has no placeholders.
-/
import SqlAccess.Proofs.BoundParameters

namespace SqlAccess.Query

open Placeholder

/-- All names that the SQL of the query contains are free of question marks and quotes. -/
structure PlainNames (q : Query) : Prop where
  table : Plain q.table
  joins : ∀ t ∈ q.joins, Plain t
  columns : ∀ e ∈ q.columns, Plain e.1 ∧ Plain e.2.name

/-- A clause, if there is one, closes every quote that it opens. -/
def ClosesQuotes (clause : Option String) : Prop :=
  ∀ s, clause = some s → stepAll none s.toList = none

/-- How many placeholders the supplement has. -/
def supplementPlaceholders (q : Query) : Nat :=
  match q.supplement with
  | some clause => placeholderCount clause
  | none => 0

/-- The statement has the bound values of the query for parameters, and so many parameters more
than placeholders. -/
def Surplus (q : Query) (surplus : Nat) (st : Statement) : Prop :=
  st.params = q.binds ∧ st.params.length = st.placeholders + surplus

variable {q : Query}

/-! ### Clauses -/

theorem whereClause_of_condition? {clause : String} (h : q.condition? = some clause) :
    q.whereClause = some clause := by
  rw [condition?] at h
  split at h
  · next written hwritten =>
    split at h
    · cases h
    · rw [hwritten, h]
  · cases h

theorem spans_whereText (h : ClosesQuotes q.whereClause) :
    Spans q.conditionPlaceholders q.whereText := by
  rw [conditionPlaceholders, whereText]
  cases hcondition : q.condition? with
  | none => exact Spans.empty
  | some clause =>
    have hclause : Spans (placeholderCount clause) clause :=
      ⟨rfl, h clause (whereClause_of_condition? hcondition)⟩
    exact Spans.after ⟨rfl, rfl⟩ hclause

/-- Further tables stand behind the first, each after a comma. -/
theorem spans_joins (h : ∀ t ∈ q.joins, Plain t) :
    Spans 0 (String.join (q.joins.map (", " ++ ·))) := by
  have hjoin := @Spans.join _ (", " ++ ·) (fun _ => false) q.joins fun t ht =>
    Spans.after ⟨rfl, rfl⟩ (Spans.of_plain (h t ht))
  rwa [List.countP_false] at hjoin

theorem spans_fromText (hq : q.PlainNames) (h : ClosesQuotes q.whereClause) :
    Spans q.conditionPlaceholders q.fromText := by
  have htable : Spans 0 (" FROM " ++ q.table) := Spans.after ⟨rfl, rfl⟩ (Spans.of_plain hq.table)
  exact (htable.after (spans_joins hq.joins)).after (spans_whereText h)

theorem spans_selectItem {property : String} {c : Column} (hproperty : Plain property)
    (hname : Plain c.name) : Spans 0 (selectItem property c) := by
  rw [selectItem]
  split
  · exact Spans.of_plain hproperty
  · exact ((Spans.of_plain hname).before ⟨rfl, rfl⟩).after (Spans.of_plain hproperty)

theorem spans_selectList (hq : q.PlainNames) : Spans 0 q.selectList := by
  rw [selectList]
  refine Spans.after ?_ ?_
  · split <;> exact ⟨rfl, rfl⟩
  · split
    · exact ⟨rfl, rfl⟩
    · have hlist := @Spans.intercalate _ (fun e : String × Column => selectItem e.1 e.2)
        (fun _ => false) q.columns ", " ⟨rfl, rfl⟩ fun e he =>
          spans_selectItem (hq.columns e he).1 (hq.columns e he).2
      rw [List.countP_false] at hlist
      exact hlist

theorem spans_decimalText (n : Nat) : Spans 0 (Text.decimalText n) := by
  refine Spans.of_plain ?_
  intro c hc
  rw [Text.decimalText, String.toList_ofList] at hc
  have hdigit : c.isDigit = true := Text.isDigit_of_mem_decimal hc
  refine ⟨?_, ?_, ?_⟩ <;> rintro rfl <;> cases hdigit

theorem spans_pagingText (q : Query) : Spans 0 q.pagingText := by
  have hlimit : ∀ n, Spans 0 (" LIMIT " ++ Text.decimalText n) := fun n =>
    Spans.after ⟨rfl, rfl⟩ (spans_decimalText n)
  have hoffset : ∀ m n, Spans 0 (" LIMIT " ++ Text.decimalText m ++ " OFFSET " ++
      Text.decimalText n) := fun m n => ((hlimit m).before ⟨rfl, rfl⟩).after (spans_decimalText n)
  rw [pagingText]
  split
  · exact hoffset _ _
  · exact hlimit _
  · exact hoffset _ _
  · exact Spans.empty

/-- The SELECT contains the condition and the supplement. -/
theorem spans_selectSql (hq : q.PlainNames) (hwhere : ClosesQuotes q.whereClause)
    (hsupplement : ClosesQuotes q.supplement) :
    Spans (q.conditionPlaceholders + q.supplementPlaceholders) q.selectSql := by
  have hhead : Spans 0 ("SELECT " ++ q.selectList) := Spans.after ⟨rfl, rfl⟩ (spans_selectList hq)
  have hsupp : Spans q.supplementPlaceholders
      (match q.supplement with
        | some clause => " " ++ clause
        | none => "") := by
    rw [supplementPlaceholders]
    cases hclause : q.supplement with
    | none => exact Spans.empty
    | some clause =>
      have hspans : Spans (placeholderCount clause) clause := ⟨rfl, hsupplement clause hclause⟩
      exact Spans.after ⟨rfl, rfl⟩ hspans
  exact ((hhead.after (spans_fromText hq hwhere)).append hsupp).before (spans_pagingText q)

/-- The statement that counts contains the condition alone. -/
theorem spans_countSql (hq : q.PlainNames) (hwhere : ClosesQuotes q.whereClause) :
    Spans q.conditionPlaceholders q.countSql := by
  have hfrom := spans_fromText hq hwhere
  rw [countSql]
  split
  · have hhead : Spans 0 ("SELECT COUNT(*) FROM (SELECT " ++ q.selectList) :=
      Spans.after ⟨rfl, rfl⟩ (spans_selectList hq)
    exact (hhead.after hfrom).before ⟨rfl, rfl⟩
  · exact Spans.after ⟨rfl, rfl⟩ hfrom

/-! ### Statements -/

theorem surplus_of_spans {n k : Nat} {sql : String} (h : Spans n sql)
    (hbinds : q.binds.length = n + k) : q.Surplus k ⟨sql, q.binds⟩ := by
  refine ⟨rfl, ?_⟩
  rw [Statement.placeholders, h.count]
  exact hbinds

/-- **The parameters of statements that read.**  A SELECT has a parameter for each of its
placeholders, also as a page; a count has one more for each placeholder of the supplement.  The
parameters are the bound values in their order, and what succeeds has run its statement. -/
theorem reading_parameters (q : Query) (s : Session) (hq : q.PlainNames)
    (hwhere : ClosesQuotes q.whereClause) (hsupplement : ClosesQuotes q.supplement)
    (hbinds : q.binds.length = q.conditionPlaceholders + q.supplementPlaceholders) :
    (∀ actions, Session.RunsOnly (q.Surplus 0) s (q.withCursor s q.selectSql actions).2.2 ∧
        (Session.isOk (q.withCursor s q.selectSql actions).1 = true →
          s.Ran (q.withCursor s q.selectSql actions).2.2 ⟨q.selectSql, q.binds⟩)) ∧
      (Session.RunsOnly (q.Surplus q.supplementPlaceholders) s (q.count s).2.2 ∧
        (Session.isOk (q.count s).1 = true → s.Ran (q.count s).2.2 ⟨q.countSql, q.binds⟩)) ∧
      ∀ known offset size,
        Session.RunsOnly (fun st => q.Surplus 0 st ∨
            known = none ∧ st.sql = q.countSql ∧ q.Surplus q.supplementPlaceholders st)
          s (q.selectPage s known offset size).2.2 ∧
        (Session.isOk (q.selectPage s known offset size).1 = true →
          s.Ran (q.selectPage s known offset size).2.2
            ⟨(q.page offset size).selectSql, q.binds⟩) := by
  have hselect : q.Surplus 0 ⟨q.selectSql, q.binds⟩ :=
    surplus_of_spans (spans_selectSql hq hwhere hsupplement) hbinds
  have hcount : q.Surplus q.supplementPlaceholders ⟨q.countSql, q.binds⟩ :=
    surplus_of_spans (spans_countSql hq hwhere) hbinds
  refine ⟨fun actions => ⟨q.runsOnly_withCursor s actions hselect, ran_withCursor⟩,
    ⟨q.runsOnly_count s hcount, ran_count⟩, ?_⟩
  intro known offset size
  -- the names and clauses of a page are those of the query
  have hpage : Spans (q.conditionPlaceholders + q.supplementPlaceholders)
      (q.page offset size).selectSql :=
    spans_selectSql (q := q.page offset size) ⟨hq.table, hq.joins, hq.columns⟩ hwhere hsupplement
  refine ⟨q.runsOnly_selectPage s known offset size ?_ ?_, ran_selectPage⟩
  · intro hknown
    exact .inr ⟨hknown, rfl, hcount⟩
  · exact .inl (surplus_of_spans hpage hbinds)

/-- The rich players with those of a name first, and never more than ten of them. -/
theorem reading_parameters_of_players :
    let q : Query :=
      { onConnection ⟨0, .scripted, .sqlite⟩ "players" .json none with
        distinct := true
        columns := [("name", .plain "nick" .other)]
        whereClause := some "chips >= ? AND note <> 'who?'"
        supplement := some "ORDER BY nick = ? DESC"
        binds := [.int 5, .text "ann"]
        limit := some 10 }
    let s := Session.start ⟨.sqlite, 1, fun _ _ => false, fun _ => none⟩ []
    (q.PlainNames ∧ ClosesQuotes q.whereClause ∧ ClosesQuotes q.supplement ∧
        q.binds.length = q.conditionPlaceholders + q.supplementPlaceholders) ∧
      s.Ran (q.withCursor s q.selectSql []).2.2 ⟨q.selectSql, q.binds⟩ ∧
      q.Surplus 0 ⟨q.selectSql, q.binds⟩ := by
  intro q s
  have hq : q.PlainNames := ⟨by decide, by decide, by decide⟩
  have hwhere : ClosesQuotes q.whereClause := by
    rintro _ ⟨⟩
    rfl
  have hsupplement : ClosesQuotes q.supplement := by
    rintro _ ⟨⟩
    rfl
  have hbinds : q.binds.length = q.conditionPlaceholders + q.supplementPlaceholders := rfl
  obtain ⟨honly, hran⟩ := (reading_parameters q s hq hwhere hsupplement hbinds).1 []
  exact ⟨⟨hq, hwhere, hsupplement, hbinds⟩, hran rfl, (hran rfl).of_runsOnly honly⟩

/-- Counting the rich players binds the name too, for which the statement has no placeholder. -/
theorem count_with_surplus :
    let q : Query :=
      { onConnection ⟨0, .scripted, .generic⟩ "players" .json none with
        whereClause := some "chips >= ?"
        supplement := some "ORDER BY name = ? DESC"
        binds := [.int 5, .text "ann"] }
    let s := Session.start ⟨.generic, 1, fun _ _ => false, fun _ => none⟩
      [⟨["COUNT(*)"], [[.long 3]]⟩]
    let st : Statement := ⟨"SELECT COUNT(*) FROM players WHERE chips >= ?", [.int 5, .text "ann"]⟩
    (q.PlainNames ∧ ClosesQuotes q.whereClause ∧ ClosesQuotes q.supplement ∧
        q.binds.length = q.conditionPlaceholders + q.supplementPlaceholders) ∧
      s.Ran (q.count s).2.2 st ∧ st.params.length = 2 ∧ st.placeholders = 1 := by
  intro q s st
  refine ⟨⟨⟨by decide, by decide, by decide⟩, ?_, ?_, rfl⟩, ?_, rfl, by decide⟩
  · rintro _ ⟨⟩
    rfl
  · rintro _ ⟨⟩
    rfl
  · have hran : s.Ran (q.count s).2.2 ⟨q.countSql, q.binds⟩ := ran_count rfl
    exact hran

end SqlAccess.Query
