/-
Values for columns that the database fills in.

Callers may put what they like into a row: an insertion and an update read it only at the
properties of the columns that callers fill in.  `Query.generated_values_ignored` says so of
two runs: rows that agree at these properties (`Query.AgreeOn`) give the same answer, the same
query and the same session, in whose history all statements stand with their parameters.
-/
import SqlAccess.Query.Operation

namespace SqlAccess

/-- What a row gives for a property.  A null value counts as none. -/
def Row.given? (values : Row) (property : String) : Option Value :=
  (values.get? property).filter fun v => !v.isNull

namespace Query

/-- Two rows give the same for the columns that callers fill in. -/
def AgreeOn (q : Query) (values values' : Row) : Prop :=
  ∀ property c, (property, c) ∈ q.columns → c.isGenerated = false →
    Row.given? values property = Row.given? values' property

theorem columnParam_eq_given? (m : Marshaller) (values : Row) (property : String) (c : Column) :
    columnParam m values property c =
      match Row.given? values property with
      | some v => c.type.toSql m v
      | none => .ok c.type.nullValue := by
  rw [columnParam, Row.given?]
  cases values.get? property with
  | none => rfl
  | some v =>
    cases hnull : v.isNull with
    | true => simp [Option.filter, hnull]
    | false => simp [Option.filter, hnull]

theorem mapM_congr {α β : Type} {f g : α → Result β} {xs : List α}
    (h : ∀ x ∈ xs, f x = g x) : xs.mapM f = xs.mapM g := by
  induction xs with
  | nil => rfl
  | cons x xs ih =>
    rw [List.mapM_cons, List.mapM_cons, h x List.mem_cons_self,
      ih fun y hy => h y (List.mem_cons_of_mem x hy)]

variable {q : Query} {values values' : Row}

/-- The parameters of an insertion or an update are those of the columns that callers fill in,
and so is the first error among their conversions. -/
theorem AgreeOn.columnParams (h : q.AgreeOn values values') :
    q.columnParams values = q.columnParams values' := by
  refine mapM_congr ?_
  rintro ⟨property, c⟩ he
  obtain ⟨hmem, hbound⟩ := List.mem_filter.1 he
  have hgenerated : c.isGenerated = false := by simpa using hbound
  -- a conversion sees no more of the row than what it gives for the property
  show columnParam q.marshaller values property c = columnParam q.marshaller values' property c
  rw [columnParam_eq_given?, columnParam_eq_given?, h property c hmem hgenerated]

theorem AgreeOn.insert (h : q.AgreeOn values values') (s : Session) :
    q.insert s values = q.insert s values' := by
  rw [Query.insert, Query.insert, insertion, insertion, h.columnParams]

theorem AgreeOn.update (h : q.AgreeOn values values') (s : Session) :
    q.update s values = q.update s values' := by
  rw [Query.update, Query.update, modification, modification, h.columnParams]

/-- A value for no property of a column that callers fill in changes nothing for these. -/
theorem agreeOn_insert {property : String}
    (hproperty : ∀ c, (property, c) ∈ q.columns → c.isGenerated = true) (values : Row)
    (v : Value) : q.AgreeOn (Dict.insert values property v) values := by
  intro property' c hmem hgenerated
  have hne : property' ≠ property := by
    rintro rfl
    rw [hproperty c hmem] at hgenerated
    cases hgenerated
  rw [Row.given?, Row.given?, Dict.get?_insert, if_neg hne]

/-- **Values for generated columns are ignored.**  Rows that agree on the columns that callers fill
in have the same effect, so a value for any other key has none. -/
theorem generated_values_ignored (q : Query) (s : Session) :
    (∀ values values' : Row, q.AgreeOn values values' →
        q.insert s values = q.insert s values' ∧ q.update s values = q.update s values') ∧
      ∀ (values : Row) (property : String) (v : Value),
        (∀ c, (property, c) ∈ q.columns → c.isGenerated = true) →
          q.insert s (Dict.insert values property v) = q.insert s values ∧
            q.update s (Dict.insert values property v) = q.update s values := by
  constructor
  · intro values values' h
    exact ⟨h.insert s, h.update s⟩
  · intro values property v hproperty
    have h := agreeOn_insert hproperty values v
    exact ⟨h.insert s, h.update s⟩

/-- Bytes for the sequence, a stray key and a null value make no difference to the guest. -/
theorem generated_values_ignored_of_guest :
    let q := ((onConnection ⟨0, .scripted, .postgres⟩ "guests" .json none).addColumn "id"
      ⟨"id", .integer, true, false, false⟩).addColumn "name" (.plain "full_name" .other)
    let s := Session.start ⟨.postgres, 1, fun _ _ => false, fun _ => none⟩ []
    let values : Row := .ofList [("id", .bytes [0]), ("name", .null), ("nickname", .text "ann")]
    q.AgreeOn values ∅ ∧ q.insert s values = q.insert s ∅ := by
  intro q s values
  have hagree : q.AgreeOn values ∅ := by
    intro property c hmem hgenerated
    have hcolumns : q.columns =
        [("id", ⟨"id", .integer, true, false, false⟩), ("name", .plain "full_name" .other)] := rfl
    rw [hcolumns, List.mem_cons, List.mem_singleton] at hmem
    rcases hmem with hid | hname
    · cases hid
      cases hgenerated
    · cases hname
      rfl
  exact ⟨hagree, ((generated_values_ignored q s).1 values ∅ hagree).1⟩

end Query

end SqlAccess
