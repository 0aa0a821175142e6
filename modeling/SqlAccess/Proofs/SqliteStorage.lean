/-
Values that went through an SQLite database read like values that did not.

SQLite has fewer kinds of cells than there are values: flags and integers come back
as 64-bit integers, instants as texts.  The types of the columns make up for it.  A
value that was bound for a column and stored is read by the column as the bound value
itself would be (`Sqlite.fromSql_storedBy`), for all columns but two: a column of flags
leaves alone what is no flag, and an untyped column leaves alone everything.

All that is asked of SQLite is that it hands back what is no real number as it was
bound (`Sqlite.Keeps`).  The small database of `Sqlite.OneTable` does: what connections
store in its table they load again (`Sqlite.OneTable.load_filled`).
-/
import SqlAccess.Column.Conversion
import SqlAccess.Proofs.InstantText
import SqlAccess.Sqlite.OneTable

namespace SqlAccess.Sqlite

/-- The storage hands back integers, texts, blobs and nulls as they were bound. -/
def Keeps (keep : Cell → Cell) : Prop :=
  ∀ c, (∀ x, c ≠ .real x) → keep c = c

theorem keeps_kept : Keeps Cell.kept := by
  intro c hc
  cases c with
  | real x => exact absurd rfl (hc x)
  | null => rfl
  | integer n => rfl
  | text content => rfl
  | blob content => rfl

/-- The value that comes back from a storage after a value was bound. -/
def storedBy (keep : Cell → Cell) (v : Value) : Value := (keep (Cell.ofValue v)).toValue

section Keeps

variable {keep : Cell → Cell} (hkeep : Keeps keep)
include hkeep

theorem storedBy_null : storedBy keep .null = .null := by
  rw [storedBy, Cell.ofValue, hkeep _ fun _ => Cell.noConfusion]
  rfl

theorem storedBy_flag (b : Bool) : storedBy keep (.flag b) = .long (if b then 1 else 0) := by
  rw [storedBy, Cell.ofValue, hkeep _ fun _ => Cell.noConfusion]
  rfl

theorem storedBy_int (n : Int32) : storedBy keep (.int n) = .long n.toInt64 := by
  rw [storedBy, Cell.ofValue, hkeep _ fun _ => Cell.noConfusion]
  rfl

theorem storedBy_long (n : Int64) : storedBy keep (.long n) = .long n := by
  rw [storedBy, Cell.ofValue, hkeep _ fun _ => Cell.noConfusion]
  rfl

theorem storedBy_text (s : String) : storedBy keep (.text s) = .text s := by
  rw [storedBy, Cell.ofValue, hkeep _ fun _ => Cell.noConfusion, Cell.toValue, Text.ofUtf8?_utf8]

theorem storedBy_bytes (content : List UInt8) :
    storedBy keep (.bytes content) = .bytes content := by
  rw [storedBy, Cell.ofValue, hkeep _ fun _ => Cell.noConfusion]
  rfl

theorem storedBy_instant (t : Instant) : storedBy keep (.instant t) = .text t.sql := by
  rw [storedBy, Cell.ofValue, hkeep _ fun _ => Cell.noConfusion, Cell.toValue, Text.ofUtf8?_utf8]

end Keeps

/-! ### What is bound for a column -/

/-- The one kind of value, apart from the null value, that a typed column binds. -/
inductive Native : ColumnType → Value → Prop where
  | bytes (content : List UInt8) : Native .binary (.bytes content)
  | instant (t : Instant) : Native .timestamp (.instant t)
  | int (n : Int32) : Native .integer (.int n)
  | text (s : String) : Native .marshalled (.text s)

theorem native_or_null {m : Marshaller} {type : ColumnType} {v w : Value}
    (hboolean : type ≠ .boolean) (hother : type ≠ .other) (h : type.toSql m v = .ok w) :
    v.isNull = true ∧ w = .null ∨ Native type w := by
  unfold ColumnType.toSql at h
  by_cases hnull : v.isNull = true
  · rw [if_pos hnull] at h
    cases h
    exact .inl ⟨hnull, rfl⟩
  · rw [if_neg hnull] at h
    refine .inr ?_
    cases type with
    | binary =>
      simp only at h
      split at h
      · cases h
        exact .bytes _
      · cases h
    | timestamp =>
      -- integers are bound as the instants that they count the milliseconds of
      simp only at h
      split at h
      · cases h
        exact .instant _
      · split at h <;> cases h
        exact .instant _
      · split at h <;> cases h
        exact .instant _
      · cases h
    | integer =>
      -- whatever can be read as a long is cut down to 32 bits
      rw [Value.narrow?] at h
      cases hn : v.asLong? with
      | none =>
        rw [hn] at h
        cases h
      | some n =>
        rw [hn] at h
        cases h
        exact .int _
    | marshalled =>
      simp only at h
      split at h
      · next j _ =>
        cases hm : m.marshal j with
        | ok s =>
          rw [hm] at h
          cases h
          exact .text _
        | error e =>
          rw [hm] at h
          cases h
      · cases h
    | boolean => exact absurd rfl hboolean
    | other => exact absurd rfl hother

theorem toSql_boolean {m : Marshaller} {v w : Value}
    (h : ColumnType.toSql m .boolean v = .ok w) : w = v := by
  unfold ColumnType.toSql at h
  split at h
  · next hnull =>
    cases h
    cases v <;> first | rfl | cases hnull
  · cases h
    rfl

/-! ### Reading what was stored -/

/-- Widening an integer does not make it zero. -/
theorem toInt64_bne_zero (n : Int32) : (n.toInt64 != 0) = (n != 0) := by
  have hiff : n.toInt64 = 0 ↔ n = 0 := by
    rw [← Int64.toInt_inj, ← Int32.toInt_inj, Int32.toInt_toInt64]
    rfl
  rw [Bool.eq_iff_iff, bne_iff_ne, bne_iff_ne, Ne, Ne, hiff]

/-- A typed column reads what it has bound after it was stored as it reads the bound value. -/
theorem fromSql_storedBy_native {keep : Cell → Cell} (hkeep : Keeps keep) (m : Marshaller)
    {type : ColumnType} {w : Value} (h : Native type w) :
    type.fromSql m (storedBy keep w) = type.fromSql m w := by
  cases h with
  | bytes content => rw [storedBy_bytes hkeep]
  | instant t =>
    rw [storedBy_instant hkeep]
    simp only [ColumnType.fromSql, Value.isNull, Bool.false_eq_true, if_false,
      Instant.asEpochMillis?_sql]
    rfl
  | int n =>
    rw [storedBy_int hkeep]
    simp [ColumnType.fromSql, Value.isNull, Value.narrow?, Value.asLong?]
  | text s => rw [storedBy_text hkeep]

/-- What a typed column has bound it can read, unless a marshaller has a say in it. -/
theorem exists_fromSql_native (m : Marshaller) {type : ColumnType} {w : Value}
    (h : Native type w) (hm : type ≠ .marshalled) : ∃ r, type.fromSql m w = .ok (some r) := by
  cases h with
  | bytes content => exact ⟨_, rfl⟩
  | instant t => exact ⟨_, rfl⟩
  | int n => exact ⟨_, rfl⟩
  | text s => exact absurd rfl hm

/-- The columns, and for a column of flags the values, that the storage is transparent to. -/
inductive Transparent : ColumnType → Value → Prop where
  | binary (v : Value) : Transparent .binary v
  | timestamp (v : Value) : Transparent .timestamp v
  | integer (v : Value) : Transparent .integer v
  | marshalled (v : Value) : Transparent .marshalled v
  | null : Transparent .boolean .null
  | flag (b : Bool) : Transparent .boolean (.flag b)
  | int (n : Int32) : Transparent .boolean (.int n)
  | long (n : Int64) : Transparent .boolean (.long n)
  | text (s : String) : Transparent .boolean (.text s)

/-- A column of flags reads a stored flag, number or text as it reads the value itself. -/
theorem fromSql_storedBy_boolean {keep : Cell → Cell} (hkeep : Keeps keep) (m : Marshaller)
    {v : Value} (h : Transparent .boolean v) :
    ColumnType.fromSql m .boolean (storedBy keep v) = ColumnType.fromSql m .boolean v := by
  cases h with
  | null => rw [storedBy_null hkeep]
  | flag b =>
    rw [storedBy_flag hkeep]
    cases b <;> rfl
  | int n =>
    rw [storedBy_int hkeep]
    simp [ColumnType.fromSql, Value.isNull, Value.asBool?, toInt64_bne_zero]
  | long n => rw [storedBy_long hkeep]
  | text s => rw [storedBy_text hkeep]

/-- **Storage is transparent.**  What a column has bound it reads after it was stored as if
it had not been, errors included; and what a column of bytes, instants or integers has
accepted it can read, so that no value other than the null value is lost. -/
theorem fromSql_storedBy {keep : Cell → Cell} (hkeep : Keeps keep) (m : Marshaller)
    {type : ColumnType} {v w : Value} (h : Transparent type v) (hw : type.toSql m v = .ok w) :
    type.fromSql m (storedBy keep w) = type.fromSql m w ∧
      (type = .binary ∨ type = .timestamp ∨ type = .integer →
        ∃ r, type.fromSql m (storedBy keep w) = .ok r ∧ (v.isNull = false → r.isSome = true)) := by
  by_cases htype : type = .boolean
  · subst htype
    rw [toSql_boolean hw]
    refine ⟨fromSql_storedBy_boolean hkeep m h, ?_⟩
    rintro (h | h | h) <;> cases h
  · have hother : type ≠ .other := by
      rintro rfl
      cases h
    rcases native_or_null htype hother hw with ⟨hnull, rfl⟩ | hnative
    · rw [storedBy_null hkeep]
      refine ⟨rfl, fun _ => ⟨none, rfl, fun hv => ?_⟩⟩
      rw [hnull] at hv
      cases hv
    · have hsame := fromSql_storedBy_native hkeep m hnative
      refine ⟨hsame, fun htyped => ?_⟩
      have hm : type ≠ .marshalled := by
        rintro rfl
        rcases htyped with h | h | h <;> cases h
      obtain ⟨r, hr⟩ := exists_fromSql_native m hnative hm
      exact ⟨some r, hsame.trans hr, fun _ => rfl⟩

/-- Milliseconds of the year -1, through the cells of SQLite. -/
theorem fromSql_stored_negative_year :
    Keeps Cell.kept ∧
      ∃ t : Instant, t.date.year = -1 ∧
        ColumnType.toSql .json .timestamp (.long (-62167219200001)) = .ok (.instant t) ∧
        ColumnType.fromSql .json .timestamp (stored (.instant t)) =
          ColumnType.fromSql .json .timestamp (.instant t) := by
  have hw : ColumnType.toSql .json .timestamp (.long (-62167219200001)) =
      .ok (.instant ⟨-62167219201, 999000000, by decide⟩) := rfl
  exact ⟨keeps_kept, _, by decide, hw,
    (fromSql_storedBy keeps_kept .json (.timestamp _) hw).1⟩

/-! ### Through a database -/

namespace OneTable

variable {e : Engine} {past : List Request} {c : Command} {cells : List Cell}

theorem parsed_eq (st : Statement) (he : e.store = some ⟨answers, past⟩)
    (hc : command? (after past) st.sql = some c) :
    e.parsed st = .ok (⟨answers, past⟩, c.labels) := by
  have hprepare : Store.prepare ⟨answers, past⟩ st.sql = .ok c.labels := by
    show Store.answer ((command? (after past) st.sql).map (·.labels)) = .ok c.labels
    rw [hc]
    rfl
  have hstore : e.store? = .ok ⟨answers, past⟩ := by rw [Engine.store?, he]
  rw [Engine.parsed, hstore]
  simp only [bind, Except.bind, hprepare]
  rfl

/-- A statement without columns does to the table what it does when it is run on it. -/
theorem update_eq (st : Statement) (he : e.store = some ⟨answers, past⟩)
    (hc : command? (after past) st.sql = some c) (hlabels : c.labels = []) {out : Outcome}
    (hrun : run (after past) c (st.params.map Cell.ofValue) = some out) :
    ∃ past', e.update st = (.ok out.affected, ⟨some ⟨answers, past'⟩⟩) ∧
      after past' = out.table := by
  let request := Request.execute st.sql (st.params.map Cell.ofValue)
  have hrespond : respond (after past) request = some out := by
    rw [respond, hc, Option.bind_eq_bind, Option.bind_some, if_pos hlabels, hrun]
  refine ⟨request :: past, ?_, ?_⟩
  · rw [Engine.update, parsed_eq st he hc]
    simp only [Store.execute, Store.answer, answers]
    rw [hrespond]
    rfl
  · show ((respond (after past) request).map (·.table)).getD (after past) = out.table
    rw [hrespond]
    rfl

/-- The connection is to the database, whose table has some cells. -/
def Holds (e : Engine) (cells : List Cell) : Prop :=
  ∃ past, e.store = some ⟨answers, past⟩ ∧ after past = some cells

theorem Holds.store (h : Holds e cells) (v : Value) :
    Holds (e.update ⟨Command.store.sql, [v]⟩).2 (cells ++ [(Cell.ofValue v).kept]) := by
  obtain ⟨past, he, hcells⟩ := h
  have hc : command? (after past) Command.store.sql = some .store := by
    rw [hcells]
    rfl
  have hrun : run (after past) .store [Cell.ofValue v] =
      some ⟨1, [], some (cells ++ [(Cell.ofValue v).kept])⟩ := by
    rw [hcells]
    rfl
  obtain ⟨past', hupdate, hafter⟩ := update_eq ⟨Command.store.sql, [v]⟩ he hc rfl hrun
  exact ⟨past', by rw [hupdate], hafter⟩

theorem Holds.load (h : Holds e cells) :
    (e.query ⟨Command.load.sql, []⟩).1 = .ok ⟨["v"], cells.map fun c => [c.toValue]⟩ := by
  obtain ⟨past, he, hcells⟩ := h
  have hc : command? (after past) Command.load.sql = some .load := by
    rw [hcells]
    rfl
  have hrun : respond (after past) (.query Command.load.sql []) =
      some ⟨0, cells.map ([·]), some cells⟩ := by
    rw [hcells]
    rfl
  rw [Engine.query, parsed_eq ⟨Command.load.sql, []⟩ he hc]
  simp only [Store.query, Store.answer, answers, List.map_nil, hrun, Option.map_some]
  show Except.ok (ResultSet.mk ["v"] ((cells.map ([·])).map (·.map Cell.toValue))) = _
  rw [List.map_map]
  rfl

theorem Holds.storeAll (vs : List Value) (h : Holds e cells) :
    Holds (vs.foldl (fun e v => (e.update ⟨Command.store.sql, [v]⟩).2) e)
      (cells ++ vs.map fun v => (Cell.ofValue v).kept) := by
  induction vs generalizing e cells with
  | nil => rwa [List.map_nil, List.append_nil]
  | cons v vs ih =>
    have hrest := ih (h.store v)
    rwa [List.append_assoc] at hrest

/-- The connection after the table was made and values were stored in it, one by one. -/
def filled (e : Engine) (vs : List Value) : Engine :=
  vs.foldl (fun e v => (e.update ⟨Command.store.sql, [v]⟩).2)
    (e.update ⟨Command.create.sql, []⟩).2

/-- What was stored in a new database is loaded, in its order, as the values that come back from
cells. -/
theorem load_filled (url : String) (vs : List Value) :
    ∃ e, openUrl (fun _ => some answers) url = .ok e ∧
      ((filled e vs).query ⟨Command.load.sql, []⟩).1 = .ok ⟨["v"], vs.map fun v => [stored v]⟩ := by
  refine ⟨⟨some ⟨answers, [.execute foreignKeys []]⟩⟩, rfl, ?_⟩
  have hmade : Holds (Engine.update ⟨some ⟨answers, [.execute foreignKeys []]⟩⟩
      ⟨Command.create.sql, []⟩).2 [] := ⟨_, rfl, rfl⟩
  rw [filled, (hmade.storeAll vs).load, List.nil_append, List.map_map]
  rfl

end OneTable

end SqlAccess.Sqlite
