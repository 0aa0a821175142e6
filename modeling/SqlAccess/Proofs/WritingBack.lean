/-
Writing back what was read.

Drivers return cells as they like: dates as texts, integers that are too wide, flags as words.
Reading turns them into the variant in which a column of the type has its values
(`ColumnType.Own`), and a value of this variant is written and read again without a change
(`ColumnType.writesBack_of_own`).  So writing back a row that was read changes nothing more
(`ColumnType.reading_writes_back`).

Only a leap second in the last second of the calendar is lost.  It is read as a number of
milliseconds that no other instant has, and that number is out of range.
-/
import SqlAccess.Proofs.EpochMillis
import SqlAccess.Proofs.MarshalledColumn

namespace SqlAccess

/-- The marshaller stores the object as a text that is not empty, and reads this text as the
object. -/
def Marshaller.Restores (m : Marshaller) (j : Json) : Prop :=
  ∃ s, s ≠ "" ∧ m.marshal j = .ok s ∧ m.demarshal s = .ok j

/-- A leap second in the last second of the calendar. -/
def Instant.IsLastLeap (t : Instant) : Prop := t.seconds = lastSecond ∧ 1000000000 ≤ t.nanos

/-- All other instants have milliseconds that can be bound. -/
theorem Instant.isMillis_epochMillis {t : Instant} : IsMillis t.epochMillis ↔ ¬ t.IsLastLeap := by
  obtain ⟨hfirst, hlast, hnanos, -⟩ := t.inRange
  rw [isMillis_iff, IsLastLeap, epochMillis]
  simp only [firstSecond, lastSecond] at hfirst hlast ⊢
  omega

namespace ColumnType

/-- The value is of the variant in which a column of the type has its values. -/
def Own : ColumnType → Value → Prop
  | .binary, .bytes _ => True
  | .timestamp, .long _ => True
  | .integer, .int _ => True
  | .boolean, .flag _ => True
  | .marshalled, .object _ => True
  | .other, _ => True
  | _, _ => False

/-- The value is bound, and what was bound is read as the value. -/
def WritesBack (m : Marshaller) (type : ColumnType) (v : Value) : Prop :=
  ∃ w, toSql m type v = .ok w ∧ fromSql m type w = .ok (some v)

variable {m : Marshaller} {type : ColumnType} {r v : Value}

/-! ### Writing -/

theorem writesBack_int (m : Marshaller) (n : Int32) : WritesBack m .integer (.int n) :=
  ⟨.int n, toSql_integer_int m n, fromSql_integer_int m n⟩

theorem writesBack_long {n : Int64} (h : Instant.IsMillis n.toInt) :
    WritesBack m .timestamp (.long n) := by
  obtain ⟨t, hbound, hread⟩ := keepsMillis_long (m := m) h
  exact ⟨_, hbound, hread⟩

theorem writesBack_object {j : Json} (h : m.Restores j) : WritesBack m .marshalled (.object j) := by
  obtain ⟨s, hs, hmarshal, hdemarshal⟩ := h
  have hbound : toSql m .marshalled (.object j) = (m.marshal j).map .text := rfl
  refine ⟨.text s, ?_, ?_⟩
  · rw [hbound, hmarshal]
    rfl
  · rw [Marshaller.fromSql_marshalled_text m hs, hdemarshal]
    rfl

theorem writesBack_other (m : Marshaller) (h : v.isNull = false) : WritesBack m .other v := by
  refine ⟨v, ?_, ?_⟩
  · simp only [toSql, h]
    rfl
  · simp only [fromSql, h]
    rfl

/-- A value that a column has of its own is written back, if its milliseconds are those of an
instant or its object is restored. -/
theorem writesBack_of_own (hnull : v.isNull = false) (hown : type.Own v)
    (hmillis : type = .timestamp → ∀ n, v = .long n → Instant.IsMillis n.toInt)
    (hobject : type = .marshalled → ∀ j, v = .object j → m.Restores j) :
    WritesBack m type v := by
  cases type with
  | binary =>
    cases v with
    | bytes content => exact ⟨.bytes content, rfl, rfl⟩
    | _ => cases hown
  | timestamp =>
    cases v with
    | long n => exact writesBack_long (hmillis rfl n rfl)
    | _ => cases hown
  | integer =>
    cases v with
    | int n => exact writesBack_int m n
    | _ => cases hown
  | boolean =>
    cases v with
    | flag b => exact ⟨.flag b, rfl, rfl⟩
    | _ => cases hown
  | marshalled =>
    cases v with
    | object j => exact writesBack_object (hobject rfl j rfl)
    | _ => cases hown
  | other => exact writesBack_other m hnull

/-! ### Reading -/

/-- A null value is never read: a cell without a value leaves the row as it is. -/
theorem not_isNull_of_fromSql (h : fromSql m type r = .ok (some v)) (hown : type.Own v) :
    v.isNull = false := by
  cases v with
  | null =>
    -- only a column of anything could hold the null value, and it reads cells as they are
    cases type with
    | other =>
      rw [fromSql] at h
      split at h
      · cases h
      · next hraw =>
        cases h
        exact absurd rfl hraw
    | _ => cases hown
  | _ => rfl

/-- A column of instants reads an instant, in milliseconds. -/
theorem fromSql_timestamp_eq_ok (h : fromSql m .timestamp r = .ok (some v)) :
    ∃ t, r.asInstant? = some t ∧ v = .long (Int64.ofInt t.epochMillis) := by
  rw [fromSql] at h
  split at h
  · cases h
  · rw [Value.asEpochMillis?] at h
    cases hread : r.asInstant? with
    | some t =>
      rw [hread] at h
      cases h
      exact ⟨t, rfl, rfl⟩
    | none =>
      rw [hread] at h
      cases h

/-- **What was read is written back.**  If a cell is read as a value of the variant that its column
has, then this value is bound, and what was bound is read as the same value again.  A leap second
in the last second of the calendar is the only exception: what was read is then out of range. -/
theorem reading_writes_back (h : fromSql m type r = .ok (some v)) (hown : type.Own v)
    (hobject : type = .marshalled → ∀ j, v = .object j → m.Restores j) :
    let lost := type = .timestamp ∧ ∃ t, r.asInstant? = some t ∧ t.IsLastLeap
    (¬ lost → ∃ w, toSql m type v = .ok w ∧ fromSql m type w = .ok (some v)) ∧
      (lost → toSql m type v = .error (.typeMismatch "timestamp" "out of range")) := by
  intro lost
  refine ⟨fun hkept => ?_, ?_⟩
  · have hmillis : type = .timestamp → ∀ n, v = .long n → Instant.IsMillis n.toInt := by
      rintro rfl n rfl
      obtain ⟨t, ht, hn⟩ := fromSql_timestamp_eq_ok h
      cases hn
      rw [Instant.toInt_ofInt_epochMillis, Instant.isMillis_epochMillis]
      exact fun hleap => hkept ⟨rfl, t, ht, hleap⟩
    exact writesBack_of_own (not_isNull_of_fromSql h hown) hown hmillis hobject
  · rintro ⟨rfl, t, ht, hleap⟩
    obtain ⟨t', ht', rfl⟩ := fromSql_timestamp_eq_ok h
    cases ht'.symm.trans ht
    rw [toSql_timestamp_long, Instant.toInt_ofInt_epochMillis]
    exact boundMillis_of_not_isMillis fun hmillis => Instant.isMillis_epochMillis.1 hmillis hleap

/-- A name that was stored as JSON is written back; the last leap second is read and then
refused. -/
theorem reading_writes_back_of_name :
    let name := Json.text "ann"
    let leap : Instant := ⟨lastSecond, 1000000000, by decide⟩
    (fromSql .json .marshalled (.text name.compact) = .ok (some (.object name)) ∧
        ∃ w, toSql .json .marshalled (.object name) = .ok w ∧
          fromSql .json .marshalled w = .ok (some (.object name))) ∧
      fromSql .json .timestamp (.instant leap) = .ok (some (.long 8210266876800000)) ∧
      toSql .json .timestamp (.long 8210266876800000) =
        .error (.typeMismatch "timestamp" "out of range") := by
  intro name leap
  have hname : name.Readable := by simp [name, Json.Readable]
  have hread : Json.parse? name.compact = some name := by
    rw [Json.parse?_compact hname (by simp [name, Json.depth])]
    simp [name, Json.sorted]
  have hrestores : Marshaller.json.Restores name := by
    refine ⟨name.compact, Marshaller.compact_ne_empty hname, rfl, ?_⟩
    simp only [Marshaller.json, Marshaller.ofJsonText, hread]
  have hstored : fromSql .json .marshalled (.text name.compact) = .ok (some (.object name)) := by
    obtain ⟨s, hs, hmarshal, hdemarshal⟩ := hrestores
    cases hmarshal
    rw [Marshaller.fromSql_marshalled_text _ hs, hdemarshal]
    rfl
  have hmillis : Int64.ofInt leap.epochMillis = 8210266876800000 := by decide
  have hleap := hmillis ▸ fromSql_timestamp_instant .json leap
  refine ⟨⟨hstored, ?_⟩, hleap, ?_⟩
  · refine (reading_writes_back hstored trivial fun _ j hj => ?_).1 fun hlost => by cases hlost.1
    cases hj
    exact hrestores
  · exact (reading_writes_back hleap trivial fun htype => by cases htype).2
      ⟨rfl, leap, rfl, rfl, Nat.le_refl _⟩

end ColumnType

end SqlAccess
