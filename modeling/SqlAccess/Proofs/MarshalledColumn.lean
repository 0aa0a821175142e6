/-
Objects in columns of text.

A column of objects stores compact JSON and reads it back.  `Marshaller.json_loses_nothing`
says that nothing is lost on the way: every object comes back that is not nested too deeply
and has no number that JSON text does not keep, every other value that can be stored comes
back as the JSON scalar that it stands for, and bytes and instants, which stand for none, are
refused.
-/
import SqlAccess.Column.Conversion
import SqlAccess.Proofs.JsonText

namespace SqlAccess.Marshaller

/-- A column of objects stores the value as a text that is not empty, and reads this text as
the object. -/
def Keeps (m : Marshaller) (v : Value) (o : Json) : Prop :=
  ∃ s, s ≠ "" ∧ ColumnType.toSql m .marshalled v = .ok (.text s) ∧
    ColumnType.fromSql m .marshalled (.text s) = .ok (some (.object o))

/-- A text that is not empty is read as an object. -/
theorem fromSql_marshalled_text (m : Marshaller) {s : String} (hs : s ≠ "") :
    ColumnType.fromSql m .marshalled (.text s) = (m.demarshal s).map (some ∘ .object) := by
  have hempty : s.isEmpty = false := by
    rw [Bool.eq_false_iff]
    exact fun h => hs (String.isEmpty_iff.1 h)
  simp only [ColumnType.fromSql, Value.isNull, hempty]
  rfl

theorem compact_ne_empty {j : Json} (hj : j.Readable) : j.compact ≠ "" := by
  obtain ⟨c, cs, hprint, -, -⟩ := Json.exists_print_eq_cons hj
  intro hempty
  have hlist : j.print = [] := by
    rw [← String.toList_ofList (l := j.print)]
    exact congrArg String.toList hempty
  rw [hprint] at hlist
  cases hlist

/-- A value is kept if the text of the object that it stands for reads back. -/
theorem json_keeps {v : Value} {j : Json} (hv : v.toObject? = some j) (hj : j.Readable)
    (hdepth : j.depth ≤ Json.depthLimit) : json.Keeps v j.sorted := by
  have hnull : v.isNull = false := by
    cases v with
    | null => cases hv
    | _ => rfl
  have hread : json.demarshal j.compact = .ok j.sorted := by
    show ofJsonText j.compact = .ok j.sorted
    rw [ofJsonText, Json.parse?_compact hj hdepth]
  have hne := compact_ne_empty hj
  refine ⟨j.compact, hne, ?_, ?_⟩
  · simp only [ColumnType.toSql, hnull, hv]
    rfl
  · rw [fromSql_marshalled_text json hne, hread]
    rfl

/-- What is refused stands for no object. -/
theorem toSql_json_eq_error (v : Value) (e : Error) :
    ColumnType.toSql json .marshalled v = .error e ↔
      ((∃ content, v = .bytes content) ∨ ∃ t, v = .instant t) ∧
        e = .typeMismatch "object" v.typeName := by
  have hrefused : ∀ w : Value, w.isNull = false → w.toObject? = none →
      ColumnType.toSql json .marshalled w = .error (.typeMismatch "object" w.typeName) := by
    intro w hnull hw
    simp only [ColumnType.toSql, hnull, hw]
    rfl
  cases v with
  | bytes content =>
    rw [hrefused _ rfl rfl]
    simp [eq_comm]
  | instant t =>
    rw [hrefused _ rfl rfl]
    simp [eq_comm]
  | _ =>
    constructor
    · intro h
      cases h
    · rintro ⟨⟨_, h⟩ | ⟨_, h⟩, -⟩ <;> cases h

/-- Whatever fits 64 bits with a sign is an integer in JSON. -/
theorem isWide_of_bounds {n : Int} (hlow : -2 ^ 63 ≤ n) (hhigh : n < 2 ^ 63) : Json.IsWide n := by
  have hmin : Int64.minValue.toInt = -9223372036854775808 := rfl
  have hsize : UInt64.size = 18446744073709551616 := rfl
  rw [Json.IsWide]
  omega

/-- **A column of objects loses nothing.**  What it stores comes back with the fields of objects
in the order of their keys, in which a normal object has them already. -/
theorem json_loses_nothing :
    (∀ o : Json, o.Readable → o.depth ≤ Json.depthLimit →
        json.Keeps (.object o) o.sorted ∧ (o.Normal → json.Keeps (.object o) o)) ∧
      (∀ s, json.Keeps (.text s) (.text s)) ∧
      (∀ b, json.Keeps (.flag b) (.flag b)) ∧
      (∀ n : Int32, json.Keeps (.int n) (.integer n.toInt)) ∧
      (∀ n : Int64, json.Keeps (.long n) (.integer n.toInt)) ∧
      (∀ x : FiniteDouble, x.ReadsBack → json.Keeps (.double (.finite x)) (.real x)) ∧
      ∀ v e, ColumnType.toSql json .marshalled v = .error e ↔
        ((∃ content, v = .bytes content) ∨ ∃ t, v = .instant t) ∧
          e = .typeMismatch "object" v.typeName := by
  -- a scalar is not nested at all, and has no fields to sort
  have hscalar : ∀ {v : Value} {j : Json}, v.toObject? = some j → j.Readable → j.depth = 0 →
      j.sorted = j → json.Keeps v j := by
    intro v j hv hj hdepth hsorted
    have hkeeps := json_keeps hv hj (by omega)
    rwa [hsorted] at hkeeps
  refine ⟨?_, ?_, ?_, ?_, ?_, ?_, toSql_json_eq_error⟩
  · intro o ho hdepth
    have hkeeps := json_keeps (v := .object o) rfl ho hdepth
    refine ⟨hkeeps, fun hnormal => ?_⟩
    rwa [Json.sorted_of_normal hnormal] at hkeeps
  · intro s
    exact hscalar rfl (by simp [Json.Readable]) (by simp [Json.depth]) (by simp [Json.sorted])
  · intro b
    exact hscalar rfl (by simp [Json.Readable]) (by simp [Json.depth]) (by simp [Json.sorted])
  · intro n
    have hlow := n.le_toInt
    have hhigh := n.toInt_lt
    have hwide : Json.IsWide n.toInt := isWide_of_bounds (by omega) (by omega)
    exact hscalar rfl (by simp [Json.Readable, hwide]) (by simp [Json.depth])
      (by simp [Json.sorted])
  · intro n
    have hwide : Json.IsWide n.toInt := isWide_of_bounds n.le_toInt n.toInt_lt
    exact hscalar rfl (by simp [Json.Readable, hwide]) (by simp [Json.depth])
      (by simp [Json.sorted])
  · intro x hx
    exact hscalar rfl (by simpa [Json.Readable] using hx) (by simp [Json.depth])
      (by simp [Json.sorted])

/-- A hand of cards with the least and the greatest integer, a negative zero, a tenth, an escaped
text, an empty object and the null value, and with fields out of order. -/
theorem json_loses_nothing_of_hand :
    let tenth : FiniteDouble := ⟨false, ⟨0x3fb999999999999a, by decide⟩⟩
    let pot := Json.array [.integer (-0x8000000000000000), .integer 0xffffffffffffffff,
      .real (.zero true), .real tenth]
    let hand := Json.object [("seat", .text "\x01\"a\\\n"), ("pot", pot), ("blind", .object []),
      ("ante", .null)]
    (hand.Readable ∧ hand.depth ≤ Json.depthLimit ∧ tenth.ReadsBack) ∧
      json.Keeps (.object hand) (.object [("ante", .null), ("blind", .object []), ("pot", pot),
        ("seat", .text "\x01\"a\\\n")]) ∧
      json.Keeps (.double (.finite tenth)) (.real tenth) := by
  intro tenth pot hand
  have htenth : tenth.ReadsBack := by decide +kernel
  have hzero : (FiniteDouble.zero true).ReadsBack := by decide +kernel
  have hreadable : hand.Readable := by
    simp [hand, pot, Json.Readable, Json.ReadableItems, Json.ReadableFields, htenth, hzero]
    decide
  have hdepth : hand.depth ≤ Json.depthLimit := by
    simp [hand, pot, Json.depth, Json.depthItems, Json.depthFields, Json.depthLimit]
  have hsorted : hand.sorted = .object [("ante", .null), ("blind", .object []), ("pot", pot),
      ("seat", .text "\x01\"a\\\n")] := by
    simp only [hand, pot, Json.sorted, Json.sortedItems, Json.putFields]
    rfl
  obtain ⟨hobjects, -, -, -, -, hdoubles, -⟩ := json_loses_nothing
  refine ⟨⟨hreadable, hdepth, htenth⟩, ?_, hdoubles tenth htenth⟩
  rw [← hsorted]
  exact (hobjects hand hreadable hdepth).1

end SqlAccess.Marshaller
