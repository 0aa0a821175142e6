/-
The wire form of a value reads back.

What is sent is JSON text, so reading it back rests on `Json.value?_print`; the variant around
the content uses up one of the arrays and objects that may be nested.  Instants are sent as
texts of their own, which are read by a layout of their own.

* `Instant.ofWire?_wire` — every instant comes back to the nanosecond, whatever the sign of its
  year, and leap seconds as leap seconds;
* `Value.deserialize?_field` — a variant comes back as far as its content does;
* `Value.wire_reads_back` — hence every value comes back as the same variant, as long as a
  double in it is kept by JSON text and an object is not nested too deeply.
-/
import SqlAccess.Proofs.InstantText
import SqlAccess.Proofs.MarshalledColumn
import SqlAccess.Value.Wire

namespace SqlAccess

/-! ### Instants -/

namespace Instant

/-- The fraction of a second is read back, whether it has no digits or 3, 6 or 9 of them. -/
theorem fraction?_fractionText {nanos : Nat} (h : nanos < 1000000000) :
    fraction? (fractionText nanos ++ ['Z']) = some (nanos, ['Z']) := by
  have hread : ∀ {width n : Nat}, 0 < width → width ≤ 9 → n < 10 ^ width →
      n * 10 ^ (9 - width) = nanos →
        fraction? ('.' :: Text.padded width n ++ ['Z']) = some (nanos, ['Z']) := by
    intro width n hw hw9 hn hvalue
    rw [List.cons_append, fraction?_padded hw hw9 hn (noDigit_cons rfl), hvalue]
  rw [fractionText]
  split
  · next hzero =>
    subst hzero
    rfl
  split
  · next hmillis => exact hread (by decide) (by decide) (by omega) (by omega)
  split
  · next hmicros => exact hread (by decide) (by decide) (by omega) (by omega)
  · exact hread (by decide) (by decide) (by omega) (by omega)

/-- Blanks may stand before a sign, but none do. -/
theorem char?_trimStart {c : Char} (hc : Text.isBlank c = false) (cs : List Char) :
    char? c (Text.trimStart (c :: cs)) = some cs := by
  rw [Text.trimStart_of_head hc, char?_cons]

/-- The wire form, field by field. -/
theorem wireText_eq (t : Instant) : t.wireText =
    yearText t.date.year ++ '-' :: (Text.padded 2 t.date.month ++ '-' ::
      (Text.padded 2 t.date.day ++ 'T' :: (Text.padded 2 t.clock.1 ++ ':' ::
        (Text.padded 2 t.clock.2.1 ++ ':' :: (Text.padded 2 t.clock.2.2 ++
          (fractionText t.fraction ++ ['Z'])))))) := by
  simp only [wireText, dateText, clockText, List.append_assoc, List.cons_append]

/-- The wire form of an instant is read back to the nanosecond. -/
theorem ofWire?_wire (t : Instant) : ofWire? t.wire = some t := by
  obtain ⟨hmonth, hday⟩ := t.date_fields
  obtain ⟨hhour, hminute, hsecond⟩ := t.clock_fields
  have hfraction : t.fraction < 1000000000 := Nat.mod_lt _ (by decide)
  have hnanos : t.fraction + t.nanos / 1000000000 * 1000000000 = t.nanos := by
    rw [fraction]
    omega
  rw [ofWire?, wire, String.toList_ofList, wireText_eq]
  refine (bind_read (year?_yearText _ (noDigit_cons rfl)) _).trans ?_
  refine (bind_read (char?_trimStart (c := '-') rfl _) _).trans ?_
  refine (bind_read (field?_padded hmonth _) _).trans ?_
  refine (bind_read (char?_trimStart (c := '-') rfl _) _).trans ?_
  refine (bind_read (field?_padded hday _) _).trans ?_
  refine (bind_read (show _ = some _ from rfl) _).trans ?_
  refine (bind_read (field?_padded hhour _) _).trans ?_
  refine (bind_read (char?_trimStart (c := ':') rfl _) _).trans ?_
  refine (bind_read (field?_padded hminute _) _).trans ?_
  refine (bind_read (char?_trimStart (c := ':') rfl _) _).trans ?_
  refine (bind_read (field?_padded hsecond _) _).trans ?_
  refine (bind_read (fraction?_fractionText hfraction) _).trans ?_
  show (LocalTime.toInstant? (t.localTime t.fraction) 0) = some t
  rw [toInstant?_localTime t hfraction, hnanos]
  exact ofSeconds?_eq_some.2 ⟨rfl, rfl⟩

end Instant

/-! ### Values -/

namespace Value

/-- The value is kept by its wire form: a double is finite and comes back from its text, and an
object, whose doubles come back too, leaves room for the variant around it. -/
def Portable : Value → Prop
  | double (.finite x) => x.ReadsBack
  | double _ => False
  | object j => j.Normal ∧ j.Readable ∧ j.depth < Json.depthLimit
  | _ => True

/-- A variant is read back as far as its content is. -/
theorem deserialize?_field (name : String) {content : Json} (hread : content.Readable)
    (hdepth : content.depth < Json.depthLimit) :
    deserialize? (Json.object [(name, content)]).compact = ofField? name content.sorted := by
  have htext : (Json.object [(name, content)]).compact.toList =
      '{' :: (Json.printString name ++ ':' :: (content.print ++ ['}'])) := by
    simp [Json.compact, Json.print, Json.printFields, Json.printMoreFields]
  generalize hcs : Json.printString name ++ ':' :: (content.print ++ ['}']) = cs at htext
  have hblank : Json.skipBlanks cs = cs := by
    rw [← hcs, Json.printString_eq_cons]
    exact Json.skipBlanks_cons (by decide) _
  -- the content is a part of the text, so there is fuel for it
  have hlength : content.print.length ≤ cs.length := by
    rw [← hcs, List.length_append, List.length_cons, List.length_append]
    omega
  have hvalue : Json.value? (2 * cs.length + 1) (Json.depthLimit - 1) (content.print ++ ['}']) =
      some (content.sorted, ['}']) :=
    Json.value?_print hread (by omega) (by omega) (Json.ends_cons (by decide))
  have hfield : Json.field? (2 * cs.length + 2) (Json.depthLimit - 1) (Json.skipBlanks cs) =
      some (name, content.sorted, ['}']) := by
    rw [hblank]
    nth_rewrite 2 [← hcs]
    exact Json.field?_print hread hvalue name
  rw [deserialize?, htext, Json.skipBlanks_cons (by decide)]
  exact Instant.bind_read hfield _

theorem byte?_toNat (b : UInt8) : byte? (.integer b.toNat) = some b := by
  have hb : b.toNat < 256 := b.toNat_lt
  rw [byte?, if_pos (by omega), Int.toNat_natCast, UInt8.ofNat_toNat]

/-- The numbers of bytes are normal, readable, not nested, and read back. -/
theorem byte_items (content : List UInt8) :
    let items : List Json := content.map fun b => .integer b.toNat
    Json.NormalItems items ∧ Json.ReadableItems items ∧ Json.depthItems items = 0 ∧
      items.mapM byte? = some content := by
  intro items
  induction content with
  | nil => exact ⟨trivial, trivial, rfl, rfl⟩
  | cons b content ih =>
    obtain ⟨hnormal, hread, hdepth, hbytes⟩ := ih
    have hb : b.toNat < 256 := b.toNat_lt
    have hwide : Json.IsWide b.toNat := Marshaller.isWide_of_bounds (by omega) (by omega)
    refine ⟨⟨hwide, hnormal⟩, ⟨hwide, hread⟩, ?_, ?_⟩
    · simp [items, Json.depthItems, Json.depth, hdepth]
    · simp [items, byte?_toNat, hbytes]

/-- **The wire form reads back.**  What is sent of a value is read as this value, with the same
variant. -/
theorem wire_reads_back {v : Value} (h : v.Portable) : deserialize? v.serialize = some v := by
  -- a variant is read back if its content is, and if it is made from what the content was
  have hvariant : ∀ {name : String} {content : Json}, v.toWire = .object [(name, content)] →
      content.Normal ∧ content.Readable ∧ content.depth < Json.depthLimit →
        ofField? name content = some v → deserialize? v.serialize = some v := by
    rintro name content hwire ⟨hnormal, hread, hdepth⟩ hfield
    rw [serialize, hwire, deserialize?_field name hread hdepth, Json.sorted_of_normal hnormal]
    exact hfield
  have hlimit : 0 < Json.depthLimit := by decide
  cases v with
  | null => rfl
  | flag b => exact hvariant rfl ⟨trivial, trivial, hlimit⟩ rfl
  | int n =>
    have hlow := n.le_toInt
    have hhigh := n.toInt_lt
    have hwide : Json.IsWide n.toInt := Marshaller.isWide_of_bounds (by omega) (by omega)
    exact hvariant rfl ⟨hwide, hwide, hlimit⟩ (congrArg (Option.map int) (int32?_toInt n))
  | long n =>
    have hwide : Json.IsWide n.toInt := Marshaller.isWide_of_bounds n.le_toInt n.toInt_lt
    exact hvariant rfl ⟨hwide, hwide, hlimit⟩ (congrArg (Option.map long) (int64?_toInt n))
  | double x =>
    cases x with
    | finite x => exact hvariant rfl ⟨trivial, h, hlimit⟩ rfl
    | nan => exact h.elim
    | infinite negative => exact h.elim
  | text s => exact hvariant rfl ⟨trivial, trivial, hlimit⟩ rfl
  | bytes content =>
    obtain ⟨hnormal, hread, hdepth, hbytes⟩ := byte_items content
    refine hvariant rfl ⟨hnormal, hread, ?_⟩ (congrArg (Option.map bytes) hbytes)
    rw [Json.depth, hdepth]
    decide
  | instant t =>
    have hread : ofField? "Timestamp" (.text t.wire) = some (instant t) := by
      rw [ofField?, t.ofWire?_wire]
      rfl
    exact hvariant rfl ⟨trivial, trivial, hlimit⟩ hread
  | object j => exact hvariant rfl h rfl

/-- A leap second with nine digits of fraction, and an object with the greatest integer, a
negative zero and a tenth. -/
theorem wire_reads_back_of_hand :
    let leap : Instant := ⟨1483228799, 1000000001, by decide⟩
    let tenth : FiniteDouble := ⟨false, ⟨0x3fb999999999999a, by decide⟩⟩
    let hand := Json.object [("pot", .array [.integer 0xffffffffffffffff, .real (.zero true),
      .real tenth, .text "\x01\"a\\\n"])]
    (instant leap).serialize = "\x7b\"Timestamp\":\"2016-12-31T23:59:60.000000001Z\"\x7d" ∧
      deserialize? (instant leap).serialize = some (instant leap) ∧
      (object hand).Portable ∧ deserialize? (object hand).serialize = some (object hand) := by
  intro leap tenth hand
  have htenth : tenth.ReadsBack := by decide +kernel
  have hzero : (FiniteDouble.zero true).ReadsBack := by decide +kernel
  have hportable : (object hand).Portable := by
    refine ⟨?_, ?_, ?_⟩
    · simp [hand, Json.Normal, Json.NormalItems, Json.NormalFields, Ascending]
      decide
    · simp [hand, Json.Readable, Json.ReadableItems, Json.ReadableFields, htenth, hzero]
      decide
    · simp [hand, Json.depth, Json.depthItems, Json.depthFields, Json.depthLimit]
  have htext : (instant leap).serialize =
      "\x7b\"Timestamp\":\"2016-12-31T23:59:60.000000001Z\"\x7d" := by decide +kernel
  exact ⟨htext, wire_reads_back trivial, hportable, wire_reads_back hportable⟩

end Value

end SqlAccess
