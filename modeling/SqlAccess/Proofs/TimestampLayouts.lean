/-
The layouts of timestamps never compete.

A text that a layout accepts begins with a date that the lenient reader of dates reads, also if the
layout is RFC 3339 (`Instant.year?_of_digits?`, `Instant.field?_of_digits?`).  So the layouts are
told apart by what stands behind the date: nothing, a time of day behind `T`, a time of day behind
blanks or at once, or a time of day and then an offset.  At most one of them accepts a text
(`Instant.accepts_le_one`), and the order in which they are tried does not matter
(`Instant.findSome?_perm`).

A date and a time of day with a fraction and an offset are read as RFC 3339
(`Instant.rfc3339?_offsetText`): as the instant that the date and the time name at the offset.  The
main statement is `Instant.layouts_never_compete`.
-/
import SqlAccess.Proofs.InstantText

namespace SqlAccess.Instant

variable {cs rest : List Char} {date : Date} {t u : Instant}

/-! ### Fields -/

theorem char?_eq_some {c : Char} : char? c cs = some rest ↔ cs = c :: rest := by
  cases cs with
  | nil => simp [char?]
  | cons d cs =>
    by_cases heq : d = c
    · rw [char?, if_pos heq, heq, Option.some.injEq, List.cons.injEq, and_iff_right rfl]
    · rw [char?, if_neg heq]
      exact iff_of_false (Option.some_ne_none rest).symm fun h => heq (List.cons.inj h).1

/-- Digits that are read stand in front. -/
theorem exists_cons_of_digits? {least most n : Nat} (hleast : 0 < least)
    (h : digits? least most cs = some (n, rest)) : ∃ c cs', cs = c :: cs' ∧ c.isDigit = true := by
  rw [digits?] at h
  split at h
  · next hlength =>
    obtain ⟨c, ds, hds⟩ := List.exists_cons_of_length_pos (Nat.lt_of_lt_of_le hleast hlength)
    cases cs with
    | nil => simp at hds
    | cons d cs =>
      refine ⟨d, cs, rfl, ?_⟩
      by_contra hd
      cases most with
      | zero => simp at hds
      | succ most =>
        rw [List.take_succ_cons, List.takeWhile_cons_of_neg hd] at hds
        cases hds
  · cases h

/-- What is read with more digits asked for is read with fewer. -/
theorem digits?_mono {least least' most : Nat} {r : Nat × List Char} (hle : least' ≤ least)
    (h : digits? least most cs = some r) : digits? least' most cs = some r := by
  rw [digits?] at h ⊢
  split at h
  · next hlength => rw [if_pos (hle.trans hlength)]; exact h
  · cases h

/-- A field of two digits is read by the lenient reader too. -/
theorem field?_of_digits? {n : Nat} (h : digits? 2 2 cs = some (n, rest)) :
    field? cs = some (n, rest) := by
  obtain ⟨c, cs', rfl, hc⟩ := exists_cons_of_digits? (by decide) h
  rw [field?, Text.trimStart_of_head (Text.isBlank_of_isDigit hc)]
  exact digits?_mono (by decide) h

/-- A year of four digits is read by the lenient reader too. -/
theorem year?_of_digits? {n : Nat} (h : digits? 4 4 cs = some (n, rest)) :
    year? cs = some ((n : Int), rest) := by
  obtain ⟨c, cs', rfl, hc⟩ := exists_cons_of_digits? (by decide) h
  rw [year?_of_isDigit hc, digits?_mono (by decide) h]
  rfl

/-- A time of day begins with a digit, and blanks may be in front of that. -/
theorem time?_trimStart_cons {c : Char} (hdigit : c.isDigit = false)
    (hblank : Text.isBlank c = false) : time? date (Text.trimStart (c :: cs)) = none := by
  have hfield : field? (c :: cs) = none := by
    rw [field?, Text.trimStart_of_head hblank]
    cases hread : digits? 1 2 (c :: cs) with
    | none => rfl
    | some r =>
      obtain ⟨d, ds, heq, hd⟩ := exists_cons_of_digits? (by decide) hread
      rw [(List.cons.inj heq).1, hd] at hdigit
      cases hdigit
  rw [Text.trimStart_of_head hblank, time?, hfield]
  rfl

theorem offset?_ne_nil {separator : List Char → Option (List Char)} {r : Int × List Char}
    (h : offset? separator cs = some r) : cs ≠ [] := by
  rintro rfl
  cases h

theorem of_guard {p : Prop} [Decidable p] {done : Unit} (h : (guard p : Option Unit) = some done) :
    p := by
  by_contra hp
  rw [guard, if_neg hp] at h
  cases h

/-- A reader reads one thing and leaves one rest. -/
theorem read_unique {α : Type} {read : Option (α × List Char)} {a b : α} {rest rest' : List Char}
    (h : read = some (a, rest)) (h' : read = some (b, rest')) : a = b ∧ rest = rest' :=
  Prod.mk.inj (Option.some.inj (h.symm.trans h'))

/-! ### What stands behind the date -/

/-- RFC 3339 has a separator behind the date, a digit behind that, and an offset behind the time. -/
theorem of_rfc3339? (h : rfc3339? cs = some t) :
    ∃ date separator c rest time offset, date? cs = some (date, separator :: c :: rest) ∧
      (separator = 'T' ∨ separator = 't' ∨ separator = ' ') ∧ c.isDigit = true ∧
      time? date (c :: rest) = some (time, offset) ∧ offset ≠ [] := by
  obtain ⟨⟨year, _⟩, hyear, h⟩ := Option.bind_eq_some_iff.1 h
  obtain ⟨_, hdash, h⟩ := Option.bind_eq_some_iff.1 h
  obtain ⟨⟨month, _⟩, hmonth, h⟩ := Option.bind_eq_some_iff.1 h
  obtain ⟨_, hdash', h⟩ := Option.bind_eq_some_iff.1 h
  obtain ⟨⟨day, behind⟩, hday, h⟩ := Option.bind_eq_some_iff.1 h
  obtain ⟨_, hseparator, h⟩ := Option.bind_eq_some_iff.1 h
  obtain ⟨⟨hour, _⟩, hhour, h⟩ := Option.bind_eq_some_iff.1 h
  obtain ⟨_, hcolon, h⟩ := Option.bind_eq_some_iff.1 h
  obtain ⟨⟨minute, _⟩, hminute, h⟩ := Option.bind_eq_some_iff.1 h
  obtain ⟨_, hcolon', h⟩ := Option.bind_eq_some_iff.1 h
  obtain ⟨⟨second, _⟩, hsecond, h⟩ := Option.bind_eq_some_iff.1 h
  obtain ⟨⟨nanos, left⟩, hnanos, h⟩ := Option.bind_eq_some_iff.1 h
  obtain ⟨_, hoffset, -⟩ := Option.bind_eq_some_iff.1 h
  obtain ⟨c, rest, rfl, hc⟩ := exists_cons_of_digits? (by decide) hhour
  obtain ⟨separator, hkind, rfl⟩ : ∃ separator, (separator = 'T' ∨ separator = 't' ∨
      separator = ' ') ∧ behind = separator :: c :: rest := by
    simp only [Option.or_eq_some_iff, char?_eq_some] at hseparator
    rcases hseparator with h | ⟨-, h | ⟨-, h⟩⟩
    · exact ⟨_, .inl rfl, h⟩
    · exact ⟨_, .inr (.inl rfl), h⟩
    · exact ⟨_, .inr (.inr rfl), h⟩
  refine ⟨⟨year, month, day⟩, separator, c, rest, ⟨⟨year, month, day⟩, hour, minute, second, nanos⟩,
    left, ?_, hkind, hc, ?_, offset?_ne_nil hoffset⟩
  · simp only [date?, Option.bind_eq_bind, year?_of_digits? hyear, hdash, field?_of_digits? hmonth,
      hdash', field?_of_digits? hday, Option.bind_some, Option.pure_def]
  · simp only [time?, Option.bind_eq_bind, field?_of_digits? hhour, hcolon,
      field?_of_digits? hminute, hcolon', field?_of_digits? hsecond, hnanos, Option.bind_some,
      Option.pure_def]

/-- A time of day stands behind the date, and perhaps blanks before it. -/
theorem of_spaced? (h : spaced? cs = some t) :
    ∃ date rest time, date? cs = some (date, rest) ∧
      time? date (Text.trimStart rest) = some (time, []) := by
  simp only [spaced?, Option.bind_eq_bind, Option.bind_eq_some_iff, Prod.exists] at h
  obtain ⟨date, rest, hdate, time, left, htime, _, hleft, -⟩ := h
  exact ⟨date, rest, time, hdate, of_guard hleft ▸ htime⟩

/-- The letter and a time of day stand behind the date. -/
theorem of_lettered? (h : lettered? cs = some t) :
    ∃ date rest time, date? cs = some (date, 'T' :: rest) ∧ time? date rest = some (time, []) := by
  simp only [lettered?, Option.bind_eq_bind, Option.bind_eq_some_iff, Prod.exists,
    char?_eq_some] at h
  obtain ⟨date, _, hdate, rest, rfl, time, left, htime, _, hleft, -⟩ := h
  exact ⟨date, rest, time, hdate, of_guard hleft ▸ htime⟩

/-- Nothing stands behind the date. -/
theorem of_dateOnly? (h : dateOnly? cs = some t) : ∃ date, date? cs = some (date, []) := by
  simp only [dateOnly?, Option.bind_eq_bind, Option.bind_eq_some_iff, Prod.exists] at h
  obtain ⟨date, rest, hdate, _, hrest, -⟩ := h
  exact ⟨date, of_guard hrest ▸ hdate⟩

/-! ### The layouts exclude each other -/

/-- The offset is left over, or the letter in front of the time is not a blank. -/
theorem not_spaced_of_rfc3339 (h : rfc3339? cs = some t) : spaced? cs ≠ some u := by
  intro hspaced
  obtain ⟨date, separator, c, rest, time, offset, hdate, hkind, hc, htime, hoffset⟩ := of_rfc3339? h
  obtain ⟨date', rest', time', hdate', htime'⟩ := of_spaced? hspaced
  obtain ⟨rfl, rfl⟩ := read_unique hdate' hdate
  rcases hkind with rfl | rfl | rfl
  · cases (time?_trimStart_cons rfl rfl).symm.trans htime'
  · cases (time?_trimStart_cons rfl rfl).symm.trans htime'
  · have htrim : Text.trimStart (' ' :: c :: rest) = c :: rest := by
      rw [Text.trimStart, List.dropWhile_cons_of_pos (by decide)]
      exact Text.trimStart_of_head (Text.isBlank_of_isDigit hc)
    rw [htrim] at htime'
    exact hoffset (read_unique htime htime').2

/-- The offset is left over. -/
theorem not_lettered_of_rfc3339 (h : rfc3339? cs = some t) : lettered? cs ≠ some u := by
  intro hlettered
  obtain ⟨date, separator, c, rest, time, offset, hdate, -, -, htime, hoffset⟩ := of_rfc3339? h
  obtain ⟨date', rest', time', hdate', htime'⟩ := of_lettered? hlettered
  obtain ⟨rfl, hrest⟩ := read_unique hdate' hdate
  obtain ⟨-, rfl⟩ := List.cons.inj hrest
  exact hoffset (read_unique htime htime').2

theorem not_dateOnly_of_rfc3339 (h : rfc3339? cs = some t) : dateOnly? cs ≠ some u := by
  intro hdateOnly
  obtain ⟨date, separator, c, rest, time, offset, hdate, -⟩ := of_rfc3339? h
  obtain ⟨date', hdate'⟩ := of_dateOnly? hdateOnly
  cases hdate'.symm.trans hdate

/-- The letter is no blank. -/
theorem not_lettered_of_spaced (h : spaced? cs = some t) : lettered? cs ≠ some u := by
  intro hlettered
  obtain ⟨date, rest, time, hdate, htime⟩ := of_spaced? h
  obtain ⟨date', rest', time', hdate', -⟩ := of_lettered? hlettered
  obtain ⟨rfl, rfl⟩ := read_unique hdate hdate'
  cases (time?_trimStart_cons rfl rfl).symm.trans htime

theorem not_dateOnly_of_spaced (h : spaced? cs = some t) : dateOnly? cs ≠ some u := by
  intro hdateOnly
  obtain ⟨date, rest, time, hdate, htime⟩ := of_spaced? h
  obtain ⟨date', hdate'⟩ := of_dateOnly? hdateOnly
  obtain ⟨rfl, rfl⟩ := read_unique hdate hdate'
  cases htime

theorem not_dateOnly_of_lettered (h : lettered? cs = some t) : dateOnly? cs ≠ some u := by
  intro hdateOnly
  obtain ⟨date, rest, time, hdate, -⟩ := of_lettered? h
  obtain ⟨date', hdate'⟩ := of_dateOnly? hdateOnly
  cases hdate'.symm.trans hdate

/-- No two layouts have an answer for one text. -/
theorem pairwise_answers (cs : List Char) :
    (layouts.filterMap (· cs)).Pairwise fun _ _ => False := by
  rw [List.pairwise_filterMap]
  simp only [layouts, List.pairwise_cons, List.forall_mem_cons, List.not_mem_nil, false_implies,
    implies_true, List.Pairwise.nil, and_true]
  refine ⟨⟨fun t ht u => ?_, fun t ht u => ?_, fun t ht u => ?_⟩,
    ⟨fun t ht u => ?_, fun t ht u => ?_⟩, fun t ht u => ?_⟩
  · exact not_spaced_of_rfc3339 ht
  · exact not_lettered_of_rfc3339 ht
  · exact not_dateOnly_of_rfc3339 ht
  · exact not_lettered_of_spaced ht
  · exact not_dateOnly_of_spaced ht
  · exact not_dateOnly_of_lettered ht

/-- The answers for a text are none or one. -/
theorem answers_cases (cs : List Char) :
    layouts.filterMap (· cs) = [] ∨ ∃ t, layouts.filterMap (· cs) = [t] := by
  have hpairwise := pairwise_answers cs
  generalize layouts.filterMap (· cs) = answers at hpairwise
  match answers with
  | [] => exact .inl rfl
  | [t] => exact .inr ⟨t, rfl⟩
  | t :: u :: _ => exact absurd List.mem_cons_self ((List.pairwise_cons.1 hpairwise).1 u)

/-- **At most one layout accepts a text.** -/
theorem accepts_le_one (cs : List Char) :
    layouts.countP (fun layout => (layout cs).isSome) ≤ 1 := by
  rw [← List.length_filterMap_eq_countP]
  rcases answers_cases cs with h | ⟨t, h⟩
  · rw [h]
    exact Nat.zero_le 1
  · rw [h]
    exact le_rfl

/-- **The order in which the layouts are tried does not matter.** -/
theorem findSome?_perm {order : List (List Char → Option Instant)} (h : order.Perm layouts)
    (cs : List Char) : order.findSome? (· cs) = layouts.findSome? (· cs) := by
  have hanswers := h.filterMap (· cs)
  rw [← List.head?_filterMap, ← List.head?_filterMap]
  rcases answers_cases cs with hnone | ⟨t, hone⟩
  · rw [hnone] at hanswers ⊢
    rw [List.perm_nil.1 hanswers]
  · rw [hone] at hanswers ⊢
    rw [List.perm_singleton.1 hanswers]

/-! ### Fractions and offsets -/

/-- The digits write a fraction of a second in nanoseconds; those behind the ninth do not count. -/
structure WritesFraction (nanos : Nat) (digits : List Char) : Prop where
  nonempty : digits ≠ []
  isDigit : ∀ c ∈ digits, c.isDigit = true
  value : Text.digitsValue digits * 10 ^ 9 / 10 ^ digits.length = nanos

/-- An offset from UTC of less than a day. -/
structure Offset where
  west : Bool
  hours : Nat
  minutes : Nat
  hours_lt : hours < 24
  minutes_lt : minutes < 60

namespace Offset

/-- The minutes east of UTC. -/
def east (o : Offset) : Int :=
  if o.west then -((o.hours * 60 + o.minutes : Nat) : Int) else (o.hours * 60 + o.minutes : Nat)

/-- The offset with its sign, hours and minutes of two digits. -/
def text (o : Offset) : List Char :=
  (if o.west then '-' else '+') :: (Text.padded 2 o.hours ++ ':' :: Text.padded 2 o.minutes)

end Offset

/-- The RFC 3339 form of a date and a time of day, which are those that an instant shows in UTC,
with digits of a fraction and an offset. -/
def offsetText (t : Instant) (separator : Char) (digits : List Char) (o : Offset) : List Char :=
  t.dateText ++ separator :: (t.clockText ++ '.' :: (digits ++ o.text))

theorem fraction?_of_writes {nanos : Nat} {digits : List Char} (h : WritesFraction nanos digits)
    (hrest : NoDigit rest) : fraction? ('.' :: (digits ++ rest)) = some (nanos, rest) := by
  rw [fraction?_digits h.nonempty h.isDigit hrest, h.value]

theorem Offset.noDigit_text (o : Offset) : NoDigit o.text := by
  rw [Offset.text]
  split <;> exact noDigit_cons rfl

theorem offset?_text (o : Offset) : offset? (char? ':') o.text = some (o.east, []) := by
  obtain ⟨west, hours, minutes, hhours, hminutes⟩ := o
  have hread : offsetMinutes? (char? ':') (Text.padded 2 hours ++ ':' :: Text.padded 2 minutes) =
      some (((hours * 60 + minutes : Nat) : Int), []) := by
    have hlast := digits?_padded_two (show minutes < 100 by omega) []
    rw [List.append_nil] at hlast
    simp only [offsetMinutes?, Option.bind_eq_bind, digits?_padded_two (show hours < 100 by omega),
      Option.bind_some, char?_cons, hlast, guard, if_pos (And.intro hhours hminutes),
      Option.pure_def]
  cases west with
  | false => exact hread
  | true =>
    show (offsetMinutes? (char? ':') _).map _ = _
    rw [hread]
    rfl

theorem Offset.east_range (o : Offset) : -1440 < o.east ∧ o.east < 1440 := by
  have hhours := o.hours_lt
  have hminutes := o.minutes_lt
  rw [Offset.east]
  split <;> omega

/-- Instants whose year has four digits are far from the ends of the range. -/
theorem seconds_of_year (t : Instant) (hyear : 0 ≤ t.date.year ∧ t.date.year ≤ 9999) :
    -100000000000 ≤ t.seconds ∧ t.seconds ≤ 300000000000 := by
  have hday : t.date.dayNumber = t.seconds / 86400 := Date.dayNumber_ofDay t.day
  obtain ⟨hmonth, hmonth', -, -⟩ := Date.valid_ofDay t.day
  have hfields := t.date_fields
  simp only [Date.dayNumber] at hday
  change 1 ≤ t.date.month at hmonth
  change t.date.month ≤ 12 at hmonth'
  split at hday <;> omega

/-- The instant at which clocks that are set to an offset show what another instant shows in UTC. -/
theorem exists_shifted (t : Instant) (hyear : 0 ≤ t.date.year ∧ t.date.year ≤ 9999) (o : Offset) :
    ∃ u, ofSeconds? (t.seconds - o.east * 60) t.nanos = some u := by
  obtain ⟨-, -, hnanos, hleap⟩ := t.inRange
  have hseconds := t.seconds_of_year hyear
  have heast := o.east_range
  -- whole minutes do not move the last second of a minute
  have hrange : InstantInRange (t.seconds - o.east * 60) t.nanos := by
    simp only [InstantInRange, firstSecond, lastSecond]
    exact ⟨by omega, by omega, hnanos, fun h => by have := hleap h; omega⟩
  exact ⟨⟨_, _, hrange⟩, ofSeconds?_eq_some.2 ⟨rfl, rfl⟩⟩

/-- RFC 3339 reads its own form. -/
theorem rfc3339?_offsetText (hyear : 0 ≤ t.date.year ∧ t.date.year ≤ 9999) {separator : Char}
    (hseparator : separator = 'T' ∨ separator = 't' ∨ separator = ' ') {digits : List Char}
    (hdigits : WritesFraction t.fraction digits) (o : Offset) :
    rfc3339? (t.offsetText separator digits o) =
      ofSeconds? (t.seconds - o.east * 60) t.nanos := by
  have hfraction : t.fraction < 1000000000 := Nat.mod_lt _ (by decide)
  have hnanos : t.fraction + t.nanos / 1000000000 * 1000000000 = t.nanos := by
    rw [fraction]
    omega
  rw [offsetText, rfc3339?_fields t hyear hseparator, fraction?_of_writes hdigits o.noDigit_text,
    Option.bind_eq_bind, Option.bind_some]
  simp only [offset?_text, Option.bind_eq_bind, Option.bind_some, guard_true,
    toInstant?_localTime_at t hfraction, hnanos, Option.pure_def]

theorem trim_offsetText (separator : Char) (digits : List Char) (o : Offset) :
    Text.trim (t.offsetText separator digits o) = t.offsetText separator digits o := by
  have htext : t.offsetText separator digits o = t.dateText ++ (separator :: (t.clockText ++ '.' ::
      (digits ++ (if o.west then '-' else '+') :: (Text.padded 2 o.hours ++ [':'])))) ++
      Text.padded 2 o.minutes := by
    simp only [offsetText, Offset.text, List.append_assoc, List.cons_append, List.nil_append]
  rw [htext]
  exact t.trim_dateText_append _ (Text.padded_ne_nil _ _) fun _ => Text.isDigit_of_mem_padded

theorem parse?_offsetText (hyear : 0 ≤ t.date.year ∧ t.date.year ≤ 9999) {separator : Char}
    (hseparator : separator = 'T' ∨ separator = 't' ∨ separator = ' ') {digits : List Char}
    (hdigits : WritesFraction t.fraction digits) (o : Offset) :
    ∃ u, parse? (String.ofList (t.offsetText separator digits o)) = some u ∧
      u.seconds = t.seconds - o.east * 60 ∧ u.nanos = t.nanos := by
  obtain ⟨u, hu⟩ := t.exists_shifted hyear o
  refine ⟨u, ?_, ofSeconds?_eq_some.1 hu⟩
  rw [parse?, String.toList_ofList, trim_offsetText, layouts, List.findSome?_cons,
    rfc3339?_offsetText hyear hseparator hdigits o, hu]

/-- **The layouts of timestamps never compete.**  At most one of them accepts a text, so that the
answer is the same in whatever order they are tried.  A date of a year of four digits and a time of
day, with a fraction of any number of digits and an offset, are read as the instant that they name
in UTC with the offset taken off. -/
theorem layouts_never_compete :
    (∀ s : String, layouts.countP (fun layout => (layout (Text.trim s.toList)).isSome) ≤ 1 ∧
      ∀ order : List (List Char → Option Instant), order.Perm layouts →
        order.findSome? (· (Text.trim s.toList)) = parse? s) ∧
    ∀ (t : Instant) (separator : Char) (digits : List Char) (o : Offset),
      0 ≤ t.date.year ∧ t.date.year ≤ 9999 →
      separator = 'T' ∨ separator = 't' ∨ separator = ' ' →
      WritesFraction t.fraction digits →
      ∃ u, parse? (String.ofList (t.offsetText separator digits o)) = some u ∧
        u.seconds = t.seconds - o.east * 60 ∧ u.nanos = t.nanos := by
  refine ⟨fun s => ⟨accepts_le_one _, fun order horder => findSome?_perm horder _⟩, ?_⟩
  intro t separator digits o hyear hseparator hdigits
  exact parse?_offsetText hyear hseparator hdigits o

/-- A leap second on the 29th of February, west of UTC, which falls on the 1st of March there; with
twelve digits of fraction. -/
theorem layouts_never_compete_of_leap_second :
    let t : Instant := ⟨1709251199, 1123456789, by decide⟩
    let o : Offset := ⟨true, 5, 30, by decide, by decide⟩
    (0 ≤ t.date.year ∧ t.date.year ≤ 9999) ∧ WritesFraction t.fraction "123456789987".toList ∧
      String.ofList (t.offsetText 't' "123456789987".toList o) =
        "2024-02-29t23:59:60.123456789987-05:30" ∧
      ∃ u, parse? "2024-02-29t23:59:60.123456789987-05:30" = some u ∧
        u.date = ⟨2024, 3, 1⟩ ∧ u.clock = (5, 29, 60) ∧ u.fraction = 123456789 := by
  intro t o
  have hyear : 0 ≤ t.date.year ∧ t.date.year ≤ 9999 := by decide
  have hdigits : WritesFraction t.fraction "123456789987".toList :=
    ⟨by decide, List.all_eq_true.1 rfl, by decide⟩
  obtain ⟨u, hu, hseconds, hnanos⟩ :=
    layouts_never_compete.2 t 't' "123456789987".toList o hyear (.inr (.inl rfl)) hdigits
  have htext : String.ofList (t.offsetText 't' "123456789987".toList o) =
      "2024-02-29t23:59:60.123456789987-05:30" := by decide +kernel
  rw [htext] at hu
  have hshifted : u.seconds = 1709270999 := hseconds.trans (by simp [t, o, Offset.east])
  have hfraction : u.nanos = 1123456789 := hnanos
  refine ⟨hyear, hdigits, htext, u, hu, ?_, ?_, ?_⟩
  · rw [date, day, hshifted]
    rfl
  · rw [clock, secondOfDay, hshifted, hfraction]
    rfl
  · rw [fraction, hfraction]

end SqlAccess.Instant
