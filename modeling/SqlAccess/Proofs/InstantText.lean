/-
The SQL form of an instant reads back.

The SQL form keeps three digits of the fraction of a second, so what comes back is
the instant without the digits behind them (`Instant.truncated`).  This holds for all
instants: for years of any sign and any number of digits, for instants before 1970,
and for leap seconds, which are shown as the second 60.

* `Instant.spaced?_sqlText` — the layout with a space reads the SQL form;
* `Instant.rfc3339?_sqlText` — the layout that is tried before it does not;
* `Instant.sql_reads_back` — hence reading gives the truncated instant, and counting
  its milliseconds gives those of the instant itself.
-/
import SqlAccess.Proofs.Calendar
import SqlAccess.Proofs.Digits
import SqlAccess.Value

namespace SqlAccess.Instant

/-- The instant without the digits behind the milliseconds. -/
def truncated (t : Instant) : Instant where
  seconds := t.seconds
  nanos := t.nanos / 1000000 * 1000000
  inRange := by
    obtain ⟨hfirst, hlast, hnanos, hleap⟩ := t.inRange
    exact ⟨hfirst, hlast, by omega, fun h => hleap (by omega)⟩

@[simp] theorem epochMillis_truncated (t : Instant) : t.truncated.epochMillis = t.epochMillis := by
  simp [epochMillis, truncated]

/-- The milliseconds of an instant fit into 64 bits. -/
theorem toInt_ofInt_epochMillis (t : Instant) :
    (Int64.ofInt t.epochMillis).toInt = t.epochMillis := by
  obtain ⟨hfirst, hlast, hnanos, -⟩ := t.inRange
  simp only [firstSecond, lastSecond] at hfirst hlast
  refine Int64.toInt_ofInt_of_le ?_ ?_
  · simp only [epochMillis]
    omega
  · simp only [epochMillis]
    omega

/-! ### The fields of the text -/

/-- What the text shows of an instant, with a fraction in nanoseconds. -/
def localTime (t : Instant) (nanos : Nat) : LocalTime :=
  ⟨t.date, t.clock.1, t.clock.2.1, t.clock.2.2, nanos⟩

@[simp] theorem localTime_second (t : Instant) (nanos : Nat) :
    (t.localTime nanos).second = t.clock.2.2 := rfl

@[simp] theorem localTime_nanos (t : Instant) (nanos : Nat) :
    (t.localTime nanos).nanos = nanos := rfl

/-- The second that is shown is 60 in a leap second and less than 60 otherwise. -/
theorem second_eq (t : Instant) :
    t.nanos < 1000000000 ∧ t.clock.2.2 = t.secondOfDay % 60 ∨
      1000000000 ≤ t.nanos ∧ t.secondOfDay % 60 = 59 ∧ t.clock.2.2 = 60 := by
  obtain ⟨-, -, hnanos, hleap⟩ := t.inRange
  simp only [clock, secondOfDay]
  by_cases h : t.nanos < 1000000000
  · exact .inl ⟨h, by omega⟩
  · have hsecond := hleap (by omega)
    exact .inr ⟨by omega, by omega, by omega⟩

/-- The fields of the text are those of a date and a time of day. -/
theorem valid_localTime (t : Instant) {nanos : Nat} (h : nanos < 1000000000) :
    (t.localTime nanos).Valid := by
  have hsecond := t.second_eq
  refine ⟨Date.valid_ofDay t.day, ?_, ?_, ?_, h⟩
  · simp only [localTime, clock, secondOfDay]
    omega
  · simp only [localTime, clock]
    omega
  · simp only [localTime]
    omega

/-- The fields of the text name the second of the instant. -/
theorem seconds_localTime (t : Instant) (nanos : Nat) :
    (t.localTime nanos).seconds = t.seconds := by
  -- days are counted by the floor, so the second of the day is never negative
  have hday : t.date.dayNumber = t.seconds / 86400 := Date.dayNumber_ofDay t.day
  have hsecond := t.second_eq
  have hof : (t.secondOfDay : Int) = t.seconds % 86400 := by
    simp only [secondOfDay]
    omega
  simp only [LocalTime.seconds, localTime, hday]
  simp only [clock] at hsecond ⊢
  omega

/-- The fields of the text name the instant at the fraction that goes with them, so many minutes
east of UTC. -/
theorem toInstant?_localTime_at (t : Instant) {nanos : Nat} (h : nanos < 1000000000)
    (offset : Int) :
    (t.localTime nanos).toInstant? offset =
      ofSeconds? (t.seconds - offset * 60) (nanos + t.nanos / 1000000000 * 1000000000) := by
  have hsecond := t.second_eq
  have hnanos := t.inRange.2.2.1
  rw [LocalTime.toInstant?, if_pos (t.valid_localTime h), seconds_localTime, localTime_second,
    localTime_nanos]
  -- the second 60 is where the reader adds the leap second again
  rcases hsecond with ⟨hordinary, hsecond⟩ | ⟨hleap, -, hsecond⟩
  · rw [if_neg (by omega), Nat.div_eq_of_lt hordinary, Nat.zero_mul, Nat.add_zero]
  · have hone : t.nanos / 1000000000 = 1 := by omega
    rw [if_pos hsecond, hone, Nat.one_mul]

theorem toInstant?_localTime (t : Instant) {nanos : Nat} (h : nanos < 1000000000) :
    (t.localTime nanos).toInstant? 0 =
      ofSeconds? t.seconds (nanos + t.nanos / 1000000000 * 1000000000) := by
  rw [toInstant?_localTime_at t h, Int.zero_mul, Int.sub_zero]

/-! ### Reading the fields -/

/-- A year that starts with a digit has no sign. -/
theorem year?_of_isDigit {c : Char} {cs : List Char} (h : c.isDigit = true) :
    year? (c :: cs) = (digits? 1 4 (c :: cs)).map fun (n, rest) => ((n : Int), rest) := by
  rw [year?, Text.trimStart_of_head (Text.isBlank_of_isDigit h)]
  split
  · next heq =>
    obtain ⟨rfl, -⟩ := List.cons.inj heq
    cases h
  · next heq =>
    obtain ⟨rfl, -⟩ := List.cons.inj heq
    cases h
  · rfl

/-- A year is read back in front of anything but a digit. -/
theorem year?_yearText (y : Int) {rest : List Char} (hrest : NoDigit rest) :
    year? (yearText y ++ rest) = some (y, rest) := by
  have hdigits : ∀ n, ∀ c ∈ Text.padded 4 n, c.isDigit = true :=
    fun _ _ => Text.isDigit_of_mem_padded
  -- a year with a sign may have any number of digits
  have hsigned : ∀ n, digits? 1 (Text.padded 4 n ++ rest).length (Text.padded 4 n ++ rest) =
      some (n, rest) := by
    intro n
    have hlength := Text.le_length_padded 4 n
    rw [digits?_append rest (hdigits n) (by omega) (by simp) (.inr hrest), Text.digitsValue_padded]
  by_cases hy : 0 ≤ y ∧ y ≤ 9999
  · have hlength : (Text.padded 4 y.toNat).length = 4 :=
      Text.length_padded (by decide) (show y.toNat < 10000 by omega)
    have hvalue : (y.toNat : Int) = y := by omega
    rw [yearText, if_pos hy]
    obtain ⟨c, cs, hcs⟩ := List.exists_cons_of_ne_nil (Text.padded_ne_nil 4 y.toNat)
    have hread := digits?_append rest (hdigits y.toNat) (show 1 ≤ _ by omega) hlength.le
      (.inl hlength)
    rw [Text.digitsValue_padded] at hread
    rw [hcs, List.cons_append] at hread ⊢
    rw [year?_of_isDigit (hdigits y.toNat c (by simp [hcs])), hread]
    simp only [Option.map_some, hvalue]
  · rw [yearText, if_neg hy]
    by_cases hneg : y < 0
    · have hvalue : -(y.natAbs : Int) = y := by omega
      rw [if_pos hneg, List.cons_append, year?, Text.trimStart_of_head (by decide)]
      simp only [hsigned, Option.map_some, hvalue]
    · have hvalue : (y.natAbs : Int) = y := by omega
      rw [if_neg hneg, List.cons_append, year?, Text.trimStart_of_head (by decide)]
      simp only [hsigned, Option.map_some, hvalue]

/-- The month and the day of an instant have two digits. -/
theorem date_fields (t : Instant) : t.date.month < 100 ∧ t.date.day < 100 := by
  obtain ⟨-, hmonth, -, hday⟩ := Date.valid_ofDay t.day
  have hlength : daysInMonth t.date.year t.date.month ≤ 31 := by
    unfold daysInMonth
    split
    · split <;> decide
    all_goals decide
  exact ⟨lt_of_le_of_lt hmonth (by decide), lt_of_le_of_lt (hday.trans hlength) (by decide)⟩

/-- The hour, the minute and the second of an instant have two digits. -/
theorem clock_fields (t : Instant) :
    t.clock.1 < 100 ∧ t.clock.2.1 < 100 ∧ t.clock.2.2 < 100 := by
  obtain ⟨-, hhour, hminute, hsecond, -⟩ := t.valid_localTime (show 0 < 1000000000 by decide)
  exact ⟨lt_trans hhour (by decide), lt_trans hminute (by decide),
    lt_of_le_of_lt hsecond (by decide)⟩

@[simp] theorem char?_cons (c : Char) (cs : List Char) : char? c (c :: cs) = some cs := by
  rw [char?, if_pos rfl]

/-- The date is read back, whatever follows. -/
theorem date?_dateText (t : Instant) (rest : List Char) :
    date? (t.dateText ++ rest) = some (t.date, rest) := by
  obtain ⟨hmonth, hday⟩ := t.date_fields
  simp only [date?, dateText, List.append_assoc, List.cons_append, Option.bind_eq_bind,
    year?_yearText _ (noDigit_cons (c := '-') rfl), Option.bind_some, char?_cons,
    field?_padded hmonth, field?_padded hday, Option.pure_def]

/-- The time of day is read back with the fraction that follows. -/
theorem time?_clockText (t : Instant) {nanos : Nat} {text rest : List Char}
    (h : fraction? text = some (nanos, rest)) :
    time? t.date (t.clockText ++ text) = some (t.localTime nanos, rest) := by
  obtain ⟨hhour, hminute, hsecond⟩ := t.clock_fields
  simp only [time?, clockText, List.append_assoc, List.cons_append, Option.bind_eq_bind,
    Option.bind_some, char?_cons, field?_padded hhour, field?_padded hminute,
    field?_padded hsecond, h, Option.pure_def, localTime]

/-! ### The layouts -/

/-- The milliseconds are read back in nanoseconds. -/
theorem fraction?_millis (t : Instant) :
    fraction? ('.' :: Text.padded 3 (t.fraction / 1000000)) =
      some (t.fraction / 1000000 * 1000000, []) := by
  have hmillis : t.fraction / 1000000 < 10 ^ 3 := by
    simp only [fraction]
    omega
  have h := fraction?_padded (by decide) (by decide) hmillis noDigit_nil
  rwa [List.append_nil] at h

/-- The layout with a space reads the SQL form. -/
theorem spaced?_sqlText (t : Instant) : spaced? t.sqlText = some t.truncated := by
  have hlocal : t.fraction / 1000000 * 1000000 < 1000000000 := by
    simp only [fraction]
    omega
  have hnanos : t.fraction / 1000000 * 1000000 + t.nanos / 1000000000 * 1000000000 =
      t.truncated.nanos := by
    simp only [fraction, truncated]
    omega
  have hclock : Text.trimStart (' ' :: (t.clockText ++ '.' ::
      Text.padded 3 (t.fraction / 1000000))) =
        t.clockText ++ '.' :: Text.padded 3 (t.fraction / 1000000) := by
    rw [Text.trimStart, List.dropWhile_cons_of_pos (by decide), clockText]
    simp only [List.append_assoc]
    exact Text.trimStart_of_isDigit (Text.padded_ne_nil _ _) fun _ => Text.isDigit_of_mem_padded
  simp only [spaced?, sqlText, List.append_assoc, List.cons_append, Option.bind_eq_bind,
    date?_dateText, Option.bind_some, hclock, time?_clockText t t.fraction?_millis, guard_true,
    toInstant?_localTime t hlocal, hnanos]
  exact ofSeconds?_eq_some.2 ⟨rfl, rfl⟩

/-- The layout of RFC 3339 reads the date and the time of day of a year of four digits, and then a
fraction and an offset. -/
theorem rfc3339?_fields (t : Instant) (hyear : 0 ≤ t.date.year ∧ t.date.year ≤ 9999)
    {separator : Char} (hseparator : separator = 'T' ∨ separator = 't' ∨ separator = ' ')
    (text : List Char) :
    rfc3339? (t.dateText ++ separator :: (t.clockText ++ text)) = (do
      let (nanos, rest) ← fraction? text
      let (offset, rest) ← offset? (char? ':') rest
      guard (rest = [])
      (t.localTime nanos).toInstant? offset) := by
  obtain ⟨hmonth, hday⟩ := t.date_fields
  obtain ⟨hhour, hminute, hsecond⟩ := t.clock_fields
  have hyear4 : t.date.year.toNat < 10 ^ 4 := by omega
  have hvalue : (t.date.year.toNat : Int) = t.date.year := by omega
  have hread : ∀ rest : List Char, (char? 'T' (separator :: rest)).or
      ((char? 't' (separator :: rest)).or (char? ' ' (separator :: rest))) = some rest := by
    intro rest
    rcases hseparator with rfl | rfl | rfl <;> rfl
  have htext : t.dateText ++ separator :: (t.clockText ++ text) =
      Text.padded 4 t.date.year.toNat ++ '-' :: (Text.padded 2 t.date.month ++ '-' ::
        (Text.padded 2 t.date.day ++ separator :: (Text.padded 2 t.clock.1 ++ ':' ::
          (Text.padded 2 t.clock.2.1 ++ ':' :: (Text.padded 2 t.clock.2.2 ++ text))))) := by
    simp only [dateText, yearText, if_pos hyear, clockText, List.append_assoc, List.cons_append]
  rw [htext, rfc3339?]
  refine (bind_read (digits?_padded (by decide) hyear4 _) _).trans ?_
  refine (bind_read (char?_cons '-' _) _).trans ?_
  refine (bind_read (digits?_padded_two hmonth _) _).trans ?_
  refine (bind_read (char?_cons '-' _) _).trans ?_
  refine (bind_read (digits?_padded_two hday _) _).trans ?_
  refine (bind_read (hread _) _).trans ?_
  refine (bind_read (digits?_padded_two hhour _) _).trans ?_
  refine (bind_read (char?_cons ':' _) _).trans ?_
  refine (bind_read (digits?_padded_two hminute _) _).trans ?_
  refine (bind_read (char?_cons ':' _) _).trans ?_
  refine (bind_read (digits?_padded_two hsecond _) _).trans ?_
  simp only [hvalue, localTime]

/-- RFC 3339 needs an offset from UTC, which the SQL form does not have. -/
theorem rfc3339?_sqlText (t : Instant) : rfc3339? t.sqlText = none := by
  have htext : t.sqlText = t.dateText ++ ' ' ::
      (t.clockText ++ '.' :: Text.padded 3 (t.fraction / 1000000)) := by
    simp only [sqlText, List.append_assoc, List.cons_append]
  by_cases hyear : 0 ≤ t.date.year ∧ t.date.year ≤ 9999
  · -- all fields are read, and the offset is missing
    rw [htext, rfc3339?_fields t hyear (.inr (.inr rfl)), fraction?_millis]
    rfl
  · -- the sign in front of the year is no digit
    have hsign : ∀ c cs, c.isDigit = false → digits? 4 4 (c :: cs) = none := by
      intro c cs hc
      simp [digits?, hc]
    rw [htext, dateText, yearText, if_neg hyear, List.cons_append, List.cons_append,
      List.cons_append, rfc3339?, hsign _ _ (by split <;> rfl)]
    rfl

/-- A year starts with a character that is no blank. -/
theorem yearText_eq_cons (y : Int) : ∃ c cs, yearText y = c :: cs ∧ Text.isBlank c = false := by
  rw [yearText]
  split
  · obtain ⟨c, cs, hcs⟩ := List.exists_cons_of_ne_nil (Text.padded_ne_nil 4 y.toNat)
    refine ⟨c, cs, hcs, Text.isBlank_of_isDigit ?_⟩
    exact Text.isDigit_of_mem_padded (hcs ▸ List.mem_cons_self)
  · refine ⟨_, _, rfl, ?_⟩
    split <;> decide

/-- A text that begins with a date and ends in digits has no blanks at its ends. -/
theorem trim_dateText_append (t : Instant) (middle : List Char) {digits : List Char}
    (hne : digits ≠ []) (hdigits : ∀ c ∈ digits, c.isDigit = true) :
    Text.trim (t.dateText ++ middle ++ digits) = t.dateText ++ middle ++ digits := by
  refine Text.trim_eq_self ?_ ?_
  · obtain ⟨c, cs, hcs, hc⟩ := yearText_eq_cons t.date.year
    intro d hd
    rw [dateText, hcs] at hd
    cases hd
    exact hc
  · intro c hc
    obtain ⟨init, last, rfl⟩ := (List.eq_nil_or_concat digits).resolve_left hne
    rw [List.concat_eq_append] at hdigits hc
    rw [← List.append_assoc, List.getLast?_concat] at hc
    cases hc
    exact Text.isBlank_of_isDigit (hdigits c List.mem_concat_self)

theorem trim_sqlText (t : Instant) : Text.trim t.sqlText = t.sqlText := by
  have htext : t.sqlText = t.dateText ++ ' ' :: (t.clockText ++ ['.']) ++
      Text.padded 3 (t.fraction / 1000000) := by
    simp only [sqlText, List.append_assoc, List.cons_append, List.nil_append]
  rw [htext]
  exact t.trim_dateText_append _ (Text.padded_ne_nil _ _) fun _ => Text.isDigit_of_mem_padded

/-! ### The round trip -/

theorem parse?_sql (t : Instant) : parse? t.sql = some t.truncated := by
  simp only [parse?, sql, String.toList_ofList, trim_sqlText, layouts, List.findSome?_cons,
    rfc3339?_sqlText, spaced?_sqlText]

theorem asEpochMillis?_sql (t : Instant) :
    (Value.text t.sql).asEpochMillis? = some (Int64.ofInt t.epochMillis) := by
  rw [Value.asEpochMillis?, Value.asInstant?, parse?_sql, Option.map_some, epochMillis_truncated]

/-- **The SQL form of an instant reads back as the instant without the digits behind its
milliseconds**, and the milliseconds counted from the text are those of the instant. -/
theorem sql_reads_back (t : Instant) :
    parse? t.sql = some t.truncated ∧
      ∃ n : Int64, (Value.text t.sql).asEpochMillis? = some n ∧ n.toInt = t.epochMillis :=
  ⟨parse?_sql t, Int64.ofInt t.epochMillis, asEpochMillis?_sql t, toInt_ofInt_epochMillis t⟩

/-- The instants begin with the year -262143. -/
example : (LocalTime.midnight ⟨-262143, 1, 1⟩).seconds = firstSecond := by decide

/-- They end with the year 262142. -/
example : (⟨⟨262142, 12, 31⟩, 23, 59, 59, 0⟩ : LocalTime).seconds = lastSecond := by decide

end SqlAccess.Instant
