/-
What SQL text keeps of dates and timestamps. A date is kept whole, whatever
its year: its text is read back. A timestamp is kept down to the second that
is written; in a leap second that is the one after its own. The fraction is
left out. So two timestamps have the same text exactly when date, hour, minute
and written second are the same (`Timestamp.write_eq_iff`): the leap second
that ends a minute is a second of its own, and any other is written like the
second that follows.

The text of a timestamp is a date and three numbers, with a mark behind each
but the last. Dates and numbers are read back with any text behind them on
which digits end, so the parts can be taken off one after the other.
-/
import QueryText.Proofs.Calendar.ReadBack
import QueryText.Proofs.Lexical.Quoted

namespace QueryText

open Text

namespace Date

variable {rest rest' : List Char}

/-- What is written for two dates and for what stands behind them tells both. -/
theorem write_append_inj {d e : Date} (hrest : EndsRun rest) (hrest' : EndsRun rest')
    (h : d.write ++ rest = e.write ++ rest') : d = e ∧ rest = rest' := by
  have hread := d.readFrom_write hrest
  rw [h, e.readFrom_write hrest'] at hread
  obtain ⟨rfl, rfl⟩ := Prod.mk.inj (Option.some.inj hread)
  exact ⟨rfl, rfl⟩

/-- The same for two numbers of two digits. -/
theorem padded_append_inj {m n : Nat} (hm : m < 100) (hn : n < 100) (hrest : EndsRun rest)
    (hrest' : EndsRun rest') (h : padded 2 m ++ rest = padded 2 n ++ rest') :
    m = n ∧ rest = rest' := by
  have hread := readNumber_two hm hrest
  rw [h, readNumber_two hn hrest'] at hread
  obtain ⟨rfl, rfl⟩ := Prod.mk.inj (Option.some.inj hread)
  exact ⟨rfl, rfl⟩

/-- Different dates are written differently. -/
theorem write_injective {d e : Date} (h : d.write = e.write) : d = e := by
  have happend : d.write ++ [] = e.write ++ [] := by rw [h]
  exact (write_append_inj endsRun_nil endsRun_nil happend).1

end Date

namespace Timestamp

variable {t u : Timestamp}

/-- Two clocks show the same exactly when hour, minute and second are shown
alike. -/
theorem writeClock_eq_iff :
    t.writeClock = u.writeClock
      ↔ t.hour = u.hour ∧ t.minute = u.minute ∧ t.shownSecond = u.shownSecond := by
  constructor
  · intro h
    obtain ⟨hthour, htminute, _, _⟩ := t.isTime
    obtain ⟨huhour, huminute, _, _⟩ := u.isTime
    have htsecond := t.shownSecond_le
    have husecond := u.shownSecond_le
    have hcolon : ∀ s, EndsRun (':' :: s) := endsRun_cons (by decide)
    simp only [writeClock, List.append_assoc, List.cons_append] at h
    obtain ⟨hhour, h⟩ :=
      Date.padded_append_inj (by omega) (by omega) (hcolon _) (hcolon _) h
    obtain ⟨hminute, h⟩ :=
      Date.padded_append_inj (by omega) (by omega) (hcolon _) (hcolon _) (List.cons.inj h).2
    have hlast : padded 2 t.shownSecond ++ [] = padded 2 u.shownSecond ++ [] := by
      rw [(List.cons.inj h).2]
    obtain ⟨hsecond, -⟩ :=
      Date.padded_append_inj (by omega) (by omega) endsRun_nil endsRun_nil hlast
    exact ⟨hhour, hminute, hsecond⟩
  · intro h
    obtain ⟨hhour, hminute, hsecond⟩ := h
    rw [writeClock, writeClock, hhour, hminute, hsecond]

/-- Two timestamps have the same text exactly when date, hour, minute and the
written second are the same. -/
theorem write_eq_iff :
    t.write = u.write
      ↔ t.date = u.date ∧ t.hour = u.hour ∧ t.minute = u.minute
        ∧ t.shownSecond = u.shownSecond := by
  rw [← writeClock_eq_iff]
  constructor
  · intro h
    have hblank : ∀ s, EndsRun (' ' :: s) := endsRun_cons (by decide)
    obtain ⟨hdate, h⟩ := Date.write_append_inj (hblank _) (hblank _) h
    exact ⟨hdate, (List.cons.inj h).2⟩
  · intro h
    obtain ⟨hdate, hclock⟩ := h
    rw [write, write, hdate, hclock]

end Timestamp

namespace Quoter

-- ============================================================= the quoting

/-- A column of dates, of text or of unknown values, or no column at all. -/
def TakesDates (column : Option Column) : Prop :=
  ∀ c ∈ column, c.logicalType.isNumeric = false ∧ c.logicalType ≠ .bool

variable {column : Option Column}

/-- Dates are written as text where they are not refused. -/
theorem value_date (q : Quoter) (h : TakesDates column) (d : Date) :
    q.value (.date d) column = .ok (q.string (String.ofList d.write)) := by
  cases column with
  | none => rfl
  | some c =>
      obtain ⟨hnumeric, hbool⟩ := h c rfl
      simp [value, hnumeric, hbool, Literal.bare]

theorem value_timestamp (q : Quoter) (h : TakesDates column) (t : Timestamp) :
    q.value (.timestamp t) column = .ok (q.string (String.ofList t.write)) := by
  cases column with
  | none => rfl
  | some c =>
      obtain ⟨hnumeric, hbool⟩ := h c rfl
      simp [value, hnumeric, hbool, Literal.bare]

/-- In a column that takes dates every date and every timestamp is written.
Different dates are written differently. Two timestamps are written alike
exactly when date, hour, minute and the written second are the same. That is
the second, or the one after it in a leap second; what is behind it is not
written. -/
theorem dates_told_apart (q : Quoter) (h : TakesDates column) :
    (∀ d e : Date, ∃ a b, q.value (.date d) column = .ok a ∧ q.value (.date e) column = .ok b
        ∧ (a = b ↔ d = e))
      ∧ ∀ t u : Timestamp, ∃ a b, q.value (.timestamp t) column = .ok a
        ∧ q.value (.timestamp u) column = .ok b
        ∧ (a = b ↔ t.date = u.date ∧ t.hour = u.hour ∧ t.minute = u.minute
          ∧ t.shownSecond = u.shownSecond) := by
  have hstring : ∀ a b : List Char,
      q.string (String.ofList a) = q.string (String.ofList b) ↔ a = b := by
    intro a b
    exact ⟨fun hab => String.ofList_injective (string_injective hab), fun hab => hab ▸ rfl⟩
  constructor
  · intro d e
    refine ⟨_, _, q.value_date h d, q.value_date h e, (hstring _ _).trans ?_⟩
    exact ⟨Date.write_injective, fun hde => hde ▸ rfl⟩
  · intro t u
    refine ⟨_, _, q.value_timestamp h t, q.value_timestamp h u, (hstring _ _).trans ?_⟩
    exact Timestamp.write_eq_iff

/-- A day that ends with a leap second. -/
private def longDay : Date := ⟨2015, 6, 30, by decide⟩

/-- The end of the last second before its leap second. -/
private def lastSecond : Timestamp := ⟨longDay, 23, 59, 59, 999999999, by decide⟩

private def leapSecond : Timestamp := ⟨longDay, 23, 59, 59, 1000000000, by decide⟩

/-- The same time on the last day that dates cover. -/
private def lastOfAll : Timestamp :=
  ⟨⟨262142, 12, 31, by decide⟩, 23, 59, 59, 1000000000, by decide⟩

/-- A leap second in the middle of a minute, where no clock has had one. -/
private def oddLeapSecond : Timestamp := ⟨longDay, 1, 2, 3, 1000000007, by decide⟩

private def nextSecond : Timestamp := ⟨longDay, 1, 2, 4, 0, by decide⟩

/-- A nanosecond apart, but in another second; the same time of day, but with
another year; and two seconds that are written alike. -/
theorem dates_told_apart_leap_second :
    ∃ a b c d e, TakesDates (some ⟨"at", .timestamp⟩)
      ∧ (ofDialect .mysql).value (.timestamp lastSecond) (some ⟨"at", .timestamp⟩) = .ok a
      ∧ (ofDialect .mysql).value (.timestamp leapSecond) (some ⟨"at", .timestamp⟩) = .ok b
      ∧ (ofDialect .mysql).value (.timestamp lastOfAll) (some ⟨"at", .timestamp⟩) = .ok c
      ∧ (ofDialect .mysql).value (.timestamp oddLeapSecond) (some ⟨"at", .timestamp⟩) = .ok d
      ∧ (ofDialect .mysql).value (.timestamp nextSecond) (some ⟨"at", .timestamp⟩) = .ok e
      ∧ a ≠ b ∧ b ≠ c ∧ d = e := by
  have htakes : TakesDates (some ⟨"at", .timestamp⟩) := by
    rintro c ⟨⟩
    decide
  obtain ⟨-, htimes⟩ := dates_told_apart (ofDialect .mysql) htakes
  obtain ⟨a, b, ha, hb, hab⟩ := htimes lastSecond leapSecond
  obtain ⟨b', c, hb', hc, hbc⟩ := htimes leapSecond lastOfAll
  obtain ⟨d, e, hd, he, hde⟩ := htimes oddLeapSecond nextSecond
  obtain rfl : b = b' := Except.ok.inj (hb.symm.trans hb')
  exact ⟨a, b, c, d, e, htakes, ha, hb, hc, hd, he, fun h => absurd (hab.mp h) (by decide),
    fun h => absurd (hbc.mp h) (by decide), hde.mpr (by decide)⟩

/-- Five past seven on a morning in March, and some nanoseconds. -/
private def morning (nanosecond : Nat) (h : IsTime 7 5 0 nanosecond) : Timestamp :=
  ⟨⟨2024, 3, 9, by decide⟩, 7, 5, 0, nanosecond, h⟩

/-- Two timestamps half a second apart, different in documents, are one text in
a query. -/
theorem fraction_not_written :
    ∃ t u : Timestamp, t ≠ u
      ∧ Timestamp.read "2024-03-09T07:05:00".toList = some t
      ∧ Timestamp.read "2024-03-09T07:05:00.500".toList = some u
      ∧ (ofConfig {}).value (.timestamp t) none = .ok "'2024-03-09 07:05:00'"
      ∧ (ofConfig {}).value (.timestamp u) none = .ok "'2024-03-09 07:05:00'" := by
  have hwhole : (ofConfig {}).string (Literal.timestamp (morning 0 (by decide))).bare
      = "'2024-03-09 07:05:00'" := by
    decide +kernel
  have hhalf : (ofConfig {}).string (Literal.timestamp (morning 500000000 (by decide))).bare
      = "'2024-03-09 07:05:00'" := by
    decide +kernel
  exact ⟨morning 0 (by decide), morning 500000000 (by decide), by decide, by decide +kernel,
    by decide +kernel, congrArg Except.ok hwhole, congrArg Except.ok hhalf⟩

end Quoter
end QueryText
