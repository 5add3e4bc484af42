/-
What the calendar writes, it reads back: each date, and each timestamp as far
as its text tells it.

The readers of numbers, years and dates hand on what they leave, so they are
looked at with a text behind what was written, one on which a run of digits
ends. A date is then its three numbers, and a timestamp a date, three more
numbers and the fraction.

The text of a leap second tells it only behind second 59. `settled` is the
timestamp that the text of a timestamp stands for. It is the timestamp itself,
but for the leap seconds behind other seconds (`settled_eq_self_iff`).
-/
import QueryText.Calendar.Timestamp
import QueryText.Proofs.Text.Runs

namespace QueryText

open Text

namespace Date

variable {rest : List Char}

-- ============================================================== the numbers

/-- A padded number is read back by a reader of at least its width. -/
theorem readNumber_padded {most width n : Nat} (hlength : (padded width n).length ≤ most)
    (hrest : EndsRun rest) : readNumber most (padded width n ++ rest) = some (n, rest) := by
  have hrun : (padded width n ++ rest).takeWhile isDigit = padded width n := by
    rw [List.takeWhile_append_of_pos fun _ => isDigit_of_mem_padded, hrest.takeWhile,
      List.append_nil]
  have hempty : (padded width n).isEmpty = false := by
    simp [padded_ne_nil]
  simp only [readNumber, trimStart_padded, hrun, List.take_of_length_le hlength, hempty,
    number_padded, List.drop_left, Bool.false_eq_true, ↓reduceIte]

/-- Months, days and the parts of a time of day take two digits. -/
theorem readNumber_two {n : Nat} (hn : n < 100) (hrest : EndsRun rest) :
    readNumber 2 (padded 2 n ++ rest) = some (n, rest) := by
  apply readNumber_padded _ hrest
  exact Nat.le_of_eq (length_padded (by decide) hn)

/-- Behind a sign a number may be as long as it likes. -/
theorem readLongNumber_padded (width n : Nat) (hrest : EndsRun rest) :
    readLongNumber (padded width n ++ rest) = some (n, rest) := by
  have hempty : (padded width n).isEmpty = false := by
    simp [padded_ne_nil]
  simp only [readLongNumber, spanDigits_append (fun _ => isDigit_of_mem_padded) hrest, hempty,
    number_padded, Bool.false_eq_true, ↓reduceIte]

theorem readMark_self {mark : Char} (h : isBlank mark = false) (s : List Char) :
    readMark mark (mark :: s) = some s := by
  simp [readMark, trimStart, h]

-- ================================================================= the year

/-- A year without a sign: what begins with a digit is read as a number of
at most four digits. -/
theorem readYear_digit {c : Char} (hc : isDigit c = true) (s : List Char) :
    readYear (c :: s) = (readNumber 4 (c :: s)).map fun (n, s) => ((n : Int), s) := by
  have hminus : c ≠ '-' := by
    rintro rfl
    exact absurd hc (by decide)
  have hplus : c ≠ '+' := by
    rintro rfl
    exact absurd hc (by decide)
  unfold readYear
  rw [trimStart_digit hc]
  split
  · next heq => exact absurd (List.cons.inj heq).1 hminus
  · next heq => exact absurd (List.cons.inj heq).1 hplus
  · rfl

/-- Years of either sign and of any length are read back. -/
theorem readYear_writeYear (y : Int) (hrest : EndsRun rest) :
    readYear (writeYear y ++ rest) = some (y, rest) := by
  unfold writeYear
  -- Four digits stand alone; all other years have a sign in front.
  split
  · next hy =>
    have hfour : y.natAbs < 10000 := by omega
    have hlength : (padded 4 y.natAbs).length ≤ 4 :=
      Nat.le_of_eq (length_padded (by decide) hfour)
    obtain ⟨c, s, hs, hc⟩ := padded_eq_cons 4 y.natAbs
    have hread := readNumber_padded hlength hrest
    rw [hs, List.cons_append] at hread ⊢
    rw [readYear_digit hc, hread]
    simp only [Option.map_some, Option.some.injEq, Prod.mk.injEq, and_true]
    omega
  · next hy =>
    have hread := readLongNumber_padded 4 y.natAbs hrest
    have hminus : isBlank '-' = false := by decide
    have hplus : isBlank '+' = false := by decide
    by_cases hneg : y < 0
    · simp only [hneg, ↓reduceIte, List.cons_append, readYear, trimStart, List.dropWhile_cons,
        hminus, Bool.false_eq_true, hread, Option.map_some, Option.some.injEq, Prod.mk.injEq,
        and_true]
      omega
    · simp only [hneg, ↓reduceIte, List.cons_append, readYear, trimStart, List.dropWhile_cons,
        hplus, Bool.false_eq_true, hread, Option.map_some, Option.some.injEq, Prod.mk.injEq,
        and_true]
      omega

-- ================================================================= the date

theorem month_lt (d : Date) : d.month < 100 := by
  obtain ⟨_, _, _, hmonth, _, _⟩ := d.isDay
  omega

theorem day_lt (d : Date) : d.day < 100 := by
  obtain ⟨_, _, _, _, _, hday⟩ := d.isDay
  have hmonth : daysInMonth d.year d.month ≤ 31 := by
    unfold daysInMonth
    repeat' split
    all_goals decide
  omega

theorem ofParts?_self (d : Date) : ofParts? d.year d.month d.day = some d := by
  simp [ofParts?, d.isDay]

/-- A date is read back from the start of a text. -/
theorem readFrom_write (d : Date) (hrest : EndsRun rest) :
    readFrom (d.write ++ rest) = some (d, rest) := by
  have hhyphen : ∀ s, EndsRun ('-' :: s) := endsRun_cons (by decide)
  have hblank : isBlank '-' = false := by decide
  simp only [write, List.append_assoc, List.cons_append, readFrom, Option.bind_eq_bind,
    readYear_writeYear d.year (hhyphen _), Option.bind_some, readMark_self hblank,
    readNumber_two d.month_lt (hhyphen _), readNumber_two d.day_lt hrest, ofParts?_self,
    Option.pure_def]

theorem read_write (d : Date) : read d.write = some d := by
  have hread := d.readFrom_write endsRun_nil
  rw [List.append_nil] at hread
  rw [read, hread]
  rfl

end Date

namespace Timestamp

-- ============================================================= the fraction

/-- A fraction of `width` digits counts in units of its last place. -/
theorem readFraction_padded {width n : Nat} (hwidth : 0 < width) (hnine : width ≤ 9)
    (hn : n < tenTo width) :
    readFraction ('.' :: padded width n) = some (n * tenTo (9 - width), []) := by
  have hspan : spanDigits (padded width n) = (padded width n, []) := by
    have happend := spanDigits_append (fun c => isDigit_of_mem_padded) endsRun_nil
      (s := padded width n)
    rwa [List.append_nil] at happend
  have hlength : (padded width n).length = width := length_padded hwidth hn
  have htake : (padded width n).take 9 = padded width n :=
    List.take_of_length_le (by omega)
  have hempty : (padded width n).isEmpty = false := by
    simp [padded_ne_nil]
  simp only [readFraction, hspan, htake, hempty, hlength, number_padded, Bool.false_eq_true,
    ↓reduceIte]

/-- A fraction is read back, in however many digits it is written. -/
theorem readFraction_writeFraction {n : Nat} (hn : n < 1000000000) :
    readFraction (writeFraction n) = some (n, []) := by
  unfold writeFraction
  split
  · next hzero =>
    rw [hzero]
    rfl
  split
  · next hmilli =>
    have hthree : n / 1000000 < 1000 := by omega
    have hvalue : n / 1000000 * tenTo (9 - 3) = n :=
      Nat.div_mul_cancel (Nat.dvd_of_mod_eq_zero hmilli)
    rw [readFraction_padded (by decide) (by decide) hthree, hvalue]
  split
  · next hmicro =>
    have hsix : n / 1000 < 1000000 := by omega
    have hvalue : n / 1000 * tenTo (9 - 6) = n :=
      Nat.div_mul_cancel (Nat.dvd_of_mod_eq_zero hmicro)
    rw [readFraction_padded (by decide) (by decide) hsix, hvalue]
  · have hvalue : n * tenTo (9 - 9) = n := Nat.mul_one n
    rw [readFraction_padded (by decide) (by decide) hn, hvalue]

/-- No fraction goes on with the digits of the seconds. -/
theorem endsRun_writeFraction (n : Nat) : EndsRun (writeFraction n) := by
  have hpoint : isDigit '.' = false := by decide
  unfold writeFraction
  split
  · exact endsRun_nil
  split
  · exact endsRun_cons hpoint _
  split
  · exact endsRun_cons hpoint _
  · exact endsRun_cons hpoint _

-- ========================================================= the leap second

variable (t : Timestamp)

/-- Whether the text of a timestamp tells it. A leap second has to be behind
the last second of a minute. -/
def IsSettled : Prop :=
  t.nanosecond < 1000000000 ∨ t.second = 59

instance : Decidable t.IsSettled := by
  unfold IsSettled
  infer_instance

/-- The timestamp that the text of a timestamp stands for. A leap second in the
middle of a minute is the second that follows. -/
def settled : Timestamp :=
  if h : t.IsSettled then t
  else
    { t with
      second := t.second + 1
      nanosecond := t.nanosecond - 1000000000
      isTime := by
        obtain ⟨hhour, hminute, hsecond, hnanosecond⟩ := t.isTime
        obtain ⟨hleap, hlast⟩ := not_or.mp h
        exact ⟨hhour, hminute, by omega, by omega⟩ }

theorem settled_of_isSettled {t : Timestamp} (h : t.IsSettled) : t.settled = t :=
  dif_pos h

/-- A timestamp is the one that its text stands for exactly when its text tells
it. -/
theorem settled_eq_self_iff : t.settled = t ↔ t.IsSettled := by
  constructor
  · intro heq
    apply Decidable.byContradiction
    intro h
    have hsecond : t.settled.second = t.second + 1 := by rw [settled, dif_neg h]
    rw [heq] at hsecond
    omega
  · exact settled_of_isSettled

/-- Outside of leap seconds what is written is what there is. -/
theorem shown_of_lt {t : Timestamp} (h : t.nanosecond < 1000000000) :
    t.shownSecond = t.second ∧ t.shownNanosecond = t.nanosecond := by
  unfold shownSecond shownNanosecond
  omega

theorem shown_of_le {t : Timestamp} (h : 1000000000 ≤ t.nanosecond) :
    t.shownSecond = t.second + 1 ∧ t.shownNanosecond = t.nanosecond - 1000000000 := by
  obtain ⟨_, _, _, hnanosecond⟩ := t.isTime
  unfold shownSecond shownNanosecond
  omega

theorem shownSecond_le : t.shownSecond ≤ 60 := by
  obtain ⟨_, _, hsecond, hnanosecond⟩ := t.isTime
  unfold shownSecond
  omega

theorem shownNanosecond_lt : t.shownNanosecond < 1000000000 :=
  Nat.mod_lt _ (by decide)

theorem ofParts?_self : ofParts? t.date t.hour t.minute t.second t.nanosecond = some t := by
  simp [ofParts?, t.isTime]

/-- The numbers in the text of a timestamp are read as the settled one. -/
theorem ofShown?_shown :
    ofShown? t.date t.hour t.minute t.shownSecond t.shownNanosecond = some t.settled := by
  obtain ⟨_, _, hsecond, _⟩ := t.isTime
  rw [ofShown?]
  rcases Nat.lt_or_ge t.nanosecond 1000000000 with hn | hleap
  · obtain ⟨hshown, hrest⟩ := shown_of_lt hn
    rw [hshown, hrest, if_neg (by omega), ofParts?_self, settled_of_isSettled (.inl hn)]
  obtain ⟨hshown, hrest⟩ := shown_of_le hleap
  rw [hshown, hrest]
  -- Second 60 is shown only in the leap second behind second 59.
  by_cases hlast : t.second = 59
  · have hcount : 1000000000 + (t.nanosecond - 1000000000) = t.nanosecond := by omega
    rw [if_pos (by omega), hcount, ← hlast, ofParts?_self, settled_of_isSettled (.inr hlast)]
  · have hunsettled : ¬ t.IsSettled := not_or.mpr ⟨Nat.not_lt.mpr hleap, hlast⟩
    rw [if_neg (by omega), settled, dif_neg hunsettled]
    exact dif_pos _

-- ============================================================ the timestamp

/-- Every timestamp is read back as far as its text tells it: with nanoseconds,
and in a leap second. -/
theorem read_writeExact : read t.writeExact = some t.settled := by
  obtain ⟨hhour, hminute, _, _⟩ := t.isTime
  have hcolon : ∀ s, EndsRun (':' :: s) := endsRun_cons (by decide)
  have hT : ∀ s, EndsRun ('T' :: s) := endsRun_cons (by decide)
  have hTblank : isBlank 'T' = false := by decide
  have hblank : isBlank ':' = false := by decide
  have hfraction := endsRun_writeFraction t.shownNanosecond
  simp only [writeExact, writeClock, List.append_assoc, List.cons_append, read,
    Option.bind_eq_bind, t.date.readFrom_write (hT _), Option.bind_some,
    Date.readMark_self hTblank, Date.readMark_self hblank,
    Date.readNumber_two (Nat.lt_trans hhour (by decide)) (hcolon _),
    Date.readNumber_two (Nat.lt_trans hminute (by decide)) (hcolon _),
    Date.readNumber_two (Nat.lt_of_le_of_lt t.shownSecond_le (by decide)) hfraction,
    readFraction_writeFraction t.shownNanosecond_lt, ofShown?_shown]
  rfl

end Timestamp
end QueryText
