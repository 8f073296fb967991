import Foreman.Proofs.Calendar
import Mathlib.Data.List.TakeWhile

/-!
# `Foreman.Proofs.Timestamps` — texts of instants are read back

A text that is read as an instant may have any offset, blanks between its parts, and places after the
ninth. The text that is written for the instant has none of these, and it is read as the same instant.

## Contents
- **Parts of a text**: what each reader makes of a part as it is written, whatever follows.
- **Civil times**: `Civil.read?_text`, a civil time is read back from its text.
- **Instants**: `InRange` is what instants that were read have in common, and `parse?_text`, they are
  read back from their texts.
-/

namespace Foreman

theorem isBlank_of_isDigit {c : Char} (h : c.isDigit = true) : isBlank c = false := by
  have hrange := isDigit_iff.mp h
  simp only [isBlank, Bool.or_eq_false_iff, Bool.and_eq_false_iff, decide_eq_false_iff_not,
    beq_eq_false_iff_ne]
  omega

namespace Timestamp

variable {t : Timestamp} {c : Civil} {cs rest : List Char} {width n : Nat}

/-! ## Parts of a text -/

theorem dropBlanks_padded (width n : Nat) (rest : List Char) :
    dropBlanks ((padded width n).toList ++ rest) = (padded width n).toList ++ rest := by
  obtain ⟨d, ds, h, hd⟩ := padded_eq_cons width n
  rw [h]
  exact dropBlanks_cons_of_not _ (isBlank_of_isDigit hd)

theorem readNumber_padded (hwidth : 0 < width) (h : n < 10 ^ width) (rest : List Char) :
    readNumber width ((padded width n).toList ++ rest) = some (n, rest) := by
  have hlen := length_padded hwidth h
  simp only [readNumber, dropBlanks_padded, List.take_left' hlen, takeWhile_padded, isEmpty_padded,
    digitsValue_padded, List.drop_left, Bool.false_eq_true, if_false]

theorem readMark_cons {mark : Char} (h : isBlank mark = false) (rest : List Char) :
    readMark mark (mark :: rest) = some rest := by
  rw [readMark, dropBlanks_cons_of_not _ h]
  exact if_pos rfl

theorem signed_padded (width n : Nat) (sign : Int) (rest : List Char) :
    readYear.signed ((padded width n).toList ++ '-' :: rest) sign =
      some (sign * n, '-' :: rest) := by
  have hdigits := takeWhile_padded_cons width n (by decide : '-'.isDigit = false) rest
  simp only [readYear.signed, hdigits, isEmpty_padded, digitsValue_padded, List.drop_left,
    Bool.false_eq_true, if_false]

theorem readYear_minus (cs : List Char) : readYear ('-' :: cs) = readYear.signed cs (-1) := by
  rw [readYear, dropBlanks_cons_of_not _ (by decide)]
  rfl

theorem readYear_plus (cs : List Char) : readYear ('+' :: cs) = readYear.signed cs 1 := by
  rw [readYear, dropBlanks_cons_of_not _ (by decide)]
  rfl

theorem readYear_digit {d : Char} (h : d.isDigit = true) (cs : List Char) :
    readYear (d :: cs) = (readNumber 4 (d :: cs)).map fun e => ((e.1 : Int), e.2) := by
  rw [readYear, dropBlanks_cons_of_not _ (isBlank_of_isDigit h)]
  split
  · next heq => cases heq; exact absurd h (by decide)
  · next heq => cases heq; exact absurd h (by decide)
  · rfl

theorem readYear_yearText (y : Int) (rest : List Char) :
    readYear ((yearText y).toList ++ '-' :: rest) = some (y, '-' :: rest) := by
  have hminus : ("-" : String).toList = ['-'] := by decide
  have hplus : ("+" : String).toList = ['+'] := by decide
  unfold yearText
  split
  · next h =>
    have hread : readNumber 4 ((padded 4 y.toNat).toList ++ '-' :: rest) =
        some (y.toNat, '-' :: rest) := readNumber_padded (by decide) (by omega) _
    obtain ⟨d, ds, hds, hd⟩ := padded_eq_cons 4 y.toNat
    rw [hds] at hread ⊢
    rw [List.cons_append, readYear_digit hd, ← List.cons_append, hread]
    simp only [Option.map_some, Int.toNat_of_nonneg h.1]
  · rw [String.toList_append, List.append_assoc]
    split
    · next h =>
      rw [hminus, List.singleton_append, readYear_minus, signed_padded]
      congr 2
      omega
    · next h =>
      rw [hplus, List.singleton_append, readYear_plus, signed_padded]
      congr 2
      omega

theorem readFraction_places (hwidth : 0 < width) (hnine : width ≤ 9) (h : n < 10 ^ width)
    (rest : List Char) : readFraction (("." ++ padded width n).toList ++ 'Z' :: rest) =
      some (n * 10 ^ (9 - width), 'Z' :: rest) := by
  have hpoint : ("." ++ padded width n).toList ++ 'Z' :: rest =
      '.' :: ((padded width n).toList ++ 'Z' :: rest) := by
    rw [String.toList_append]
    rfl
  have hdigits := takeWhile_padded_cons width n (by decide : 'Z'.isDigit = false) rest
  have hlen := length_padded hwidth h
  have htake : (padded width n).toList.take 9 = (padded width n).toList :=
    List.take_of_length_le (by omega)
  rw [hpoint]
  simp only [readFraction, hdigits, isEmpty_padded, htake, digitsValue_padded, hlen,
    List.drop_left' hlen, Bool.false_eq_true, if_false]

theorem readFraction_fractionText (h : n < 1000000000) (rest : List Char) :
    readFraction ((fractionText n).toList ++ 'Z' :: rest) = some (n, 'Z' :: rest) := by
  unfold fractionText
  split
  · next hzero =>
    rw [hzero]
    rfl
  · split
    · next hmillis =>
      rw [readFraction_places (by decide) (by decide) (by omega)]
      congr 2
      omega
    · split
      · next hmicros =>
        rw [readFraction_places (by decide) (by decide) (by omega)]
        congr 2
        omega
      · rw [readFraction_places (by decide) (by decide) (by omega)]
        congr 2
        omega

theorem readFraction_lt (h : readFraction cs = some (n, rest)) : n < 1000000000 := by
  unfold readFraction at h
  split at h
  · next tail =>
    rw [Option.ite_none_left_eq_some] at h
    obtain ⟨-, h⟩ := h
    simp only [Option.some.injEq, Prod.mk.injEq] at h
    obtain ⟨rfl, -⟩ := h
    -- the places that are kept, filled up to nine
    obtain ⟨kept, hkept⟩ : ∃ kept, kept = (tail.takeWhile Char.isDigit).take 9 := ⟨_, rfl⟩
    have hdigits : ∀ c ∈ kept, c.isDigit = true := fun c hc =>
      List.mem_takeWhile_imp (List.mem_of_mem_take (hkept ▸ hc))
    have hlen : kept.length ≤ 9 := hkept ▸ List.length_take_le _ _
    rw [← hkept]
    calc digitsValue kept * 10 ^ (9 - kept.length)
        < 10 ^ kept.length * 10 ^ (9 - kept.length) :=
          Nat.mul_lt_mul_of_pos_right (digitsValue_lt hdigits) (Nat.pow_pos (by decide))
      _ = 1000000000 := by rw [← Nat.pow_add, Nat.add_sub_cancel' hlen]
  · simp only [Option.some.injEq, Prod.mk.injEq] at h
    omega

theorem hoursMinutes_minutes {sign offset : Int}
    (h : readOffset.hoursMinutes cs sign = some (offset, rest)) : offset % 60 = 0 := by
  unfold readOffset.hoursMinutes at h
  repeat' split at h
  all_goals try cases h
  rw [Option.ite_none_right_eq_some] at h
  obtain ⟨-, h⟩ := h
  simp only [Option.some.injEq, Prod.mk.injEq] at h
  obtain ⟨rfl, -⟩ := h
  exact Int.emod_eq_zero_of_dvd (Int.dvd_mul_of_dvd_right (by omega))

/-- Offsets are whole minutes. -/
theorem readOffset_minutes {offset : Int} (h : readOffset cs = some (offset, rest)) :
    offset % 60 = 0 := by
  unfold readOffset at h
  split at h
  · cases h
  · repeat' split at h
    · cases h; rfl
    · cases h; rfl
    · exact hoursMinutes_minutes h
    · exact hoursMinutes_minutes h
    · cases h

/-! ## Civil times -/

theorem readNumber_two (h : n < 100) (rest : List Char) :
    readNumber 2 ((padded 2 n).toList ++ rest) = some (n, rest) :=
  readNumber_padded (by decide) h rest

theorem readDate_dateText {month day : Nat} (hmonth : month < 100) (hday : day < 100) (year : Int)
    (rest : List Char) : readDate ((dateText year month day).toList ++ rest) =
      some ((year, month, day), rest) := by
  have htext : (dateText year month day).toList ++ rest = (yearText year).toList ++ '-' ::
      ((padded 2 month).toList ++ '-' :: ((padded 2 day).toList ++ rest)) := by
    have hdash : ("-" : String).toList = ['-'] := by decide
    simp only [dateText, String.toList_append, hdash, List.append_assoc, List.cons_append,
      List.nil_append]
  have hmark := readMark_cons (by decide : isBlank '-' = false)
  rw [htext, readDate]
  simp only [Option.bind_eq_bind, readYear_yearText, Option.bind_some, hmark,
    readNumber_two hmonth, readNumber_two hday]
  rfl

theorem readTime_timeText {hour minute second fraction : Nat} (hhour : hour < 100)
    (hminute : minute < 100) (hsecond : second < 100) (hfraction : fraction < 1000000000)
    (rest : List Char) :
    readTime ((timeText hour minute second fraction).toList ++ 'Z' :: rest) =
      some ((hour, minute, second, fraction), 'Z' :: rest) := by
  have htext : (timeText hour minute second fraction).toList ++ 'Z' :: rest =
      (padded 2 hour).toList ++ ':' :: ((padded 2 minute).toList ++ ':' ::
        ((padded 2 second).toList ++ ((fractionText fraction).toList ++ 'Z' :: rest))) := by
    have hcolon : (":" : String).toList = [':'] := by decide
    simp only [timeText, String.toList_append, hcolon, List.append_assoc, List.cons_append,
      List.nil_append]
  have hmark := readMark_cons (by decide : isBlank ':' = false)
  rw [htext, readTime]
  simp only [Option.bind_eq_bind, Option.bind_some, hmark, readNumber_two hhour,
    readNumber_two hminute, readNumber_two hsecond, readFraction_fractionText hfraction]
  rfl

theorem readTime_fraction_lt {e : Nat × Nat × Nat × Nat} (h : readTime cs = some (e, rest)) :
    e.2.2.2 < 1000000000 := by
  simp only [readTime, Option.bind_eq_bind, Option.bind_eq_some_iff] at h
  obtain ⟨_, -, _, -, _, -, _, -, _, -, ⟨fraction, cs⟩, hfraction, h⟩ := h
  cases h
  exact readFraction_lt hfraction

/-- Civil times without an offset whose numbers have no more digits than texts have places for. -/
structure Civil.Writable (c : Civil) : Prop where
  month_lt : c.month < 100
  day_lt : c.day < 100
  hour_lt : c.hour < 100
  minute_lt : c.minute < 100
  second_lt : c.second < 100
  fraction_lt : c.fraction < 1000000000
  offset_eq : c.offset = 0

theorem Civil.read?_text (h : c.Writable) : Civil.read? c.text.toList = some c := by
  have htext : c.text.toList = (dateText c.year c.month c.day).toList ++ 'T' ::
      ((timeText c.hour c.minute c.second c.fraction).toList ++ ['Z']) := by
    have hdivider : ("T" : String).toList = ['T'] := by decide
    have hzone : ("Z" : String).toList = ['Z'] := by decide
    simp only [Civil.text, String.toList_append, hdivider, hzone, List.append_assoc,
      List.cons_append, List.nil_append]
  have hdivider (rest : List Char) : readDivider ('T' :: rest) = some rest := rfl
  have hzone : readOffset ['Z'] = some (c.offset, []) := by rw [h.offset_eq]; rfl
  rw [htext, Civil.read?]
  simp only [Option.bind_eq_bind, readDate_dateText h.month_lt h.day_lt, Option.bind_some, hdivider,
    readTime_timeText h.hour_lt h.minute_lt h.second_lt h.fraction_lt, hzone]
  rfl

theorem Civil.read?_bounds (h : Civil.read? cs = some c) :
    c.fraction < 1000000000 ∧ c.offset % 60 = 0 := by
  simp only [Civil.read?, Option.bind_eq_bind, Option.bind_eq_some_iff] at h
  obtain ⟨_, -, _, -, ⟨e, cs⟩, htime, ⟨offset, cs'⟩, hoffset, h⟩ := h
  rw [Option.ite_none_right_eq_some] at h
  obtain ⟨-, h⟩ := h
  cases h
  exact ⟨readTime_fraction_lt htime, readOffset_minutes hoffset⟩

/-! ## Instants -/

/-- What the instants have in common that were read from texts: they are instants of the calendar, and
    leap seconds stand at the end of a minute. -/
structure InRange (t : Timestamp) : Prop where
  first_le : firstSecond ≤ t.seconds
  lt_end : t.seconds < endSecond
  nanos_lt : t.nanos < 2000000000
  leap : 1000000000 ≤ t.nanos → t.seconds % 60 = 59

theorem Civil.inRange_of_instant? (hfraction : c.fraction < 1000000000)
    (hoffset : c.offset % 60 = 0) (h : c.instant? = some t) : t.InRange := by
  simp only [Civil.instant?, Option.ite_none_left_eq_some] at h
  obtain ⟨-, -, -, hrange, h⟩ := h
  -- a leap second counts as second 59, and an offset of whole minutes leaves it there
  by_cases hleap : c.second = 60
  · simp only [hleap, if_true] at hrange h
    cases h
    refine ⟨?_, ?_, ?_, fun _ => ?_⟩ <;> dsimp only <;> omega
  · simp only [hleap, if_false] at hrange h
    cases h
    refine ⟨?_, ?_, ?_, fun hlong => ?_⟩
    · dsimp only
      omega
    · dsimp only
      omega
    · dsimp only
      omega
    · exact absurd hlong (by dsimp only; omega)

theorem isDate_civil (t : Timestamp) :
    IsDate t.civil.year t.civil.month t.civil.day (t.seconds / 86400) := isDate_civilFromDays _

theorem second_civil (t : Timestamp) :
    t.civil.second = (t.seconds % 60).toNat + if 1000000000 ≤ t.nanos then 1 else 0 := by
  simp only [civil]
  split <;> omega

theorem time_civil_le (t : Timestamp) :
    t.civil.hour ≤ 23 ∧ t.civil.minute ≤ 59 ∧ t.civil.second ≤ 60 := by
  refine ⟨?_, ?_, ?_⟩
  · simp only [civil]
    omega
  · simp only [civil]
    omega
  · rw [second_civil]
    split <;> omega

namespace InRange

theorem writable_civil (h : t.InRange) : t.civil.Writable := by
  have hdate := isDate_civil t
  have hday := hdate.day_le.trans (daysInMonth_le _ _)
  have hmonth := hdate.month_le
  have hnanos := h.nanos_lt
  refine ⟨by omega, by omega, ?_, ?_, ?_, ?_, rfl⟩
  · simp only [civil]
    omega
  · simp only [civil]
    omega
  · simp only [civil]
    split <;> omega
  · simp only [civil]
    split <;> omega

theorem year_civil_bounds (h : t.InRange) : -262143 ≤ t.civil.year ∧ t.civil.year < 262143 := by
  have hfirst := h.first_le
  have hend := h.lt_end
  unfold firstSecond at hfirst
  unfold endSecond at hend
  exact (isDate_civil t).year_bounds (by omega) (by omega)

theorem second_civil_eq_sixty_iff (h : t.InRange) :
    t.civil.second = 60 ↔ 1000000000 ≤ t.nanos := by
  rw [second_civil]
  split
  · next hlong =>
    have hlast := h.leap hlong
    omega
  · omega

/-- Without an offset, the day of the instant is the date of its civil time. -/
theorem seconds_civil (h : t.InRange) :
    daysFromCivil t.civil.year t.civil.month t.civil.day * 86400 +
      ((t.civil.hour * 3600 + t.civil.minute * 60 +
        if t.civil.second = 60 then 59 else t.civil.second : Nat) : Int) - t.civil.offset =
      t.seconds := by
  have hleap := h.leap
  rw [(isDate_civil t).days_eq]
  simp only [h.second_civil_eq_sixty_iff]
  simp only [civil]
  split <;> omega

theorem nanos_civil (h : t.InRange) :
    (if t.civil.second = 60 then t.civil.fraction + 1000000000 else t.civil.fraction) =
      t.nanos := by
  simp only [h.second_civil_eq_sixty_iff]
  simp only [civil]
  split <;> omega

theorem instant?_civil (h : t.InRange) : t.civil.instant? = some t := by
  obtain ⟨hmonth, hmonths, hday, hdays, -⟩ := isDate_civil t
  have htime := time_civil_le t
  have hyear := h.year_civil_bounds
  have hfirst := h.first_le
  have hend := h.lt_end
  simp only [Civil.instant?, h.seconds_civil, h.nanos_civil]
  rw [if_neg (by omega), if_neg (by omega), if_neg (by omega), if_neg (by omega)]

/-- **The text of an instant is read as the same instant.** -/
theorem parse?_text (h : t.InRange) : parse? t.text = some t := by
  rw [parse?, text, Civil.read?_text h.writable_civil, Option.bind_some, h.instant?_civil]

end InRange

theorem inRange_of_parse? {s : String} (h : parse? s = some t) : t.InRange := by
  obtain ⟨c, hread, hinstant⟩ := Option.bind_eq_some_iff.mp h
  obtain ⟨hfraction, hoffset⟩ := Civil.read?_bounds hread
  exact Civil.inRange_of_instant? hfraction hoffset hinstant

end Timestamp

end Foreman
