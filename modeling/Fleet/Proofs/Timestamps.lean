import Fleet.Proofs.Calendar
import Fleet.Time.Timestamp
import Mathlib.Algebra.Group.Nat.Defs

namespace Fleet.Proofs.Timestamps

open Fleet.Text
open Fleet.Timestamp

variable {digits rest : List Char} {width value : Nat}

theorem toList_padded (width value : Nat) :
    (padded width value).toList =
      List.replicate (width - (Nat.toDigits 10 value).length) '0' ++ Nat.toDigits 10 value :=
  String.toList_ofList

theorem ofDigitChars_padded (width value : Nat) :
    Nat.ofDigitChars 10 (padded width value).toList 0 = value := by
  rw [toList_padded, Nat.ofDigitChars_append, Nat.ofDigitChars_replicate_zero,
    Nat.mul_zero, Nat.ofDigitChars_ten_toDigits]

theorem isDigit_padded (width value : Nat) :
    ∀ c ∈ (padded width value).toList, c.isDigit = true := by
  intro c hc
  rw [toList_padded, List.mem_append, List.mem_replicate] at hc
  rcases hc with ⟨-, rfl⟩ | hc
  · decide
  · exact Nat.isDigit_of_mem_toDigits (by decide) (by decide) hc

theorem length_padded {width : Nat} (h : value < 10 ^ width) (hwidth : 0 < width) :
    (padded width value).toList.length = width := by
  have hlength := (Nat.length_toDigits_le_iff (by decide) hwidth).mpr h
  rw [toList_padded, List.length_append, List.length_replicate]
  omega

theorem padded_ne_nil (width value : Nat) : (padded width value).toList ≠ [] := by
  rw [toList_padded]
  exact List.append_ne_nil_of_right_ne_nil _ Nat.toDigits_ne_nil

/-- The text goes on with something that is no digit. -/
def Ended (rest : List Char) : Prop := ∀ c ∈ rest.head?, c.isDigit = false

theorem takeWhile_digits (h : ∀ c ∈ digits, c.isDigit = true) (hrest : Ended rest) :
    (digits ++ rest).takeWhile Char.isDigit = digits := by
  rw [List.takeWhile_append_of_pos h]
  cases rest with
  | nil => simp
  | cons c rest => simp [hrest c rfl]

theorem dropWhile_digits (h : ∀ c ∈ digits, c.isDigit = true) (hrest : Ended rest) :
    (digits ++ rest).dropWhile Char.isDigit = rest := by
  rw [List.dropWhile_append_of_pos h]
  cases rest with
  | nil => simp
  | cons c rest => simp [hrest c rfl]

theorem ended_take (h : Ended rest) (count : Nat) : Ended (rest.take count) := by
  intro c hc
  rw [List.head?_take] at hc
  split at hc
  · contradiction
  · exact h c hc

theorem readDigits_padded {room : Nat} (hroom : (padded width value).toList.length ≤ room)
    (hrest : (padded width value).toList.length = room ∨ Ended rest) :
    readDigits room ((padded width value).toList ++ rest) = some (value, rest) := by
  have hended : Ended (rest.take (room - (padded width value).toList.length)) := by
    rcases hrest with rfl | hended
    · rw [Nat.sub_self, List.take_zero]
      exact nofun
    · exact ended_take hended _
  have hdigits : (((padded width value).toList ++ rest).take room).takeWhile Char.isDigit =
      (padded width value).toList := by
    rw [List.take_append, List.take_of_length_le hroom]
    exact takeWhile_digits (isDigit_padded width value) hended
  unfold readDigits
  dsimp only
  rw [hdigits, if_neg (fun hempty => padded_ne_nil width value (List.isEmpty_iff.mp hempty)),
    ofDigitChars_padded, List.drop_left]

theorem not_isBlank_of_isDigit {c : Char} (h : c.isDigit = true) : isBlank c = false := by
  have hbounds : 48 ≤ c.toNat ∧ c.toNat ≤ 57 := by
    simpa [Char.isDigit, UInt32.le_iff_toNat_le] using h
  simp only [isBlank, Bool.or_eq_false_iff, Bool.and_eq_false_iff, decide_eq_false_iff_not,
    beq_eq_false_iff_ne]
  omega

theorem exists_padded (width value : Nat) :
    ∃ c digits, (padded width value).toList = c :: digits ∧ c.isDigit = true := by
  obtain ⟨c, digits, hcons⟩ := List.exists_cons_of_ne_nil (padded_ne_nil width value)
  exact ⟨c, digits, hcons, isDigit_padded width value c (hcons ▸ List.mem_cons_self)⟩

theorem trimStart_padded (width value : Nat) (rest : List Char) :
    trimStart ((padded width value).toList ++ rest) = (padded width value).toList ++ rest := by
  obtain ⟨c, digits, hcons, hdigit⟩ := exists_padded width value
  rw [hcons, List.cons_append, trimStart, List.dropWhile_cons_of_neg]
  simp [not_isBlank_of_isDigit hdigit]

theorem readField_padded (h : value < 100) (rest : List Char) :
    readField 2 ((padded 2 value).toList ++ rest) = some (value, rest) := by
  have hlength : (padded 2 value).toList.length = 2 := length_padded h (by decide)
  rw [readField, trimStart_padded]
  exact readDigits_padded (Nat.le_of_eq hlength) (.inl hlength)

theorem readMark_dash (rest : List Char) : readMark '-' ('-' :: rest) = some rest := rfl

theorem readMark_colon (rest : List Char) : readMark ':' (':' :: rest) = some rest := rfl

theorem readDigits_all (value : Nat) (rest : List Char) :
    readDigits ((padded 4 value).toList ++ '-' :: rest).length
      ((padded 4 value).toList ++ '-' :: rest) = some (value, '-' :: rest) := by
  refine readDigits_padded ?_ (.inr ?_)
  · simp
  · rintro c ⟨⟩
    decide

theorem readYear_minus (text : List Char) :
    readYear ('-' :: text) = (readDigits text.length text).map fun (year, rest) => (-year, rest) :=
  rfl

theorem readYear_plus (text : List Char) :
    readYear ('+' :: text) = (readDigits text.length text).map fun (year, rest) => (year, rest) :=
  rfl

theorem readYear_writeYear (year : Int) (rest : List Char) :
    readYear ((writeYear year).toList ++ '-' :: rest) = some (year, '-' :: rest) := by
  unfold writeYear
  split
  · rename_i hyear
    have hlength : (padded 4 year.toNat).toList.length = 4 := length_padded (by omega) (by decide)
    have hread : readDigits 4 ((padded 4 year.toNat).toList ++ '-' :: rest) =
        some (year.toNat, '-' :: rest) :=
      readDigits_padded (Nat.le_of_eq hlength) (.inl hlength)
    have hnat : (year.toNat : Int) = year := Int.toNat_of_nonneg hyear.1
    obtain ⟨c, digits, hcons, hdigit⟩ := exists_padded 4 year.toNat
    have hsign : c ≠ '-' ∧ c ≠ '+' := by
      constructor <;> (rintro rfl; revert hdigit; decide)
    unfold readYear
    rw [trimStart_padded, hcons]
    split
    · rename_i heq
      exact absurd (List.cons.inj heq).1 hsign.1
    · rename_i heq
      exact absurd (List.cons.inj heq).1 hsign.2
    · rw [← hcons, hread]
      exact congrArg (fun year => some (year, '-' :: rest)) hnat
  · rw [String.toList_append, List.append_assoc]
    split
    · have hyear : -(year.natAbs : Int) = year := by omega
      rw [show "-".toList = ['-'] by simp, List.singleton_append, readYear_minus, readDigits_all]
      exact congrArg (fun year => some (year, '-' :: rest)) hyear
    · have hyear : (year.natAbs : Int) = year := by omega
      rw [show "+".toList = ['+'] by simp, List.singleton_append, readYear_plus, readDigits_all]
      exact congrArg (fun year => some (year, '-' :: rest)) hyear

def fraction (nanoseconds : Nat) : String :=
  if nanoseconds == 0 then ""
  else if nanoseconds % 1000000 == 0 then "." ++ padded 3 (nanoseconds / 1000000)
  else if nanoseconds % 1000 == 0 then "." ++ padded 6 (nanoseconds / 1000)
  else "." ++ padded 9 nanoseconds

theorem ofDigitChars_rightpad (digits : List Char) (width : Nat) :
    Nat.ofDigitChars 10 (digits.rightpad width '0') 0 =
      10 ^ (width - digits.length) * Nat.ofDigitChars 10 digits 0 := by
  rw [List.rightpad, Nat.ofDigitChars_append, Nat.ofDigitChars_replicate_zero]

theorem readFraction_point (text : List Char) :
    readFraction ('.' :: text) =
      if ((text.take 9).takeWhile Char.isDigit).isEmpty then none
      else
        some (Nat.ofDigitChars 10 (((text.take 9).takeWhile Char.isDigit).rightpad 9 '0') 0,
          text.dropWhile Char.isDigit) :=
  rfl

theorem readFraction_padded {width : Nat} (h : value < 10 ^ width) (hwidth : 0 < width)
    (hmost : width ≤ 9) (hrest : Ended rest) :
    readFraction (("." ++ padded width value).toList ++ rest) =
      some (10 ^ (9 - width) * value, rest) := by
  have hlength := length_padded h hwidth
  have hdigits : (((padded width value).toList ++ rest).take 9).takeWhile Char.isDigit =
      (padded width value).toList := by
    rw [List.take_append, List.take_of_length_le (by omega)]
    exact takeWhile_digits (isDigit_padded width value) (ended_take hrest _)
  rw [String.toList_append, List.append_assoc, show ".".toList = ['.'] by simp,
    List.singleton_append, readFraction_point, hdigits,
    if_neg (fun hempty => padded_ne_nil width value (List.isEmpty_iff.mp hempty)),
    ofDigitChars_rightpad, hlength, ofDigitChars_padded,
    dropWhile_digits (isDigit_padded width value) hrest]

theorem readFraction_fraction {nanoseconds : Nat} (h : nanoseconds < Instant.nanosecondsPerSecond) :
    readFraction ((fraction nanoseconds).toList ++ ['Z']) = some (nanoseconds, ['Z']) := by
  have hended : Ended ['Z'] := by
    rintro c ⟨⟩
    decide
  have hbound : nanoseconds < 1000000000 := h
  unfold fraction
  by_cases hzero : nanoseconds = 0
  · subst hzero
    rfl
  rw [if_neg (by simpa using hzero)]
  by_cases hmillis : nanoseconds % 1000000 = 0
  · have hvalue : nanoseconds / 1000000 < 10 ^ 3 := by omega
    have hsame : 10 ^ (9 - 3) * (nanoseconds / 1000000) = nanoseconds := by omega
    rw [if_pos (by simpa using hmillis),
      readFraction_padded hvalue (by decide) (by decide) hended, hsame]
  rw [if_neg (by simpa using hmillis)]
  by_cases hmicros : nanoseconds % 1000 = 0
  · have hvalue : nanoseconds / 1000 < 10 ^ 6 := by omega
    have hsame : 10 ^ (9 - 6) * (nanoseconds / 1000) = nanoseconds := by omega
    rw [if_pos (by simpa using hmicros),
      readFraction_padded hvalue (by decide) (by decide) hended, hsame]
  rw [if_neg (by simpa using hmicros), readFraction_padded h (by decide) (by decide) hended,
    Nat.sub_self, Nat.pow_zero, Nat.one_mul]

variable {instant : Instant}

/-- The second of the minute as it is written: the leap second is the second 60. -/
def writtenSecond (instant : Instant) : Nat :=
  if instant.isLeap then instant.timeOfDay.toNat % 60 + 1 else instant.timeOfDay.toNat % 60

theorem toList_write (instant : Instant) :
    (write instant).toList =
      (writeYear (Date.ofDays (instant.second / Instant.secondsPerDay)).year).toList ++
        '-' :: ((padded 2 (Date.ofDays (instant.second / Instant.secondsPerDay)).month).toList ++
          '-' :: ((padded 2 (Date.ofDays (instant.second / Instant.secondsPerDay)).day).toList ++
            'T' :: ((padded 2 (instant.timeOfDay.toNat / 3600)).toList ++
              ':' :: ((padded 2 (instant.timeOfDay.toNat / 60 % 60)).toList ++
                ':' :: ((padded 2 (writtenSecond instant)).toList ++
                  ((fraction instant.subsecond).toList ++ ['Z'])))))) := by
  simp [write, writeSeconds, fraction, writtenSecond]

theorem timeOfDay_lt (instant : Instant) : instant.timeOfDay.toNat < 86400 := by
  unfold Instant.timeOfDay Instant.secondsPerDay
  omega

/-- A leap second is only written for the last second of a minute. -/
theorem written_second (instant : Instant) :
    writtenSecond instant ≤ 60 ∧
      (if writtenSecond instant = 60 then
        (59, Instant.nanosecondsPerSecond + instant.subsecond)
      else (writtenSecond instant, instant.subsecond)) =
        (instant.timeOfDay.toNat % 60, instant.nanosecond) := by
  obtain ⟨-, -, hnanosecond, hleap⟩ := instant.admitted
  have hday : instant.timeOfDay.toNat % 60 = (instant.second % 60).toNat := by
    unfold Instant.timeOfDay Instant.secondsPerDay
    omega
  unfold writtenSecond Instant.subsecond Instant.isLeap
  unfold Instant.nanosecondsPerSecond at *
  by_cases hlong : 1000000000 ≤ instant.nanosecond
  · have hlast : instant.timeOfDay.toNat % 60 = 59 := by
      have hsecond := hleap hlong
      omega
    simp only [hlong, decide_true, if_true, hlast]
    refine ⟨by decide, Prod.ext rfl ?_⟩
    change 1000000000 + instant.nanosecond % 1000000000 = instant.nanosecond
    omega
  · have hsecond : instant.timeOfDay.toNat % 60 ≠ 60 := by omega
    simp only [hlong, decide_false, Bool.false_eq_true, if_false, if_neg hsecond]
    refine ⟨by omega, Prod.ext rfl ?_⟩
    change instant.nanosecond % 1000000000 = instant.nanosecond
    omega

theorem isInRange_date (instant : Instant) :
    (Date.ofDays (instant.second / Instant.secondsPerDay)).isInRange = true := by
  obtain ⟨hfirst, hlast, -, -⟩ := instant.admitted
  unfold Instant.firstSecond at hfirst
  unfold Instant.lastSecond at hlast
  unfold Instant.secondsPerDay at *
  apply Calendar.isInRange_ofDays
  · omega
  · omega

theorem second_of_parts (instant : Instant) :
    instant.second / Instant.secondsPerDay * Instant.secondsPerDay +
      (((instant.timeOfDay.toNat / 3600 : Nat) : Int) * 3600 +
        ((instant.timeOfDay.toNat / 60 % 60 : Nat) : Int) * 60 +
          ((instant.timeOfDay.toNat % 60 : Nat) : Int)) - 0 = instant.second := by
  unfold Instant.timeOfDay Instant.secondsPerDay
  omega

theorem bind_of_eq_some {α β : Type} {read : Option α} {value : α} (h : read = some value)
    (next : α → Option β) : (read >>= next) = next value := by
  rw [h]
  rfl

/-- What is written for an instant is read as that instant. -/
theorem read?_write (instant : Instant) : read? (write instant) = some instant := by
  have hvalid := Calendar.isValid_ofDays (instant.second / Instant.secondsPerDay)
  have hrange := isInRange_date instant
  have hdays := Calendar.toDays_ofDays (instant.second / Instant.secondsPerDay)
  generalize hdate : Date.ofDays (instant.second / Instant.secondsPerDay) = date at *
  obtain ⟨year, month, day⟩ := date
  obtain ⟨-, hmonth, -, hday⟩ := Calendar.isValid_iff.mp hvalid
  have hlast := Calendar.daysInMonth_le year month
  have htime := timeOfDay_lt instant
  obtain ⟨hsecond, hwritten⟩ := written_second instant
  have hsubsecond : instant.subsecond < Instant.nanosecondsPerSecond := Nat.mod_lt _ (by decide)
  unfold read?
  rw [toList_write, hdate]
  refine (bind_of_eq_some (readYear_writeYear year _) _).trans ?_
  refine (bind_of_eq_some (readMark_dash _) _).trans ?_
  refine (bind_of_eq_some (readField_padded (show month < 100 by omega) _) _).trans ?_
  refine (bind_of_eq_some (readMark_dash _) _).trans ?_
  refine (bind_of_eq_some (readField_padded (show day < 100 by omega) _) _).trans ?_
  refine (bind_of_eq_some rfl _).trans ?_
  refine (bind_of_eq_some (readField_padded (show instant.timeOfDay.toNat / 3600 < 100 by omega)
    _) _).trans ?_
  refine (bind_of_eq_some (readMark_colon _) _).trans ?_
  refine (bind_of_eq_some (readField_padded
    (show instant.timeOfDay.toNat / 60 % 60 < 100 by omega) _) _).trans ?_
  refine (bind_of_eq_some (readMark_colon _) _).trans ?_
  refine (bind_of_eq_some (readField_padded (show writtenSecond instant < 100 by omega) _)
    _).trans ?_
  refine (bind_of_eq_some (readFraction_fraction hsubsecond) _).trans ?_
  refine (bind_of_eq_some (show readZone (trimStart ['Z']) = some (0, []) from rfl) _).trans ?_
  dsimp only
  rw [if_pos, hdays, hwritten]
  · refine (congrArg (Instant.of? · instant.nanosecond) (second_of_parts instant)).trans ?_
    exact dif_pos instant.admitted
  · simp only [hrange, hvalid, Bool.and_eq_true, decide_eq_true_eq, and_true]
    refine ⟨⟨⟨⟨rfl, by omega⟩, by omega⟩, hsecond⟩, by decide⟩

end Fleet.Proofs.Timestamps
