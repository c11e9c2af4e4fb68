import SqlComposer.Proofs.DecimalReading
import SqlComposer.Value.Text

/-! # Dates and times read back from their texts

    A date is written with hyphens, a time with colons and the fewest digits of a second that are
    exact, and a timestamp with a `T` between both.  The readers take each part with its separator
    and leave the rest, so what is written is read back whatever stands behind it; a timestamp in
    UTC goes on with a `Z`, which moves it by no minute (`Timestamp.addMinutes?_zero`).

    * Part by part: `Reader.date_chars`, `Reader.minutes_padded`, `Reader.seconds_padded`.
    * As a whole: `Date.ofText?_text`, `Time.ofText?_text`, `Timestamp.ofText?_textIso`,
      `Timestamp.ofZonedText?_textIso`. -/

namespace SqlComposer

/-! ## Parts in range -/

theorem Date.ofParts?_eq (d : Date) : Date.ofParts? d.year d.month d.day = some d := by
  rw [ofParts?, dif_pos d.year_mem, dif_pos d.day_mem]

/-- The parts of a time of day give it. -/
theorem Time.ofParts?_eq (t : Time) :
    Time.ofParts? t.hour t.minute t.second t.nanosecond = some t := by
  rw [ofParts?, dif_pos t.inRange]

/-- Only the twelve months have days, and none has more than 31. -/
theorem daysInMonth_le {year : Int} {month day : Nat} (h : 1 ≤ day ∧ day ≤ daysInMonth year month) :
    month ≤ 12 ∧ day ≤ 31 := by
  obtain ⟨h1, hd⟩ := h
  unfold daysInMonth at hd
  split at hd
  case h_12 => split at hd <;> omega
  all_goals omega

/-- Year, month and day take the digits that they are written in. -/
theorem Date.parts_lt (d : Date) : d.month < Nat.pow 10 2 ∧ d.day < Nat.pow 10 2 := by
  have h := daysInMonth_le d.day_mem
  show d.month < 100 ∧ d.day < 100
  omega

namespace Reader

/-! ## Part by part -/

/-- A separator takes one character and no digit. -/
structure Separates (separator : Reader Unit) (c : Char) : Prop where
  reads : ∀ rest, separator (c :: rest) = some ((), rest)
  ends : ∀ rest, EndsDigits (c :: rest)

/-- A sign that is neither blank nor digit separates numbers. -/
theorem spacedLiteral_separates {c : Char} (hb : isBlank c = false) (hd : c.isDigit = false) :
    Separates (spacedLiteral c) c where
  reads rest := by
    have hs : skipBlanks (c :: rest) = c :: rest := List.dropWhile_cons_of_neg (by simp [hb])
    rw [spacedLiteral, hs, literal, if_pos rfl]
  ends rest := List.takeWhile_cons_of_neg (by simp [hd])

variable {separator : Reader Unit}

/-- A date is read up to its last digit. -/
theorem date_chars (hs : Separates separator '-') (d : Date) (rest : List Char) :
    date separator (d.chars ++ rest) = some (d, rest) := by
  obtain ⟨hm, hd⟩ := d.parts_lt
  have hchars : d.chars ++ rest =
      yearText d.year ++ '-' :: (padded 2 d.month ++ '-' :: (padded 2 d.day ++ rest)) := by
    simp [Date.chars]
  rw [hchars, date]
  simp only [year_yearText _ (hs.ends _), hs.reads, number_padded Nat.two_pos hm,
    number_padded Nat.two_pos hd, Date.ofParts?_eq, Option.bind_eq_bind, Option.bind_some]
  rfl

/-- Hour and minute are read up to the last digit of the minute. -/
theorem minutes_padded (hs : Separates separator ':') (t : Time) (rest : List Char) :
    minutes separator (padded 2 t.hour ++ ':' :: (padded 2 t.minute ++ rest)) =
      some ((t.hour, t.minute), rest) := by
  have hh : t.hour < Nat.pow 10 2 := Nat.lt_trans t.inRange.1 (by decide)
  have hm : t.minute < Nat.pow 10 2 := Nat.lt_trans t.inRange.2.1 (by decide)
  rw [minutes]
  simp only [hs.reads, number_padded Nat.two_pos hh, number_padded Nat.two_pos hm,
    Option.bind_eq_bind, Option.bind_some]
  rfl

/-- Second and fraction are read as far as digits go. -/
theorem seconds_padded (hs : Separates separator ':') (t : Time) {rest : List Char}
    (hr : EndsTime rest) :
    seconds separator (':' :: (padded 2 t.second ++ (Time.fractionText t.nanosecond ++ rest))) =
      some ((t.second, t.nanosecond), rest) := by
  have h : t.second < Nat.pow 10 2 := Nat.lt_of_le_of_lt t.inRange.2.2.1 (by decide)
  rw [seconds]
  simp only [hs.reads, number_padded Nat.two_pos h, fraction_fractionText t.inRange.2.2.2 hr,
    Option.bind_eq_bind, Option.bind_some]
  rfl

/-- The parts of a time with what is behind it. -/
theorem chars_append (t : Time) (rest : List Char) :
    t.chars ++ rest = padded 2 t.hour ++ ':' :: (padded 2 t.minute ++
      (':' :: (padded 2 t.second ++ (Time.fractionText t.nanosecond ++ rest)))) := by
  simp [Time.chars]

/-- A time is read as far as digits go. -/
theorem time_chars (hs : Separates separator ':') (t : Time) {rest : List Char}
    (hr : EndsTime rest) : time separator (t.chars ++ rest) = some (t, rest) := by
  rw [chars_append, time]
  simp only [minutes_padded hs, seconds_padded hs t hr, Time.ofParts?_eq, Option.bind_eq_bind,
    Option.bind_some]
  rfl

theorem hyphen_separates : Separates (spacedLiteral '-') '-' :=
  spacedLiteral_separates (by decide) (by decide)

theorem colon_separates : Separates (spacedLiteral ':') ':' :=
  spacedLiteral_separates (by decide) (by decide)

theorem endsTime_nil : EndsTime [] := ⟨rfl, by simp⟩

end Reader

open Reader

/-! ## Whole texts -/

/-- A date is read back. -/
theorem Date.ofText?_text (d : Date) : Date.ofText? d.text = some d := by
  have h := date_chars hyphen_separates d []
  rw [List.append_nil] at h
  rw [ofText?, text, String.toList_ofList, h]
  rfl

/-- A time is read back, also a leap second. -/
theorem Time.ofText?_text (t : Time) : Time.ofText? t.text = some t := by
  have h := chars_append t []
  rw [List.append_nil] at h
  rw [ofText?, text, String.toList_ofList, h]
  simp only [minutes_padded colon_separates, seconds_padded colon_separates t endsTime_nil,
    Option.bind_eq_bind, Option.bind_some]
  exact ofParts?_eq t

namespace Timestamp

/-- A timestamp is read back. -/
theorem ofText?_textIso (t : Timestamp) : Timestamp.ofText? t.textIso = some t := by
  have h : joined (t.chars 'T') = some (t, []) := by
    have ht := time_chars colon_separates t.time endsTime_nil
    rw [List.append_nil] at ht
    rw [joined, chars]
    simp only [date_chars hyphen_separates, ht,
      (spacedLiteral_separates (c := 'T') (by decide) (by decide)).reads, Option.bind_eq_bind,
      Option.bind_some]
    rfl
  rw [ofText?, textIso, String.toList_ofList, h]
  rfl

/-- No minute is no change. -/
theorem addMinutes?_zero (t : Timestamp) : t.addMinutes? 0 = some t := by
  obtain ⟨date, hour, minute, second, nanosecond, inRange⟩ := t
  have hdiv : ((hour * 60 + minute : Nat) + 0 : Int) / 1440 = 0 := by omega
  have hmod : (((hour * 60 + minute : Nat) + 0 : Int) % 1440).toNat = hour * 60 + minute := by omega
  have hh : (hour * 60 + minute) / 60 = hour := by omega
  have hm : (hour * 60 + minute) % 60 = minute := by omega
  simp only [addMinutes?, shiftTime, hdiv, hmod, hh, hm]
  rfl

/-- An instant in UTC is read back. -/
theorem ofZonedText?_textIso (t : Timestamp) :
    Timestamp.ofZonedText? (t.textIso ++ "Z") = some t := by
  have h : zoned (t.chars 'T' ++ ['Z']) = some ((t, 0), []) := by
    have hz : EndsTime ['Z'] := ⟨rfl, by simp⟩
    rw [zoned, chars, List.append_assoc, List.cons_append]
    simp only [date_chars hyphen_separates, List.head?_cons, List.drop_succ_cons, List.drop_zero,
      time_chars colon_separates t.time hz, Option.bind_eq_bind, Option.bind_some]
    rfl
  have htext : (t.textIso ++ "Z").toList = t.chars 'T' ++ ['Z'] := by
    rw [textIso, String.toList_append, String.toList_ofList]
    rfl
  rw [ofZonedText?, htext, h]
  exact addMinutes?_zero t

end Timestamp

end SqlComposer
