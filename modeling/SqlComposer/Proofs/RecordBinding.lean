import SqlComposer.Postgres.Binding
import SqlComposer.Proofs.CalendarReading
import SqlComposer.Proofs.FiniteRounding
import SqlComposer.Proofs.HexReading

/-! # Values bound through records

    A value that comes from a record has been JSON on the way.  Its kind is lost there: every whole
    number comes back as a big integer, every other number as a double, and what is no number or
    boolean as a text, which is read again as soon as the type of the parameter is known.  For the
    values with one SQL type of their own (`Value.scalarType?`) nothing is lost by it.

    * Whole numbers of up to 64 bits come back as the same number (`Value.ofJson_jsonInt`), and
      integers fit the type that they are made for (`encodeInteger_fits`).
    * A finite number of 32 bits is widened to a finite one, which is what is bound for it anyway
      (`Value.ofJson_jsonBinary`).
    * Identifiers, dates and times are read back from their texts (from `bindText_uuid` to
      `bindText_timestamptz`).

    Together: such a value is bound to the same bytes on both ways
    (`Value.record_binds_the_same`). -/

namespace SqlComposer

/-! ## Numbers -/

namespace Value

/-- A whole number of 64 bits comes back as a big integer. -/
theorem ofJson_jsonInt {i : Int} (hlow : leastInteger ≤ i) (hhigh : i ≤ greatestBigInt) :
    ofJson (jsonInt i) = .bigInt (Int64.ofInt i) := by
  have hr : leastInteger ≤ i ∧ i ≤ greatestInteger :=
    ⟨hlow, Int.le_trans hhigh (by decide)⟩
  rw [jsonInt, JsonNumber.ofInt?, dif_pos hr]
  show (if i ≤ greatestBigInt then Value.bigInt (Int64.ofInt i) else _) = _
  rw [if_pos hhigh]

/-- A whole number of 64 bits is bound through a record like the number itself. -/
theorem bind_ofJson_jsonInt {i : Int} (hlow : leastInteger ≤ i) (hhigh : i ≤ greatestBigInt)
    {type : PgType} {bytes : List UInt8} (h : bindInteger i type = .ok bytes) :
    (ofJson (jsonInt i)).bind type = .ok (.bytes bytes) := by
  have hi : (Int64.ofInt i).toInt = i := Int64.toInt_ofInt_of_le hlow (Int.lt_add_one_of_le hhigh)
  rw [ofJson_jsonInt hlow hhigh, bind_of_converted rfl, hi, h]
  rfl

/-- A finite number of 64 bits comes back. -/
theorem ofJson_jsonBinary {x : Binary64} (h : x.isFinite = true) :
    ofJson (jsonBinary x) = .double x := by
  rw [jsonBinary, JsonNumber.ofBinary?, dif_pos h]
  rfl

end Value

/-! ## Texts -/

/-- The text of an identifier is bound like the identifier. -/
theorem bindText_uuid (u : Uuid) : bindText u.text .uuid = .ok u.bytes := by
  show (readOr .notUuid (Uuid.ofText? u.text)).map Uuid.bytes = _
  rw [u.ofText?_text]
  rfl

/-- The text of a date is bound like the date. -/
theorem bindText_date (d : Date) : bindText d.text .date = .ok d.bytes := by
  show (readOr .notCalendar (Date.ofText? d.text)).map Date.bytes = _
  rw [d.ofText?_text]
  rfl

/-- The text of a time is bound like the time. -/
theorem bindText_time (t : Time) : bindText t.text .time = .ok t.bytes := by
  show (readOr .notCalendar (Time.ofText? t.text)).map Time.bytes = _
  rw [t.ofText?_text]
  rfl

/-- The text of a timestamp is bound like the timestamp. -/
theorem bindText_timestamp (t : Timestamp) : bindText t.textIso .timestamp = .ok t.bytes := by
  show (readOr .notCalendar (Timestamp.ofText? t.textIso)).map Timestamp.bytes = _
  rw [t.ofText?_textIso]
  rfl

/-- The text of an instant in UTC is bound like the instant. -/
theorem bindText_timestamptz (t : Timestamp) :
    bindText (t.textIso ++ "Z") .timestamptz = .ok t.bytes := by
  show (readOr .notCalendar (Timestamp.ofZonedText? (t.textIso ++ "Z"))).map Timestamp.bytes = _
  rw [t.ofZonedText?_textIso]
  rfl

namespace Value

/-! ## Scalar values -/

/-- The type of the server that a value of one type is made for: numbers have it when they are
    finite, and binary values and JSON are no scalars. -/
def scalarType? : Value → Option PgType
  | .null | .bytes _ | .json _ => none
  | .bool _ => some .bool
  | .smallInt _ => some .int2
  | .int _ => some .int4
  | .bigInt _ => some .int8
  | .real x => if x.isFinite then some .float4 else none
  | .double x => if x.isFinite then some .float8 else none
  | .text _ => some .text
  | .uuid _ => some .uuid
  | .date _ => some .date
  | .time _ => some .time
  | .timestamp _ => some .timestamp
  | .timestampTz _ => some .timestamptz

/-- A text that comes from a record is bound like any other text. -/
theorem bind_ofJson_string {s : String} {type : PgType} {bytes : List UInt8}
    (h : bindText s type = .ok bytes) : (ofJson (.string s)).bind type = .ok (.bytes bytes) := by
  show (text s).bind type = _
  rw [bind_of_converted rfl, h]
  rfl

/-- **Records bind the same bytes.**  A scalar value that is bound to its own type always has bytes
    there, and has the same bytes when it went through JSON and came back as the property of a
    record. -/
theorem record_binds_the_same {v : Value} {type : PgType} (h : v.scalarType? = some type) :
    ∃ bytes, v.bind type = .ok (.bytes bytes) ∧
      (ofJson v.toJson).bind type = .ok (.bytes bytes) := by
  cases v with
  | null | bytes b | json j => cases h
  | bool b =>
      cases h
      exact ⟨_, rfl, rfl⟩
  | smallInt i =>
      cases h
      have hlow := i.le_toInt
      have hhigh := i.toInt_lt
      have h64 : leastInteger ≤ i.toInt ∧ i.toInt ≤ greatestBigInt := by
        show -0x8000000000000000 ≤ i.toInt ∧ i.toInt ≤ 0x7FFFFFFFFFFFFFFF
        omega
      have hfits : bindInteger i.toInt .int2 = .ok (signedBigEndian 2 i.toInt) :=
        encodeInteger_fits hlow hhigh
      exact ⟨_, (bind_of_converted rfl).trans (congrArg (Except.map Bound.bytes) hfits),
        bind_ofJson_jsonInt h64.1 h64.2 hfits⟩
  | int i =>
      cases h
      have hlow := i.le_toInt
      have hhigh := i.toInt_lt
      have h64 : leastInteger ≤ i.toInt ∧ i.toInt ≤ greatestBigInt := by
        show -0x8000000000000000 ≤ i.toInt ∧ i.toInt ≤ 0x7FFFFFFFFFFFFFFF
        omega
      have hfits : bindInteger i.toInt .int4 = .ok (signedBigEndian 4 i.toInt) :=
        encodeInteger_fits hlow hhigh
      exact ⟨_, (bind_of_converted rfl).trans (congrArg (Except.map Bound.bytes) hfits),
        bind_ofJson_jsonInt h64.1 h64.2 hfits⟩
  | bigInt i =>
      cases h
      exact ⟨_, rfl, bind_ofJson_jsonInt i.le_toInt (Int.le_of_lt_add_one i.toInt_lt) rfl⟩
  | real x =>
      obtain ⟨hx, h⟩ := Option.ite_none_right_eq_some.1 h
      cases h
      refine ⟨_, bind_of_appended rfl, ?_⟩
      rw [toJson, ofJson_jsonBinary (Binary.isFinite_widened hx), bind_of_appended rfl]
  | double x =>
      obtain ⟨hx, h⟩ := Option.ite_none_right_eq_some.1 h
      cases h
      refine ⟨_, bind_of_appended rfl, ?_⟩
      rw [toJson, ofJson_jsonBinary hx, bind_of_appended rfl]
  | text s =>
      cases h
      have hplain : bindText s .text = .ok (bindPlainText s .text) := rfl
      refine ⟨bindPlainText s .text, ?_, bind_ofJson_string hplain⟩
      rw [bind_of_converted rfl, hplain]
      rfl
  | uuid u =>
      cases h
      exact ⟨_, bind_of_appended rfl, bind_ofJson_string (bindText_uuid u)⟩
  | date d =>
      cases h
      exact ⟨_, bind_of_appended rfl, bind_ofJson_string (bindText_date d)⟩
  | time t =>
      cases h
      exact ⟨_, bind_of_appended rfl, bind_ofJson_string (bindText_time t)⟩
  | timestamp t =>
      cases h
      exact ⟨_, bind_of_appended rfl, bind_ofJson_string (bindText_timestamp t)⟩
  | timestampTz t =>
      cases h
      exact ⟨_, bind_of_appended rfl, bind_ofJson_string (bindText_timestamptz t)⟩

/-- The last nanosecond of a leap second in a year of six digits before the first year: the time has
    a second sixty, the year a sign, and the instant a text that is read as one in UTC. -/
theorem record_binds_the_same_leap_second :
    scalarType? (.timestampTz ⟨⟨-123456, 2, 29, by decide, by decide⟩,
        ⟨23, 59, 60, 999999999, by decide⟩⟩) = some .timestamptz ∧
      ∃ bytes,
        bind (.timestampTz ⟨⟨-123456, 2, 29, by decide, by decide⟩,
          ⟨23, 59, 60, 999999999, by decide⟩⟩) .timestamptz = .ok (.bytes bytes) ∧
        (ofJson (.string "-123456-02-29T23:59:60.999999999Z")).bind .timestamptz =
          .ok (.bytes bytes) :=
  ⟨rfl, record_binds_the_same rfl⟩

end Value

end SqlComposer
