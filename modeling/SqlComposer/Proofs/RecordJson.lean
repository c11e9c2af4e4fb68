import SqlComposer.Postgres.Binding
import SqlComposer.Proofs.DecimalReading
import SqlComposer.Proofs.JsonStrings

/-! # JSON through records

    A JSON value that comes from a record has been taken apart there: lists and objects stay JSON,
    but a string comes back as a text, and a text that is bound to a JSON type is read as JSON.  So
    a string whose characters are themselves the text of a value is bound as that value, and every
    other string is bound as the string that it is.

    * Only the text of a string begins with a quote, and different strings have different texts, so
      a value is told by its text when this is the text of a string (`Json.eq_string_of_text`).
    * No string is the text of itself (`Json.length_lt_of_parse?`), so a string that is read again
      always changes.

    Together: the bytes stay the same exactly for what is not read again
    (`Value.json_through_record`). -/

namespace SqlComposer

/-! ## Only strings begin with a quote -/

theorem quote_notMem_decimalDigits (n : Nat) : '"' ∉ decimalDigits n := by
  intro h
  cases isDigit_of_mem_decimalDigits h

/-- Plain digits have no quote among them. -/
theorem Decimal.quote_notMem_plain (d : Decimal) : '"' ∉ d.plain := by
  have hd := quote_notMem_decimalDigits d.coefficient
  have hzeros : ∀ n, '"' ∉ List.replicate n '0' := by
    intro n h
    cases List.eq_of_mem_replicate h
  simp only [plain]
  split
  · rw [List.mem_append]
    exact not_or.2 ⟨hd, hzeros _⟩
  · split
    · rw [List.mem_append, List.mem_cons]
      exact not_or.2 ⟨fun h => hd (List.mem_of_mem_take h),
        not_or.2 ⟨by decide, fun h => hd (List.mem_of_mem_drop h)⟩⟩
    · rw [List.mem_cons, List.mem_cons, List.mem_append]
      exact not_or.2 ⟨by decide, not_or.2 ⟨by decide, not_or.2 ⟨hzeros _, hd⟩⟩⟩

/-- Neither have digits with a point or an exponent. -/
theorem Decimal.quote_notMem_pointed (range : PointRange) (d : Decimal) :
    '"' ∉ d.pointed range := by
  have hd := quote_notMem_decimalDigits d.coefficient
  have hp := d.quote_notMem_plain
  simp only [pointed]
  split
  · split
    · rw [List.mem_append]
      exact not_or.2 ⟨hp, by decide⟩
    · exact hp
  · have hfraction : '"' ∉ (if (decimalDigits d.coefficient).length ≤ 1 then []
        else '.' :: (decimalDigits d.coefficient).drop 1) := by
      split
      · exact List.not_mem_nil
      · rw [List.mem_cons]
        exact not_or.2 ⟨by decide, fun h => hd (List.mem_of_mem_drop h)⟩
    rw [List.mem_append, List.mem_append, List.mem_cons, List.mem_cons]
    refine not_or.2 ⟨not_or.2 ⟨fun h => hd (List.mem_of_mem_take h), hfraction⟩,
      not_or.2 ⟨by decide, not_or.2 ⟨?_, quote_notMem_decimalDigits _⟩⟩⟩
    split <;> decide

namespace Json

/-- The text of a number has no quote. -/
theorem quote_notMem_numberText (n : JsonNumber) : '"' ∉ (numberText n).toList := by
  cases n with
  | integer i inRange =>
      rw [numberText]
      cases i with
      | ofNat m =>
          show '"' ∉ (Nat.repr m).toList
          rw [Nat.toList_repr]
          exact quote_notMem_decimalDigits m
      | negSucc m =>
          show '"' ∉ ("-" ++ Nat.repr (m + 1)).toList
          rw [String.toList_append, List.mem_append, Nat.toList_repr]
          exact not_or.2 ⟨by decide, quote_notMem_decimalDigits (m + 1)⟩
  | real x finite =>
      have hp := (x.shortest .even).quote_notMem_pointed .double
      simp only [numberText, Binary.jsonText, String.toList_ofList]
      split
      · rw [List.mem_cons]
        exact not_or.2 ⟨by decide, hp⟩
      · exact hp

/-- A value whose text is that of a string is the string. -/
theorem eq_string_of_text {j : Json} {s : String} (h : j.text = quoted s) : j = .string s := by
  have hhead : j.text.toList.head? = some '"' := by
    rw [h, quoted, String.toList_ofList]
    rfl
  cases j with
  | null => cases hhead
  | bool b => cases b <;> cases hhead
  | number n => exact (quote_notMem_numberText n (List.mem_of_head? hhead)).elim
  | string t => rw [quoted_inj h]
  | array items =>
      rw [text, bracketed, String.toList_append, String.toList_append] at hhead
      cases hhead
  | object fields =>
      rw [text, braced] at hhead
      simp at hhead

/-- The value that a value without a kind is bound as to a JSON type: a string is read again. -/
def reread : Json → Json
  | .string s => (parse? s).getD (.string s)
  | j => j

/-- Whether a value is a string that is the text of a value itself. -/
def isTextOfJson : Json → Bool
  | .string s => (parse? s).isSome
  | _ => false

/-- Whether a value is written as a word: the null, a boolean or a number. -/
def isWord : Json → Bool
  | .null | .bool _ | .number _ => true
  | _ => false

/-! ## The same bytes -/

theorem text_of_bytes {a b : Json} {type : PgType} (h : a.bytes type = b.bytes type) :
    a.text = b.text := by
  have hutf8 : utf8 a.text = utf8 b.text := List.append_cancel_left h
  exact String.toByteArray_inj.1 (ByteArray.ext (Array.toList_inj.1 hutf8))

/-- A string that is read again is another value. -/
theorem text_reread {s : String} (h : (reread (.string s)).text = quoted s) : parse? s = none := by
  have hs : reread (.string s) = .string s := eq_string_of_text h
  cases hp : parse? s with
  | none => rfl
  | some value =>
      rw [reread, hp, Option.getD_some] at hs
      rw [hs] at hp
      exact (Nat.lt_irrefl _ (length_lt_of_parse? hp)).elim

end Json

namespace Value

/-- A text from a record is read again for the JSON types. -/
theorem bind_ofJson_reread {j : Json} {type : PgType} (hj : j.isWord = false)
    (ht : type = .json ∨ type = .jsonb) :
    (ofJson j).bind type = .ok (.bytes (j.reread.bytes type)) := by
  cases j with
  | null | bool b | number n => cases hj
  | string s => rcases ht with rfl | rfl <;> rfl
  | array items => rfl
  | object fields => rfl

/-- **JSON through records.**  A list, an object or a string that comes from a record is bound to a
    JSON type as it is read again, which are the bytes of the value itself exactly when the value is
    not a string with the text of a value. -/
theorem json_through_record {j : Json} {type : PgType} (hj : j.isWord = false)
    (ht : type = .json ∨ type = .jsonb) :
    (ofJson (json j).toJson).bind type = .ok (.bytes (j.reread.bytes type)) ∧
      ((ofJson (json j).toJson).bind type = (json j).bind type ↔ j.isTextOfJson = false) := by
  have hbind : (ofJson (json j).toJson).bind type = .ok (.bytes (j.reread.bytes type)) :=
    bind_ofJson_reread hj ht
  refine ⟨hbind, ?_⟩
  rw [hbind]
  cases j with
  | null | bool b | number n => cases hj
  | string s =>
      constructor
      · intro h
        have hbytes : (Json.reread (.string s)).bytes type = (Json.string s).bytes type :=
          Bound.bytes.inj (Except.ok.inj h)
        rw [Json.isTextOfJson, Json.text_reread (Json.text_of_bytes hbytes)]
        rfl
      · intro h
        rw [Json.isTextOfJson, Option.isSome_eq_false_iff, Option.isNone_iff_eq_none] at h
        rw [Json.reread, h]
        rfl
  | array items => exact ⟨fun _ => rfl, fun _ => rfl⟩
  | object fields => exact ⟨fun _ => rfl, fun _ => rfl⟩

/-- A string that begins like a list keeps its bytes, as it is no list. -/
theorem json_through_record_open_list :
    Json.isWord (.string "[\"Fred\",") = false ∧
      (ofJson (json (.string "[\"Fred\",")).toJson).bind .jsonb =
        (json (.string "[\"Fred\",")).bind .jsonb :=
  ⟨rfl, (json_through_record rfl (.inr rfl)).2.2 rfl⟩

/-- The string of one digit is bound with its quotes, but as a number when it comes from a
    record. -/
theorem json_string_of_digit :
    (json (.string "5")).bind .json = .ok (.bytes [0x22, 0x35, 0x22]) ∧
      (ofJson (json (.string "5")).toJson).bind .json = .ok (.bytes [0x35]) :=
  ⟨rfl, rfl⟩

end Value

end SqlComposer
