import Mathlib.Data.List.Basic
import SqlComposer.Proofs.ByteScanner
import SqlComposer.Proofs.PositionalAgreement

/-! # Numbers of placeholders

    Replacing named placeholders goes through a statement from left to right and gives each new name
    the next number.  Seen as a whole, the number of a name is its rank among the names in the order
    of their first use, the values are those of the names in this order, and the first name in the
    text that has no value is reported (`Positional.ofSymbols`).

    * What is written after some symbols depends on these symbols only (`Progress.after`), and a
      name that comes later changes no number given before (`numbered_append`).
    * One more symbol is written or reported (`Progress.after_writeSymbol`,
      `Progress.after_missing`), and so are all of them, by induction (`Progress.after_foldlM`).

    With what is known of the scanner this tells what replacing does on every text
    (`Positional.ofNamed_eq_reading`). -/

namespace SqlComposer

/-- The name of a placeholder. -/
def Symbol.name? : Symbol → Option String
  | .char _ => none
  | .placeholder name => some (String.ofList name)

/-- A symbol as it is written when each name has its rank in a list. -/
def Symbol.numbered (order : List String) : Symbol → List Char
  | .char c => [c]
  | .placeholder name => '$' :: (toString (order.idxOf (String.ofList name) + 1)).toList

/-- The names of the placeholders, in the order of the text. -/
def placeholderNames (symbols : List Symbol) : List String := symbols.filterMap Symbol.name?

namespace Positional

/-- The symbols of a statement with numbered placeholders: the number of a name is its rank among
    the names in the order of their first use, and the first name without a value is reported. -/
def ofSymbols (symbols : List Symbol) (parameters : ParameterMap) : Except InvalidSql Positional :=
  let names := placeholderNames symbols
  match names.find? fun name => (parameters.get? name).isNone with
  | some name => .error (.missingParameter name)
  | none =>
    .ok ⟨String.ofList (symbols.flatMap (Symbol.numbered names.eraseDups)),
      names.eraseDups.filterMap parameters.get?⟩

/-- What is written after the given symbols. -/
def Progress.after (parameters : ParameterMap) (symbols : List Symbol) : Progress :=
  let order := (placeholderNames symbols).eraseDups
  ⟨String.ofList (symbols.flatMap (Symbol.numbered order)), order,
    order.filterMap parameters.get?⟩

variable {parameters : ParameterMap}

/-- Numbers stay when a name is put behind the others. -/
theorem numbered_append {symbols : List Symbol} {order : List String}
    (h : ∀ name ∈ placeholderNames symbols, name ∈ order) (more : List String) :
    symbols.flatMap (Symbol.numbered (order ++ more)) =
      symbols.flatMap (Symbol.numbered order) := by
  refine List.flatMap_congr ?_
  intro s hs
  cases s with
  | char c => rfl
  | placeholder name =>
      have hm : String.ofList name ∈ order := h _ (List.mem_filterMap.2 ⟨_, hs, rfl⟩)
      rw [Symbol.numbered, Symbol.numbered, List.idxOf_append_of_mem hm]

theorem placeholderNames_char (symbols : List Symbol) (c : Char) :
    placeholderNames (symbols ++ [.char c]) = placeholderNames symbols := by
  rw [placeholderNames, List.filterMap_append]
  exact List.append_nil _

theorem placeholderNames_placeholder (symbols : List Symbol) (name : List Char) :
    placeholderNames (symbols ++ [.placeholder name]) =
      placeholderNames symbols ++ [String.ofList name] := by
  rw [placeholderNames, List.filterMap_append]
  rfl

/-- A placeholder is written as its number. -/
theorem ofList_numbered (order : List String) (name : List Char) :
    String.ofList (Symbol.numbered order (.placeholder name)) =
      "$" ++ toString (order.idxOf (String.ofList name) + 1) := by
  rw [Symbol.numbered, String.ofList_cons, String.ofList_toList]
  rfl

/-! ## One more symbol -/

/-- A name that has a number already is written with this number. -/
theorem Progress.after_known {symbols : List Symbol} {name : List Char}
    (h : String.ofList name ∈ placeholderNames symbols) :
    (after parameters symbols).writeSymbol parameters (.placeholder name) =
      .ok (after parameters (symbols ++ [.placeholder name])) := by
  have horder : (placeholderNames (symbols ++ [.placeholder name])).eraseDups =
      (placeholderNames symbols).eraseDups := by
    rw [placeholderNames_placeholder, List.eraseDups_append, List.removeAll]
    simp [h]
  have hplace : (placeholderNames symbols).eraseDups.findIdx? (· == String.ofList name) =
      some ((placeholderNames symbols).eraseDups.idxOf (String.ofList name)) := by
    rw [List.findIdx?_eq_some_iff_findIdx_eq]
    exact ⟨List.idxOf_lt_length_iff.2 (List.mem_eraseDups.2 h), rfl⟩
  rw [writeSymbol, write, after, after, horder, List.flatMap_append, String.ofList_append]
  simp only [hplace]
  rw [String.append_assoc, List.flatMap_singleton, ofList_numbered]

/-- A name that was not met has no place among the names. -/
theorem findIdx?_eraseDups {names : List String} {name : String} (h : name ∉ names) :
    names.eraseDups.findIdx? (· == name) = none := by
  rw [List.findIdx?_eq_none_iff]
  intro other hm
  rw [beq_eq_false_iff_ne]
  rintro rfl
  exact h (List.mem_eraseDups.1 hm)

/-- A name that comes for the first time gets the next number, and its value is put behind the
    others. -/
theorem Progress.after_new {symbols : List Symbol} {name : List Char} {value : Value}
    (h : String.ofList name ∉ placeholderNames symbols)
    (hv : parameters.get? (String.ofList name) = some value) :
    (after parameters symbols).writeSymbol parameters (.placeholder name) =
      .ok (after parameters (symbols ++ [.placeholder name])) := by
  have horder : (placeholderNames (symbols ++ [.placeholder name])).eraseDups =
      (placeholderNames symbols).eraseDups ++ [String.ofList name] := by
    rw [placeholderNames_placeholder, List.eraseDups_append, List.removeAll]
    simp [h, List.eraseDups_cons]
  rw [writeSymbol, write, after, after, horder, List.flatMap_append,
    numbered_append (fun _ hm => List.mem_eraseDups.2 hm), List.filterMap_append,
    String.ofList_append]
  simp only [findIdx?_eraseDups h, hv]
  rw [String.append_assoc, List.flatMap_singleton, ofList_numbered,
    List.idxOf_append_of_notMem (fun hm => h (List.mem_eraseDups.1 hm)), List.idxOf_cons_self,
    Nat.add_zero, List.filterMap_cons_some hv]
  rfl

/-- A symbol whose name has a value is written. -/
theorem Progress.after_writeSymbol (symbols : List Symbol) {s : Symbol}
    (h : ∀ name, s.name? = some name → (parameters.get? name).isSome) :
    (after parameters symbols).writeSymbol parameters s =
      .ok (after parameters (symbols ++ [s])) := by
  cases s with
  | char c =>
      rw [writeSymbol, after, after, placeholderNames_char, List.flatMap_append,
        String.ofList_append]
      rfl
  | placeholder name =>
      by_cases hm : String.ofList name ∈ placeholderNames symbols
      · exact after_known hm
      · obtain ⟨value, hv⟩ := Option.isSome_iff_exists.1 (h _ rfl)
        exact after_new hm hv

/-- A name without a value is reported. -/
theorem Progress.after_missing {symbols : List Symbol} {name : List Char}
    (hs : ∀ other ∈ placeholderNames symbols, (parameters.get? other).isSome)
    (h : parameters.get? (String.ofList name) = none) :
    (after parameters symbols).writeSymbol parameters (.placeholder name) =
      .error (.missingParameter (String.ofList name)) := by
  have hm : String.ofList name ∉ placeholderNames symbols := by
    intro hm
    have := hs _ hm
    rw [h] at this
    cases this
  rw [writeSymbol, write, after]
  simp only [findIdx?_eraseDups hm, h]

/-! ## All symbols -/

/-- Symbol after symbol is written, up to the first name without a value. -/
theorem Progress.after_foldlM {done : List Symbol}
    (hd : ∀ name ∈ placeholderNames done, (parameters.get? name).isSome) (symbols : List Symbol) :
    symbols.foldlM (writeSymbol parameters) (after parameters done) =
      match (placeholderNames symbols).find? fun name => (parameters.get? name).isNone with
      | some name => .error (.missingParameter name)
      | none => .ok (after parameters (done ++ symbols)) := by
  induction symbols generalizing done with
  | nil =>
      rw [List.append_nil]
      rfl
  | cons s rest ih =>
      rw [List.foldlM_cons]
      cases s with
      | char c =>
          rw [after_writeSymbol done (by simp [Symbol.name?])]
          show rest.foldlM (writeSymbol parameters) (after parameters (done ++ [Symbol.char c])) = _
          rw [ih (by rwa [placeholderNames_char]), List.append_assoc]
          rfl
      | placeholder name =>
          show _ = match (String.ofList name :: placeholderNames rest).find? _ with
            | some name => Except.error (InvalidSql.missingParameter name)
            | none => Except.ok (after parameters (done ++ Symbol.placeholder name :: rest))
          rw [List.find?_cons]
          cases hv : parameters.get? (String.ofList name) with
          | none =>
              rw [after_missing hd hv]
              rfl
          | some value =>
              have hd' : ∀ other ∈ placeholderNames (done ++ [.placeholder name]),
                  (parameters.get? other).isSome := by
                intro other hm
                rw [placeholderNames_placeholder, List.mem_append, List.mem_singleton] at hm
                rcases hm with hm | rfl
                · exact hd _ hm
                · rw [hv]
                  rfl
              rw [after_writeSymbol done (by simp [Symbol.name?, hv])]
              show rest.foldlM (writeSymbol parameters)
                (after parameters (done ++ [Symbol.placeholder name])) = _
              rw [ih hd', List.append_assoc]
              rfl

/-- Replacing the placeholders of a text is replacing those among its symbols. -/
theorem ofNamed_eq_ofSymbols (sql : String) (parameters : ParameterMap) :
    ofNamed sql parameters = ofSymbols (ScanState.normal.read sql.toList) parameters := by
  rw [ofNamed, ← foldlM_symbols, ScanState.symbols_eq_read]
  show (do let p ← List.foldlM _ (Progress.after parameters []) _; return _) = _
  rw [Progress.after_foldlM (by intro name hm; cases hm), List.nil_append, ofSymbols]
  cases (placeholderNames (ScanState.normal.read sql.toList)).find? fun name =>
    (parameters.get? name).isNone with
  | none => rfl
  | some name => rfl

/-- **Replacing named placeholders.**  Reading a statement one character at a time gives what is
    copied and the placeholders; these are replaced by the ranks of their names in the order of
    first use, with the values of the names in this order, or else the first name without a value
    is reported.  What is read is the whole statement, and scanning its bytes cuts no character. -/
theorem ofNamed_eq_reading (sql : String) (parameters : ParameterMap) :
    ofNamed sql parameters = ofSymbols (ScanState.normal.read sql.toList) parameters ∧
      (ScanState.normal.read sql.toList).flatMap Symbol.source = sql.toList ∧
      ∃ spans : List Span, Span.ofBytes ((utf8 sql).map byteChar) = spans.map Span.encode ∧
        spans.flatMap Span.symbols = ScanState.normal.read sql.toList := by
  refine ⟨ofNamed_eq_ofSymbols sql parameters, ScanState.source_read _ _, ?_⟩
  rw [map_byteChar_utf8, ← ScanState.symbols_eq_read]
  exact Span.ofBytes_byteText sql.toList

end Positional

end SqlComposer
