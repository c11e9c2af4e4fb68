import SqlComposer.Proofs.LooseStatement

/-! # Named and numbered placeholders agree

    A statement can be rendered with named placeholders, which are replaced by numbered ones before
    it is executed, or with numbered placeholders in the first place.  Both ways give the same text
    and the same list of values.

    The scanner sees in the rendered text the symbols of a loose fragment.  Replacing goes through
    them from left to right: a character is copied, and a placeholder comes with a name that was not
    met before, so its number is the number of its slot (`Positional.replace_symbols`). -/

namespace SqlComposer

namespace Positional

variable {parameters : ParameterMap} {p : Progress}

/-- Writes a symbol behind what is written. -/
def Progress.writeSymbol (parameters : ParameterMap) (p : Progress) :
    Symbol → Except InvalidSql Progress
  | .char c => .ok { p with sql := p.sql ++ String.ofList [c] }
  | .placeholder name => p.write parameters (.placeholder name)

/-- Characters are copied. -/
theorem foldlM_chars (parameters : ParameterMap) (text : List Char) (p : Progress) :
    (text.map Symbol.char).foldlM (Progress.writeSymbol parameters) p =
      .ok { p with sql := p.sql ++ String.ofList text } := by
  induction text generalizing p with
  | nil =>
      show Except.ok p = .ok { p with sql := p.sql ++ String.ofList [] }
      rw [String.ofList_nil, String.append_empty]
  | cons c rest ih =>
      rw [List.map_cons, List.foldlM_cons, Progress.writeSymbol]
      show (rest.map Symbol.char).foldlM _ { p with sql := p.sql ++ String.ofList [c] } = _
      rw [ih, String.append_assoc, ← String.ofList_append]
      rfl

/-- A text is written symbol by symbol. -/
theorem foldlM_symbols (text : List Char) (p : Progress) :
    (symbols text).foldlM (Progress.writeSymbol parameters) p =
      (Span.ofText text).foldlM (Progress.write parameters) p := by
  rw [symbols]
  induction Span.ofText text generalizing p with
  | nil => rfl
  | cons span rest ih =>
      have hspan : span.symbols.foldlM (Progress.writeSymbol parameters) p
          = p.write parameters span := by
        cases span with
        | copied chars => exact foldlM_chars parameters chars p
        | placeholder name => exact bind_pure _
      rw [List.flatMap_cons, List.foldlM_append, List.foldlM_cons, hspan]
      exact congrArg _ (funext ih)

/-- The names to come were not met yet. -/
def Progress.Fresh (p : Progress) : Prop :=
  ∀ number, p.names.length < number → Strategy.spring.parameterKey number ∉ p.names

/-- A name that is met for the first time takes the next number. -/
theorem Progress.Fresh.write {number : Nat} {value : Value} (hf : p.Fresh)
    (hl : number = p.names.length + 1)
    (hv : parameters.get? (Strategy.spring.parameterKey number) = some value) :
    ∃ p', p.writeSymbol parameters (.placeholder (Strategy.spring.parameterKey number).toList)
        = .ok p' ∧ p'.Fresh ∧ p'.names.length = number ∧
      p'.sql = p.sql ++ Strategy.postgres.parameterKey number ∧
      p'.values = p.values ++ [value] := by
  -- the name is new, so it is looked up and put behind the others
  have hnew : Strategy.spring.parameterKey number ∉ p.names := hf number (by omega)
  have hfind : p.names.findIdx? (· == Strategy.spring.parameterKey number) = none := by
    rw [List.findIdx?_eq_none_iff]
    intro name hm
    rw [beq_eq_false_iff_ne]
    rintro rfl
    exact hnew hm
  refine ⟨⟨p.sql ++ "$" ++ toString (p.names.length + 1),
    p.names ++ [Strategy.spring.parameterKey number], p.values ++ [value]⟩, ?_, ?_, ?_, ?_, rfl⟩
  · rw [Progress.writeSymbol, Progress.write, String.ofList_toList]
    simp only [hfind, hv]
  · intro m hm
    rw [List.length_append, List.length_singleton, ← hl] at hm
    rw [List.mem_append, List.mem_singleton, not_or]
    refine ⟨hf m (by omega), ?_⟩
    intro he
    exact absurd (Strategy.spring.parameterKey_injective he) (by omega)
  · rw [List.length_append, List.length_singleton, hl]
  · rw [hl, String.append_assoc]
    rfl

/-- Symbols of a fragment are replaced by its text with numbered placeholders. -/
theorem replace_symbols {f : Fragment} {number : Nat} (hf : p.Fresh)
    (hl : number = p.names.length + 1)
    (hv : ∀ i value, f.values[i]? = some value →
      parameters.get? (Strategy.spring.parameterKey (number + i)) = some value) :
    ∃ p', (f.symbols number).foldlM (Progress.writeSymbol parameters) p = .ok p' ∧
      p'.sql = p.sql ++ (f.pattern.first ++ Strategy.postgres.fill number f.pattern.places) ∧
      p'.values = p.values ++ f.values := by
  induction f generalizing p number with
  | nil =>
      refine ⟨p, rfl, ?_, (List.append_nil _).symm⟩
      show p.sql = p.sql ++ ("" ++ "")
      rw [String.append_empty, String.append_empty]
  | cons piece rest ih =>
      cases piece with
      | text s =>
          obtain ⟨p', hp, hsql, hvalues⟩ :=
            ih (p := { p with sql := p.sql ++ String.ofList s.toList }) hf hl hv
          refine ⟨p', ?_, ?_, hvalues⟩
          · rw [Fragment.symbols_text, List.foldlM_append, foldlM_chars]
            exact hp
          · rw [hsql, String.ofList_toList]
            show p.sql ++ s ++ (_ ++ _) = p.sql ++ (s ++ _ ++ _)
            simp only [String.append_assoc]
            rfl
      | slot value type =>
          obtain ⟨q, hq, hfresh, hlength, hsql, hvalues⟩ :=
            hf.write hl (hv 0 value rfl)
          have hrest : ∀ i v, (Fragment.values rest)[i]? = some v →
              parameters.get? (Strategy.spring.parameterKey (number + 1 + i)) = some v := by
            intro i v hi
            rw [Nat.add_assoc, Nat.add_comm 1 i]
            exact hv (i + 1) v hi
          -- behind the slot the same holds with one name more
          obtain ⟨p', hp, hsql', hvalues'⟩ := ih hfresh (by rw [hlength]) hrest
          refine ⟨p', ?_, ?_, ?_⟩
          · rw [Fragment.symbols_slot, List.foldlM_cons, hq]
            exact hp
          · rw [hsql', hsql, String.append_assoc]
            show _ = p.sql ++ ("" ++ (Strategy.postgres.parameterKey number ++ _ ++ _))
            simp only [String.append_assoc, String.empty_append]
          · rw [hvalues', hvalues, List.append_assoc]
            rfl

end Positional

/-! ## Both ways to a statement -/

/-- **Named and numbered placeholders agree.**  When all raw texts of a statement are neutral and it
    can be rendered with named placeholders, replacing these succeeds and gives the text and the
    values that are rendered with numbered placeholders. -/
theorem named_and_numbered_agree (s : Statement) (hn : AllNeutral s.rawTexts) {r : Rendered}
    (h : s.rendered .spring = .ok r) :
    ∃ q p, s.rendered .postgres = .ok q ∧ Positional.ofNamed r.sql r.parameters = .ok p ∧
      p.sql = q.sql ∧ p.values = q.parameters.values := by
  obtain ⟨f, hf, rfl⟩ := Statement.exists_fragment h
  have hq : s.rendered .postgres = .ok (f.rendered s.verb .postgres) := by
    rw [s.rendered_eq, hf]
    rfl
  -- the scanner sees the symbols of the fragment, which knows nothing of the strategy
  have hsymbols : symbols (f.rendered s.verb .spring).sql.toList = f.symbols 1 := by
    have hl := Statement.loose_fragment hn hf 1 [] settled_nil
    rw [List.append_nil, symbols_nil, List.append_nil] at hl
    rw [f.rendered_sql]
    exact hl
  have hvalues : ∀ i value, f.values[i]? = some value →
      (f.rendered s.verb .spring).parameters.get? (Strategy.spring.parameterKey (1 + i))
        = some value := by
    intro i value hi
    rw [ParameterMap.get?_eq_find?, f.rendered_entries, Strategy.find?_keyed _ hi]
    rfl
  have hfresh : Positional.Progress.Fresh ⟨"", [], []⟩ := by
    intro number _ hm
    cases hm
  obtain ⟨p, hp, hsql, hlist⟩ := Positional.replace_symbols hfresh (rfl : 1 = 0 + 1) hvalues
  rw [← hsymbols, Positional.foldlM_symbols] at hp
  refine ⟨_, ⟨p.sql, p.values⟩, hq, ?_, ?_, ?_⟩
  · rw [Positional.ofNamed, hp]
    rfl
  · rw [f.rendered_sql, hsql, String.empty_append]
    rfl
  · rw [ParameterMap.values, f.rendered_entries, Strategy.map_snd_keyed]
    exact hlist

/-- A delete of orders with a quoted table name, and a string constant in which something looks like
    a placeholder. -/
def deleteOrders : Statement :=
  let column (name : String) : Expr := .column (.ofTable "\"order\"" name)
  .delete ⟨"\"order\"", none,
    some ⟨some (.test (column "note") (.compareExpr .ne (.stringConstant "it's :p1"))),
      [(.and, ⟨some (.test (column "id") (.values (.compare .eq (some (.bigInt 7))) false)), []⟩)]⟩,
    [], none, {}⟩

/-- The delete of orders in both ways. -/
theorem named_and_numbered_agree_delete :
    AllNeutral deleteOrders.rawTexts ∧
    ∃ r, deleteOrders.rendered .spring = .ok r ∧
      r.sql = "delete from \"order\" where note <> 'it''s :p1' and id = :p1" ∧
      ∃ q p, deleteOrders.rendered .postgres = .ok q ∧
        Positional.ofNamed r.sql r.parameters = .ok p ∧
        p.sql = q.sql ∧ p.values = q.parameters.values := by
  have hquoted : Neutral "\"order\"".toList := .cons rfl rfl .nil
  have hnote : Neutral "note".toList := neutral_of_isPlain (by decide)
  have hid : Neutral "id".toList := neutral_of_isPlain (by decide)
  have htexts : deleteOrders.rawTexts = ["\"order\"", "note", "\"order\"", "id", "\"order\""] := rfl
  have hn : AllNeutral deleteOrders.rawTexts := by
    intro s hs
    rw [htexts] at hs
    simp only [List.mem_cons, List.not_mem_nil, or_false] at hs
    rcases hs with rfl | rfl | rfl | rfl | rfl
    · exact hquoted
    · exact hnote
    · exact hquoted
    · exact hid
    · exact hquoted
  exact ⟨hn, _, rfl, rfl, named_and_numbered_agree deleteOrders hn rfl⟩
end SqlComposer
