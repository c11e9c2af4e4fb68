import SqlComposer.Render.Clause

/-! # Fragments — SQL whose values are still in their places

    A fragment is SQL text in which the place of every bound value is a slot that holds the value.
    It knows no strategy, no number and no parameter map; these come in when it is written in a
    context, piece after piece.

    * `Fragment.write` writes a fragment, and writing distributes over `++`
      (`Fragment.write_append`);
    * the ways in which texts are put together have counterparts on fragments, and writing turns
      one into the other (`write_separatedBy`, `write_spaced`);
    * a fragment is written as the empty text exactly when it has no slot and no character
      (`write_fst_isEmpty`), because no placeholder is empty. -/

namespace SqlComposer

/-- A piece of a fragment: text, or the place of a bound value. -/
inductive Piece where
  | text (s : String)
  | slot (value : Value) (type : Option JdbcType)

/-- SQL with values bound in it. -/
abbrev Fragment := List Piece

/-- Whether a piece adds no character to a statement. -/
def Piece.isNothing : Piece → Bool
  | .text s => s.isEmpty
  | .slot _ _ => false

/-- A context with other scopes. -/
def Context.within (c : Context) (scopes : List Scope) : Context := { c with scopes := scopes }

namespace Fragment

/-- A fragment of text only. -/
def ofText (s : String) : Fragment := [.text s]

/-- The place of one bound value. -/
def ofValue (value : Value) (type : Option JdbcType) : Fragment := [.slot value type]

/-- Whether a fragment has neither a slot nor a character. -/
def isNothing (f : Fragment) : Bool := f.all Piece.isNothing

/-- Fragments one after the other with a text between them. -/
def separatedBy (separator : String) : List Fragment → Fragment
  | [] => []
  | [f] => f
  | f :: g :: rest => f ++ ofText separator ++ separatedBy separator (g :: rest)

/-- Fragments with commas between them. -/
def listed (fragments : List Fragment) : Fragment := separatedBy ", " fragments

/-- The fragments that are not empty, with blanks between them. -/
def spaced (fragments : List Fragment) : Fragment :=
  separatedBy " " (fragments.filter fun f => !f.isNothing)

/-- A fragment in parentheses. -/
def parenthesized (f : Fragment) : Fragment := ofText "(" ++ f ++ ofText ")"

/-! ## Writing -/

/-- The text of a fragment in a context, and the context with its values bound. -/
def write : Fragment → Context → String × Context
  | [], c => ("", c)
  | .text s :: rest, c => (s ++ (write rest c).1, (write rest c).2)
  | .slot value type :: rest, c =>
    ((c.bind value type).1 ++ (write rest (c.bind value type).2).1,
      (write rest (c.bind value type).2).2)

/-- The texts of fragments written one after the other. -/
def writeAll : List Fragment → Context → List String × Context
  | [], c => ([], c)
  | f :: rest, c =>
    ((f.write c).1 :: (writeAll rest (f.write c).2).1, (writeAll rest (f.write c).2).2)

@[simp] theorem write_nil (c : Context) : write [] c = ("", c) := rfl

@[simp] theorem write_ofText (s : String) (c : Context) : (ofText s).write c = (s, c) := by
  show (s ++ "", c) = (s, c)
  rw [String.append_empty]

/-- A slot is written as the placeholder that binding its value gives. -/
@[simp] theorem write_ofValue (value : Value) (type : Option JdbcType) (c : Context) :
    (ofValue value type).write c = c.bind value type := by
  show ((c.bind value type).1 ++ "", (c.bind value type).2) = c.bind value type
  rw [String.append_empty]

/-- Writing two fragments one after the other. -/
theorem write_append (f g : Fragment) (c : Context) :
    (f ++ g).write c = ((f.write c).1 ++ (g.write (f.write c).2).1, (g.write (f.write c).2).2) := by
  -- a slot moves the context on, so the induction is over all contexts
  induction f generalizing c with
  | nil => simp
  | cons piece rest ih =>
      cases piece with
      | text s => simp only [List.cons_append, write, ih, String.append_assoc]
      | slot value type => simp only [List.cons_append, write, ih, String.append_assoc]

/-- Writing changes no scope. -/
@[simp] theorem write_scopes (f : Fragment) (c : Context) : (f.write c).2.scopes = c.scopes := by
  induction f generalizing c with
  | nil => rfl
  | cons piece rest ih =>
      cases piece with
      | text s => exact ih c
      | slot value type => exact ih (c.bind value type).2

/-- Writing changes no strategy. -/
@[simp] theorem write_strategy (f : Fragment) (c : Context) :
    (f.write c).2.strategy = c.strategy := by
  induction f generalizing c with
  | nil => rfl
  | cons piece rest ih =>
      cases piece with
      | text s => exact ih c
      | slot value type => exact ih (c.bind value type).2

/-- Scopes play no part in writing. -/
theorem write_within (f : Fragment) (c : Context) (scopes : List Scope) :
    f.write (c.within scopes) = ((f.write c).1, (f.write c).2.within scopes) := by
  induction f generalizing c with
  | nil => rfl
  | cons piece rest ih =>
      cases piece with
      | text s => simp only [write, ih]
      | slot value type =>
          have hb : (c.within scopes).bind value type
              = ((c.bind value type).1, (c.bind value type).2.within scopes) := rfl
          simp only [write, hb, ih]

/-- A scope does not matter for writing, and it stays. -/
theorem write_push (f : Fragment) (c : Context) (scope : Scope) :
    f.write (c.push scope) = ((f.write c).1, (f.write c).2.push scope) := by
  show f.write (c.within (scope :: c.scopes)) = _
  rw [write_within, ← write_scopes f c]
  rfl

@[simp] theorem writeAll_nil (c : Context) : writeAll [] c = ([], c) := rfl

@[simp] theorem writeAll_cons (f : Fragment) (rest : List Fragment) (c : Context) :
    writeAll (f :: rest) c =
      ((f.write c).1 :: (writeAll rest (f.write c).2).1, (writeAll rest (f.write c).2).2) := rfl

/-- Fragments are written one after the other. -/
theorem writeAll_append (fs gs : List Fragment) (c : Context) :
    writeAll (fs ++ gs) c =
      ((writeAll fs c).1 ++ (writeAll gs (writeAll fs c).2).1,
        (writeAll gs (writeAll fs c).2).2) := by
  induction fs generalizing c with
  | nil => rfl
  | cons f rest ih => simp only [List.cons_append, writeAll_cons, ih]

/-- Writing fragments leaves the scopes alone. -/
@[simp] theorem writeAll_scopes (fs : List Fragment) (c : Context) :
    (writeAll fs c).2.scopes = c.scopes := by
  induction fs generalizing c with
  | nil => rfl
  | cons f rest ih => rw [writeAll_cons, ih, write_scopes]

@[simp] theorem writeAll_map_ofText (texts : List String) (c : Context) :
    writeAll (texts.map ofText) c = (texts, c) := by
  induction texts with
  | nil => rfl
  | cons s rest ih => rw [List.map_cons, writeAll_cons, write_ofText, ih]

/-! ## Putting fragments together -/

/-- Writing a list with separators is writing its items and separating their texts. -/
theorem write_separatedBy (separator : String) (fs : List Fragment) (c : Context) :
    (separatedBy separator fs).write c =
      (String.intercalate separator (writeAll fs c).1, (writeAll fs c).2) := by
  induction fs generalizing c with
  | nil => rw [separatedBy, write_nil, writeAll_nil, String.intercalate_nil]
  | cons f rest ih =>
      cases rest with
      | nil => rw [separatedBy, writeAll_cons, writeAll_nil, String.intercalate_singleton]
      | cons g others =>
          rw [separatedBy, write_append, write_append, write_ofText, ih]
          rw [writeAll_cons f, writeAll_cons g, String.intercalate_cons_cons]

/-- Writing a list with commas. -/
theorem write_listed (fs : List Fragment) (c : Context) :
    (listed fs).write c = (SqlComposer.listed (writeAll fs c).1, (writeAll fs c).2) :=
  write_separatedBy ", " fs c

/-- Writing in parentheses. -/
theorem write_parenthesized (f : Fragment) (c : Context) :
    (parenthesized f).write c = (SqlComposer.parenthesized (f.write c).1, (f.write c).2) := by
  rw [parenthesized, write_append, write_append, write_ofText, write_ofText]
  rfl

/-- A text behind one that is not empty makes no empty text. -/
theorem append_ne_empty {s : String} (h : s ≠ "") (t : String) : s ++ t ≠ "" := by
  intro he
  rw [String.append_eq_empty_iff] at he
  exact h he.1

/-- No placeholder is empty. -/
theorem bind_fst_ne_empty (value : Value) (type : Option JdbcType) (c : Context) :
    (c.bind value type).1 ≠ "" := by
  show c.strategy.placeholder (c.strategy.parameterKey c.nextNumber) type ≠ ""
  cases c.strategy with
  | mybatis =>
      cases type with
      | none => exact append_ne_empty (append_ne_empty (by decide) _) _
      | some type =>
          refine append_ne_empty ?_ _
          exact append_ne_empty (append_ne_empty (append_ne_empty (by decide) _) _) _
  | spring => exact append_ne_empty (by decide) _
  | postgres => exact append_ne_empty (by decide) _
  | jdbc =>
      show "?" ≠ ""
      decide

/-- A fragment is written as the empty text exactly when it has neither slot nor character. -/
theorem write_fst_isEmpty (f : Fragment) (c : Context) : (f.write c).1.isEmpty = f.isNothing := by
  induction f generalizing c with
  | nil => rfl
  | cons piece rest ih =>
      cases piece with
      | text s =>
          -- a text counts by its characters, a slot by its placeholder, which has one at least
          show (s ++ (write rest c).1).isEmpty = (s.isEmpty && isNothing rest)
          rw [← ih c, Bool.eq_iff_iff]
          simp
      | slot value type =>
          show ((c.bind value type).1 ++ (write rest (c.bind value type).2).1).isEmpty = false
          rw [Bool.eq_false_iff, ne_eq, String.isEmpty_iff]
          exact append_ne_empty (bind_fst_ne_empty value type c) _

/-- A fragment that is nothing binds nothing. -/
theorem write_of_isNothing {f : Fragment} (h : f.isNothing = true) (c : Context) :
    f.write c = ("", c) := by
  induction f with
  | nil => rfl
  | cons piece rest ih =>
      cases piece with
      | text s =>
          have h' : s.isEmpty = true ∧ isNothing rest = true := by
            simpa [isNothing, Piece.isNothing] using h
          have hs : s = "" := String.isEmpty_iff.mp h'.1
          rw [write, ih h'.2, hs]
          rfl
      | slot value type => simp [isNothing, Piece.isNothing] at h

/-- Writing the fragments that are not empty is writing all and keeping the texts that are not
    empty. -/
theorem writeAll_filter (fs : List Fragment) (c : Context) :
    writeAll (fs.filter fun f => !f.isNothing) c =
      ((writeAll fs c).1.filter fun s => !s.isEmpty, (writeAll fs c).2) := by
  induction fs generalizing c with
  | nil => rfl
  | cons f rest ih =>
      have he := write_fst_isEmpty f c
      cases hf : f.isNothing with
      | true =>
          have hw := write_of_isNothing hf c
          simp [hf, hw, ih]
      | false =>
          rw [hf] at he
          simp [hf, he, ih]

/-- Writing a list with blanks between the items that are not empty. -/
theorem write_spaced (fs : List Fragment) (c : Context) :
    (spaced fs).write c = (SqlComposer.spaced (writeAll fs c).1, (writeAll fs c).2) := by
  rw [spaced, write_separatedBy, writeAll_filter]
  rfl

end Fragment

end SqlComposer
