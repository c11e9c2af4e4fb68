import SqlComposer.Render.Query

/-! # Aliases and windows

    An alias stands outside of everything else of an expression.  A plain column keeps it inside
    itself, every other expression in a wrapper around it; a window goes inside of the wrapper.  The
    route:

    * giving an alias keeps the text and the type of an expression (`Expr.render_withAlias`,
      `Expr.jdbcType?_withAlias`), and a second alias replaces the first
      (`Expr.withAlias_withAlias`);
    * a window puts its text behind the text of the expression (`Expr.render_overWindow`);
    * `Expr.alias?_overWindow`: what carries an alias still carries it over a window, but for a
      plain column, whose alias is inside of what is windowed.

    So the order of alias and window does not matter, unless the expression is a plain column
    (`Expr.alias_over_window`). -/

namespace SqlComposer

open Rendering

namespace Expr

/-- A text under an alias, if there is one. -/
def labelled (label : Option String) (s : String) : String :=
  match label with
  | some aliasName => s ++ " as " ++ aliasName
  | none => s

/-- An expression as an item of a select list. -/
def selected (e : Expr) : Rendering String := do
  let s ← e.render
  return labelled e.alias? s

/-- An expression with a window behind it. -/
def windowText (e : Expr) (window : Window) : Rendering String := do
  let s ← e.render
  let rows ← window.render
  return s ++ " " ++ rows

/-! ## Select lists -/

/-- A select list is rendered expression by expression. -/
theorem renderSelected_cons (e : Expr) (rest : List Expr) :
    renderSelected (e :: rest) = do
      let s ← e.selected
      let others ← renderSelected rest
      return s :: others := by
  rw [renderSelected, selected, bind_assoc]
  refine bind_congr fun s => ?_
  rw [pure_bind]
  cases h : e.alias? <;> rfl

/-- An item of a select list between others is rendered after those in front of it. -/
theorem renderSelected_append (before : List Expr) (e : Expr) (behind : List Expr) :
    renderSelected (before ++ e :: behind) = do
      let first ← renderSelected before
      let s ← e.selected
      let others ← renderSelected behind
      return first ++ s :: others := by
  induction before with
  | nil =>
      rw [List.nil_append, renderSelected_cons, renderSelected, pure_bind]
      rfl
  | cons e' rest ih =>
      rw [List.cons_append, renderSelected_cons, renderSelected_cons, ih]
      simp only [bind_assoc, pure_bind, List.cons_append]

/-! ## Aliases -/

variable (window : Window) (aliasName : String)

/-- The text of a column is its name and qualifier, and a wrapper has no text of its own. -/
theorem render_withAlias (e : Expr) : (e.withAlias aliasName).render = e.render := by
  cases e with
  | column c =>
      rw [withAlias, render, render]
      rfl
  | _ => simp only [withAlias, render]

theorem jdbcType?_withAlias (e : Expr) : (e.withAlias aliasName).jdbcType? = e.jdbcType? := by
  cases e <;> rfl

theorem alias?_withAlias (e : Expr) : (e.withAlias aliasName).alias? = some aliasName := by
  cases e <;> rfl

theorem isColumn_withAlias (e : Expr) : (e.withAlias aliasName).isColumn = e.isColumn := by
  cases e <;> rfl

/-- The alias given last wins. -/
theorem withAlias_withAlias (e : Expr) (other : String) :
    (e.withAlias aliasName).withAlias other = e.withAlias other := by
  cases e <;> rfl

/-! ## Windows -/

/-- An expression over a window is rendered with the window behind it, without an alias. -/
theorem render_overWindow (e : Expr) : (e.overWindow window).render = e.windowText window := by
  fun_induction overWindow window e with
  | case1 inner aliasName ih =>
      rw [render, ih, windowText, windowText]
      simp only [render]
  | case2 e h =>
      rw [render]
      rfl

/-- A window changes no type. -/
theorem jdbcType?_overWindow (e : Expr) : (e.overWindow window).jdbcType? = e.jdbcType? := by
  fun_induction overWindow window e with
  | case1 inner aliasName ih => exact ih
  | case2 e h => rfl

/-- An alias in a wrapper stays outside of the window; a plain column takes its alias inside. -/
theorem alias?_overWindow (e : Expr) :
    (e.overWindow window).alias? = if e.isColumn then none else e.alias? := by
  fun_induction overWindow window e with
  | case1 inner aliasName ih => rfl
  | case2 e h =>
      cases e with
      | aliased inner aliasName => exact absurd rfl (h inner aliasName)
      | _ => rfl

/-! ## Aliases and windows together -/

/-- The windowed expression under the alias, when the alias is given last. -/
theorem selected_withAlias_overWindow (e : Expr) :
    ((e.overWindow window).withAlias aliasName).selected = do
      let s ← e.windowText window
      return s ++ " as " ++ aliasName := by
  rw [selected, render_withAlias, render_overWindow, alias?_withAlias]
  rfl

/-- The same when the window is given last, but for a plain column, whose alias is lost. -/
theorem selected_overWindow_withAlias (e : Expr) :
    ((e.withAlias aliasName).overWindow window).selected = do
      let s ← e.windowText window
      return if e.isColumn then s else s ++ " as " ++ aliasName := by
  have htext : (e.withAlias aliasName).windowText window = e.windowText window := by
    rw [windowText, render_withAlias, windowText]
  rw [selected, render_overWindow, htext, alias?_overWindow, isColumn_withAlias, alias?_withAlias]
  cases e.isColumn <;> rfl

/-- **An alias stays outermost, but for a plain column.**  In every select list, an expression that
    first gets a window and then an alias is the windowed expression followed by the alias.  An
    expression that first gets the alias is the same, unless it is a plain column: then it is the
    windowed column alone.  Of two aliases the last one wins, aliases and windows keep the type, and
    an alias changes no text outside of select lists. -/
theorem alias_over_window (e : Expr) (window : Window) (aliasName other : String) :
    (∀ before behind : List Expr,
      renderSelected (before ++ (e.overWindow window).withAlias aliasName :: behind) = (do
        let first ← renderSelected before
        let s ← e.render
        let rows ← window.render
        let others ← renderSelected behind
        return first ++ (s ++ " " ++ rows ++ " as " ++ aliasName) :: others) ∧
      renderSelected (before ++ (e.withAlias aliasName).overWindow window :: behind) =
        (if e.isColumn then (do
          let first ← renderSelected before
          let s ← e.render
          let rows ← window.render
          let others ← renderSelected behind
          return first ++ (s ++ " " ++ rows) :: others)
        else renderSelected (before ++ (e.overWindow window).withAlias aliasName :: behind)) ∧
      renderSelected (before ++ (e.withAlias aliasName).withAlias other :: behind) =
        renderSelected (before ++ e.withAlias other :: behind)) ∧
    (e.withAlias aliasName).jdbcType? = e.jdbcType? ∧
    (e.overWindow window).jdbcType? = e.jdbcType? ∧
    (e.withAlias aliasName).render = e.render := by
  refine ⟨?_, e.jdbcType?_withAlias aliasName, e.jdbcType?_overWindow window,
    e.render_withAlias aliasName⟩
  intro before behind
  refine ⟨?_, ?_, ?_⟩
  · rw [renderSelected_append, selected_withAlias_overWindow, windowText]
    simp only [bind_assoc, pure_bind]
  · rw [renderSelected_append, renderSelected_append, selected_overWindow_withAlias,
      selected_withAlias_overWindow, windowText]
    cases e.isColumn with
    | true => simp only [bind_assoc, pure_bind, if_true]
    | false => rfl
  · rw [withAlias_withAlias]

/-- A column that first gets an alias and then a window loses the alias; in the other order it keeps
    it. -/
theorem column_loses_alias :
    ((renderSelected [((Expr.column (.ofTable "Person" "id")).withAlias "a").overWindow
        ⟨[], []⟩]).outcome (.initial .postgres)).1 = .ok ["id over()"] ∧
      ((renderSelected [((Expr.column (.ofTable "Person" "id")).overWindow ⟨[], []⟩).withAlias
        "a"]).outcome (.initial .postgres)).1 = .ok ["id over() as a"] :=
  ⟨rfl, rfl⟩

end Expr

end SqlComposer
