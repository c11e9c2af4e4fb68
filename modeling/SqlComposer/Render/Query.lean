import SqlComposer.Render.Clause

/-! # Rendering queries

Expressions, criteria and selects are rendered in the order in which their parts stand in the
statement, and the first error is the result.  A criterion whose values are absent is left out
before anything of it is rendered. -/

namespace SqlComposer

open Rendering

/-- An operand, in upper case when the case of letters is ignored. -/
def operandText (ignoreCase : Bool) (operand : String) : String :=
  if ignoreCase then "upper" ++ parenthesized operand else operand

/-- A value, in upper case when the case of letters is ignored. -/
def operandValue (ignoreCase : Bool) (v : Value) : Value := if ignoreCase then v.upper else v

/-- The negation of a word. -/
def negatedWord (negated : Bool) (word : String) : String :=
  if negated then "not " ++ word else word

/-- A condition on a rendered operand, or nothing when it drops out.  A list of values that is empty
without being a list of present values is an error. -/
def ConditionKind.render? (operand : String) (type : Option JdbcType) (ignoreCase : Bool) :
    ConditionKind → Rendering (Option String)
  | .compare _ none => return none
  | .compare op (some value) => do
    let placeholder ← bindValue (operandValue ignoreCase value) type
    return some (operandText ignoreCase operand ++ " " ++ op.text ++ " " ++ placeholder)
  | .null negated =>
    return some (operandText ignoreCase operand ++ " is " ++ negatedWord negated "null")
  | .between negated (some low) (some high) => do
    let first ← bindValue low type
    let second ← bindValue high type
    return some (operandText ignoreCase operand ++ " " ++ negatedWord negated "between" ++ " " ++
      first ++ " and " ++ second)
  | .between _ _ _ => return none
  | .member negated whenPresent values =>
    if values.isEmpty then
      if whenPresent then return none else throw (.invalidSql .emptyInList)
    else do
      let placeholders ← bindValues (values.map (operandValue ignoreCase)) type
      return some (operandText ignoreCase operand ++ " " ++ negatedWord negated "in" ++ " " ++
        parenthesized (String.intercalate "," placeholders))

mutual

/-- An expression without its alias. -/
def Expr.render : Expr → Rendering String
  | .column c => return c.text (← scopes)
  | .allColumns table => do
    match qualifier? (← scopes) table with
    | some qualifier => return qualifier ++ ".*"
    | none => return "*"
  | .constant s => return s
  | .stringConstant s => return stringLiteral s
  | .bound value => bindValue value none
  | .countAll => return "count(*)"
  | .count argument => do
    let s ← argument.render
    return "count" ++ parenthesized s
  | .countDistinct argument => do
    let s ← argument.render
    return "count" ++ parenthesized ("distinct " ++ s)
  | .call function argument => do
    let s ← argument.render
    return function.name ++ parenthesized s
  | .rowNumber => return "row_number()"
  | .windowed inner window => do
    let s ← inner.render
    let rows ← window.render
    return s ++ " " ++ rows
  | .caseOf operand branches otherwise => do
    let before ← Expr.renderAfter " " operand
    let whens ← CaseBranch.renderAll branches (operand.bind Expr.jdbcType?)
    let behind ← Expr.renderAfter " else " otherwise
    return "case" ++ before ++ whens ++ behind ++ " end"
  | .subquery query => do
    let s ← query.render
    return parenthesized s
  | .aliased inner _ => inner.render

/-- An expression after a text, if there is one. -/
def Expr.renderAfter : (before : String) → Option Expr → Rendering String
  | _, none => return ""
  | before, some e => do
    let s ← e.render
    return before ++ s

/-- Expressions in a list. -/
def Expr.renderAll : List Expr → Rendering (List String)
  | [] => return []
  | e :: rest => do
    let s ← e.render
    let others ← Expr.renderAll rest
    return s :: others

/-- Expressions in a select list, each with its alias. -/
def Expr.renderSelected : List Expr → Rendering (List String)
  | [] => return []
  | e :: rest => do
    let s ← e.render
    let named := match e.alias? with
      | some aliasName => s ++ " as " ++ aliasName
      | none => s
    let others ← Expr.renderSelected rest
    return named :: others

/-- A window. -/
def Window.render : Window → Rendering String
  | ⟨partitionBy, orderBy⟩ => do
    let columns ← Expr.renderAll partitionBy
    return "over" ++
      parenthesized (spaced [listClause "partition by " columns, orderClause orderBy])

/-- A branch of a case expression; values of the operand are bound with its type. -/
def CaseBranch.render : CaseBranch → Option JdbcType → Rendering String
  | .searched condition result, _ => do
    let criteria ← condition.render
    let tested ← requiredCriteria .caseConditionDroppedOut criteria
    let s ← result.render
    return " when " ++ tested ++ " then " ++ s
  | .simple values result, type => do
    let placeholders ← bindValues values type
    let s ← result.render
    return " when " ++ listed placeholders ++ " then " ++ s

/-- The branches of a case expression one after the other. -/
def CaseBranch.renderAll : List CaseBranch → Option JdbcType → Rendering String
  | [], _ => return ""
  | branch :: rest, type => do
    let s ← branch.render type
    let others ← CaseBranch.renderAll rest type
    return s ++ others

/-- A test on a rendered operand, or nothing when it drops out. -/
def Test.render? : Test → (operand : String) → Option JdbcType → Rendering (Option String)
  | .values kind ignoreCase, operand, type => kind.render? operand type ignoreCase
  | .compareExpr op right, operand, _ => do
    let s ← right.render
    return some (operand ++ " " ++ op.text ++ " " ++ s)
  | .compareQuery op query, operand, _ => do
    let s ← query.render
    return some (operand ++ " " ++ op.text ++ " " ++ parenthesized s)
  | .memberOfQuery negated query, operand, _ => do
    let s ← query.render
    return some (operand ++ " " ++ negatedWord negated "in" ++ " " ++ parenthesized s)

/-- A criterion, or nothing when it drops out. -/
def Criterion.render? : Criterion → Rendering (Option String)
  | .test operand test =>
    if test.dropsOut then return none
    else do
      let s ← operand.render
      test.render? s operand.jdbcType?
  | .exists negated query => do
    let s ← query.render
    return some (negatedWord negated "exists" ++ " " ++ parenthesized s)
  | .group group => do
    let criteria ← group.render
    return criteria.map RenderedCriteria.grouped
  | .not group => do
    let criteria ← group.render
    return criteria.map fun r => "not " ++ r.grouped

/-- The initial criterion of a scope, if there is one and it does not drop out. -/
def Criterion.renderInitial : Option Criterion → Rendering (Option String)
  | none => return none
  | some criterion => criterion.render?

/-- The criteria of a scope, or nothing when all of them drop out. -/
def CriteriaGroup.render : CriteriaGroup → Rendering (Option RenderedCriteria)
  | ⟨initial, links⟩ => do
    let first ← Criterion.renderInitial initial
    let others ← CriteriaGroup.renderLinks links
    return RenderedCriteria.ofParts (first.toList.map (Connector.and, ·) ++ others)

/-- The connected groups of a scope that do not drop out. -/
def CriteriaGroup.renderLinks :
    List (Connector × CriteriaGroup) → Rendering (List (Connector × String))
  | [] => return []
  | (connector, group) :: rest => do
    let criteria ← group.render
    let others ← CriteriaGroup.renderLinks rest
    return criteria.toList.map (fun r => (connector, r.grouped)) ++ others

/-- The criteria of a clause, if there is one. -/
def CriteriaGroup.renderClause :
    Option CriteriaGroup → Rendering (Option (Option RenderedCriteria))
  | none => return none
  | some group => do
    let criteria ← group.render
    return some criteria

/-- What a query block reads from. -/
def Source.render : Source → Rendering String
  | .table name aliasName => return tableText name aliasName
  | .subquery query aliasName => do
    let s ← query.render
    return parenthesized s ++ " " ++ aliasName

/-- A from clause, if there is one. -/
def Source.renderFrom : Option Source → Rendering String
  | none => return ""
  | some source => do
    let s ← source.render
    return "from " ++ s

/-- A join. -/
def Join.render : Join → Rendering String
  | ⟨type, source, on⟩ => do
    let table ← source.render
    let criteria ← on.render
    let matched ← requiredCriteria .emptyJoinCondition criteria
    return type.text ++ " " ++ table ++ " on " ++ matched

/-- The joins of a query block. -/
def Join.renderAll : List Join → Rendering (List String)
  | [] => return []
  | join :: rest => do
    let s ← join.render
    let others ← Join.renderAll rest
    return s :: others

/-- A query block in its own scope, after its keyword and with the configuration of its select. -/
def QueryBlock.render : QueryBlock → (keyword : String) → Config → Rendering String
  | ⟨distinct, columns, source, joins, filter, groupBy, having⟩, keyword, config =>
    withScope (QueryBlock.scope ⟨distinct, columns, source, joins, filter, groupBy, having⟩) do
      let columns ← Expr.renderSelected columns
      let source ← Source.renderFrom source
      let joins ← Join.renderAll joins
      let criteria ← CriteriaGroup.renderClause filter
      let filter ← whereClause config criteria
      let groups ← Expr.renderAll groupBy
      let criteria ← CriteriaGroup.renderClause having
      let distinctWord := if distinct then "distinct" else ""
      return spaced ([keyword, distinctWord, listed columns, source] ++ joins ++
        [filter, listClause "group by " groups, havingClause criteria])

/-- The query blocks of unions, each after its keyword. -/
def QueryBlock.renderUnions :
    List (UnionKind × QueryBlock) → Config → Rendering (List String)
  | [], _ => return []
  | (kind, block) :: rest, config => do
    let s ← block.render "select" config
    let others ← QueryBlock.renderUnions rest config
    return kind.text :: s :: others

/-- A select in the scopes around it. -/
def Select.render : Select → Rendering String
  | ⟨first, unions, orderBy, paging, lock, config⟩ => do
    let s ← first.render (config.keyword "select") config
    let others ← QueryBlock.renderUnions unions config
    let page ← paging.render
    return config.wrap (spaced (s :: others ++ [orderClause orderBy, page] ++ lockClause lock))

end

end SqlComposer
