import SqlComposer.Proofs.Fragment
import SqlComposer.Render.Query

/-! # The fragment that a query denotes

    Expressions, criteria and selects as fragments: a definition without state, by recursion on the
    syntax, that takes the scopes as an argument and knows neither strategies nor numbers.  It says
    what a render pass has to write; that a pass does write it is shown in `QueryRealization`.

    Criteria are kept as parts with their connectors, so that the ones that are left can be counted
    and read again. -/

namespace SqlComposer

/-- A sequence that succeeds has a first part that succeeds. -/
theorem exists_of_bind_ok {ε α β : Type} {x : Except ε α} {k : α → Except ε β} {b : β}
    (h : (x >>= k) = .ok b) : ∃ a, x = .ok a ∧ k a = .ok b := by
  cases x with
  | error e => cases h
  | ok a => exact ⟨a, rfl, h⟩

/-- A changed result that is there comes from a result that is there. -/
theorem exists_of_map_ok {ε α β : Type} {x : Except ε α} {f : α → β} {b : β}
    (h : x.map f = .ok b) : ∃ a, x = .ok a ∧ f a = b := by
  cases x with
  | error e => cases h
  | ok a => exact ⟨a, rfl, Except.ok.inj h⟩

/-- The criteria of a scope that did not drop out, each with its connector. -/
abbrev CriteriaParts := List (Connector × Fragment)

namespace Fragment

/-- Parts with their connectors between them; the connector of the first one is left out. -/
def connected : CriteriaParts → Fragment
  | [] => []
  | (_, first) :: rest =>
    first ++ rest.flatMap fun part => ofText (" " ++ part.1.text ++ " ") ++ part.2

/-- The criteria inside others, if any are left: in parentheses when there are several. -/
def grouped? : CriteriaParts → Option Fragment
  | [] => none
  | [(_, part)] => some part
  | first :: second :: rest => some (parenthesized (connected (first :: second :: rest)))

/-- A where clause, if there is one.  Criteria that dropped out are an error unless the
    configuration allows it. -/
def whereClause (config : Config) : Option CriteriaParts → Except Error Fragment
  | none => .ok []
  | some [] => if config.emptyWhereAllowed then .ok [] else .error .nonRenderingWhereClause
  | some (part :: rest) => .ok (ofText "where " ++ connected (part :: rest))

/-- A having clause, unless its criteria dropped out. -/
def havingClause : Option CriteriaParts → Fragment
  | some (part :: rest) => ofText "having " ++ connected (part :: rest)
  | _ => []

/-- Criteria that must not drop out. -/
def required (cause : InvalidSql) : CriteriaParts → Except Error Fragment
  | [] => .error (.invalidSql cause)
  | part :: rest => .ok (connected (part :: rest))

/-- A text before a list, and nothing when the list is empty. -/
def listClause (keyword : String) (items : List Fragment) : Fragment :=
  if items.isEmpty then [] else ofText keyword ++ listed items

/-- A bound number between two texts, if there is a number. -/
def countClause (before : String) (count : Option Int64) (behind : String) : Fragment :=
  match count with
  | some n => ofText before ++ ofValue (.bigInt n) none ++ ofText behind
  | none => []

/-- Values bound with one type, with a text between them. -/
def boundValues (separator : String) (type : Option JdbcType) (values : List Value) : Fragment :=
  separatedBy separator (values.map fun v => ofValue v type)

/-- An operand, in upper case when the case of letters is ignored. -/
def operand (ignoreCase : Bool) (f : Fragment) : Fragment :=
  if ignoreCase then ofText "upper" ++ parenthesized f else f

end Fragment

open Fragment

/-- The paging clauses. -/
def Paging.fragment (paging : Paging) : Fragment :=
  if paging.limit.isSome then
    Fragment.spaced
      [Fragment.countClause "limit " paging.limit "",
        Fragment.countClause "offset " paging.offset ""]
  else
    Fragment.spaced
      [Fragment.countClause "offset " paging.offset " rows",
        Fragment.countClause "fetch first " paging.fetchFirst " rows only"]

/-- A statement with the configured texts around it. -/
def Config.wrapped (config : Config) (body : Fragment) : Fragment :=
  if config.beforeStatement.isNone && config.afterStatement.isNone then body
  else
    Fragment.spaced
      [ofText (config.beforeStatement.getD ""), body, ofText (config.afterStatement.getD "")]

/-- A condition on an operand, or nothing when it drops out. -/
def ConditionKind.fragment? (f : Fragment) (type : Option JdbcType) (ignoreCase : Bool) :
    ConditionKind → Except Error (Option Fragment)
  | .compare _ none => .ok none
  | .compare op (some value) =>
    .ok (some (operand ignoreCase f ++ ofText (" " ++ op.text ++ " ") ++
      ofValue (operandValue ignoreCase value) type))
  | .null negated =>
    .ok (some (operand ignoreCase f ++ ofText (" is " ++ negatedWord negated "null")))
  | .between negated (some low) (some high) =>
    .ok (some (operand ignoreCase f ++ ofText (" " ++ negatedWord negated "between" ++ " ") ++
      ofValue low type ++ ofText " and " ++ ofValue high type))
  | .between _ _ _ => .ok none
  | .member negated whenPresent values =>
    if values.isEmpty then
      if whenPresent then .ok none else .error (.invalidSql .emptyInList)
    else
      .ok (some (operand ignoreCase f ++ ofText (" " ++ negatedWord negated "in" ++ " ") ++
        Fragment.parenthesized (boundValues "," type (values.map (operandValue ignoreCase)))))

mutual

/-- An expression without its alias. -/
def Expr.fragment : Expr → List Scope → Except Error Fragment
  | .column c, scopes => .ok (ofText (c.text scopes))
  | .allColumns table, scopes =>
    match qualifier? scopes table with
    | some qualifier => .ok (ofText (qualifier ++ ".*"))
    | none => .ok (ofText "*")
  | .constant s, _ => .ok (ofText s)
  | .stringConstant s, _ => .ok (ofText (stringLiteral s))
  | .bound value, _ => .ok (ofValue value none)
  | .countAll, _ => .ok (ofText "count(*)")
  | .count argument, scopes => do
    let f ← argument.fragment scopes
    return ofText "count" ++ Fragment.parenthesized f
  | .countDistinct argument, scopes => do
    let f ← argument.fragment scopes
    return ofText "count" ++ Fragment.parenthesized (ofText "distinct " ++ f)
  | .call function argument, scopes => do
    let f ← argument.fragment scopes
    return ofText function.name ++ Fragment.parenthesized f
  | .rowNumber, _ => .ok (ofText "row_number()")
  | .windowed inner window, scopes => do
    let f ← inner.fragment scopes
    let rows ← window.fragment scopes
    return f ++ ofText " " ++ rows
  | .caseOf operand branches otherwise, scopes => do
    let before ← Expr.fragmentAfter " " operand scopes
    let whens ← CaseBranch.fragments branches (operand.bind Expr.jdbcType?) scopes
    let behind ← Expr.fragmentAfter " else " otherwise scopes
    return ofText "case" ++ before ++ whens ++ behind ++ ofText " end"
  | .subquery query, scopes => do
    let f ← query.fragment scopes
    return Fragment.parenthesized f
  | .aliased inner _, scopes => inner.fragment scopes

/-- An expression after a text, if there is one. -/
def Expr.fragmentAfter : (before : String) → Option Expr → List Scope → Except Error Fragment
  | _, none, _ => .ok []
  | before, some e, scopes => do
    let f ← e.fragment scopes
    return ofText before ++ f

/-- Expressions in a list. -/
def Expr.fragments : List Expr → List Scope → Except Error (List Fragment)
  | [], _ => .ok []
  | e :: rest, scopes => do
    let f ← e.fragment scopes
    let fs ← Expr.fragments rest scopes
    return f :: fs

/-- Expressions in a select list, each with its alias. -/
def Expr.selectedFragments : List Expr → List Scope → Except Error (List Fragment)
  | [], _ => .ok []
  | e :: rest, scopes => do
    let f ← e.fragment scopes
    let named := match e.alias? with
      | some aliasName => f ++ ofText (" as " ++ aliasName)
      | none => f
    let fs ← Expr.selectedFragments rest scopes
    return named :: fs

/-- A window. -/
def Window.fragment : Window → List Scope → Except Error Fragment
  | ⟨partitionBy, orderBy⟩, scopes => do
    let columns ← Expr.fragments partitionBy scopes
    return ofText "over" ++ Fragment.parenthesized
      (Fragment.spaced
        [Fragment.listClause "partition by " columns, ofText (orderClause orderBy)])

/-- A branch of a case expression; values of the operand are bound with its type. -/
def CaseBranch.fragment : CaseBranch → Option JdbcType → List Scope → Except Error Fragment
  | .searched condition result, _, scopes => do
    let parts ← condition.parts scopes
    let tested ← required .caseConditionDroppedOut parts
    let f ← result.fragment scopes
    return ofText " when " ++ tested ++ ofText " then " ++ f
  | .simple values result, type, scopes => do
    let f ← result.fragment scopes
    return ofText " when " ++ boundValues ", " type values ++ ofText " then " ++ f

/-- The branches of a case expression one after the other. -/
def CaseBranch.fragments :
    List CaseBranch → Option JdbcType → List Scope → Except Error Fragment
  | [], _, _ => .ok []
  | branch :: rest, type, scopes => do
    let f ← branch.fragment type scopes
    let fs ← CaseBranch.fragments rest type scopes
    return f ++ fs

/-- A test on an operand, or nothing when it drops out. -/
def Test.fragment? :
    Test → Fragment → Option JdbcType → List Scope → Except Error (Option Fragment)
  | .values kind ignoreCase, operand, type, _ => kind.fragment? operand type ignoreCase
  | .compareExpr op right, operand, _, scopes => do
    let f ← right.fragment scopes
    return some (operand ++ ofText (" " ++ op.text ++ " ") ++ f)
  | .compareQuery op query, operand, _, scopes => do
    let f ← query.fragment scopes
    return some (operand ++ ofText (" " ++ op.text ++ " ") ++ Fragment.parenthesized f)
  | .memberOfQuery negated query, operand, _, scopes => do
    let f ← query.fragment scopes
    return some (operand ++ ofText (" " ++ negatedWord negated "in" ++ " ") ++
      Fragment.parenthesized f)

/-- A criterion, or nothing when it drops out. -/
def Criterion.fragment? : Criterion → List Scope → Except Error (Option Fragment)
  | .test operand test, scopes =>
    if test.dropsOut then .ok none
    else do
      let f ← operand.fragment scopes
      test.fragment? f operand.jdbcType? scopes
  | .exists negated query, scopes => do
    let f ← query.fragment scopes
    return some (ofText (negatedWord negated "exists" ++ " ") ++ Fragment.parenthesized f)
  | .group group, scopes => do
    let parts ← group.parts scopes
    return grouped? parts
  | .not group, scopes => do
    let parts ← group.parts scopes
    return (grouped? parts).map (ofText "not " ++ ·)

/-- The initial criterion of a scope, if there is one and it does not drop out. -/
def Criterion.initialFragment? : Option Criterion → List Scope → Except Error (Option Fragment)
  | none, _ => .ok none
  | some criterion, scopes => criterion.fragment? scopes

/-- The criteria of a scope that do not drop out. -/
def CriteriaGroup.parts : CriteriaGroup → List Scope → Except Error CriteriaParts
  | ⟨initial, links⟩, scopes => do
    let first ← Criterion.initialFragment? initial scopes
    let others ← CriteriaGroup.linkParts links scopes
    return first.toList.map (Connector.and, ·) ++ others

/-- The connected groups of a scope that do not drop out. -/
def CriteriaGroup.linkParts :
    List (Connector × CriteriaGroup) → List Scope → Except Error CriteriaParts
  | [], _ => .ok []
  | (connector, group) :: rest, scopes => do
    let parts ← group.parts scopes
    let others ← CriteriaGroup.linkParts rest scopes
    return (grouped? parts).toList.map (connector, ·) ++ others

/-- The criteria of a clause, if there is one. -/
def CriteriaGroup.clauseParts :
    Option CriteriaGroup → List Scope → Except Error (Option CriteriaParts)
  | none, _ => .ok none
  | some group, scopes => do
    let parts ← group.parts scopes
    return some parts

/-- What a query block reads from. -/
def Source.fragment : Source → List Scope → Except Error Fragment
  | .table name aliasName, _ => .ok (ofText (tableText name aliasName))
  | .subquery query aliasName, scopes => do
    let f ← query.fragment scopes
    return Fragment.parenthesized f ++ ofText (" " ++ aliasName)

/-- A from clause, if there is one. -/
def Source.fromFragment : Option Source → List Scope → Except Error Fragment
  | none, _ => .ok []
  | some source, scopes => do
    let f ← source.fragment scopes
    return ofText "from " ++ f

/-- A join. -/
def Join.fragment : Join → List Scope → Except Error Fragment
  | ⟨type, source, on⟩, scopes => do
    let table ← source.fragment scopes
    let parts ← on.parts scopes
    let matched ← required .emptyJoinCondition parts
    return ofText (type.text ++ " ") ++ table ++ ofText " on " ++ matched

/-- The joins of a query block. -/
def Join.fragments : List Join → List Scope → Except Error (List Fragment)
  | [], _ => .ok []
  | join :: rest, scopes => do
    let f ← join.fragment scopes
    let fs ← Join.fragments rest scopes
    return f :: fs

/-- A query block in its own scope, after its keyword and with the configuration of its select. -/
def QueryBlock.fragment :
    QueryBlock → (keyword : String) → Config → List Scope → Except Error Fragment
  | ⟨distinct, columns, source, joins, filter, groupBy, having⟩, keyword, config, outer => do
    let scopes :=
      QueryBlock.scope ⟨distinct, columns, source, joins, filter, groupBy, having⟩ :: outer
    let columns ← Expr.selectedFragments columns scopes
    let source ← Source.fromFragment source scopes
    let joins ← Join.fragments joins scopes
    let filterParts ← CriteriaGroup.clauseParts filter scopes
    let filter ← Fragment.whereClause config filterParts
    let groups ← Expr.fragments groupBy scopes
    let havingParts ← CriteriaGroup.clauseParts having scopes
    return Fragment.spaced
      ([ofText keyword, ofText (if distinct then "distinct" else ""), Fragment.listed columns,
          source] ++ joins ++
        [filter, Fragment.listClause "group by " groups, Fragment.havingClause havingParts])

/-- The query blocks of unions, each after its keyword. -/
def QueryBlock.unionFragments :
    List (UnionKind × QueryBlock) → Config → List Scope → Except Error (List Fragment)
  | [], _, _ => .ok []
  | (kind, block) :: rest, config, scopes => do
    let f ← block.fragment "select" config scopes
    let fs ← QueryBlock.unionFragments rest config scopes
    return ofText kind.text :: f :: fs

/-- A select in the scopes around it. -/
def Select.fragment : Select → List Scope → Except Error Fragment
  | ⟨first, unions, orderBy, paging, lock, config⟩, scopes => do
    let f ← first.fragment (config.keyword "select") config scopes
    let fs ← QueryBlock.unionFragments unions config scopes
    return config.wrapped (Fragment.spaced (f :: fs ++
      [ofText (orderClause orderBy), paging.fragment] ++ (lockClause lock).map ofText))

end

/-! ## Criteria that do not drop out -/

/-- A condition that does not drop out is rendered. -/
theorem ConditionKind.fragment?_eq_some {kind : ConditionKind} {f : Fragment}
    {type : Option JdbcType} {ignoreCase : Bool} {r : Option Fragment}
    (hd : kind.dropsOut = false) (h : kind.fragment? f type ignoreCase = .ok r) :
    ∃ g, r = some g := by
  match kind with
  | .compare _ none => cases hd
  | .compare _ (some _) => cases h; exact ⟨_, rfl⟩
  | .null _ => cases h; exact ⟨_, rfl⟩
  | .between _ none _ => cases hd
  | .between _ (some _) none => cases hd
  | .between _ (some _) (some _) => cases h; exact ⟨_, rfl⟩
  | .member _ whenPresent [] =>
      cases whenPresent with
      | true => cases hd
      | false => cases h
  | .member _ _ (_ :: _) => cases h; exact ⟨_, rfl⟩

/-- A test that does not drop out denotes a fragment. -/
theorem Test.fragment?_eq_some {t : Test} {f : Fragment} {type : Option JdbcType}
    {scopes : List Scope} {r : Option Fragment} (hd : t.dropsOut = false)
    (h : t.fragment? f type scopes = .ok r) : ∃ g, r = some g := by
  cases t with
  | values kind ignoreCase => exact ConditionKind.fragment?_eq_some hd h
  | compareExpr op right =>
      obtain ⟨g, -, hg⟩ := exists_of_bind_ok h
      cases hg
      exact ⟨_, rfl⟩
  | compareQuery op query =>
      obtain ⟨g, -, hg⟩ := exists_of_bind_ok h
      cases hg
      exact ⟨_, rfl⟩
  | memberOfQuery negated query =>
      obtain ⟨g, -, hg⟩ := exists_of_bind_ok h
      cases hg
      exact ⟨_, rfl⟩

end SqlComposer
