import SqlComposer.Render.Context
import SqlComposer.Statement.Config

/-! # Clauses shared by statements

Texts and how they are put together, keywords and texts of the configuration, the criteria that are
left after the empty ones dropped out, the where clause, order, paging and locks. -/

namespace SqlComposer

/-- The texts that are not empty, with blanks between them. -/
def spaced (texts : List String) : String :=
  String.intercalate " " (texts.filter fun s => !s.isEmpty)

/-- Texts with commas between them. -/
def listed (texts : List String) : String := String.intercalate ", " texts

/-- A text in parentheses. -/
def parenthesized (s : String) : String := "(" ++ s ++ ")"

/-- The text of a string constant: in apostrophes, each apostrophe inside doubled. -/
def stringLiteral (s : String) : String :=
  String.ofList ('\'' :: (s.toList.flatMap fun c => if c = '\'' then ['\'', '\''] else [c])
    ++ ['\''])

/-- The keyword of a statement with the configured text after it. -/
def Config.keyword (config : Config) (keyword : String) : String :=
  spaced [keyword, config.afterKeyword.getD ""]

/-- A statement with the configured texts around it. -/
def Config.wrap (config : Config) (body : String) : String :=
  if config.beforeStatement.isNone && config.afterStatement.isNone then body
  else spaced [config.beforeStatement.getD "", body, config.afterStatement.getD ""]

/-- Criteria of one scope that did not drop out: their text, and how many they are. -/
structure RenderedCriteria where
  sql : String
  fragments : Nat
  deriving DecidableEq, Repr

namespace RenderedCriteria

/-- Criteria with their connectors between them; the connector of the first one is left out. -/
def connected : List (Connector × String) → String
  | [] => ""
  | (_, first) :: rest =>
    first ++ String.join (rest.map fun part => " " ++ part.1.text ++ " " ++ part.2)

/-- The criteria of a scope, if any of them are left. -/
def ofParts (parts : List (Connector × String)) : Option RenderedCriteria :=
  if parts.isEmpty then none else some ⟨connected parts, parts.length⟩

/-- The criteria inside others: in parentheses when there are several. -/
def grouped (criteria : RenderedCriteria) : String :=
  if criteria.fragments > 1 then parenthesized criteria.sql else criteria.sql

end RenderedCriteria

/-- A where clause, if the statement has one.  Criteria that dropped out are an error unless the
configuration allows it. -/
def whereClause (config : Config) : Option (Option RenderedCriteria) → Rendering String
  | none => return ""
  | some (some criteria) => return "where " ++ criteria.sql
  | some none => if config.emptyWhereAllowed then return "" else throw .nonRenderingWhereClause

/-- A having clause, unless its criteria dropped out. -/
def havingClause : Option (Option RenderedCriteria) → String
  | some (some criteria) => "having " ++ criteria.sql
  | _ => ""

/-- The criteria of a join or a case branch, which must not drop out. -/
def requiredCriteria (cause : InvalidSql) : Option RenderedCriteria → Rendering String
  | some criteria => return criteria.sql
  | none => throw (.invalidSql cause)

/-- A text before a list, and nothing when the list is empty. -/
def listClause (keyword : String) (items : List String) : String :=
  if items.isEmpty then "" else keyword ++ listed items

/-- An order by clause. -/
def orderClause (orderBy : List SortSpec) : String :=
  listClause "order by " (orderBy.map SortSpec.text)

/-- A bound number between two texts, if there is a number. -/
def countClause (before : String) (count : Option Int64) (behind : String) : Rendering String :=
  match count with
  | some n => do
    let placeholder ← Rendering.bindValue (.bigInt n) none
    return before ++ placeholder ++ behind
  | none => return ""

/-- A limit clause. -/
def limitClause (limit : Option Int64) : Rendering String := countClause "limit " limit ""

/-- The paging clauses: a limit with an offset, or an offset in rows with the first rows. -/
def Paging.render (paging : Paging) : Rendering String :=
  if paging.limit.isSome then do
    let limit ← limitClause paging.limit
    let offset ← countClause "offset " paging.offset ""
    return spaced [limit, offset]
  else do
    let offset ← countClause "offset " paging.offset " rows"
    let first ← countClause "fetch first " paging.fetchFirst " rows only"
    return spaced [offset, first]

/-- A lock clause. -/
def lockClause : Option Lock → List String
  | none => []
  | some lock => lock.mode.text :: lock.wait.toList.map LockWait.text

/-- The tables of an update, a delete or a query, with their alias. -/
def tableText (name : String) (aliasName : Option String) : String :=
  match aliasName with
  | some aliasName => name ++ " " ++ aliasName
  | none => name

end SqlComposer
