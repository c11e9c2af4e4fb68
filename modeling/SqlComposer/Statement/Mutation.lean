import SqlComposer.Statement.Query

/-! # Statements

The statements that change tables, the union of several selects, and the one type of all statements
that are rendered to a single text.  Inserts take their values from the program or from records,
which are JSON values. -/

namespace SqlComposer

/-- A column with where its value comes from. -/
structure Assignment (α : Type) where
  column : Column
  value : α

/-- What an update sets a column to.  An absent bound value leaves the column out. -/
inductive SetValue where
  | bound (value : Option Value)
  | null
  | constant (text : String)
  | stringConstant (text : String)
  | expr (e : Expr)
  | subquery (query : Select)

/-- An update. -/
structure Update where
  table : String
  aliasName : Option String
  sets : List (Assignment SetValue)
  filter : Option CriteriaGroup
  orderBy : List SortSpec
  limit : Option Int64
  config : Config

/-- A delete. -/
structure Delete where
  table : String
  aliasName : Option String
  filter : Option CriteriaGroup
  orderBy : List SortSpec
  limit : Option Int64
  config : Config

/-- What an insert sets a column to.  An absent bound value leaves the column out. -/
inductive InsertValue where
  | bound (value : Option Value)
  | null
  | constant (text : String)
  | stringConstant (text : String)

/-- An insert of values given by the program. -/
structure Insert where
  table : String
  mappings : List (Assignment InsertValue)
  config : Config

/-- Where the value of a column is in a record.  A property is a path of field names with points
between them; one that need not be present leaves the column out when it is missing or null. -/
inductive RecordValue where
  | property (path : String)
  | propertyWhenPresent (path : String)
  | row
  | null
  | constant (text : String)
  | stringConstant (text : String)

/-- An insert of one record. -/
structure RecordInsert where
  table : String
  record : Json
  mappings : List (Assignment RecordValue)
  config : Config

/-- Whether a column may be left out for some records. -/
def RecordValue.isOptional : RecordValue → Bool
  | .propertyWhenPresent _ => true
  | _ => false

/-- An insert of several records, as rows of one statement or as a batch.  There is a record, and
every column has a value in every record. -/
structure RecordsInsert where
  table : String
  records : List Json
  mappings : List (Assignment RecordValue)
  config : Config
  records_ne_nil : records ≠ []
  fixed_columns : ∀ mapping ∈ mappings, mapping.value.isOptional = false

/-- An insert of the rows of a select. -/
structure InsertSelect where
  table : String
  columns : List String
  select : Select
  config : Config

/-- A union of selects, each with its own order and paging. -/
structure MultiSelect where
  first : Select
  unions : List (UnionKind × Select)
  orderBy : List SortSpec
  paging : Paging
  config : Config

/-- A statement that is rendered to one text. -/
inductive Statement where
  | select (query : Select)
  | multiSelect (query : MultiSelect)
  | update (update : Update)
  | delete (delete : Delete)
  | insert (insert : Insert)
  | insertRecord (insert : RecordInsert)
  | insertRows (insert : RecordsInsert)
  | insertSelect (insert : InsertSelect)

/-- The statements that a server distinguishes. -/
inductive Verb where
  | select | update | delete | insert
  deriving DecidableEq, Repr

/-- The name of a verb. -/
def Verb.name : Verb → String
  | .select => "select"
  | .update => "update"
  | .delete => "delete"
  | .insert => "insert"

namespace Statement

/-- What the server is asked to do. -/
def verb : Statement → Verb
  | .select _ => .select
  | .multiSelect _ => .select
  | .update _ => .update
  | .delete _ => .delete
  | .insert _ => .insert
  | .insertRecord _ => .insert
  | .insertRows _ => .insert
  | .insertSelect _ => .insert

/-- The name of a kind of statements in events. -/
def kind : Statement → String
  | .select _ => "select"
  | .multiSelect _ => "multi_select"
  | .update _ => "update"
  | .delete _ => "delete"
  | .insert _ => "general_insert"
  | .insertRecord _ => "insert"
  | .insertRows _ => "insert_multiple"
  | .insertSelect _ => "insert_select"

end Statement

end SqlComposer
