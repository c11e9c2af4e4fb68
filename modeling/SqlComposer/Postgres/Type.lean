import SqlComposer.Value.Basic

/-! # Types of the server

A type is one that every server has, known by its name, or one that was defined on a server, in a
schema and of a kind.  Defined types differ from the built-in ones also when they have their
names. -/

namespace SqlComposer

/-- The kinds of defined types that are told apart. -/
inductive PgKind where
  | simple | enum | domain
  deriving DecidableEq, Repr

/-- A type of the server. -/
inductive PgType where
  | builtin (name : String)
  | defined (name schema : String) (kind : PgKind)
  deriving DecidableEq, Repr

namespace PgType

def bool : PgType := .builtin "bool"
def int2 : PgType := .builtin "int2"
def int4 : PgType := .builtin "int4"
def int8 : PgType := .builtin "int8"
def float4 : PgType := .builtin "float4"
def float8 : PgType := .builtin "float8"
def text : PgType := .builtin "text"
def bytea : PgType := .builtin "bytea"
def uuid : PgType := .builtin "uuid"
def json : PgType := .builtin "json"
def jsonb : PgType := .builtin "jsonb"
def date : PgType := .builtin "date"
def time : PgType := .builtin "time"
def timestamp : PgType := .builtin "timestamp"
def timestamptz : PgType := .builtin "timestamptz"

/-- The name of a type without its schema. -/
def name : PgType → String
  | .builtin name => name
  | .defined name _ _ => name

/-- The name of a type in messages: the schemas that are searched by default are left out. -/
def display : PgType → String
  | .builtin name => name
  | .defined name schema _ =>
    if schema = "public" ∨ schema = "pg_catalog" then name else schema ++ "." ++ name

/-- The names of the built-in types that take a text as it is. -/
def textNames : List String := ["varchar", "text", "bpchar", "name", "unknown"]

/-- The names of the types of extensions that take a text as it is. -/
def extensionTextNames : List String := ["citext", "ltree", "lquery", "ltxtquery"]

/-- The names of the types whose texts begin with a version byte. -/
def versionedTextNames : List String := ["ltree", "lquery", "ltxtquery"]

/-- Whether a type takes a text as it is. -/
def acceptsText (type : PgType) : Bool :=
  extensionTextNames.contains type.name ||
    match type with
    | .builtin name => textNames.contains name
    | .defined .. => false

/-- Whether a type is an enumeration. -/
def isEnum : PgType → Bool
  | .defined _ _ .enum => true
  | _ => false

end PgType

end SqlComposer
