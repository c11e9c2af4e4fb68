import SqlComposer.Value.Basic

/-! # Placeholder strategies

A strategy names the parameters of a statement and writes their placeholders.  The parameter with
number `n` has the key `parameterKey n`, and its placeholder is made of that key. -/

namespace SqlComposer

/-- The frameworks and drivers that statements are rendered for. -/
inductive Strategy where
  | mybatis
  | spring
  | postgres
  | jdbc
  deriving DecidableEq, Repr

namespace Strategy

/-- The key of the parameter with the given number. -/
def parameterKey : Strategy → (number : Nat) → String
  | .mybatis, n => "p" ++ toString n
  | .spring, n => "p" ++ toString n
  | .postgres, n => "$" ++ toString n
  | .jdbc, n => toString n

/-- The placeholder of the parameter with the given key and JDBC type. -/
def placeholder : Strategy → (key : String) → Option JdbcType → String
  | .mybatis, key, some type => "#\x7bparameters." ++ key ++ ",jdbcType=" ++ type.name ++ "\x7d"
  | .mybatis, key, none => "#\x7bparameters." ++ key ++ "\x7d"
  | .spring, key, _ => ":" ++ key
  | .postgres, key, _ => key
  | .jdbc, _, _ => "?"

/-- The name of a strategy. -/
def name : Strategy → String
  | .mybatis => "mybatis3"
  | .spring => "spring_named_parameter"
  | .postgres => "postgres"
  | .jdbc => "raw_jdbc"

end Strategy

end SqlComposer
