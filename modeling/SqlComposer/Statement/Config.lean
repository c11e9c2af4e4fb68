/-! # Statement configuration

Texts that are put around a statement and after its keyword, and the permission to render a
statement whose whole where clause has dropped out. -/

namespace SqlComposer

/-- The configuration of one statement. -/
structure Config where
  emptyWhereAllowed : Bool := false
  beforeStatement : Option String := none
  afterKeyword : Option String := none
  afterStatement : Option String := none
  deriving DecidableEq, Repr

/-- A change of a configuration. -/
inductive ConfigCall where
  | allowEmptyWhere (allowed : Bool)
  | beforeStatement (text : String)
  | afterKeyword (text : String)
  | afterStatement (text : String)
  deriving DecidableEq, Repr

/-- The configuration after a change. -/
def Config.apply (config : Config) : ConfigCall → Config
  | .allowEmptyWhere allowed => { config with emptyWhereAllowed := allowed }
  | .beforeStatement text => { config with beforeStatement := some text }
  | .afterKeyword text => { config with afterKeyword := some text }
  | .afterStatement text => { config with afterStatement := some text }

/-- The configuration after changes in their order. -/
def Config.applyAll (config : Config) (calls : List ConfigCall) : Config :=
  calls.foldl Config.apply config

end SqlComposer
