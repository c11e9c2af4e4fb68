import SqlComposer.Value.Basic

/-! # Conditions on values

A condition says what the values of an operand have to fulfil.  A value of it may be absent, and
then the condition is empty and drops out of the criteria that use it.  `ConditionOn.filter` makes
values absent, `ConditionOn.map` changes them; both keep what the condition asks for.

A condition keeps its values without their type, so both steps read each value back first, and a
value that cannot be read is lost.  `Condition` is a condition together with its type. -/

namespace SqlComposer

/-- The operators that compare two operands. -/
inductive CompareOp where
  | eq | ne | gt | ge | lt | le | like | notLike
  deriving DecidableEq, Repr

/-- The operator in SQL. -/
def CompareOp.text : CompareOp → String
  | .eq => "="
  | .ne => "<>"
  | .gt => ">"
  | .ge => ">="
  | .lt => "<"
  | .le => "<="
  | .like => "like"
  | .notLike => "not like"

/-- What a condition asks for. -/
inductive ConditionKind where
  | compare (op : CompareOp) (value : Option Value)
  | null (negated : Bool)
  | between (negated : Bool) (low high : Option Value)
  | member (negated : Bool) (whenPresent : Bool) (values : List Value)
  deriving Repr

/-- A condition on values of a type; the case of letters may be ignored. -/
structure ConditionOn (type : ValueType) where
  kind : ConditionKind
  ignoreCase : Bool := false
  deriving Repr

/-- A condition together with the type of its values. -/
structure Condition where
  type : ValueType
  condition : ConditionOn type
  deriving Repr

namespace ConditionKind

/-- Whether the condition drops out: a value that it needs is absent, or a list of present values
is empty. -/
def dropsOut : ConditionKind → Bool
  | .compare _ value => value.isNone
  | .null _ => false
  | .between _ low high => low.isNone || high.isNone
  | .member _ whenPresent values => whenPresent && values.isEmpty

/-- The condition with its values replaced or made absent.  Of two bounds either both stay or none
does. -/
def mapValues (f : Value → Option Value) : ConditionKind → ConditionKind
  | .compare op value => .compare op (value.bind f)
  | .null negated => .null negated
  | .between negated low high =>
    match low.bind f, high.bind f with
    | some low, some high => .between negated (some low) (some high)
    | _, _ => .between negated none none
  | .member negated whenPresent values => .member negated whenPresent (values.filterMap f)

end ConditionKind

namespace ConditionOn

variable {type : ValueType}

/-- Whether the condition drops out. -/
def isEmpty (c : ConditionOn type) : Bool := c.kind.dropsOut

/-- The condition in which letters in upper and lower case are alike. -/
def ignoringCase (c : ConditionOn type) : ConditionOn type := { c with ignoreCase := true }

/-- The condition without the values that the predicate rejects or that cannot be read. -/
def filter (accept : type.Carrier → Bool) (c : ConditionOn type) : ConditionOn type :=
  { c with kind := c.kind.mapValues fun v => if (type.ofValue? v).any accept then some v else none }

/-- The condition with its values mapped to values of another type, without those that cannot be
read. -/
def map {target : ValueType} (f : type.Carrier → target.Carrier) (c : ConditionOn type) :
    ConditionOn target where
  kind := c.kind.mapValues fun v => (type.ofValue? v).map fun x => target.toValue (f x)
  ignoreCase := c.ignoreCase

end ConditionOn

namespace Condition

/-- A condition that distinguishes upper and lower case. -/
def ofKind (type : ValueType) (kind : ConditionKind) : Condition := ⟨type, { kind }⟩

/-- Whether the condition drops out. -/
def isEmpty (c : Condition) : Bool := c.condition.isEmpty

/-- The condition in which letters in upper and lower case are alike. -/
def ignoringCase (c : Condition) : Condition := ⟨c.type, c.condition.ignoringCase⟩

/-- The condition filtered by a predicate on values as they are kept. -/
def filter (accept : Value → Bool) (c : Condition) : Condition :=
  ⟨c.type, c.condition.filter fun x => accept (c.type.toValue x)⟩

/-- The condition mapped by a function on values as they are kept, to values of another type. -/
def map (target : ValueType) (f : Value → Value) (c : Condition) : Condition :=
  let mapped : ConditionOn .any := c.condition.map fun x => f (c.type.toValue x)
  ⟨target, { kind := mapped.kind, ignoreCase := mapped.ignoreCase }⟩

end Condition

end SqlComposer
