/-!
# Log levels

Every record has a level; its severity decides whether the record is written.
-/

namespace Gridwork.Log

/-- The level of a record. Severities without a name of their own are numbered. -/
inductive Level where
  | trace
  | debug
  | info
  | success
  | warning
  | error
  | critical
  | numbered (severity : Nat)
  deriving DecidableEq, Repr

namespace Level

/-- How severe a level is. -/
def severity : Level → Nat
  | .trace => 5
  | .debug => 10
  | .info => 20
  | .success => 25
  | .warning => 30
  | .error => 40
  | .critical => 50
  | .numbered n => n

/-- The name of a level. -/
def name : Level → String
  | .trace => "TRACE"
  | .debug => "DEBUG"
  | .info => "INFO"
  | .success => "SUCCESS"
  | .warning => "WARNING"
  | .error => "ERROR"
  | .critical => "CRITICAL"
  | .numbered n => "Level " ++ toString n

/-- The levels that have a name of their own. -/
def named : List Level := [.trace, .debug, .info, .success, .warning, .error, .critical]

/-- The level of a given name. -/
def ofName? (s : String) : Option Level := named.find? (·.name == s)

/-- The numbered level of a given severity, which is not negative. -/
def ofSeverity? (n : Int) : Option Level := if n < 0 then none else some (.numbered n.toNat)

end Level

end Gridwork.Log
