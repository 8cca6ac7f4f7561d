/-!
Log events: what the library reports as it works, as data.
-/

namespace DhcpDecoder.Log

inductive Level where
  | trace | debug | info | warn | error | disabled
  deriving DecidableEq, Repr, Inhabited

namespace Level

def rank : Level → Nat
  | .trace => 0
  | .debug => 1
  | .info => 2
  | .warn => 3
  | .error => 4
  | .disabled => 5

def name : Level → String
  | .trace => "trace"
  | .debug => "debug"
  | .info => "info"
  | .warn => "warn"
  | .error => "error"
  | .disabled => "disabled"

/-- Whether an event of level `l` passes a threshold: never when the threshold is `disabled`, else
when `l` is at least as severe. -/
def passes (threshold l : Level) : Bool :=
  threshold != .disabled && threshold.rank ≤ l.rank

end Level

inductive FieldValue where
  | int (n : Int)
  | str (s : String)
  | bool (b : Bool)
  deriving DecidableEq, Repr, Inhabited

structure Event where
  level : Level
  message : String
  fields : List (String × FieldValue)
  deriving Repr, Inhabited

def natField (key : String) (n : Nat) : String × FieldValue := (key, .int n)

def strField (key : String) (s : String) : String × FieldValue := (key, .str s)

def boolField (key : String) (b : Bool) : String × FieldValue := (key, .bool b)

def errorField (text : String) : String × FieldValue := ("error", .str text)

end DhcpDecoder.Log
