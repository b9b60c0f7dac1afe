import ProxyAutoConfig.Failure
import ProxyAutoConfig.Text.Blank

/-!
# Log events

A session reports what it does as events: a level, a message and named fields. A listener
chooses a level and hears the events that are at least as severe.
-/

namespace ProxyAutoConfig.Log

open ProxyAutoConfig.Text

/-- How severe an event is, the most severe first. -/
inductive Level where
  | error
  | warn
  | info
  | debug
  | trace
  deriving DecidableEq, Repr

/-- The canonical word of a level. -/
def Level.word : Level → String
  | error => "error"
  | warn => "warn"
  | info => "info"
  | debug => "debug"
  | trace => "trace"

/-- The place of a level, from one for the most severe. -/
def Level.rank : Level → Nat
  | error => 1
  | warn => 2
  | info => 3
  | debug => 4
  | trace => 5

/-- Read a level: blanks around it and the case of ASCII letters do not count. -/
def Level.parse (text : String) : Outcome Level :=
  match String.ofList ((trim text.toList).map Char.toLower) with
  | "error" => .ok .error
  | "warn" | "warning" => .ok .warn
  | "info" => .ok .info
  | "debug" => .ok .debug
  | "trace" => .ok .trace
  | other => .error (.invalidConfig ("unknown log level `" ++ other ++ "`"))

/-- Something a session reports. -/
structure Event where
  level : Level
  message : String
  /-- Named details, in the order in which they are given. -/
  fields : List (String × String)
  deriving DecidableEq, Repr

/-- A listener at `limit` hears the event. -/
def Event.heardAt (limit : Level) (event : Event) : Bool :=
  event.level.rank ≤ limit.rank

end ProxyAutoConfig.Log
