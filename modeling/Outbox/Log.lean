/-!
# The log

Lines of text with a level, in the order in which they were written.
-/
namespace Outbox

inductive LogLevel where
  | info
  | warn
  | error
  deriving DecidableEq, Repr

namespace LogLevel

def name : LogLevel → String
  | info => "INFO"
  | warn => "WARN"
  | error => "ERROR"

end LogLevel

structure LogLine where
  level : LogLevel
  text : String
  deriving DecidableEq

namespace LogLine

def info (text : String) : LogLine := ⟨.info, text⟩
def warn (text : String) : LogLine := ⟨.warn, text⟩
def error (text : String) : LogLine := ⟨.error, text⟩

/-- The line with its level in front. -/
def render (l : LogLine) : String := l.level.name ++ " " ++ l.text

end LogLine

end Outbox
