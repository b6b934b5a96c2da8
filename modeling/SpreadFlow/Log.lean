/-
Module: SpreadFlow.Log
Purpose: Records for a host's log.
Main exports: Log.Level, Log.Record, Log.Record.line
-/

namespace SpreadFlow.Log

/-- How much detail a record is about. -/
inductive Level where
  | debug
  | trace
deriving Repr, Inhabited, DecidableEq

def Level.name : Level → String
  | .debug => "DEBUG"
  | .trace => "TRACE"

/-- One record of a log. -/
structure Record where
  level : Level
  message : String
deriving Repr, Inhabited, DecidableEq

/-- The line of a record: its level and its message. -/
def Record.line (record : Record) : String :=
  record.level.name ++ " " ++ record.message

end SpreadFlow.Log
