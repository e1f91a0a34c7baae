namespace QueryLayout

inductive LogLevel where
  | debug
  | info
  | error
deriving DecidableEq, Repr

/-- The parts of the program that write to the log. -/
inductive LogSource where
  | command
  | lexer
  | layout
deriving DecidableEq, Repr

def LogLevel.name : LogLevel → String
  | .debug => "DEBUG"
  | .info => "INFO"
  | .error => "ERROR"

/-- The number of the colour in which a level is shown. -/
def LogLevel.colour : LogLevel → String
  | .debug => "36"
  | .info => "32"
  | .error => "31"

def LogSource.name : LogSource → String
  | .command => "sqlpretty.cli"
  | .lexer => "sqlpretty.lexer"
  | .layout => "sqlpretty.formatter"

/-- Errors are always shown, and all else only on request. -/
def logLine (verbose : Bool) (level : LogLevel) (source : LogSource) (message : String) : String :=
  if verbose || level == .error then
    "\x1b[" ++ level.colour ++ "m" ++ level.name ++ ":" ++ source.name ++ ": " ++ message ++
      "\x1b[0m\n"
  else ""

end QueryLayout
