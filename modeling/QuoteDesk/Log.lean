/-!
# Log records

Parts of the desk report what they do in records with a severity. Records are returned with the
results, in the order in which they were made.
-/

namespace QuoteDesk

def debugLevel : Int := 10

def infoLevel : Int := 20

def warningLevel : Int := 30

def errorLevel : Int := 40

/-- The name of a severity; one without a name is named by its number. -/
def levelName (level : Int) : String :=
  if level = 0 then "NOTSET"
  else if level = debugLevel then "DEBUG"
  else if level = infoLevel then "INFO"
  else if level = warningLevel then "WARNING"
  else if level = errorLevel then "ERROR"
  else if level = 50 then "CRITICAL"
  else s!"Level {level}"

/-- One record: the logger that made it, its severity and its message. -/
structure LogRecord where
  logger : String
  level : Int
  message : String
deriving DecidableEq, Repr

namespace LogRecord

def debug (logger message : String) : LogRecord := ⟨logger, debugLevel, message⟩

def info (logger message : String) : LogRecord := ⟨logger, infoLevel, message⟩

def warning (logger message : String) : LogRecord := ⟨logger, warningLevel, message⟩

def error (logger message : String) : LogRecord := ⟨logger, errorLevel, message⟩

end LogRecord

end QuoteDesk
