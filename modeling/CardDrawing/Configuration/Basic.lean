import CardDrawing.Build.Compiler
import CardDrawing.Location.Path
import CardDrawing.Surface.Basic
import CardDrawing.Text.Case
import CardDrawing.Web.Client

/-!
# Configurations

What is set once for all cards: where templates are, how resources are fetched, and which
background cards are painted on.
-/

namespace CardDrawing

structure Configuration where
  /-- the folder of the templates -/
  templates : Option Path := none
  /-- how many resources may be fetched at a time -/
  fetchBound : Number := .int Compiler.defaultBound
  /-- how many seconds a fetch may take -/
  fetchTimeout : Number := .real 15
  userAgent : String := Web.defaultAgent
  background : String := Surface.defaultBackground
  logLevel : String := "WARNING"

namespace Configuration

def isLogLevel (name : String) : Bool := Error.logLevels.contains (Text.upperAscii name)

/-- Refuses bounds that are not positive and log levels that are unknown. A bound that is not
comparable to zero passes. -/
def check (c : Configuration) : Except Error Configuration :=
  if c.fetchBound.le 0 then .error .fetchBound
  else if c.fetchTimeout.le 0 then .error .fetchTimeout
  else if isLogLevel c.logLevel then .ok c
  else .error .logLevel

end Configuration

end CardDrawing
