/-!
Lines of reports. Warnings go to a stream of their own.
-/
namespace Handoff.Report

inductive Stream where
  | out
  | err
  deriving DecidableEq

/-- A line for a stream. Its text may itself have several lines. -/
structure Line where
  stream : Stream
  text : String
  deriving DecidableEq

namespace Line

def plain (text : String) : Line := ⟨.out, text⟩

def blank : Line := plain ""

def heading (name : String) : Line := plain (name ++ ":")

def value (key value : String) : Line := plain ("  " ++ key ++ ": " ++ value)

def item (text : String) : Line := plain ("  - " ++ text)

def added (text : String) : Line := plain ("  + " ++ text)

def kept (text : String) : Line := plain ("  = " ++ text)

/-- A line between files that are shown one after the other. -/
def divider (label : String) : Line := plain ("── " ++ label ++ " ──")

def warning (message : String) : Line := ⟨.err, "warning: " ++ message⟩

end Line

/-- What a stream gets, each line with its end. -/
def streamText (stream : Stream) (lines : List Line) : String :=
  String.join ((lines.filter (·.stream = stream)).map (·.text ++ "\n"))

end Handoff.Report
