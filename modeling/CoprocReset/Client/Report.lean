import CoprocReset.Text.Blank

/-!
# Reports

A client shows the content of an attribute as a small table with the code and the name of the
state.
-/

namespace CoprocReset.Client

/-- The name of the state that the content of an attribute stands for. -/
def describe (content : String) : String :=
  if Text.trim content = "0" then "held-in-reset"
  else if Text.trim content = "1" then "running"
  else if Text.trim content = "2" then "indeterminate"
  else "unknown"

/-- The report on an attribute. -/
def report (attributeName content : String) : String :=
  "---- DEVICE ----\n| attribute | state |\n| " ++ attributeName ++ " | " ++ Text.trim content ++
    " (" ++ describe content ++ ") |"

end CoprocReset.Client
