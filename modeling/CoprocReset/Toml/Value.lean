/-!
# Documents and their values

A document is a table of values. Besides what a value is, a table remembers how it came about:
that decides what a later line of the document may still add to it.
-/

namespace CoprocReset.Toml

/-- How a table came about. -/
inductive TableForm where
  /-- In braces. -/
  | inline
  /-- By a key of several parts within braces. -/
  | inlineDotted
  /-- By a header of its own. -/
  | header
  /-- On the way of a header that goes deeper. -/
  | implied
  /-- By a key of several parts on a line. -/
  | dotted
  deriving DecidableEq, Repr

/-- How an array came about. -/
inductive ArrayForm where
  /-- In brackets. -/
  | inline
  /-- By headers, one for each element, which is a table. -/
  | headers
  deriving DecidableEq, Repr

/-- A value. Of a float and of a date or time only the kind is kept. -/
inductive Value where
  | string (text : String)
  | integer (number : Int)
  | float
  | boolean (truth : Bool)
  | dateTime
  | array (form : ArrayForm) (elements : List Value)
  | table (form : TableForm) (entries : List (String × Value))

/-- Named values in the order in which they were added. -/
abbrev Entries := List (String × Value)

end CoprocReset.Toml
