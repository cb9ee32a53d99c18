/-
Faults.

A fault is why an operation gives no answer.  Some faults belong to the data at hand, a
number with no text or a date with no count of milliseconds; the others are refusals of
a malformed filter, column listing, query output or configuration.  Table and catalog
operations log the refusals and answer with nothing; the other faults pass through.
-/

namespace RowShell

/-- Why a filter document is refused. -/
inductive FilterFault where
  | notAMap (kind : String)
  | alternativesNotAList (kind : String)
  deriving DecidableEq

/-- Why the output of a query is refused. -/
inductive OutputFault where
  | malformed
  | notRows
  deriving DecidableEq

/-- Why a configuration is refused. -/
inductive ConfigFault where
  | rootNotAMap
  | unknownSections (names : List String)
  | sectionNotAMap (name : String)
  | unknownKeys (name : String) (keys : List String)
  | malformedYaml (path : String)
  | malformedJson (path : String)
  deriving DecidableEq

/-- Why a scalar of a configuration stands for no value. -/
inductive ScalarFault where
  /-- A number, a date, a character or a name by its form that there is not. -/
  | unreadable
  /-- A number too great for what is made of it. -/
  | tooGreat
  /-- A word that is neither of the two truth values. -/
  | unknownWord
  /-- A number without a character. -/
  | blankNumber
  /-- A date that has not the form of one. -/
  | formless
  /-- A date that is no scalar. -/
  | composite
  deriving DecidableEq

inductive Fault where
  /-- A whole number with more digits than numerals may have. -/
  | longNumeral
  /-- A whole number beyond the range of binary64 numbers. -/
  | beyondBinary64
  /-- A timestamp that no count of milliseconds stands for. -/
  | beforeCalendar
  | scalar (cause : ScalarFault)
  /-- Something other than text where a text is needed, or of another wrong kind. -/
  | notText
  /-- A kind of statement that does not exist. -/
  | unknownStatement
  /-- A table that the catalog does not have. -/
  | unknownTable
  | filter (cause : FilterFault)
  | columns
  | output (cause : OutputFault)
  | config (cause : ConfigFault)
  | missingConfig (path : String)
  deriving DecidableEq

def FilterFault.message : FilterFault → String
  | .notAMap kind => "Filter must be a mapping, got " ++ kind
  | .alternativesNotAList kind => "'$or' expects a list of filters, got " ++ kind

def OutputFault.message : OutputFault → String
  | .malformed => "Invalid query output"
  | .notRows => "Query output is not a list of rows"

def ScalarFault.message : ScalarFault → String
  | .unreadable => "A number, a date or a name cannot be read"
  | .tooGreat => "A number is too large"
  | .unknownWord => "No such truth value"
  | .blankNumber => "A number is missing"
  | .formless => "A date is malformed"
  | .composite => "A date is not a scalar"

def ConfigFault.message : ConfigFault → String
  | .rootNotAMap => "Config root must be a mapping"
  | .unknownSections names => "Unknown config sections: " ++ ", ".intercalate names
  | .sectionNotAMap name => "Section '" ++ name ++ "' must be a mapping"
  | .unknownKeys name keys => "Unknown keys in '" ++ name ++ "': " ++ ", ".intercalate keys
  | .malformedYaml path => "Invalid YAML in " ++ path
  | .malformedJson path => "Invalid JSON in " ++ path

namespace Fault

def message : Fault → String
  | .longNumeral => "A whole number has too many digits"
  | .beyondBinary64 => "A whole number is too large for a floating point number"
  | .beforeCalendar => "A date and time is too early or too late"
  | .scalar cause => cause.message
  | .notText => "A value is of the wrong kind"
  | .unknownStatement => "No such kind of statement"
  | .unknownTable => "No such table"
  | .filter cause => cause.message
  | .columns => "Invalid column information"
  | .output cause => cause.message
  | .config cause => cause.message
  | .missingConfig path => "Config file not found: " ++ path

/-- A refusal, which table and catalog operations log instead of failing. -/
def isRefusal : Fault → Bool
  | .filter _ | .columns | .output _ | .config _ => true
  | _ => false

end Fault

end RowShell
