/-
Categories of declared types.

A column may be declared with almost any type name.  The name is reduced to one of nine
categories by the keywords that occur in it, in either case; the first category in the
order of the list that has a keyword in the name is taken.
-/

namespace RowShell

inductive Category where
  | string
  | numeric
  | int
  | real
  | blob
  | boolean
  | datetime
  | typeless
  | unclassified
  deriving DecidableEq

namespace Category

def name : Category → String
  | .string => "string"
  | .numeric => "numeric"
  | .int => "int"
  | .real => "real"
  | .blob => "blob"
  | .boolean => "boolean"
  | .datetime => "datetime"
  | .typeless => "none"
  | .unclassified => "unclassified"

/-- The categories with keywords, the one that is tried first at the front. -/
def inOrder : List Category :=
  [.string, .numeric, .int, .real, .blob, .boolean, .datetime, .typeless]

/-- The words that put a type name into a category. -/
def keywords : Category → List String
  | .string => ["char", "clob", "text", "decimal"]
  | .numeric => ["numeric"]
  | .int => ["int"]
  | .real => ["double", "float", "real"]
  | .blob => ["blob"]
  | .boolean => ["boolean"]
  | .datetime => ["date"]
  | .typeless => ["none"]
  | .unclassified => []

/-- Whether a character is a letter of a keyword in either case.  The dotted capital and
the dotless small letter of Turkish count as `i`. -/
def isLetter (letter c : Char) : Bool :=
  c.toLower == letter || (letter == 'i' && (c == '\u0130' || c == '\u0131'))

/-- Whether a text begins with a keyword. -/
def begins : List Char → List Char → Bool
  | [], _ => true
  | _ :: _, [] => false
  | letter :: letters, c :: cs => isLetter letter c && begins letters cs

/-- Whether a keyword occurs in a text. -/
def occurs (keyword : List Char) : List Char → Bool
  | [] => begins keyword []
  | c :: cs => begins keyword (c :: cs) || occurs keyword cs

/-- Whether a text holds a keyword of a category. -/
def fits (cs : List Char) (category : Category) : Bool :=
  category.keywords.any fun keyword => occurs keyword.toList cs

/-- The category of a declared type. -/
def ofDeclared (declared : String) : Category :=
  (inOrder.find? (fits declared.toList)).getD .unclassified

end Category

end RowShell
