/-
Search terms for LIKE.

A term is matched as a part of the text: its metacharacters are escaped and it is
put between two `%`.  A term that starts with `=` is matched as it is written
after that sign.
-/
namespace SqlAccess.Search

/-- The character that switches the search for a part off. -/
def exactSign : Char := '='

/-- Whether a character has a meaning of its own in a pattern. -/
def isMeta (c : Char) : Bool := c == '\\' || c == '%' || c == '_'

/-- A character that stands for itself in a pattern. -/
def escapeChar (c : Char) : List Char := if isMeta c then ['\\', c] else [c]

/-- A pattern that matches the term alone. -/
def escape (term : List Char) : List Char := term.flatMap escapeChar

/-- The pattern of a term. -/
def pattern : List Char → List Char
  | [] => ['%']
  | c :: cs => if c = exactSign then cs else '%' :: escape (c :: cs) ++ ['%']

/-- The pattern of a term, if there is one; otherwise the pattern of everything. -/
def wildcard : Option String → String
  | none => "%"
  | some term => String.ofList (pattern term.toList)

/-- The term that is matched as it is written. -/
def exact (term : Option String) : String :=
  String.ofList (exactSign :: (term.getD "").toList)

/-- Whether a term is matched as it is written. -/
def isExact (term : String) : Bool := term.toList.head? == some exactSign

/-- `escape` on strings. -/
def escaped (term : String) : String := String.ofList (escape term.toList)

/-- The condition that a column matches a pattern, with the escape character told. -/
def likeClause (column : String) : String := column ++ " LIKE ? ESCAPE '\\'"

end SqlAccess.Search
