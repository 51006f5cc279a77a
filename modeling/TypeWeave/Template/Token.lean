/-!
# Template tokens

A template is text with three kinds of tags: `{{ … }}` prints an expression, `{% … %}` is a
statement and `{# … #}` a comment. Outside tags a token is a piece of text; inside it is a word, a
literal or an operator. Each token carries the line on which it starts.
-/

namespace TypeWeave.Template

/-- What a token is. -/
inductive Token.Kind where
  /-- Text outside tags. -/
  | data (text : String)
  | printBegin
  | printEnd
  | statementBegin
  | statementEnd
  | name (word : String)
  | text (value : String)
  | integer (value : Nat)
  | float (value : Float)
  | operator (symbol : String)
  /-- The end of the template. -/
  | eof
  /-- The source cannot be read further; the reason is reported when the parser gets here. -/
  | broken (reason : String)

/-- A token and the line on which it starts. -/
structure Token where
  kind : Token.Kind
  line : Nat

namespace Token

/-- The words by which a syntax error names a token. -/
def Kind.describe : Kind → String
  | .data _ => "template data / text"
  | .printBegin => "begin of print statement"
  | .printEnd => "end of print statement"
  | .statementBegin => "begin of statement block"
  | .statementEnd => "end of statement block"
  | .name word => word
  | .text _ => "string"
  | .integer _ => "integer"
  | .float _ => "float"
  | .operator symbol => symbol
  | .eof => "end of template"
  | .broken reason => reason

/-- The words by which a syntax error names a token. -/
def describe (t : Token) : String := t.kind.describe

/-- Whether a token is the given operator. -/
def isOperator (t : Token) (symbol : String) : Bool :=
  match t.kind with
  | .operator s => s == symbol
  | _ => false

/-- Whether a token is the given word. -/
def isWord (t : Token) (word : String) : Bool :=
  match t.kind with
  | .name w => w == word
  | _ => false

/-- The word of a name token. -/
def word? (t : Token) : Option String :=
  match t.kind with
  | .name w => some w
  | _ => none

/-- Whether a token ends the template. -/
def isEof (t : Token) : Bool :=
  match t.kind with
  | .eof => true
  | _ => false

/-- Whether a token ends a statement tag. -/
def isStatementEnd (t : Token) : Bool :=
  match t.kind with
  | .statementEnd => true
  | _ => false

/-- Whether a token ends a print tag. -/
def isPrintEnd (t : Token) : Bool :=
  match t.kind with
  | .printEnd => true
  | _ => false

end Token

end TypeWeave.Template
