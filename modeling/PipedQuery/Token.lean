import PipedQuery.Keyword
import PipedQuery.Text.Position
import PipedQuery.Text.Quoted

/-!
# Tokens

A lexeme is a classified piece of text, and a token is a lexeme in its place.  The grammar reads
lexemes only, so nothing it builds depends on where they stood.
-/

namespace PipedQuery

/-- Punctuation marks and operators with a fixed spelling. -/
inductive Mark where
  | pipe | comma | dot | lParen | rParen | lBracket | rBracket | colon
  | equal | notEqual | less | lessEqual | greater | greaterEqual
  | plus | minus | star | slash | percent
  | tilde | ampersand | caret | exclamation
deriving DecidableEq

namespace Mark

/-- How the mark is written. -/
def spelling : Mark → String
  | .pipe => "|"
  | .comma => ","
  | .dot => "."
  | .lParen => "("
  | .rParen => ")"
  | .lBracket => "["
  | .rBracket => "]"
  | .colon => ":"
  | .equal => "="
  | .notEqual => "!="
  | .less => "<"
  | .lessEqual => "<="
  | .greater => ">"
  | .greaterEqual => ">="
  | .plus => "+"
  | .minus => "-"
  | .star => "*"
  | .slash => "/"
  | .percent => "%"
  | .tilde => "~"
  | .ampersand => "&"
  | .caret => "^"
  | .exclamation => "!"

/-- The mark's tag in encoded answers. -/
def tag : Mark → String
  | .pipe => "pipe"
  | .comma => "comma"
  | .dot => "dot"
  | .lParen => "l_paren"
  | .rParen => "r_paren"
  | .lBracket => "l_bracket"
  | .rBracket => "r_bracket"
  | .colon => "colon"
  | .equal => "equal"
  | .notEqual => "not_equal"
  | .less => "less"
  | .lessEqual => "less_equal"
  | .greater => "greater"
  | .greaterEqual => "greater_equal"
  | .plus => "plus"
  | .minus => "minus"
  | .star => "star"
  | .slash => "slash"
  | .percent => "percent"
  | .tilde => "tilde"
  | .ampersand => "ampersand"
  | .caret => "caret"
  | .exclamation => "exclamation"

end Mark

/-- The kinds of lexemes. -/
inductive TokenKind where
  /-- A punctuation mark or operator. -/
  | mark (m : Mark)
  /-- A reserved word in any letter case. -/
  | keyword (k : Keyword)
  /-- A run of decimal digits. -/
  | integer
  /-- Digits, a point and digits, with neither sign nor exponent. -/
  | decimal
  /-- A quoted string or, between backticks, a quoted name. -/
  | quoted (q : Quote)
  /-- A name that is no reserved word. -/
  | identifier
  /-- A name behind the name of a cluster, as in `remote:logs`. -/
  | clusterName
  /-- A name with a date suffix, as in `logs.2021.01`. -/
  | datedName
  /-- A run of blanks. -/
  | space
  /-- A single character that starts no lexeme. -/
  | unrecognized
deriving DecidableEq

/-- The consumer that a token is meant for. -/
inductive Channel where
  /-- The grammar. -/
  | default
  /-- No one: blanks are kept only so that the tokens cover the text. -/
  | hidden
  /-- The report on unrecognized characters. -/
  | error
deriving DecidableEq

/-- The channel's tag in encoded answers. -/
def Channel.tag : Channel → String
  | .default => "default"
  | .hidden => "hidden"
  | .error => "error"

namespace TokenKind

/-- The channel that the tokens of the kind travel on. -/
def channel : TokenKind → Channel
  | .space => .hidden
  | .unrecognized => .error
  | _ => .default

/-- Whether the kind is that of a string. -/
def isString : TokenKind → Bool
  | .quoted .double | .quoted .single => true
  | _ => false

/-- Whether the kind is that of a quoted text. -/
def isQuoted : TokenKind → Bool
  | .quoted _ => true
  | _ => false

/-- Whether the kind is that of a number. -/
def isNumber : TokenKind → Bool
  | .integer | .decimal => true
  | _ => false

/-- The keyword of a reserved word. -/
def keyword? : TokenKind → Option Keyword
  | .keyword k => some k
  | _ => none

/-- The mark of a punctuation mark or operator. -/
def mark? : TokenKind → Option Mark
  | .mark m => some m
  | _ => none

/-- The name of the kind in messages. -/
def text : TokenKind → String
  | .mark m => "`" ++ m.spelling ++ "`"
  | .keyword k => "keyword " ++ k.spelling
  | .integer => "integer"
  | .decimal => "decimal"
  | .quoted .backtick => "quoted identifier"
  | .quoted _ => "string"
  | .identifier => "identifier"
  | .clusterName => "cluster identifier"
  | .datedName => "date-suffixed identifier"
  | .space => "whitespace"
  | .unrecognized => "unrecognized character"

end TokenKind

/-- A classified piece of text.  A keyword keeps the letter case it was written in. -/
structure Lexeme where
  kind : TokenKind
  text : String
deriving DecidableEq

namespace Lexeme

/-- Whether the grammar reads the lexeme. -/
def isSignificant (l : Lexeme) : Bool := l.kind.channel = .default

/-- How messages refer to the lexeme. -/
def describe (l : Lexeme) : String :=
  match l.kind with
  | .keyword _ | .identifier | .clusterName => "`" ++ l.text ++ "`"
  | .integer | .decimal => "number `" ++ l.text ++ "`"
  | .quoted _ => l.kind.text ++ " " ++ l.text
  | kind => kind.text

end Lexeme

/-- A lexeme and the place where it starts. -/
structure Token extends Lexeme where
  place : Position
deriving DecidableEq

namespace Token

/-- The bytes that the token covers. -/
def span (t : Token) : Span := ⟨t.place.offset, t.place.offset + t.text.utf8ByteSize⟩

/-- The place just behind the token. -/
def stop (t : Token) : Position := t.place.past t.text.toList

end Token

end PipedQuery
