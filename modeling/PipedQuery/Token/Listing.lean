import PipedQuery.Diagnostic
import PipedQuery.Text.Visible
import PipedQuery.Token

/-!
# Token listings

Tokens as JSON, and as lines of place, kind and text.
-/

namespace PipedQuery

/-- The encoded kind: a tag, or the spelling of a keyword. -/
def TokenKind.toJson : TokenKind → Json
  | .mark m => .str m.tag
  | .keyword k => .obj [("keyword", .str k.spelling)]
  | .integer => .str "integer"
  | .decimal => .str "decimal"
  | .quoted .double => .str "dq_string"
  | .quoted .single => .str "sq_string"
  | .quoted .backtick => .str "bq_string"
  | .identifier => .str "identifier"
  | .clusterName => .str "cluster"
  | .datedName => .str "id_date_suffix"
  | .space => .str "space"
  | .unrecognized => .str "error"

/-- The encoded token. -/
def Token.toJson (t : Token) : Json :=
  .obj [("kind", t.kind.toJson), ("text", .str t.text), ("channel", .str t.kind.channel.tag),
    ("span", t.span.toJson), ("line", .nat t.place.line), ("column", .nat t.place.column)]

/-- A text with blanks in front of it, up to the given width. -/
def padLeft (width : Nat) (s : String) : String :=
  String.ofList (List.replicate (width - s.length) ' ') ++ s

/-- A text with blanks behind it, up to the given width. -/
def padRight (width : Nat) (s : String) : String :=
  s ++ String.ofList (List.replicate (width - s.length) ' ')

/-- The note on tokens that the grammar does not read. -/
def Channel.note : Channel → String
  | .default => ""
  | .hidden => " (hidden)"
  | .error => " (error)"

/-- The line on a token in a listing. -/
def Token.entry (t : Token) : String :=
  padLeft 4 (toString t.place.line) ++ ":" ++ padRight 4 (toString t.place.column) ++ " " ++
    padRight 24 t.kind.text ++ " " ++ visibleQuoted t.text ++ t.kind.channel.note ++ "\n"

/-- The tokens to list: all of them, or those that the grammar reads. -/
def listed (all : Bool) (tokens : List Token) : List Token :=
  tokens.filter fun t => all || t.isSignificant

/-- The listing of some tokens. -/
def listing (all : Bool) (tokens : List Token) : String :=
  String.join ((listed all tokens).map Token.entry)

end PipedQuery
