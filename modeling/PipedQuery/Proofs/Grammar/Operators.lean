import PipedQuery.Grammar.Expression
import PipedQuery.Proofs.Scan.Boundary

/-!
# Operators

The precedence level of each operator between two operands, and the lexeme that it is written as.
-/

namespace PipedQuery

namespace BinaryOp

/-- The precedence level of the operator.  Loose operators have high levels. -/
def looseness : BinaryOp → Nat
  | .multiply | .divide | .modulo => 1
  | .add | .subtract => 2
  | .equal | .notEqual | .less | .lessEqual | .greater | .greaterEqual | .like | .regexp => 3
  | .and => 4
  | .or => 5
  | .xor => 6

/-- The kind of the operator's lexeme. -/
def kind : BinaryOp → TokenKind
  | .or => .keyword .or_
  | .xor => .keyword .xor_
  | .and => .keyword .and_
  | .equal => .mark .equal
  | .notEqual => .mark .notEqual
  | .less => .mark .less
  | .lessEqual => .mark .lessEqual
  | .greater => .mark .greater
  | .greaterEqual => .mark .greaterEqual
  | .like => .keyword .like
  | .regexp => .keyword .regexp
  | .add => .mark .plus
  | .subtract => .mark .minus
  | .multiply => .mark .star
  | .divide => .mark .slash
  | .modulo => .mark .percent

/-- The lexeme that the operator is written as. -/
def lexeme (op : BinaryOp) : Lexeme := ⟨op.kind, op.symbol⟩

@[simp] theorem lexeme_kind (op : BinaryOp) : op.lexeme.kind = op.kind := rfl

theorem lexemes_symbol (op : BinaryOp) : Scan.lexemes op.symbol.toList = [op.lexeme] := by
  cases op <;> decide +kernel

theorem reads_symbol (op : BinaryOp) : Scan.Reads op.symbol.toList [op.lexeme] := by
  refine ⟨op.lexemes_symbol, ?_⟩
  cases op <;> simp [lexeme, kind, Lexeme.IsSound, Lexeme.IsClosed, Lexeme.isSignificant,
    TokenKind.channel, TokenKind.isQuoted]

end BinaryOp

end PipedQuery
