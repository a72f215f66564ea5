import Mathlib.Algebra.Field.Rat
import Mathlib.Algebra.GroupWithZero.Basic
import Mathlib.Tactic.Ring
import PipedQuery.Proofs.Expr.Pipeless
import PipedQuery.Proofs.Expr.Scan
import PipedQuery.Proofs.Grammar.Constants
import PipedQuery.Proofs.Grammar.Kept
import PipedQuery.Proofs.Pipeline.Standalone
import PipedQuery.Proofs.Scan.Tiling

/-!
# Numbers are exact

Digits are read as the number that they are, whatever their number, or are refused.  A minus sign
turns the number round and never leaves the range of its type, because what is read without a sign
stays away from the one value that has no opposite.  What is read is written as a text that is read
as the same constant again (`number_exact`).
-/

namespace PipedQuery

/-- The number as a fraction. -/
def Decimal.value (d : Decimal) : ℚ := d.signed / 10 ^ d.scale

namespace Literal

/-- The number that a constant is, if it is one. -/
def value? : Literal → Option ℚ
  | .int n => some n
  | .decimal d => some d.value
  | _ => none

/-- Whether the constant is a number that its type can hold: an integer of 64 bits, one of them for
    the sign, or a decimal whose mantissa has 96 bits. -/
def Fits : Literal → Prop
  | .int n => -2 ^ 63 ≤ n ∧ n < 2 ^ 63
  | .decimal d => d.mantissa < 2 ^ 96 ∧ d.scale ≤ 28
  | _ => False

/-- Whether the text of the constant is read as the constant, to its end and without a problem. -/
def ReadsBack (v : Literal) : Prop :=
  ∃ s : Session, (Session.ofTokens (scan v.text) {}).run Parser.literal = (.ok v, s) ∧
    s.tokens = [] ∧ s.raised = []

end Literal

/-- The constant of a number: an integer, or a decimal if it is too large for one, or none if it is
    too large for both. -/
def exactNumber? (n : Nat) : Option Literal :=
  if n ≤ 2 ^ 63 - 1 then some (.int n)
  else if n ≤ 2 ^ 96 - 1 then some (.decimal ⟨false, n, 0⟩)
  else none

/-! Digits as numbers. -/

section Digits

variable {cs : List Char}

theorem foldDigits_eq_ofDigitChars (cs : List Char) : foldDigits 0 cs = Nat.ofDigitChars 10 cs 0 := by
  rw [Nat.ofDigitChars_eq_foldl, foldDigits]
  congr 1
  funext n c
  rw [Nat.mul_comm, Decimal.digit]

/-- Digits stand for a decimal exactly if the number that they are has no more than 96 bits. -/
theorem Decimal.readWhole_of_digits (digits : ∀ c ∈ cs, c.isDigit = true) :
    readWhole 0 cs = if foldDigits 0 cs < bound then some ⟨false, foldDigits 0 cs, 0⟩ else none := by
  by_cases fits : foldDigits 0 cs < bound
  · have read := readWhole_append digits fits []
    rw [List.append_nil] at read
    rw [read, if_pos fits]
    rfl
  · rw [if_neg fits]
    cases read : readWhole 0 cs with
    | none => rfl
    | some d => exact absurd (eq_of_readWhole digits (by decide) read).2 fits

/-- The lexeme of some digits is read as the number that they are. -/
theorem numberLiteral?_digits (digits : ∀ c ∈ cs, c.isDigit = true) :
    numberLiteral? ⟨.integer, String.ofList cs⟩ = exactNumber? (Nat.ofDigitChars 10 cs 0) := by
  have value : digitsValue (String.ofList cs) = foldDigits 0 cs := by
    rw [digitsValue, String.toList_ofList, foldDigits]
  rw [numberLiteral?, Decimal.ofDigits?, value, String.toList_ofList,
    Decimal.readWhole_of_digits digits, ← foldDigits_eq_ofDigitChars, exactNumber?,
    show maxInt = 2 ^ 63 - 1 from rfl]
  by_cases small : foldDigits 0 cs ≤ 2 ^ 63 - 1
  · rw [if_pos ⟨rfl, small⟩, if_pos small]
  · rw [if_neg fun h => small h.2, if_neg small]
    have room : foldDigits 0 cs < Decimal.bound ↔ foldDigits 0 cs ≤ 2 ^ 96 - 1 :=
      Nat.lt_iff_le_pred (by decide)
    by_cases fits : foldDigits 0 cs < Decimal.bound
    · rw [if_pos fits, if_pos (room.mp fits)]
      rfl
    · rw [if_neg fits, if_neg fun le => fits (room.mpr le)]
      rfl

/-- Digits are one token. -/
theorem scan_digits (some : cs ≠ []) (digits : ∀ c ∈ cs, c.isDigit = true) :
    scan (String.ofList cs) = [⟨⟨.integer, String.ofList cs⟩, .origin⟩] := by
  cases cs with
  | nil => exact absurd rfl some
  | cons c cs =>
    have whole := Scan.cut_digits digits Scan.stops_nil.endsNumber
    rw [List.append_nil] at whole
    rw [scan, Scanner.ofText, String.toList_ofList, Scanner.tokens_cons, whole,
      Scanner.tokens_nil]

end Digits

/-! Numbers with and without a sign. -/

section Signs

variable {v : Literal}

/-- The sign of a decimal is the sign of its value. -/
theorem Decimal.value_neg (d : Decimal) : d.neg.value = -d.value := by
  have signed : d.neg.signed = -d.signed := by
    cases negative : d.negative <;> simp [Decimal.neg, Decimal.signed, negative]
  rw [value, signed, Int.cast_neg, neg_div]
  rfl

/-- A number with a minus sign has the opposite value. -/
theorem Literal.value?_neg (number : v.isNumeric = true) :
    ∃ q, v.value? = some q ∧ v.neg.value? = some (-q) := by
  cases v with
  | int n => exact ⟨n, rfl, by simp [Literal.neg, Literal.value?]⟩
  | decimal d => exact ⟨d.value, rfl, by rw [Literal.neg, Literal.value?, Decimal.value_neg]⟩
  | _ => cases number

/-- What may be the value of an option is in range, on both sides of zero. -/
theorem Literal.fits_of_isOptionValue (number : v.isNumeric = true) (h : v.IsOptionValue) :
    v.Fits := by
  cases v with
  | int n =>
    have limit : maxInt = 9223372036854775807 := rfl
    change n.natAbs ≤ maxInt at h
    change -9223372036854775808 ≤ n ∧ n < 9223372036854775808
    omega
  | decimal d => exact ⟨h.mantissa_lt, h.scale_le⟩
  | _ => cases number

theorem Literal.isNumeric_neg (v : Literal) : v.neg.isNumeric = v.isNumeric := by
  cases v <;> rfl

/-- What may be the value of an option is read back from its text. -/
theorem Literal.readsBack_of_isOptionValue (h : v.IsOptionValue) : v.ReadsBack := by
  have reads := v.reads_text
  have clean : (Session.ofTokens (scan v.text) {}).raised = [] := lexicalDiagnostics_scan reads
  obtain ⟨lexemes, tokens⟩ := stage_ofTokens reads v.pipeless_lexemes {}
  have read := Parser.literal_lexemes h []
  rw [List.append_nil] at read
  refine ⟨{ Session.ofTokens (scan v.text) {} with tokens := [] }, ?_, rfl, clean⟩
  simp [Session.run, lexemes, read, tokens, Session.raise]
  rfl

end Signs

/-! Numbers in a text. -/

section Tokens

variable {l : Lexeme} {v : Literal}

/-- The text of a token fits its kind. -/
theorem exists_isGenuine_of_mem_scan {text : String} {t : Token} (member : t ∈ scan text)
    (word : t.kind ≠ .space) : ∃ next, t.toLexeme.IsGenuine next := by
  have found : t.toLexeme ∈ Scan.lexemes text.toList := by
    rw [← lexemes_scan]
    exact List.mem_map_of_mem (List.mem_filter.mpr ⟨member, by simpa using word⟩)
  obtain ⟨before, after, split⟩ := List.append_of_mem found
  have genuine := (genuine_lexemes text.toList).drop before.length
  rw [split, List.drop_left] at genuine
  exact ⟨_, genuine.1⟩

/-- A number that is none of the constants is refused where it stands, also behind a minus sign. -/
theorem Parser.number_refused (number : l.kind.isNumber = true) (none : numberLiteral? l = none)
    (ts : List Lexeme) :
    (Parser.number l (l :: ts)).result = .error ⟨.numberOutOfRange l.text, ts.length + 1⟩ ∧
      (literal (l :: ts)).result = .error ⟨.numberOutOfRange l.text, ts.length + 1⟩ ∧
      (literal (.mark .minus :: l :: ts)).result =
        .error ⟨.numberOutOfRange l.text, ts.length + 1⟩ := by
  have kinds : l.kind = .integer ∨ l.kind = .decimal := by
    cases kind : l.kind <;> simp_all [TokenKind.isNumber]
  rcases kinds with kind | kind <;>
    simp [Parser.number, literal, startsNegative, unsignedLiteral, kind, TokenKind.isNumber, none]

/-- A number that is a constant is read as that constant, and as its opposite behind a minus sign. -/
theorem Parser.number_accepted (number : l.kind.isNumber = true) (found : numberLiteral? l = some v)
    (ts : List Lexeme) :
    Parser.number l (l :: ts) = ⟨.ok v, ts, []⟩ ∧ literal (l :: ts) = ⟨.ok v, ts, []⟩ ∧
      literal (.mark .minus :: l :: ts) = ⟨.ok v.neg, ts, []⟩ := by
  refine ⟨?_, literal_of_number number found ts, literal_of_negative number found ts⟩
  simp [Parser.number, found]

end Tokens

/-- Digits are one token, and it stands for exactly the number that they are or for none.  A number
    token that stands for none is refused.  Any other is read as its constant, or as the opposite
    behind a minus sign.  Both are in the range of their type, and the text of each is read as the
    same constant again. -/
theorem number_exact :
    (∀ cs : List Char, cs ≠ [] → (∀ c ∈ cs, c.isDigit = true) →
      scan (String.ofList cs) = [⟨⟨.integer, String.ofList cs⟩, .origin⟩] ∧
        numberLiteral? ⟨.integer, String.ofList cs⟩ = exactNumber? (Nat.ofDigitChars 10 cs 0)) ∧
    ∀ (text : String) (t : Token), t ∈ scan text → t.kind.isNumber = true →
      (numberLiteral? t.toLexeme = none → ∀ ts : List Lexeme,
        (Parser.number t.toLexeme (t.toLexeme :: ts)).result =
            .error ⟨.numberOutOfRange t.text, ts.length + 1⟩ ∧
          (Parser.literal (t.toLexeme :: ts)).result =
            .error ⟨.numberOutOfRange t.text, ts.length + 1⟩ ∧
          (Parser.literal (.mark .minus :: t.toLexeme :: ts)).result =
            .error ⟨.numberOutOfRange t.text, ts.length + 1⟩) ∧
      ∀ v : Literal, numberLiteral? t.toLexeme = some v →
        (∀ ts : List Lexeme,
          Parser.number t.toLexeme (t.toLexeme :: ts) = ⟨.ok v, ts, []⟩ ∧
            Parser.literal (t.toLexeme :: ts) = ⟨.ok v, ts, []⟩ ∧
            Parser.literal (.mark .minus :: t.toLexeme :: ts) = ⟨.ok v.neg, ts, []⟩) ∧
        (∃ q, v.value? = some q ∧ v.neg.value? = some (-q)) ∧
        (v.Fits ∧ v.neg.Fits) ∧ v.ReadsBack ∧ v.neg.ReadsBack := by
  refine ⟨fun cs some digits => ⟨scan_digits some digits, numberLiteral?_digits digits⟩, ?_⟩
  intro text t member number
  refine ⟨Parser.number_refused number, fun v found => ?_⟩
  have word : t.kind ≠ .space := by
    intro space
    rw [space] at number
    cases number
  obtain ⟨next, genuine⟩ := exists_isGenuine_of_mem_scan member word
  obtain ⟨unsigned, numeric⟩ := isUnsigned_of_numberLiteral? genuine number found
  have value := isOptionValue_of_isUnsigned unsigned numeric
  have opposite := isOptionValue_neg value
  refine ⟨Parser.number_accepted number found, v.value?_neg numeric, ⟨?_, ?_⟩, ?_, ?_⟩
  · exact Literal.fits_of_isOptionValue numeric value
  · exact Literal.fits_of_isOptionValue (v.isNumeric_neg.trans numeric) opposite
  · exact Literal.readsBack_of_isOptionValue value
  · exact Literal.readsBack_of_isOptionValue opposite

/-- The number behind the largest integer is a decimal, which is written with the sign that it was
    read with, and the number behind the largest decimal is none. -/
theorem number_exact_limits :
    numberLiteral? ⟨.integer, "9223372036854775807"⟩ = some (.int 9223372036854775807) ∧
      (Literal.decimal ⟨true, 9223372036854775808, 0⟩).ReadsBack ∧
      (Parser.literal
          ([.mark .minus, ⟨.integer, "79228162514264337593543950336"⟩] : List Lexeme)).result =
        .error ⟨.numberOutOfRange "79228162514264337593543950336", 1⟩ := by
  obtain ⟨digits, tokens⟩ := number_exact
  have number (text : String) (some : text.toList.isEmpty = false)
      (all : text.toList.all Char.isDigit = true) := digits text.toList
    (List.isEmpty_eq_false_iff.mp some) (List.all_eq_true.mp all)
  obtain ⟨-, largest⟩ := number "9223372036854775807" rfl rfl
  obtain ⟨single, next⟩ := number "9223372036854775808" rfl rfl
  obtain ⟨single', beyond⟩ := number "79228162514264337593543950336" rfl rfl
  rw [String.ofList_toList] at largest single next single' beyond
  have decimal : numberLiteral? ⟨.integer, "9223372036854775808"⟩ =
      some (.decimal ⟨false, 9223372036854775808, 0⟩) := next.trans (by decide)
  have none : numberLiteral? ⟨.integer, "79228162514264337593543950336"⟩ = none :=
    beyond.trans (by decide)
  refine ⟨largest.trans (by decide), ?_, ?_⟩
  · obtain ⟨-, accepted⟩ := tokens "9223372036854775808" _ (single ▸ List.mem_cons_self) rfl
    obtain ⟨-, -, -, -, back⟩ := accepted _ decimal
    exact back
  · obtain ⟨refused, -⟩ :=
      tokens "79228162514264337593543950336" _ (single' ▸ List.mem_cons_self) rfl
    obtain ⟨-, -, signed⟩ := refused none []
    exact signed

end PipedQuery
