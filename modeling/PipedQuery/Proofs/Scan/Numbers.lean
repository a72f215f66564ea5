import PipedQuery.Grammar.Value
import PipedQuery.Proofs.Scan.Boundary

/-!
# Scanning numbers

Written numbers are single lexemes before every text that goes on with neither a digit nor a point,
and what they are read as is the number that was written.
-/

namespace PipedQuery

/-- The lexeme of an integer without a sign. -/
def Lexeme.integer (n : Nat) : Lexeme := ⟨.integer, toString n⟩

/-- The lexeme of a decimal without its sign. -/
def Decimal.lexeme (d : Decimal) : Lexeme :=
  ⟨if d.scale = 0 then .integer else .decimal, String.ofList (digits d.mantissa d.scale)⟩

@[simp] theorem Lexeme.integer_kind (n : Nat) : (Lexeme.integer n).kind = .integer := rfl

/-- The number that some digits go on to from a number. -/
def foldDigits (n : Nat) (cs : List Char) : Nat :=
  cs.foldl (fun n c => n * 10 + Decimal.digit c) n

theorem foldDigits_append (n : Nat) (cs ds : List Char) :
    foldDigits n (cs ++ ds) = foldDigits (foldDigits n cs) ds :=
  List.foldl_append

theorem le_foldDigits (n : Nat) (cs : List Char) : n ≤ foldDigits n cs := by
  induction cs generalizing n with
  | nil => exact Nat.le_refl n
  | cons c cs ih =>
    have := ih (n * 10 + Decimal.digit c)
    simp only [foldDigits, List.foldl_cons] at this ⊢
    omega

theorem foldDigits_toDigits (n : Nat) : foldDigits 0 (Nat.toDigits 10 n) = n := by
  have same : (fun n c => n * 10 + Decimal.digit c) =
      fun (sofar : Nat) (c : Char) => 10 * sofar + (c.toNat - '0'.toNat) := by
    funext sofar c
    rw [Nat.mul_comm, Decimal.digit]
  rw [foldDigits, same, ← Nat.ofDigitChars_eq_foldl, Nat.ofDigitChars_ten_toDigits]

theorem foldDigits_replicate (n : Nat) : foldDigits 0 (List.replicate n '0') = 0 := by
  induction n with
  | zero => rfl
  | succ n ih => exact ih

/-- The digits of a decimal number with no point between them. -/
def Decimal.padded (mantissa scale : Nat) : List Char :=
  List.replicate (scale + 1 - (Nat.toDigits 10 mantissa).length) '0' ++ Nat.toDigits 10 mantissa

namespace Decimal

theorem foldDigits_padded (mantissa scale : Nat) : foldDigits 0 (padded mantissa scale) = mantissa := by
  rw [padded, foldDigits_append, foldDigits_replicate, foldDigits_toDigits]

theorem lt_length_padded (mantissa scale : Nat) : scale < (padded mantissa scale).length := by
  rw [padded, List.length_append, List.length_replicate]
  omega

theorem isDigit_of_mem_padded {mantissa scale : Nat} {c : Char}
    (member : c ∈ padded mantissa scale) : c.isDigit = true := by
  rcases List.mem_append.mp member with member | member
  · rw [(List.mem_replicate.mp member).2]
    decide
  · exact Nat.isDigit_of_mem_toDigits (by decide) (by decide) member

/-- The digits of a decimal number are those before the point and as many as the scale behind it. -/
theorem exists_digits (mantissa scale : Nat) :
    ∃ c whole fraction, (∀ d ∈ c :: whole ++ fraction, d.isDigit = true) ∧
      fraction.length = scale ∧ foldDigits 0 (c :: whole ++ fraction) = mantissa ∧
      digits mantissa scale = c :: whole ++ if scale = 0 then [] else '.' :: fraction := by
  have long := lt_length_padded mantissa scale
  have number := foldDigits_padded mantissa scale
  have split := List.take_append_drop ((padded mantissa scale).length - scale)
    (padded mantissa scale)
  cases before : (padded mantissa scale).take ((padded mantissa scale).length - scale) with
  | nil =>
    have := congrArg List.length before
    simp only [List.length_take, List.length_nil] at this
    omega
  | cons c whole =>
    refine ⟨c, whole, (padded mantissa scale).drop ((padded mantissa scale).length - scale), ?_, ?_,
      ?_, ?_⟩
    · rw [← before, split]
      exact fun d member => isDigit_of_mem_padded member
    · rw [List.length_drop]
      omega
    · rw [← before, split, number]
    · change (if scale = 0 then padded mantissa scale else _) = _
      split
      · next zero =>
        rw [zero, Nat.sub_zero, List.take_length] at before
        rw [zero, before, List.append_nil]
      · rw [← before]
        rfl

end Decimal

namespace Scan

theorem cut_of_isDigit {c : Char} (digit : c.isDigit = true) (cs : List Char) :
    cut c cs = cutNumber c cs := by
  have apart (d : Char) (other : d.isDigit = false) : c ≠ d := by
    rintro rfl
    simp [other] at digit
  have blank : isBlank c = false := by
    simp [isBlank, apart ' ' (by decide), apart '\t' (by decide), apart '\r' (by decide),
      apart '\n' (by decide)]
  have mark : plainMark? c = none := by
    unfold plainMark?
    split <;> first | rfl | exact absurd rfl (apart _ (by decide))
  have quote : Quote.ofChar? c = none := by
    simp [Quote.ofChar?, apart '"' (by decide), apart '\'' (by decide), apart '`' (by decide)]
  simp [cut, blank, mark, apart '!' (by decide), apart '<' (by decide), apart '>' (by decide),
    quote, digit]

/-- Whether the number before the text ends there. -/
def EndsNumber (rest : List Char) : Prop := ∀ c ∈ rest.head?, c.isDigit = false ∧ c ≠ '.'

theorem Stops.endsNumber {rest : List Char} (h : Stops rest) : EndsNumber rest := fun c member =>
  ⟨isDigit_of_isStop (h c member), ne_of_isStop (h c member) (by decide)⟩

variable {c : Char} {whole rest : List Char}

theorem cut_digits (digits : ∀ d ∈ c :: whole, d.isDigit = true) (ends : EndsNumber rest) :
    cut c (whole ++ rest) = ⟨.integer, c :: whole, rest⟩ := by
  have noDigit : ∀ d ∈ rest.head?, d.isDigit = false := fun d member => (ends d member).1
  have digits' : ∀ d ∈ whole, d.isDigit = true := fun d member => digits d (by simp [member])
  rw [cut_of_isDigit (digits c (by simp)), cutNumber]
  simp only [takeWhile_append_of_head whole noDigit, dropWhile_append_of_head whole noDigit,
    takeWhile_of_all digits', dropWhile_of_all digits', List.nil_append]
  split
  · exact absurd rfl (ends '.' rfl).2
  · rfl

theorem cut_decimal {fraction : List Char} (digits : ∀ d ∈ c :: whole ++ fraction, d.isDigit = true)
    (some : fraction ≠ []) (ends : EndsNumber rest) :
    cut c (whole ++ '.' :: (fraction ++ rest)) =
      ⟨.decimal, c :: whole ++ '.' :: fraction, rest⟩ := by
  have noDigit : ∀ d ∈ rest.head?, d.isDigit = false := fun d member => (ends d member).1
  have digits' : ∀ d ∈ whole, d.isDigit = true := fun d member => digits d (by simp [member])
  have point {ds : List Char} : ∀ d ∈ ('.' :: ds).head?, d.isDigit = false := by simp
  rw [cut_of_isDigit (digits c (by simp)), cutNumber]
  cases fraction with
  | nil => exact absurd rfl some
  | cons d fraction =>
    have first : d.isDigit = true := digits d (by simp)
    have others : ∀ e ∈ fraction, e.isDigit = true := fun e member => digits e (by simp [member])
    simp only [takeWhile_append_of_head whole point, dropWhile_append_of_head whole point,
      takeWhile_of_all digits', dropWhile_of_all digits', List.nil_append, List.cons_append, first,
      if_true, takeWhile_append_of_head fraction noDigit, dropWhile_append_of_head fraction noDigit,
      takeWhile_of_all others, dropWhile_of_all others]

theorem lexemes_integer (n : Nat) (ends : EndsNumber rest) :
    lexemes ((toString n).toList ++ rest) = .integer n :: lexemes rest := by
  have text : (toString n).toList = Nat.toDigits 10 n := Nat.toList_repr
  have digits : ∀ d ∈ Nat.toDigits 10 n, d.isDigit = true := fun d member =>
    Nat.isDigit_of_mem_toDigits (by decide) (by decide) member
  cases found : Nat.toDigits 10 n with
  | nil => exact absurd found Nat.toDigits_ne_nil
  | cons d ds =>
    have whole := cut_digits (found ▸ digits) ends
    rw [text, found, List.cons_append, lexemes_of_cut whole (by simp), ← found, ← text,
      String.ofList_toList, Lexeme.integer]

theorem lexemes_decimal (d : Decimal) (ends : EndsNumber rest) :
    lexemes (Decimal.digits d.mantissa d.scale ++ rest) = d.lexeme :: lexemes rest := by
  obtain ⟨c, whole, fraction, digits, length, -, text⟩ := Decimal.exists_digits d.mantissa d.scale
  by_cases integer : d.scale = 0
  · rw [if_pos integer, List.append_nil] at text
    have cut := cut_digits (fun e member => digits e (List.mem_append_left fraction member)) ends
    rw [text, List.cons_append, lexemes_of_cut cut (by simp), ← text, Decimal.lexeme,
      if_pos integer]
  · rw [if_neg integer] at text
    have some : fraction ≠ [] := by
      rintro rfl
      exact integer length.symm
    have cut := cut_decimal digits some ends
    rw [text, List.cons_append, List.cons_append, List.append_assoc, List.cons_append,
      lexemes_of_cut cut (by simp), Decimal.lexeme, if_neg integer, text]

theorem reads_integer (n : Nat) : Reads (toString n).toList [.integer n] := by
  have found := lexemes_integer n stops_nil.endsNumber
  rw [List.append_nil, lexemes_nil] at found
  refine ⟨found, ?_⟩
  simp [Lexeme.IsSound, Lexeme.IsClosed, Lexeme.isSignificant, TokenKind.channel,
    TokenKind.isQuoted]

theorem reads_decimal (d : Decimal) : Reads (Decimal.digits d.mantissa d.scale) [d.lexeme] := by
  have found := lexemes_decimal d stops_nil.endsNumber
  rw [List.append_nil, lexemes_nil] at found
  refine ⟨found, ?_⟩
  by_cases integer : d.scale = 0 <;>
    simp [Lexeme.IsSound, Lexeme.IsClosed, Lexeme.isSignificant, TokenKind.channel,
      TokenKind.isQuoted, Decimal.lexeme, integer]

end Scan

end PipedQuery
