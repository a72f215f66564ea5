import PipedQuery.Proofs.Scan.Numbers

/-!
# Reading numbers back

The lexeme of a number within the limits is read as that number, and every number that is read is
within the limits.
-/

namespace PipedQuery

theorem digitsValue_toString (n : Nat) : digitsValue (toString n) = n := by
  have text : (toString n).toList = Nat.toDigits 10 n := Nat.toList_repr
  change foldDigits 0 (toString n).toList = n
  rw [text, foldDigits_toDigits]

theorem numberLiteral?_integer {n : Nat} (small : n ≤ maxInt) :
    numberLiteral? (.integer n) = some (.int n) := by
  rw [numberLiteral?, if_pos ⟨rfl, by rwa [Lexeme.integer, digitsValue_toString]⟩,
    Lexeme.integer, digitsValue_toString]

namespace Decimal

/-- Whether the number can be written as a constant: it fits, and it is no integer that is small
    enough to be an integer constant. -/
structure IsConstant (d : Decimal) : Prop where
  mantissa_lt : d.mantissa < bound
  scale_le : d.scale ≤ maxScale
  large : d.scale = 0 → maxInt < d.mantissa

theorem digit_ne_point {c : Char} (digit : c.isDigit = true) : c ≠ '.' := by
  rintro rfl
  simp at digit

theorem readFraction_of_lt {mantissa scale : Nat} {cs : List Char}
    (scale_le : scale + cs.length ≤ maxScale) (lt : foldDigits mantissa cs < bound) :
    readFraction mantissa scale cs = some ⟨false, foldDigits mantissa cs, scale + cs.length⟩ := by
  induction cs generalizing mantissa scale with
  | nil => rfl
  | cons c cs ih =>
    rw [List.length_cons] at scale_le
    have fits : mantissa * 10 + digit c < bound :=
      Nat.lt_of_le_of_lt (le_foldDigits (mantissa * 10 + digit c) cs) lt
    rw [readFraction, if_pos ⟨by omega, fits⟩, ih (by omega) lt, List.length_cons]
    simp only [foldDigits, List.foldl_cons]
    congr 2
    omega

theorem readWhole_append {mantissa : Nat} {cs : List Char}
    (digits : ∀ c ∈ cs, c.isDigit = true) (lt : foldDigits mantissa cs < bound)
    (more : List Char) : readWhole mantissa (cs ++ more) = readWhole (foldDigits mantissa cs) more := by
  induction cs generalizing mantissa with
  | nil => rfl
  | cons c cs ih =>
    have fits : mantissa * 10 + digit c < bound :=
      Nat.lt_of_le_of_lt (le_foldDigits (mantissa * 10 + digit c) cs) lt
    rw [List.cons_append, readWhole, if_neg (digit_ne_point (digits c (by simp))), if_pos fits,
      ih (fun d member => digits d (by simp [member])) lt]
    rfl

/-- The digits of a number that fits are read as that number. -/
theorem readWhole_digits {mantissa scale : Nat} (lt : mantissa < bound)
    (scale_le : scale ≤ maxScale) :
    readWhole 0 (digits mantissa scale) = some ⟨false, mantissa, scale⟩ := by
  obtain ⟨c, whole, fraction, isDigit, length, number, text⟩ := exists_digits mantissa scale
  have before : ∀ d ∈ c :: whole, d.isDigit = true := fun d member =>
    isDigit d (List.mem_append_left fraction member)
  rw [foldDigits_append] at number
  have small : foldDigits 0 (c :: whole) < bound := by
    have := le_foldDigits (foldDigits 0 (c :: whole)) fraction
    omega
  rw [text, readWhole_append before small]
  by_cases integer : scale = 0
  · have empty : fraction = [] := List.length_eq_zero_iff.mp (length.trans integer)
    rw [empty] at number
    rw [if_pos integer, readWhole, integer, ← number]
    rfl
  · rw [if_neg integer, readWhole, if_pos rfl, readFraction_of_lt (by omega) (by omega), number,
      Nat.zero_add, length]

/-- A mantissa that has no room for one more digit is too large for an integer constant. -/
theorem maxInt_lt_of_full {mantissa : Nat} (full : bound ≤ mantissa * 10 + 9) : maxInt < mantissa := by
  have limit : bound = 79228162514264337593543950336 := rfl
  have small : maxInt = 9223372036854775807 := rfl
  omega

/-- Rounding gives a constant if it is due: there is no room for one more digit, or there are as many
    fraction digits as are kept. -/
theorem isConstant_of_round {mantissa scale dropped : Nat} {d : Decimal} (lt : mantissa < bound)
    (scale_le : scale ≤ maxScale) (due : bound ≤ mantissa * 10 + 9 ∨ scale = maxScale)
    (found : round mantissa scale dropped = some d) : d.negative = false ∧ d.IsConstant := by
  have large (integer : scale = 0) : maxInt < mantissa := by
    rcases due with full | most
    · exact maxInt_lt_of_full full
    · exact absurd (integer.symm.trans most) (by decide)
  unfold round at found
  split at found
  · cases found
    exact ⟨rfl, lt, scale_le, large⟩
  split at found
  · next room =>
    cases found
    exact ⟨rfl, room, scale_le, fun integer => Nat.lt_succ_of_lt (large integer)⟩
  split at found
  · cases found
  · next room fraction =>
    cases found
    refine ⟨rfl, ?_, Nat.le_trans (Nat.sub_le scale 1) scale_le, fun _ => maxInt_lt_of_full ?_⟩
    · change (mantissa + 1 + 4) / 10 < bound
      omega
    · change bound ≤ (mantissa + 1 + 4) / 10 * 10 + 9
      omega

/-- A number with a point is a constant, as a digit stands behind the point. -/
theorem isConstant_of_readFraction {mantissa scale : Nat} {cs : List Char} {d : Decimal}
    (digits : ∀ c ∈ cs, c.isDigit = true) (lt : mantissa < bound) (scale_le : scale ≤ maxScale)
    (more : scale = 0 → cs ≠ []) (found : readFraction mantissa scale cs = some d) :
    d.negative = false ∧ d.IsConstant := by
  induction cs generalizing mantissa scale with
  | nil =>
    cases found
    exact ⟨rfl, lt, scale_le, fun integer => absurd rfl (more integer)⟩
  | cons c cs ih =>
    rw [readFraction] at found
    split at found
    · next room =>
      exact ih (fun d member => digits d (List.mem_cons_of_mem c member)) room.2 room.1
        (fun none => absurd none (Nat.succ_ne_zero scale)) found
    · next room =>
      have small : digit c ≤ 9 := by
        have bounds : 48 ≤ c.toNat ∧ c.toNat ≤ 57 :=
          Char.isDigit_iff_toNat.mp (digits c List.mem_cons_self)
        have value : digit c = c.toNat - 48 := rfl
        omega
      exact isConstant_of_round lt scale_le (by omega) found

/-- A number without a point is the value of its digits. -/
theorem eq_of_readWhole {mantissa : Nat} {cs : List Char} {d : Decimal}
    (digits : ∀ c ∈ cs, c.isDigit = true) (lt : mantissa < bound)
    (found : readWhole mantissa cs = some d) :
    d = ⟨false, foldDigits mantissa cs, 0⟩ ∧ foldDigits mantissa cs < bound := by
  induction cs generalizing mantissa with
  | nil =>
    cases found
    exact ⟨rfl, lt⟩
  | cons c cs ih =>
    rw [readWhole, if_neg (digit_ne_point (digits c List.mem_cons_self))] at found
    split at found
    · next room => exact ih (fun d member => digits d (List.mem_cons_of_mem c member)) room found
    · cases found

theorem isConstant_of_readWhole {mantissa : Nat} {whole fraction : List Char} {d : Decimal}
    (digits : ∀ c ∈ whole ++ fraction, c.isDigit = true) (lt : mantissa < bound)
    (more : fraction ≠ []) (found : readWhole mantissa (whole ++ '.' :: fraction) = some d) :
    d.negative = false ∧ d.IsConstant := by
  induction whole generalizing mantissa with
  | nil =>
    rw [List.nil_append, readWhole, if_pos rfl] at found
    exact isConstant_of_readFraction digits lt (Nat.zero_le _) (fun _ => more) found
  | cons c whole ih =>
    rw [List.cons_append, readWhole, if_neg (digit_ne_point (digits c (by simp)))] at found
    split at found
    · next room => exact ih (fun d member => digits d (List.mem_cons_of_mem c member)) room found
    · cases found

end Decimal

theorem numberLiteral?_decimal {d : Decimal} (constant : d.IsConstant) :
    numberLiteral? d.lexeme = some (.decimal ⟨false, d.mantissa, d.scale⟩) := by
  have value : Decimal.ofDigits? d.lexeme.text = some ⟨false, d.mantissa, d.scale⟩ := by
    rw [Decimal.ofDigits?, Decimal.lexeme, String.toList_ofList,
      Decimal.readWhole_digits constant.mantissa_lt constant.scale_le]
  have large : ¬(d.lexeme.kind = .integer ∧ digitsValue d.lexeme.text ≤ maxInt) := by
    rintro ⟨kind, small⟩
    have integer : d.scale = 0 := by
      by_cases integer : d.scale = 0
      · exact integer
      · simp [Decimal.lexeme, integer] at kind
    have number : digitsValue d.lexeme.text = d.mantissa := by
      change foldDigits 0 d.lexeme.text.toList = d.mantissa
      rw [Decimal.lexeme, String.toList_ofList, integer]
      exact Decimal.foldDigits_padded d.mantissa 0
    have := constant.large integer
    omega
  rw [numberLiteral?, if_neg large, value, Option.map_some]

end PipedQuery
