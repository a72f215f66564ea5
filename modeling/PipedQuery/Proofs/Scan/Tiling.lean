import PipedQuery.Proofs.Scan.Octets
import Mathlib.Data.List.Induction

/-!
# Tokens cover the text

The tokens of a text stand side by side from its first octet to its last.  None is empty, none cuts
a character in two, and the place of each is what counting through the text before it gives.  Moving
by octets finds the same tokens (`scan_tiles`).
-/

namespace PipedQuery

/-- The characters of some tokens, one after the other. -/
def charsOf (ts : List Token) : List Char := ts.flatMap fun t => t.text.toList

@[simp] theorem charsOf_nil : charsOf [] = [] := rfl

@[simp] theorem charsOf_cons (t : Token) (ts : List Token) :
    charsOf (t :: ts) = t.text.toList ++ charsOf ts := rfl

theorem charsOf_append (ts us : List Token) : charsOf (ts ++ us) = charsOf ts ++ charsOf us :=
  List.flatMap_append

/-- Whether the tokens stand side by side from one offset to another, and none is empty. -/
def Tiles : Nat → List Token → Nat → Prop
  | start, [], stop => start = stop
  | start, t :: ts, stop =>
    t.span.start = start ∧ t.span.start < t.span.stop ∧ Tiles t.span.stop ts stop

/-- Whether the token is what its span covers of the text, in whole characters, and its line and
    column are those of its start.  Neither number is larger than the text is long. -/
structure Token.IsExactIn (text : String) (t : Token) : Prop where
  startsCharacter : (⟨t.span.start⟩ : String.Pos.Raw).IsValid text
  stopsCharacter : (⟨t.span.stop⟩ : String.Pos.Raw).IsValid text
  slice : t.text.toByteArray = text.toByteArray.extract t.span.start t.span.stop
  counted : ∃ before after, text = before ++ t.text ++ after ∧
    before.utf8ByteSize = t.span.start ∧
    t.place.line = 1 + before.toList.count '\n' ∧
    t.place.column = 1 + (before.toList.reverse.takeWhile (· ≠ '\n')).length
  line_le : t.place.line ≤ text.length
  column_le : t.place.column ≤ text.length

namespace Position

theorem next_offset (p : Position) (c : Char) : (p.next c).offset = p.offset + c.utf8Size := by
  unfold next
  split <;> rfl

theorem past_offset (p : Position) (cs : List Char) :
    (p.past cs).offset = p.offset + (String.ofList cs).utf8ByteSize := by
  induction cs generalizing p with
  | nil => simp [past_nil]
  | cons c cs ih =>
    rw [past_cons, ih, next_offset, String.ofList_cons, String.utf8ByteSize_append,
      String.utf8ByteSize_singleton, Nat.add_assoc]

/-- Lines are counted by the line feeds before a place. -/
theorem past_line (cs : List Char) : (origin.past cs).line = 1 + cs.count '\n' := by
  induction cs using List.reverseRecOn with
  | nil => rfl
  | append_singleton cs c ih =>
    rw [past_append, past_cons, past_nil, next, List.count_append]
    by_cases newline : c = '\n'
    · simp [newline, ih, Nat.add_assoc]
    · simp [newline, ih]

/-- Columns are counted by the characters behind the last line feed before a place. -/
theorem past_column (cs : List Char) :
    (origin.past cs).column = 1 + (cs.reverse.takeWhile (· ≠ '\n')).length := by
  induction cs using List.reverseRecOn with
  | nil => rfl
  | append_singleton cs c ih =>
    rw [past_append, past_cons, past_nil, next, List.reverse_append, List.reverse_singleton,
      List.singleton_append]
    by_cases newline : c = '\n'
    · simp [newline]
    · simp only [newline, if_false, ih, ne_eq, not_false_iff, decide_true,
        List.takeWhile_cons_of_pos, List.length_cons]
      omega

end Position

namespace Scanner

theorem tokens_nil (place : Position) : tokens ⟨[], place⟩ = [] := by
  rw [tokens]
  rfl

theorem tokens_cons (c : Char) (cs : List Char) (place : Position) :
    tokens ⟨c :: cs, place⟩ =
      ⟨⟨(Scan.cut c cs).kind, String.ofList (Scan.cut c cs).text⟩, place⟩ ::
        tokens ⟨(Scan.cut c cs).rest, place.past (Scan.cut c cs).text⟩ := by
  rw [tokens]
  rfl

/-- Nothing of the text is lost. -/
theorem charsOf_tokens (s : Scanner) : charsOf s.tokens = s.rest := by
  obtain ⟨cs, place⟩ := s
  match cs with
  | [] => rw [tokens_nil, charsOf_nil]
  | c :: cs =>
    have shorter := Scan.cut_rest_length_le c cs
    rw [tokens_cons, charsOf_cons, charsOf_tokens, String.toList_ofList]
    exact Scan.cut_text_append_rest c cs
termination_by s.rest.length

/-- Behind any of the tokens, scanning goes on with the rest of the text and from its place. -/
theorem tokens_of_append {s : Scanner} {before ts : List Token} (split : s.tokens = before ++ ts) :
    tokens ⟨charsOf ts, s.place.past (charsOf before)⟩ = ts := by
  induction before generalizing s with
  | nil =>
    rw [List.nil_append] at split
    rw [← split, charsOf_tokens, charsOf_nil, Position.past_nil]
  | cons t before ih =>
    obtain ⟨cs, place⟩ := s
    cases cs with
    | nil =>
      rw [tokens_nil] at split
      cases split
    | cons c cs =>
      rw [tokens_cons] at split
      obtain ⟨rfl, behind⟩ := List.cons.inj split
      have later := ih behind
      rw [charsOf_cons, String.toList_ofList, Position.past_append]
      exact later

/-- Where a token starts, the scanner cuts off its text and stands at its place. -/
theorem cut_of_tokens {s : Scanner} {before after : List Token} {t : Token}
    (split : s.tokens = before ++ t :: after) :
    ∃ c cs, charsOf (t :: after) = c :: cs ∧ t.kind = (Scan.cut c cs).kind ∧
      t.text.toList = (Scan.cut c cs).text ∧ t.place = s.place.past (charsOf before) := by
  have here := tokens_of_append split
  cases rest : charsOf (t :: after) with
  | nil =>
    rw [rest, tokens_nil] at here
    cases here
  | cons c cs =>
    rw [rest, tokens_cons] at here
    obtain ⟨same, -⟩ := List.cons.inj here
    refine ⟨c, cs, rfl, ?_, ?_, ?_⟩
    · rw [← same]
    · rw [← same, String.toList_ofList]
    · rw [← same]

theorem tiles_tokens (s : Scanner) : Tiles s.place.offset s.tokens (s.place.past s.rest).offset := by
  obtain ⟨cs, place⟩ := s
  match cs with
  | [] =>
    rw [tokens_nil]
    rfl
  | c :: cs =>
    have shorter := Scan.cut_rest_length_le c cs
    have others := tiles_tokens ⟨(Scan.cut c cs).rest, place.past (Scan.cut c cs).text⟩
    have whole : (place.past (Scan.cut c cs).text).past (Scan.cut c cs).rest = place.past (c :: cs) := by
      rw [← Position.past_append, Scan.cut_text_append_rest]
    have filled : 0 < (String.ofList (Scan.cut c cs).text).utf8ByteSize := by
      obtain ⟨more, text, -⟩ := Scan.cut_of c cs
      have first := Char.utf8Size_pos c
      rw [text, String.ofList_cons, String.utf8ByteSize_append, String.utf8ByteSize_singleton]
      omega
    rw [whole, Position.past_offset] at others
    rw [tokens_cons]
    exact ⟨rfl, Nat.lt_add_of_pos_right filled, others⟩
termination_by s.rest.length

end Scanner

theorem charsOf_of_split {text : String} {before ts : List Token}
    (split : scan text = before ++ ts) : charsOf before ++ charsOf ts = text.toList := by
  rw [← charsOf_append, ← split]
  exact (Scanner.ofText text).charsOf_tokens

/-- A token starts behind what stands before it. -/
theorem span_start_of_split {text : String} {before after : List Token} {t : Token}
    (split : scan text = before ++ t :: after) :
    t.span.start = (String.ofList (charsOf before)).utf8ByteSize := by
  obtain ⟨-, -, -, -, -, place⟩ := Scanner.cut_of_tokens split
  rw [Token.span, place, Position.past_offset]
  exact Nat.zero_add _

/-- A token is exact if it stands at the place behind the text before it. -/
theorem Token.isExactIn_of_split {text before after : String} {t : Token}
    (whole : text = before ++ t.text ++ after) (filled : t.text.toList ≠ [])
    (place : t.place = .past .origin before.toList) : t.IsExactIn text := by
  have start : t.span.start = before.utf8ByteSize := by
    rw [span, place, Position.past_offset, String.ofList_toList]
    exact Nat.zero_add _
  have stop : t.span.stop = (before ++ t.text).utf8ByteSize := by
    rw [String.utf8ByteSize_append, ← start]
    rfl
  have line : t.place.line = 1 + before.toList.count '\n' := by
    rw [place, Position.past_line]
  have column : t.place.column = 1 + (before.toList.reverse.takeWhile (· ≠ '\n')).length := by
    rw [place, Position.past_column]
  -- The token itself is what leaves room for the one in both numbers.
  have room : before.length + 1 ≤ text.length := by
    have one : 0 < t.text.length := by
      rw [← String.length_toList]
      exact List.length_pos_iff.mpr filled
    rw [whole, String.length_append, String.length_append]
    omega
  refine ⟨?_, ?_, ?_, ⟨before, after, whole, start.symm, line, column⟩, ?_, ?_⟩
  · apply String.Pos.Raw.isValid_iff_exists_append.mpr
    refine ⟨before, t.text ++ after, by rw [whole, String.append_assoc], ?_⟩
    rw [start]
    rfl
  · apply String.Pos.Raw.isValid_iff_exists_append.mpr
    refine ⟨before ++ t.text, after, whole, ?_⟩
    rw [stop]
    rfl
  · have bytes := ByteArray.extract_append_size_add (a := before.toByteArray)
      (b := t.text.toByteArray ++ after.toByteArray) (i := 0) (j := t.text.toByteArray.size)
    rw [ByteArray.extract_append_eq_left rfl, Nat.add_zero, ← String.toByteArray_append,
      ← String.toByteArray_append, ← String.append_assoc, ← whole] at bytes
    rw [start, stop, String.utf8ByteSize_append]
    exact bytes.symm
  · have := List.count_le_length (a := '\n') (l := before.toList)
    rw [String.length_toList] at this
    omega
  · have := (List.takeWhile_sublist (· ≠ '\n') (l := before.toList.reverse)).length_le
    rw [List.length_reverse, String.length_toList] at this
    omega

/-- What a text goes on with is what its octets go on with. -/
theorem extract_append (before after : String) :
    (before ++ after).toByteArray.extract before.utf8ByteSize (before ++ after).utf8ByteSize =
      after.toByteArray := by
  have bytes := ByteArray.extract_append_size_add (a := before.toByteArray)
    (b := after.toByteArray) (i := 0) (j := after.toByteArray.size)
  rw [ByteArray.extract_zero_size, Nat.add_zero, ← String.toByteArray_append] at bytes
  rw [String.utf8ByteSize_append]
  exact bytes

/-- The tokens of a text stand side by side over all of it, each is exact, and a scanner that moves
    by octets finds each of them where it starts. -/
theorem scan_tiles (text : String) :
    Tiles 0 (scan text) text.utf8ByteSize ∧
      (∀ t ∈ scan text, t.IsExactIn text) ∧
      ∀ t ∈ scan text,
        Scan.octetStep (text.toByteArray.extract t.span.start text.utf8ByteSize) =
          some (t.kind, t.text.utf8ByteSize) := by
  refine ⟨?_, ?_, ?_⟩
  · have stop : (Position.past .origin text.toList).offset = text.utf8ByteSize := by
      rw [Position.past_offset, String.ofList_toList]
      exact Nat.zero_add _
    rw [← stop]
    exact (Scanner.ofText text).tiles_tokens
  · intro t member
    obtain ⟨before, after, split⟩ := List.append_of_mem member
    obtain ⟨c, cs, rest, -, word, place⟩ := Scanner.cut_of_tokens split
    have whole := charsOf_of_split split
    rw [charsOf_cons] at whole
    have parts : text = .ofList (charsOf before) ++ t.text ++ .ofList (charsOf after) := by
      apply String.toList_inj.mp
      rw [← whole]
      simp only [String.toList_append, String.toList_ofList, List.append_assoc]
    apply Token.isExactIn_of_split parts
    · rw [word]
      exact Scan.cut_text_ne_nil c cs
    · rw [place, String.toList_ofList]
      rfl
  · intro t member
    obtain ⟨before, after, split⟩ := List.append_of_mem member
    obtain ⟨c, cs, rest, kind, word, place⟩ := Scanner.cut_of_tokens split
    have start : t.span.start = (String.ofList (charsOf before)).utf8ByteSize := by
      rw [Token.span, place, Position.past_offset]
      exact Nat.zero_add _
    have whole : text = .ofList (charsOf before) ++ .ofList (c :: cs) := by
      rw [← String.ofList_append, ← rest, charsOf_of_split split, String.ofList_toList]
    have step := Scan.octetStep_utf8Encode c cs
    rw [← kind, ← word, String.ofList_toList] at step
    rw [start, ← step]
    conv_lhs => rw [whole]
    rw [extract_append, String.toByteArray_ofList]

end PipedQuery
