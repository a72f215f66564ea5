import PipedQuery.Proofs.Scan.Munch.Marks
import PipedQuery.Proofs.Scan.Munch.Names
import PipedQuery.Proofs.Scan.Munch.Numbers
import PipedQuery.Proofs.Scan.Munch.Quotations

/-!
# The scanner takes the longest lexeme

Where a token starts, the scanner finds the one lexeme that the grammar of lexemes allows there
(`munches_cut_iff`, `scan_munches`).
-/

namespace PipedQuery

namespace Form

open Scan

section Lexemes

variable {c : Char} {cs : List Char} {kind : TokenKind} {channel : Channel} {word : List Char}

/-- What starts no other lexeme is one character that the scanner does not recognize. -/
theorem cut_unrecognized (blank : ¬Blank c) (digit : ¬Digit c) (noName : ¬StartsRun (c :: cs))
    (noQuote : ∀ q : Quote, c ≠ q.char) (noMark : ∀ m : Mark, ¬m.spelling.toList <+: c :: cs) :
    cut c cs = ⟨.unrecognized, [c], cs⟩ := by
  have apart (m : Mark) (d : Char) (spelled : m.spelling.toList = [d]) : c ≠ d := by
    rintro rfl
    exact noMark m ⟨cs, by rw [spelled, List.singleton_append]⟩
  rw [← isBlank_iff] at blank
  rw [← isDigit_iff_digit] at digit
  rw [startsRun_iff] at noName
  have mark : plainMark? c = none := by
    cases found : plainMark? c with
    | none => rfl
    | some m => exact absurd rfl (apart m c (plainMark?_spelling found).1)
  have quote : Quote.ofChar? c = none := by
    cases found : Quote.ofChar? c with
    | none => rfl
    | some q => exact absurd (char_of_ofChar? found) (noQuote q)
  rw [cut, if_neg blank]
  simp only [mark, quote, if_neg (apart .exclamation '!' rfl), if_neg (apart .less '<' rfl),
    if_neg (apart .greater '>' rfl), if_neg (apart .star '*' rfl), if_neg digit, if_neg noName]

/-- The channel of a lexeme is that of its kind. -/
theorem Munches.channel_eq {rest : List Char} (h : Munches rest kind channel word) :
    channel = kind.channel := by
  cases h with
  | name _ _ nameKind => cases nameKind <;> rfl
  | number => split <;> rfl
  | _ => rfl

/-- What the scanner cuts off is the longest lexeme that the grammar allows. -/
theorem munches_cut (c : Char) (cs : List Char) :
    ∃ channel, Munches (c :: cs) (cut c cs).kind channel (cut c cs).text := by
  by_cases blank : isBlank c = true
  · rw [cut_blank blank]
    refine ⟨_, .space (List.cons_ne_nil _ _) ((greedy_iff fun _ => isBlank_iff).mpr ⟨?_, rfl⟩)⟩
    rw [List.takeWhile_cons_of_pos blank]
  by_cases digit : c.isDigit = true
  · rw [cut_of_isDigit digit]
    exact ⟨_, munches_cutNumber digit⟩
  by_cases starts : startsName (c :: cs) = true
  · rw [cut_of_startsName starts]
    exact ⟨_, munches_cutName starts⟩
  by_cases quote : ∃ q : Quote, c = q.char
  · obtain ⟨q, rfl⟩ := quote
    rw [cut_quote]
    exact ⟨_, munches_quote q cs⟩
  by_cases mark : ∃ m : Mark, m.spelling.toList <+: c :: cs
  · obtain ⟨m, spelled⟩ := mark
    rcases mark_of_prefix spelled with
      ⟨-, found | ⟨-, rfl⟩ | ⟨withEqual, compound⟩⟩ | ⟨plain, -, compound, -⟩
    · rw [cut_plainMark? found]
      exact ⟨_, munches_plainMark? found⟩
    · rw [cut_star starts]
      exact ⟨_, munches_star starts⟩
    · rw [compound.cut]
      exact ⟨_, munches_cutMark compound⟩
    · rw [compound.cut]
      exact ⟨_, munches_cutMark compound⟩
  · rw [← startsRun_iff] at starts
    rw [isBlank_iff] at blank
    rw [isDigit_iff_digit] at digit
    have noQuote := not_exists.mp quote
    have noMark := not_exists.mp mark
    rw [cut_unrecognized blank digit starts noQuote noMark]
    exact ⟨_, .unrecognized rfl blank digit starts noQuote noMark⟩

/-- The grammar allows no other lexeme than the one that the scanner cuts off. -/
theorem eq_cut (h : Munches (c :: cs) kind channel word) :
    kind = (cut c cs).kind ∧ word = (cut c cs).text := by
  cases h with
  | space filled greedy =>
    obtain ⟨taken, -⟩ := (greedy_iff fun _ => isBlank_iff).mp greedy
    have blank : isBlank c = true := by
      by_contra other
      exact filled (taken.trans (List.takeWhile_cons_of_neg other))
    rw [cut_blank blank, taken, List.takeWhile_cons_of_pos blank]
    exact ⟨rfl, rfl⟩
  | name isName longest nameKind =>
    rw [cut_of_startsName isName.startsName]
    exact eq_cutName isName longest nameKind
  | number isNumber longest =>
    rw [cut_of_isDigit isNumber.isDigit]
    exact eq_cutNumber isNumber longest
  | mark noName starts longest => exact cut_mark noName starts longest
  | closed whole closes =>
    cases whole
    rw [cut_quote, extent_of_closes closes]
    exact ⟨rfl, rfl⟩
  | unclosed whole open_ =>
    cases whole
    rename_i q
    have all := (extent_cases q cs).resolve_left fun ⟨body, closes⟩ => open_ body closes
    rw [cut_quote, all]
    exact ⟨rfl, rfl⟩
  | unrecognized whole blank digit noName noQuote noMark =>
    cases whole
    rw [cut_unrecognized blank digit noName noQuote noMark]
    exact ⟨rfl, rfl⟩

theorem munches_cut_iff :
    Munches (c :: cs) kind channel word ↔
      kind = (cut c cs).kind ∧ channel = (cut c cs).kind.channel ∧ word = (cut c cs).text := by
  constructor
  · intro h
    obtain ⟨rfl, same⟩ := eq_cut h
    exact ⟨rfl, h.channel_eq, same⟩
  · rintro ⟨rfl, rfl, rfl⟩
    obtain ⟨channel, h⟩ := munches_cut c cs
    rw [← h.channel_eq]
    exact h

end Lexemes

end Form

theorem eq_nil_of_utf8ByteSize {cs : List Char} (none : (String.ofList cs).utf8ByteSize = 0) :
    cs = [] := by
  cases cs with
  | nil => rfl
  | cons c cs =>
    have filled := c.utf8Size_pos
    rw [String.ofList_cons, String.utf8ByteSize_append, String.utf8ByteSize_singleton] at none
    omega

/-- An offset splits a text in one way. -/
theorem eq_of_append_of_utf8ByteSize {front rest front' rest' : List Char}
    (same : front ++ rest = front' ++ rest')
    (size : (String.ofList front).utf8ByteSize = (String.ofList front').utf8ByteSize) :
    rest = rest' := by
  rcases List.append_eq_append_iff.mp same with ⟨more, rfl, rfl⟩ | ⟨more, rfl, rfl⟩
  · rw [String.ofList_append, String.utf8ByteSize_append] at size
    have none : more = [] := eq_nil_of_utf8ByteSize (by omega)
    rw [none, List.nil_append]
  · rw [String.ofList_append, String.utf8ByteSize_append] at size
    have none : more = [] := eq_nil_of_utf8ByteSize (by omega)
    rw [none, List.nil_append]

/-- Where a token starts, its kind, its channel and its text are those of the one lexeme that the
    grammar of lexemes allows at the start of the rest of the text. -/
theorem scan_munches {text : String} {t : Token} (member : t ∈ scan text) {front rest : List Char}
    (whole : text.toList = front ++ rest)
    (start : (String.ofList front).utf8ByteSize = t.span.start) (kind : TokenKind)
    (channel : Channel) (word : List Char) :
    Form.Munches rest kind channel word ↔
      kind = t.kind ∧ channel = t.kind.channel ∧ word = t.text.toList := by
  obtain ⟨before, after, split⟩ := List.append_of_mem member
  obtain ⟨c, cs, found, kind_eq, word_eq, place⟩ := Scanner.cut_of_tokens split
  have here : rest = c :: cs := by
    rw [← found]
    have same : front ++ rest = charsOf before ++ charsOf (t :: after) := by
      rw [← whole, charsOf_of_split split]
    have size :
        (String.ofList front).utf8ByteSize = (String.ofList (charsOf before)).utf8ByteSize := by
      rw [start, Token.span, place, Position.past_offset]
      exact Nat.zero_add _
    exact eq_of_append_of_utf8ByteSize same size
  rw [here, Form.munches_cut_iff, kind_eq, word_eq]

/-- The two runs of the name and its groups are one lexeme, behind a character of two octets. -/
theorem scan_munches_datedName :
    (⟨⟨.datedName, "logs:x-*.2021.*"⟩, ⟨3, 1, 3⟩⟩ : Token) ∈ scan "é logs:x-*.2021.*" ∧
      "é logs:x-*.2021.*".toList = ['é', ' '] ++ "logs:x-*.2021.*".toList ∧
      (String.ofList ['é', ' ']).utf8ByteSize = 3 ∧
      ∀ kind channel word, Form.Munches "logs:x-*.2021.*".toList kind channel word ↔
        kind = .datedName ∧ channel = .default ∧ word = "logs:x-*.2021.*".toList := by
  have member : (⟨⟨.datedName, "logs:x-*.2021.*"⟩, ⟨3, 1, 3⟩⟩ : Token) ∈
      scan "é logs:x-*.2021.*" := by
    decide +kernel
  have whole : "é logs:x-*.2021.*".toList = ['é', ' '] ++ "logs:x-*.2021.*".toList := by decide
  have start : (String.ofList ['é', ' ']).utf8ByteSize = 3 := by decide
  exact ⟨member, whole, start, scan_munches member whole start⟩

namespace Form

/-- The text splits into lexemes, each the longest that the grammar allows where it starts. -/
inductive Lexes : List Char → List (TokenKind × List Char) → Prop where
  | nil : Lexes [] []
  | cons {c : Char} {cs rest word : List Char} {kind : TokenKind} {channel : Channel}
      {ls : List (TokenKind × List Char)} :
    Munches (c :: cs) kind channel word → word ++ rest = c :: cs → Lexes rest ls →
    Lexes (c :: cs) ((kind, word) :: ls)

theorem lexes_tokens_iff (s : Scanner) (ls : List (TokenKind × List Char)) :
    Lexes s.rest ls ↔ ls = s.tokens.map fun t => (t.kind, t.text.toList) := by
  obtain ⟨cs, place⟩ := s
  match cs with
  | [] =>
    rw [Scanner.tokens_nil]
    constructor
    · rintro ⟨⟩
      rfl
    · rintro rfl
      exact .nil
  | c :: cs =>
    have shorter := Scan.cut_rest_length_le c cs
    have behind := fun ls =>
      lexes_tokens_iff ⟨(Scan.cut c cs).rest, place.past (Scan.cut c cs).text⟩ ls
    have split := Scan.cut_text_append_rest c cs
    rw [Scanner.tokens_cons, List.map_cons, String.toList_ofList]
    constructor
    · rintro (_ | ⟨munches, whole, others⟩)
      obtain ⟨rfl, -, rfl⟩ := munches_cut_iff.mp munches
      rw [← split, List.append_cancel_left_eq] at whole
      rw [whole] at others
      rw [(behind _).mp others]
    · rintro rfl
      exact .cons (munches_cut_iff.mpr ⟨rfl, rfl, rfl⟩) split ((behind _).mpr rfl)
termination_by s.rest.length

end Form

/-- The tokens of a text are the only way to split it into longest lexemes. -/
theorem lexes_scan_iff (text : String) (ls : List (TokenKind × List Char)) :
    Form.Lexes text.toList ls ↔ ls = (scan text).map fun t => (t.kind, t.text.toList) :=
  Form.lexes_tokens_iff (.ofText text) ls

end PipedQuery
