import PipedQuery.Proofs.Grammar.ArgumentForms
import PipedQuery.Proofs.Pipeline.Parentheses
import PipedQuery.Proofs.Scan.Halves
import PipedQuery.Proofs.Scan.LetterCase

/-!
# Calls with arguments of a special form

Around a text that is an expression, the special forms of the arguments of `percentile`, `extract`
and `position` are parsed into the same calls as plain lists of arguments, or neither is parsed
(`argument_forms_agree`).

What stands in front of `in` is known as a sum only from its tokens.  A quotation that is left open
there swallows the rest of the call in either form.
-/

namespace PipedQuery

open Scan

/-! Words in any letter case, and as strings. -/

/-- Plain characters are written into a string as they are. -/
theorem escapeString_of_plain {cs : List Char} (plain : ∀ c ∈ cs, isPlain c = true) :
    escapeString cs = cs := by
  induction cs with
  | nil => rfl
  | cons c cs ih =>
    obtain ⟨first, others⟩ := List.forall_mem_cons.mp plain
    obtain ⟨escape, quote⟩ := ne_of_isPlain first
    have other : ¬(c = '\'' ∨ c = '\\') := not_or.mpr ⟨quote .single, escape⟩
    rw [escapeString, if_neg other, ih others]

/-- A keyword in quotation marks needs no escapes. -/
theorem writeString_lowercase (k : Keyword) :
    writeString k.lowercase = "'" ++ k.lowercase ++ "'" := by
  have plain : ∀ c ∈ k.lowercase.toList, isPlain c = true := fun c member =>
    isPlain_of_class (Keyword.isKeywordChar_of_mem_lowercase member) rfl
  apply String.toList_inj.mp
  simp [writeString, escapeString_of_plain plain]

/-- A keyword is scanned alike in every letter case. -/
theorem reads_keyword_of_toLower {word : String} {k : Keyword}
    (same : word.map Char.toLower = k.lowercase) : Reads word.toList [⟨.keyword k, word⟩] := by
  have lower : word.toList.map Char.toLower = k.lowercase.toList := by
    rw [← same, String.toList_map]
  have kind : nameKind word.toList = .keyword k := by
    rw [← nameKind_map_toLower, lower, Keyword.nameKind_lowercase]
  have isWord : IsWord word.toList := by
    obtain ⟨starts, continues⟩ := isWord_lowercase k
    rw [← lower] at starts continues
    refine ⟨startsName_map_toLower word.toList ▸ starts, fun c member => ?_⟩
    rw [← IgnoresCase.eq (f := isNameContinue) c]
    rw [← List.map_tail] at continues
    exact continues c.toLower (List.mem_map_of_mem member)
  have reads := reads_word isWord
  rwa [Lexeme.word, kind] at reads

section Marks

variable {cs : List Char} {ls : List Lexeme}

/-- A `<` is read as such unless a `=` follows it. -/
theorem reads_less (h : Reads cs ls) (noEqual : cs.head? ≠ some '=') :
    Reads ('<' :: cs) (.mark .less :: ls) := by
  have alone : cut '<' cs = ⟨.mark .less, ['<'], cs⟩ := by
    change cutMark '<' .less .lessEqual cs = _
    cases cs with
    | nil => rfl
    | cons c cs =>
      have other : c ≠ '=' := fun equal => noEqual (congrArg some equal)
      simp [cutMark, other]
  refine ⟨?_, List.forall_mem_cons.mpr ⟨Lexeme.isSound_mark .less, h.2⟩⟩
  rw [lexemes_of_cut alone (by simp), h.1]
  rfl

/-- A `>` is read as such if what follows stops every token. -/
theorem reads_greater (h : Reads cs ls) (stops : Stops cs) :
    Reads ('>' :: cs) (.mark .greater :: ls) :=
  (BinaryOp.reads_symbol .greater).append h stops

end Marks

theorem Lexeme.isSound_of_isNumber {l : Lexeme} (number : l.kind.isNumber = true) : l.IsSound := by
  obtain ⟨kind, text⟩ := l
  cases kind with
  | integer | decimal => exact ⟨rfl, .of_unquoted rfl⟩
  | _ => cases number

/-- A text that is a number is one lexeme, and no mark goes on with it. -/
theorem reads_of_number {text : String} {t : Token} (single : scan text = [t])
    (number : t.kind.isNumber = true) :
    Reads text.toList [t.toLexeme] ∧ ∀ more, (text.toList ++ more).head? ≠ some '=' := by
  have kind {other : TokenKind} (none : other.isNumber = false) : t.kind ≠ other := by
    intro same
    rw [same, none] at number
    cases number
  have found : lexemes text.toList = [t.toLexeme] := by
    rw [← lexemes_scan, single, List.filter_cons_of_pos (by simpa using kind rfl)]
    rfl
  have sound : t.toLexeme.IsSound := Lexeme.isSound_of_isNumber number
  refine ⟨⟨found, List.forall_mem_singleton.mpr sound⟩, fun more equal => ?_⟩
  cases whole : text.toList with
  | nil => simp [whole] at found
  | cons c cs =>
    rw [whole] at found equal
    obtain rfl : c = '=' := Option.some.inj equal
    rw [lexemes_plainMark rfl] at found
    exact kind rfl (congrArg Lexeme.kind (List.cons.inj found).1).symm

/-! Texts that are read alike. -/

section Agree

variable {text text' : String} {ls ls' : List Lexeme} {x : Expr}

/-- Parsing a text without pipes is reading the one stage it scans as, to its end. -/
theorem parseExpression_ok_of_reads (reads : Reads text.toList ls) (pipeless : Pipeless ls) :
    parseExpression text = .ok x ↔ Grammar.full.expression ls = ⟨.ok x, [], []⟩ := by
  rw [parseExpression_ok_iff]
  constructor
  · rintro ⟨ls', h⟩
    have same : ls' = ls := h.reads.1.symm.trans reads.1
    exact same ▸ h.whole
  · exact fun whole => ⟨ls, reads, pipeless, whole⟩

/-- Two texts parse to the same expressions if the readings of their lexemes agree. -/
theorem parseExpression_agrees (reads : Reads text.toList ls) (pipeless : Pipeless ls)
    (reads' : Reads text'.toList ls') (pipeless' : Pipeless ls')
    (agrees : (Grammar.full.expression ls).Agrees (Grammar.full.expression ls')) :
    parseExpression text = .ok x ↔ parseExpression text' = .ok x := by
  rw [parseExpression_ok_of_reads reads pipeless, parseExpression_ok_of_reads reads' pipeless']
  exact agrees x []

/-- What stands in a call in front of a clean text has no lexical problem if the call is parsed. -/
theorem reads_of_call (k : Keyword) {front rest : List Char} {c : Char} {more : List Lexeme}
    (found : parseExpression text = .ok x)
    (written : text.toList = k.lowercase.toList ++ '(' :: (front ++ c :: rest))
    (behind : Reads rest more) (stop : isStop c = true) (plain : isPlain c = true) :
    Reads front (lexemes front) := by
  obtain ⟨ls, whole⟩ := exists_isExpression found
  have call : Reads (k.lowercase.toList ++ '(' :: front ++ c :: rest) ls := by
    simpa [written] using whole.reads
  have start := call.front behind stop plain
  have split : lexemes (k.lowercase.toList ++ '(' :: front) =
      k.lexeme :: .mark .lParen :: lexemes front := by
    rw [lexemes_append (stops_cons.mpr rfl) (reads_keyword k).closed, (reads_keyword k).1,
      lexemes_plainMark rfl]
    rfl
  exact ⟨rfl, fun l member => start.2 l (by simp [split, member])⟩

end Agree

/-- Whether the parser of sums takes up all tokens of the text. -/
def IsSum (text : String) : Prop :=
  ∃ a s, (Session.ofTokens (scan text) {}).run Grammar.full.additive = (.ok a, s) ∧ s.tokens = []

section Forms

variable {e : String} {v : Expr} (parsed : parseExpression e = .ok v) (x : Expr)
include parsed

/-- A percentile says its rank between angle brackets or behind a comma. -/
theorem parseExpression_percentile {rank : String} {t : Token} (single : scan rank = [t])
    (number : t.kind.isNumber = true) :
    parseExpression ("percentile<" ++ rank ++ ">(" ++ e ++ ")") = .ok x ↔
      parseExpression ("percentile(" ++ e ++ ", " ++ rank ++ ")") = .ok x := by
  obtain ⟨le, h⟩ := exists_isExpression parsed
  obtain ⟨digits, noEqual⟩ := reads_of_number single number
  have apart : t.kind ≠ .mark .pipe := by
    intro pipe
    rw [pipe] at number
    cases number
  have ranked : Reads ("percentile<" ++ rank ++ ">(" ++ e ++ ")").toList
      (Keyword.percentile.lexeme :: .mark .less :: t.toLexeme :: .mark .greater :: .mark .lParen ::
        (le ++ [.mark .rParen])) := by
    have behind := digits.append (reads_greater (reads_parens h.reads) (stops_cons.mpr rfl))
      (stops_cons.mpr rfl)
    have := (reads_keyword_as .percentile "percentile" rfl).append (reads_less behind (noEqual _))
      (stops_cons.mpr rfl)
    simpa using this
  have plain : Reads ("percentile(" ++ e ++ ", " ++ rank ++ ")").toList
      (Keyword.percentile.lexeme :: .mark .lParen ::
        (le ++ .mark .comma :: t.toLexeme :: [.mark .rParen])) := by
    simpa using reads_called .percentile "percentile" rfl
      (h.reads.append (reads_comma digits) (stops_cons.mpr rfl))
  refine parseExpression_agrees ranked ?_ plain ?_
    (Grammar.percentile_agrees (n := 98) h.whole number)
  · simp [h.pipeless, apart]
  · simp [h.pipeless, apart]

/-- The unit of `extract` is a word in front of `from` or a string in front of a comma. -/
theorem parseExpression_extract {word : String} {u : Keyword}
    (same : word.map Char.toLower = u.lowercase) (isUnit : u.isIntervalUnit = true) :
    parseExpression ("extract(" ++ word ++ " from " ++ e ++ ")") = .ok x ↔
      parseExpression ("extract('" ++ u.lowercase ++ "', " ++ e ++ ")") = .ok x := by
  obtain ⟨le, h⟩ := exists_isExpression parsed
  have unit : Reads ("extract(" ++ word ++ " from " ++ e ++ ")").toList
      (Keyword.extract.lexeme :: .mark .lParen :: ⟨.keyword u, word⟩ :: Keyword.from_.lexeme ::
        (le ++ [.mark .rParen])) := by
    have behind := h.reads.behind_as .from_ "from" rfl
    simpa using reads_called .extract "extract" rfl
      ((reads_keyword_of_toLower same).append behind.blank (stops_cons.mpr rfl))
  have plain : Reads ("extract('" ++ u.lowercase ++ "', " ++ e ++ ")").toList
      (Keyword.extract.lexeme :: .mark .lParen :: .string (word.map Char.toLower) :: .mark .comma ::
        (le ++ [.mark .rParen])) := by
    have string := reads_string u.lowercase
    rw [writeString_lowercase] at string
    rw [same]
    simpa using reads_called .extract "extract" rfl
      (string.append (reads_comma h.reads) (stops_cons.mpr rfl))
  refine parseExpression_agrees unit ?_ plain ?_
    (Grammar.extract_agrees (n := 98) (l := ⟨.keyword u, word⟩) h.whole rfl isUnit)
  · simp [h.pipeless]
  · simp [h.pipeless]

section Position

variable {a : String}

/-- The operands of `position` stand on both sides of `in` or of a comma, if the first is a sum. -/
theorem parseExpression_position_of_reads {la : List Lexeme} (reads : Reads a.toList la)
    (sum : IsSum a) :
    parseExpression ("position(" ++ a ++ " in " ++ e ++ ")") = .ok x ↔
      parseExpression ("position(" ++ a ++ ", " ++ e ++ ")") = .ok x := by
  obtain ⟨le, h⟩ := exists_isExpression parsed
  obtain ⟨y, s, run, none⟩ := sum
  have advances : Parser.Advances Grammar.full.additive :=
    (Grammar.consumes_level maxNesting).additive.advances
  obtain ⟨apart, raised, whole, -⟩ := Session.run_of_whole run none
  rw [tokens_ofTokens reads] at whole
  have pipeless := pipeless_of_tokens reads apart
  have contained : Reads ("position(" ++ a ++ " in " ++ e ++ ")").toList
      (Keyword.position.lexeme :: .mark .lParen ::
        (la ++ Keyword.in_.lexeme :: (le ++ [.mark .rParen]))) := by
    have behind := h.reads.behind_as .in_ "in" rfl
    simpa using reads_called .position "position" rfl
      (reads.append behind.blank (stops_cons.mpr rfl))
  have plain : Reads ("position(" ++ a ++ ", " ++ e ++ ")").toList
      (Keyword.position.lexeme :: .mark .lParen ::
        (la ++ .mark .comma :: (le ++ [.mark .rParen]))) := by
    simpa using reads_called .position "position" rfl
      (reads.append (reads_comma h.reads) (stops_cons.mpr rfl))
  refine parseExpression_agrees contained ?_ plain ?_
    (Grammar.position_agrees (n := 98) h.whole whole)
  · simp [h.pipeless, pipeless]
  · simp [h.pipeless, pipeless]

/-- Where the first argument has a lexical problem, both calls have one. -/
theorem parseExpression_position (sum : IsSum a) :
    parseExpression ("position(" ++ a ++ " in " ++ e ++ ")") = .ok x ↔
      parseExpression ("position(" ++ a ++ ", " ++ e ++ ")") = .ok x := by
  by_cases clean : Reads a.toList (lexemes a.toList)
  · exact parseExpression_position_of_reads parsed x clean sum
  obtain ⟨le, h⟩ := exists_isExpression parsed
  have name : Keyword.position.lowercase = "position" := Keyword.lowercase_eq rfl
  have word : Keyword.in_.lowercase = "in" := Keyword.lowercase_eq rfl
  have last {cs : List Char} {ls : List Lexeme} (reads : Reads cs ls) :
      Reads (cs ++ [')']) (ls ++ [.mark .rParen]) :=
    reads.append (reads_mark rfl) (stops_cons.mpr rfl)
  refine iff_of_false (fun found => clean ?_) fun found => clean ?_
  · exact reads_of_call .position (c := ' ') found (by simp [name, word])
      (last (Reads.behind .in_ h.reads)) rfl rfl
  · exact reads_of_call .position (c := ',') found (by simp [name]) (last h.reads.blank) rfl rfl

end Position

end Forms

/-- Around a text that is an expression, the special forms of arguments are parsed into the same
    calls as plain lists of arguments, or neither is parsed: those of `percentile` with any number
    as the rank, of `extract` with any unit in any letter case, and of `position` with any text that
    the parser of sums takes up as a whole. -/
theorem argument_forms_agree (e : String) (v : Expr) (parsed : parseExpression e = .ok v)
    (x : Expr) :
    (∀ rank t, scan rank = [t] → t.kind.isNumber = true →
      (parseExpression ("percentile<" ++ rank ++ ">(" ++ e ++ ")") = .ok x ↔
        parseExpression ("percentile(" ++ e ++ ", " ++ rank ++ ")") = .ok x)) ∧
    (∀ (word : String) (u : Keyword), word.map Char.toLower = u.lowercase →
      u.isIntervalUnit = true →
      (parseExpression ("extract(" ++ word ++ " from " ++ e ++ ")") = .ok x ↔
        parseExpression ("extract('" ++ u.lowercase ++ "', " ++ e ++ ")") = .ok x)) ∧
    ∀ a, IsSum a →
      (parseExpression ("position(" ++ a ++ " in " ++ e ++ ")") = .ok x ↔
        parseExpression ("position(" ++ a ++ ", " ++ e ++ ")") = .ok x) :=
  ⟨fun _ _ => parseExpression_percentile parsed x, fun _ _ => parseExpression_extract parsed x,
    fun _ => parseExpression_position parsed x⟩

/-- A membership test may stand in all three calls, although that of `position` ends its own first
    argument with `in`. -/
theorem argument_forms_agree_membership :
    let e := "1 in (2)"
    ∃ v, parseExpression e = .ok v ∧
      (∃ x, parseExpression ("percentile<" ++ "5" ++ ">(" ++ e ++ ")") = .ok x ∧
        parseExpression ("percentile(" ++ e ++ ", " ++ "5" ++ ")") = .ok x ∧
        x.text = "percentile(1 in (2), 5)") ∧
      (∃ x, parseExpression ("extract(" ++ "Day" ++ " from " ++ e ++ ")") = .ok x ∧
        parseExpression ("extract('" ++ Keyword.day.lowercase ++ "', " ++ e ++ ")") = .ok x ∧
        x.text = "extract('day', 1 in (2))") ∧
      ∃ x, parseExpression ("position(" ++ "3" ++ " in " ++ e ++ ")") = .ok x ∧
        parseExpression ("position(" ++ "3" ++ ", " ++ e ++ ")") = .ok x ∧
        x.text = "position(3, 1 in (2))" := by
  intro e
  let text (s : String) := (parseExpression s).toOption.map Expr.text
  let sum := (Session.ofTokens (scan "3") {}).run Grammar.full.additive
  have run : text e = some e ∧
      text ("percentile<" ++ "5" ++ ">(" ++ e ++ ")") = some "percentile(1 in (2), 5)" ∧
      text ("extract(" ++ "Day" ++ " from " ++ e ++ ")") = some "extract('day', 1 in (2))" ∧
      text ("position(" ++ "3" ++ " in " ++ e ++ ")") = some "position(3, 1 in (2))" ∧
      scan "5" = [⟨⟨.integer, "5"⟩, .origin⟩] ∧
      sum.1.toOption.map Expr.text = some "3" ∧ sum.2.tokens = [] := by
    decide +kernel
  obtain ⟨inner, ranked, unit, contained, single, first, all⟩ := run
  obtain ⟨v, parsed, -⟩ := exists_ok_of_text _ inner
  obtain ⟨x, percentile, written⟩ := exists_ok_of_text _ ranked
  obtain ⟨y, extract, written'⟩ := exists_ok_of_text _ unit
  obtain ⟨z, position, written''⟩ := exists_ok_of_text _ contained
  obtain ⟨a, found, -⟩ := exists_ok_of_text _ first
  have isSum : IsSum "3" := ⟨a, sum.2, Prod.ext found rfl, all⟩
  have spelled : Keyword.day.spelling = "DAY" := rfl
  have day : ("Day" : String).map Char.toLower = Keyword.day.lowercase := by
    rw [← String.toList_inj, String.toList_map, Keyword.lowercase_toList, spelled]
    decide
  refine ⟨v, parsed, ⟨x, percentile, ?_, written⟩, ⟨y, extract, ?_, written'⟩,
    ⟨z, position, ?_, written''⟩⟩
  · exact ((argument_forms_agree e v parsed x).1 "5" _ single rfl).mp percentile
  · exact ((argument_forms_agree e v parsed y).2.1 "Day" .day day rfl).mp extract
  · exact ((argument_forms_agree e v parsed z).2.2 "3" isSum).mp position

end PipedQuery
