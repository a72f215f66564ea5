import PipedQuery.Token

/-!
# Scanning

The scanner cuts a text into lexemes, always taking the longest one that starts at the current
character.  It never fails: a character that starts no lexeme becomes a lexeme of its own, and
blanks are kept.  Cutting a lexeme off keeps the text whole (`cut_text_append_rest`) and takes at
least one character (`cut_text_ne_nil`).
-/

namespace PipedQuery

namespace Scan

/-- Blanks between lexemes. -/
def isBlank (c : Char) : Bool := c = ' ' || c = '\t' || c = '\r' || c = '\n'

/-- The letters and signs that a name may start with. -/
def isNameStart (c : Char) : Bool := c.isAlpha || c = '_' || c = '@'

/-- The characters that continue a name. -/
def isNameContinue (c : Char) : Bool := c.isAlphanum || c = '_' || c = '*' || c = '-'

/-- The characters of a date suffix. -/
def isDateChar (c : Char) : Bool := c.isDigit || c = '*'

/-- The characters that reserved words are made of. -/
def isKeywordChar (c : Char) : Bool := c.isAlphanum || c = '_'

/-- Whether a name starts here.  A star starts one only right before a proper start. -/
def startsName : List Char → Bool
  | '*' :: c :: _ => isNameStart c
  | c :: _ => isNameStart c
  | [] => false

/-- The date groups that follow a name, such as `.2021.01`, and what comes behind them. -/
def dateSuffix : List Char → List Char × List Char
  | sep :: c :: cs =>
    if (sep = '.' || sep = '-') && isDateChar c then
      let (groups, rest) := dateSuffix (cs.dropWhile isDateChar)
      (sep :: c :: cs.takeWhile isDateChar ++ groups, rest)
    else ([], sep :: c :: cs)
  | cs => ([], cs)
termination_by cs => cs.length
decreasing_by
  have := (List.dropWhile_sublist isDateChar (l := cs)).length_le
  simp only [List.length_cons]
  omega

/-- The part of a name behind a colon, and what comes behind it.  A name that starts with `@`
    names no cluster. -/
def clusterSuffix (run : List Char) : List Char → List Char × List Char
  | ':' :: c :: cs =>
    if run.head? != some '@' && startsName (c :: cs) then
      (':' :: c :: cs.takeWhile isNameContinue, cs.dropWhile isNameContinue)
    else ([], ':' :: c :: cs)
  | cs => ([], cs)

/-- A lexeme cut off a text, and the rest of the text. -/
structure Cut where
  kind : TokenKind
  text : List Char
  rest : List Char

/-- The kind of a name with neither cluster nor date suffix. -/
def nameKind (run : List Char) : TokenKind :=
  if run.all isKeywordChar then
    match Keyword.ofWord? (String.ofList run) with
    | some k => .keyword k
    | none => .identifier
  else .identifier

/-- Cuts off a name, of which `c` is the first character. -/
def cutName (c : Char) (cs : List Char) : Cut :=
  let run := cs.takeWhile isNameContinue
  let cluster := clusterSuffix (c :: run) (cs.dropWhile isNameContinue)
  let date := dateSuffix cluster.2
  let kind :=
    if !date.1.isEmpty then .datedName
    else if !cluster.1.isEmpty then .clusterName
    else nameKind (c :: run)
  ⟨kind, c :: (run ++ cluster.1 ++ date.1), date.2⟩

/-- Cuts off a number, of which `c` is the first digit. -/
def cutNumber (c : Char) (cs : List Char) : Cut :=
  let whole := c :: cs.takeWhile Char.isDigit
  match cs.dropWhile Char.isDigit with
  | '.' :: d :: ds =>
    if d.isDigit then
      ⟨.decimal, whole ++ '.' :: d :: ds.takeWhile Char.isDigit, ds.dropWhile Char.isDigit⟩
    else ⟨.integer, whole, '.' :: d :: ds⟩
  | rest => ⟨.integer, whole, rest⟩

/-- Cuts off a mark of two characters if `=` follows, and of one otherwise. -/
def cutMark (c : Char) (plain withEqual : Mark) : List Char → Cut
  | '=' :: cs => ⟨.mark withEqual, [c, '='], cs⟩
  | cs => ⟨.mark plain, [c], cs⟩

/-- The marks of one character that start no longer mark. -/
def plainMark? (c : Char) : Option Mark :=
  match c with
  | '|' => some .pipe
  | ',' => some .comma
  | '.' => some .dot
  | '(' => some .lParen
  | ')' => some .rParen
  | '[' => some .lBracket
  | ']' => some .rBracket
  | ':' => some .colon
  | '=' => some .equal
  | '+' => some .plus
  | '-' => some .minus
  | '/' => some .slash
  | '%' => some .percent
  | '~' => some .tilde
  | '&' => some .ampersand
  | '^' => some .caret
  | _ => none

/-- Cuts the longest lexeme off a text that starts with `c`. -/
def cut (c : Char) (cs : List Char) : Cut :=
  if isBlank c then ⟨.space, c :: cs.takeWhile isBlank, cs.dropWhile isBlank⟩
  else match plainMark? c with
  | some m => ⟨.mark m, [c], cs⟩
  | none =>
    if c = '!' then cutMark c .exclamation .notEqual cs
    else if c = '<' then cutMark c .less .lessEqual cs
    else if c = '>' then cutMark c .greater .greaterEqual cs
    else match Quote.ofChar? c with
    | some q => ⟨.quoted q, c :: (q.extent cs).1, (q.extent cs).2⟩
    | none =>
      if c.isDigit then cutNumber c cs
      else if startsName (c :: cs) then cutName c cs
      else if c = '*' then ⟨.mark .star, [c], cs⟩
      else ⟨.unrecognized, [c], cs⟩

/-! Nothing is lost by cutting, and something is always cut off. -/

/-- A quotation and what is behind it are the text. -/
theorem extent_append (q : Quote) (cs : List Char) : (q.extent cs).1 ++ (q.extent cs).2 = cs := by
  fun_induction Quote.extent q cs with
  | case1 | case2 | case4 => rfl
  | case3 c cs body rest h ih =>
    rw [h] at ih
    simp [ih]
  | case5 cs body rest h _ ih =>
    rw [h] at ih
    simp [ih]
  | case6 => rfl
  | case7 c d cs _ _ body rest h ih =>
    rw [h] at ih
    simp [ih]

theorem dateSuffix_append (cs : List Char) : (dateSuffix cs).1 ++ (dateSuffix cs).2 = cs := by
  fun_induction dateSuffix cs with
  | case1 sep c cs h groups rest hs ih =>
    rw [hs] at ih
    simp [ih]
  | case2 => rfl
  | case3 => rfl

theorem clusterSuffix_append (run cs : List Char) :
    (clusterSuffix run cs).1 ++ (clusterSuffix run cs).2 = cs := by
  fun_cases clusterSuffix run cs with
  | case1 => simp
  | case2 => rfl
  | case3 => rfl

/-- What every cut of a text starting with `c` and going on with `cs` does: it keeps the text
    whole and takes at least the first character. -/
def Cut.Of (c : Char) (cs : List Char) (cut : Cut) : Prop :=
  ∃ more, cut.text = c :: more ∧ more ++ cut.rest = cs

theorem cutName_of (c : Char) (cs : List Char) : (cutName c cs).Of c cs := by
  refine ⟨_, rfl, ?_⟩
  simp only [cutName, List.append_assoc, dateSuffix_append, clusterSuffix_append,
    List.takeWhile_append_dropWhile]

theorem cutNumber_of (c : Char) (cs : List Char) : (cutNumber c cs).Of c cs := by
  have split := List.takeWhile_append_dropWhile (p := Char.isDigit) (l := cs)
  unfold cutNumber
  split
  · next d ds h =>
    rw [h] at split
    split
    · exact ⟨_, rfl, by simp [split]⟩
    · exact ⟨_, rfl, split⟩
  · exact ⟨_, rfl, split⟩

theorem cutMark_of (c : Char) (plain withEqual : Mark) (cs : List Char) :
    (cutMark c plain withEqual cs).Of c cs := by
  fun_cases cutMark c plain withEqual cs with
  | case1 => exact ⟨['='], rfl, rfl⟩
  | case2 => exact ⟨[], rfl, rfl⟩

/-- What is cut is the start of the text, and not empty. -/
theorem cut_of (c : Char) (cs : List Char) : (cut c cs).Of c cs := by
  unfold cut
  split
  · exact ⟨_, rfl, List.takeWhile_append_dropWhile⟩
  split
  · exact ⟨[], rfl, rfl⟩
  split
  · exact cutMark_of ..
  split
  · exact cutMark_of ..
  split
  · exact cutMark_of ..
  split
  · next q _ => exact ⟨_, rfl, extent_append q cs⟩
  split
  · exact cutNumber_of c cs
  split
  · exact cutName_of c cs
  split
  · exact ⟨[], rfl, rfl⟩
  · exact ⟨[], rfl, rfl⟩

/-- Nothing of the text is lost between a lexeme and the rest. -/
theorem cut_text_append_rest (c : Char) (cs : List Char) :
    (cut c cs).text ++ (cut c cs).rest = c :: cs := by
  obtain ⟨more, text, rest⟩ := cut_of c cs
  simp [text, rest]

theorem cut_text_ne_nil (c : Char) (cs : List Char) : (cut c cs).text ≠ [] := by
  obtain ⟨more, text, -⟩ := cut_of c cs
  simp [text]

theorem cut_rest_length_le (c : Char) (cs : List Char) : (cut c cs).rest.length ≤ cs.length := by
  obtain ⟨more, -, rest⟩ := cut_of c cs
  have := congrArg List.length rest
  simp only [List.length_append] at this
  omega

end Scan

/-- A scanner in the middle of a text: what is left to scan, and where that starts. -/
structure Scanner where
  rest : List Char
  place : Position

namespace Scanner

/-- The scanner at the start of `text`. -/
def ofText (text : String) : Scanner := ⟨text.toList, .origin⟩

/-- The next token and the scanner behind it. -/
def next? (s : Scanner) : Option (Token × Scanner) :=
  match s.rest with
  | [] => none
  | c :: cs =>
    let cut := Scan.cut c cs
    some (⟨⟨cut.kind, String.ofList cut.text⟩, s.place⟩, ⟨cut.rest, s.place.past cut.text⟩)

/-- The scanner gets on with every token. -/
theorem length_of_next? {s s' : Scanner} {t : Token} (h : s.next? = some (t, s')) :
    s'.rest.length < s.rest.length := by
  unfold next? at h
  split at h
  · simp at h
  · next c cs hs =>
    simp only [Option.some.injEq, Prod.mk.injEq] at h
    have := Scan.cut_rest_length_le c cs
    simp only [← h.2, hs, List.length_cons]
    omega

/-- All tokens that are left. -/
def tokens (s : Scanner) : List Token :=
  match found : s.next? with
  | none => []
  | some (t, s') =>
    have := length_of_next? found
    t :: s'.tokens
termination_by s.rest.length

end Scanner

/-- The tokens of `text`, blanks and unrecognized characters included. -/
def scan (text : String) : List Token := (Scanner.ofText text).tokens

end PipedQuery
