import PipedQuery.Proofs.Scan.Munch
import PipedQuery.Proofs.Scan.Sources

/-!
# How the parts of a name scan

A word and the parts that follow it behind dots scan as names with dots between them, up to the first
part that is neither a word nor all date groups (`exists_dotted_prefix`).  The scanner comes to
something else there, which no name goes on with.
-/

namespace PipedQuery

/-- Whether the part of a name is all date groups, such as `2021`, `2021-01` and `*`. -/
def isDatePart : List Char → Bool
  | [] => false
  | [c] => Scan.isDateChar c
  | c :: '-' :: cs => Scan.isDateChar c && isDatePart cs
  | c :: d :: cs => Scan.isDateChar c && isDatePart (d :: cs)

/-- Whether the part of a name starts like a name, also behind a dot. -/
def isWordPart (part : List Char) : Bool := part.head?.any Scan.isNameStart

/-- Whether the part scans as a part of a name behind a dot. -/
def isDottedPart (part : List Char) : Bool := isWordPart part || isDatePart part

/-- Whether the parts behind the first one of a name scan as parts of a source: all as the date suffix
    of that one, or the next one as a name. -/
def areSourceParts (parts : List (List Char)) : Bool :=
  parts.all isDatePart || parts.head?.any isWordPart && parts.all isDottedPart

/-- Whether the characters of the part are such as names consist of. -/
def IsNamePart : List Char → Prop
  | [] => False
  | c :: cs => (Scan.isNameStart c = true ∨ Scan.isNameContinue c = true) ∧
      ∀ d ∈ cs, Scan.isNameContinue d = true

/-- Whether the lexemes start with none that goes on with a name. -/
inductive EndsName : List Lexeme → Prop
  | other {l : Lexeme} {ls : List Lexeme} (notDot : l.kind ≠ .mark .dot) : EndsName (l :: ls)
  | dash {ls : List Lexeme} : EndsName (.mark .dot :: .mark .minus :: ls)

namespace Scan

variable {sep c d : Char} {cs part rest : List Char} {parts : List (List Char)}

theorem isNamePart_of_isWord (word : IsWord part) : IsNamePart part := by
  obtain ⟨start, inner⟩ := word
  cases part with
  | nil => cases start
  | cons c cs =>
    refine ⟨?_, inner⟩
    rcases isNameStart_or_star start with start | rfl
    · exact .inl start
    · exact .inr rfl

/-- A name starts with its letter or sign whatever comes behind. -/
theorem isWord_of_isWordPart (named : IsNamePart part) (word : isWordPart part = true) :
    IsWord part := by
  cases part with
  | nil => cases word
  | cons c cs => exact ⟨startsName_of_isNameStart word cs, named.2⟩

theorem not_date_of_isNameStart (start : isNameStart c = true) : isDateChar c = false := by
  have digit := not_isDigit_of_startsName (startsName_of_isNameStart start [])
  have star : c ≠ '*' := by
    rintro rfl
    exact absurd start (by decide)
  simp [isDateChar, digit, star]

/-- A character that names go on with but neither names nor dates start with is a dash. -/
theorem eq_dash (name : isNameStart c = true ∨ isNameContinue c = true) (start : isNameStart c = false)
    (date : isDateChar c = false) : c = '-' := by
  simp only [isNameStart, isNameContinue, isDateChar, Char.isAlphanum, Bool.or_eq_true,
    Bool.or_eq_false_iff, decide_eq_true_eq, decide_eq_false_iff_not] at name start date
  obtain ⟨⟨alpha, underscore⟩, at_⟩ := start
  simpa [alpha, underscore, at_, date.1, date.2] using name

theorem isDatePart_cons_of_ne (apart : d ≠ '-') (cs : List Char) :
    isDatePart (c :: d :: cs) = (isDateChar c && isDatePart (d :: cs)) := by
  rw [isDatePart]
  exact apart

theorem isDateChar_of_isDatePart (date : isDatePart (c :: cs) = true) : isDateChar c = true := by
  cases cs with
  | nil => exact date
  | cons d ds =>
    by_cases dash : d = '-'
    · subst dash
      rw [isDatePart, Bool.and_eq_true] at date
      exact date.1
    · rw [isDatePart_cons_of_ne dash, Bool.and_eq_true] at date
      exact date.1

/-! The lexemes of a text of names and dots are all sound. -/

/-- The characters of names and the dots between them. -/
def isNameChar (c : Char) : Bool := isNameStart c || isNameContinue c || c = '.'

theorem isNameChar_parts (word : IsWord part) (named : ∀ q ∈ parts, IsNamePart q) :
    ∀ c ∈ part ++ parts.flatMap ('.' :: ·), isNameChar c = true := by
  have inside {q : List Char} (named : IsNamePart q) : ∀ c ∈ q, isNameChar c = true := by
    cases q with
    | nil => exact named.elim
    | cons d ds =>
      refine List.forall_mem_cons.mpr ⟨?_, fun c member => ?_⟩
      · rcases named.1 with name | name <;> simp [isNameChar, name]
      · simp [isNameChar, named.2 c member]
  refine List.forall_mem_append.mpr ⟨inside (isNamePart_of_isWord word), fun c member => ?_⟩
  obtain ⟨q, behind, member⟩ := List.mem_flatMap.mp member
  rcases List.mem_cons.mp member with rfl | member
  · rfl
  · exact inside (named q behind) c member

theorem not_blank_of_isNameChar (name : isNameChar c = true) : isBlank c = false := by
  by_contra blank
  simp only [isBlank, Bool.not_eq_false, Bool.or_eq_true, decide_eq_true_eq] at blank
  rcases blank with ((rfl | rfl) | rfl) | rfl <;> exact absurd name (by decide)

/-- Where a character of names stands, a name, a number or a mark starts. -/
theorem exists_form_of_isNameChar (name : isNameChar c = true) (cs : List Char) :
    Form.Digit c ∨ Form.StartsRun (c :: cs) ∨ ∃ m : Mark, m.spelling.toList <+: c :: cs := by
  simp only [isNameChar, Bool.or_eq_true, decide_eq_true_eq, Form.isNameStart_iff,
    Form.isNameContinue_iff] at name
  rcases name with (start | letter | digit | rfl | rfl | rfl) | rfl
  · exact .inr (.inl (.plain cs start))
  · exact .inr (.inl (.plain cs (.inl letter)))
  · exact .inl digit
  · exact .inr (.inl (.plain cs (.inr (.inl rfl))))
  · exact .inr (.inr ⟨.star, List.prefix_append ['*'] cs⟩)
  · exact .inr (.inr ⟨.minus, List.prefix_append ['-'] cs⟩)
  · exact .inr (.inr ⟨.dot, List.prefix_append ['.'] cs⟩)

/-- What is cut off where a character of names stands is sound, and no pipe. -/
theorem isSound_cut (name : isNameChar c = true) (cs : List Char) :
    (cut c cs).lexeme.IsSound ∧ (cut c cs).kind ≠ .mark .pipe := by
  obtain ⟨channel, found⟩ := Form.munches_cut c cs
  have apart {d : Char} {behind : List Char} (whole : c :: cs = d :: behind)
      (other : isNameChar d = false) : False := by
    rw [(List.cons.inj whole).1, other] at name
    cases name
  have noQuote {q : Quote} {behind : List Char} (whole : c :: cs = q.char :: behind) : False :=
    apart whole (by cases q <;> rfl)
  have sound : (cut c cs).kind.channel = .default ∧ (cut c cs).kind.isQuoted = false ∧
      (cut c cs).kind ≠ .mark .pipe := by
    have word := cut_kind_ne_space (not_blank_of_isNameChar name) cs
    generalize (cut c cs).kind = kind at found word
    generalize (cut c cs).text = text at found
    cases found with
    | space => exact absurd rfl word
    | name _ _ nameKind => cases nameKind <;> exact ⟨rfl, rfl, nofun⟩
    | number => split <;> exact ⟨rfl, rfl, nofun⟩
    | mark _ starts _ =>
      refine ⟨rfl, rfl, ?_⟩
      rintro ⟨⟩
      obtain ⟨behind, whole⟩ := starts
      exact apart whole.symm rfl
    | closed whole => exact (noQuote whole).elim
    | unclosed whole => exact (noQuote whole).elim
    | unrecognized whole _ digit start _ mark =>
      obtain ⟨rfl, rfl⟩ := List.cons.inj whole
      rcases exists_form_of_isNameChar name cs with found | found | ⟨m, found⟩
      · exact absurd found digit
      · exact absurd found start
      · exact absurd found (mark m)
  refine ⟨⟨decide_eq_true sound.1, fun quoted => ?_⟩, sound.2.2⟩
  cases quoted.symm.trans sound.2.1

/-- The lexemes of a text of such characters are sound, and none is a pipe. -/
theorem isSound_lexemes {cs : List Char} (named : ∀ c ∈ cs, isNameChar c = true) :
    ∀ l ∈ lexemes cs, l.IsSound ∧ l.kind ≠ .mark .pipe := by
  match cs with
  | [] => simp
  | c :: cs =>
    have shorter := cut_rest_length_le c cs
    have whole := cut_text_append_rest c cs
    have name := named c List.mem_cons_self
    rw [lexemes_cons, if_neg (cut_kind_ne_space (not_blank_of_isNameChar name) cs)]
    have others : ∀ d ∈ (cut c cs).rest, isNameChar d = true := fun d member =>
      named d (whole ▸ List.mem_append_right _ member)
    exact List.forall_mem_cons.mpr ⟨isSound_cut name cs, isSound_lexemes others⟩
termination_by cs.length

theorem lexemes_ne_nil (named : ∀ c ∈ cs, isNameChar c = true) (some : cs ≠ []) : lexemes cs ≠ [] := by
  cases cs with
  | nil => exact absurd rfl some
  | cons c cs =>
    have word := not_blank_of_isNameChar (named c List.mem_cons_self)
    rw [lexemes_cons, if_neg (cut_kind_ne_space word cs)]
    exact List.cons_ne_nil _ _

/-! What is left behind date groups. -/

theorem dateSuffix_of_not_date (date : isDateChar c = false) (cs : List Char) :
    dateSuffix (sep :: c :: cs) = ([], sep :: c :: cs) := by
  rw [dateSuffix, if_neg (by simp [date])]

theorem dateSuffix_of_head (stop : ∀ c ∈ cs.head?, isDateChar c = false) :
    dateSuffix (sep :: cs) = ([], sep :: cs) := by
  cases cs with
  | nil => simp [dateSuffix]
  | cons c cs => exact dateSuffix_of_not_date (stop c rfl) cs

theorem dateSuffix_fst_ne_nil (date : isDateChar c = true) (cs : List Char) :
    (dateSuffix ('.' :: c :: cs)).1 ≠ [] := by
  simp [dateSuffix, date]

theorem left_of_date (separator : sep = '.' ∨ sep = '-') (date : isDateChar c = true)
    (cs : List Char) :
    (dateSuffix (sep :: c :: cs)).2 = (dateSuffix (cs.dropWhile isDateChar)).2 := by
  rw [dateSuffix, if_pos (by simpa [date] using separator)]

theorem left_of_date_date (separator : sep = '.' ∨ sep = '-') (first : isDateChar c = true)
    (second : isDateChar d = true) (cs : List Char) :
    (dateSuffix (sep :: c :: d :: cs)).2 = (dateSuffix (sep :: d :: cs)).2 := by
  rw [left_of_date separator first, left_of_date separator second,
    List.dropWhile_cons_of_pos second]

theorem left_of_date_not_date (separator : sep = '.' ∨ sep = '-') (first : isDateChar c = true)
    (ends : ∀ d ∈ cs.head?, isDateChar d = false) :
    (dateSuffix (sep :: c :: cs)).2 = (dateSuffix cs).2 := by
  rw [left_of_date separator first]
  cases cs with
  | nil => rfl
  | cons d ds => rw [List.dropWhile_cons_of_neg (by simp [ends d rfl])]

/-- Date groups are passed over whatever comes behind them. -/
theorem left_of_isDatePart (separator : sep = '.' ∨ sep = '-') (date : isDatePart part = true)
    (ends : ∀ c ∈ rest.head?, c = '.') :
    (dateSuffix (sep :: (part ++ rest))).2 = (dateSuffix rest).2 := by
  fun_induction isDatePart part generalizing sep with
  | case1 => cases date
  | case2 c =>
    refine left_of_date_not_date separator date fun d member => ?_
    rw [ends d member]
    rfl
  | case3 c cs ih =>
    simp only [Bool.and_eq_true] at date
    have ends : ∀ d ∈ ('-' :: (cs ++ rest)).head?, isDateChar d = false := by
      rintro _ ⟨⟩
      rfl
    rw [List.cons_append, List.cons_append, left_of_date_not_date separator date.1 ends]
    exact ih (.inr rfl) date.2
  | case4 c d cs other ih =>
    simp only [Bool.and_eq_true] at date
    rw [List.cons_append, List.cons_append,
      left_of_date_date separator date.1 (isDateChar_of_isDatePart date.2)]
    exact ih separator date.2

/-- A part that starts with a date group and goes on with something else is left from there on. -/
theorem left_of_not_isDatePart (separator : sep = '.' ∨ sep = '-')
    (first : part.head?.any isDateChar = true) (other : isDatePart part = false)
    (inner : ∀ d ∈ part.tail, isNameContinue d = true) (ends : ∀ d ∈ rest.head?, d = '.') :
    ∃ d ds, isNameContinue d = true ∧ (dateSuffix (sep :: (part ++ rest))).2 = d :: ds := by
  fun_induction isDatePart part generalizing sep with
  | case1 => cases first
  | case2 c => cases first.symm.trans other
  | case3 c cs ih =>
    have date : isDateChar c = true := first
    have passed : (dateSuffix (sep :: c :: '-' :: (cs ++ rest))).2 =
        (dateSuffix ('-' :: (cs ++ rest))).2 := by
      refine left_of_date_not_date separator date ?_
      rintro _ ⟨⟩
      rfl
    rw [List.cons_append, List.cons_append, passed]
    by_cases stop : ∀ e ∈ (cs ++ rest).head?, isDateChar e = false
    · exact ⟨'-', _, rfl, congrArg Prod.snd (dateSuffix_of_head stop)⟩
    · -- Only the part itself can go on with another date group, as a dot is none.
      cases cs with
      | nil =>
        refine absurd (fun e member => ?_) stop
        rw [ends e member]
        rfl
      | cons e es =>
        rw [date, Bool.true_and] at other
        have inner' := (List.forall_mem_cons.mp (List.forall_mem_cons.mp inner).2).2
        exact ih (.inr rfl) (by simpa using stop) other inner'
  | case4 c d cs apart ih =>
    have date : isDateChar c = true := first
    obtain ⟨name, inner'⟩ := List.forall_mem_cons.mp inner
    rw [date, Bool.true_and] at other
    rw [List.cons_append, List.cons_append]
    by_cases again : isDateChar d = true
    · rw [left_of_date_date separator date again]
      exact ih separator again other inner'
    · rw [Bool.not_eq_true] at again
      rw [left_of_date_not_date separator date (by simpa using again)]
      refine ⟨d, _, name, congrArg Prod.snd (dateSuffix_of_ne ?_)⟩
      rintro _ ⟨⟩
      refine ⟨?_, apart⟩
      rintro rfl
      exact absurd name (by decide)

theorem head_parts (parts : List (List Char)) :
    ∀ c ∈ (parts.flatMap ('.' :: ·)).head?, c = '.' := by
  cases parts with
  | nil => nofun
  | cons part parts =>
    rintro _ ⟨⟩
    rfl

/-- Nothing is left behind the date groups of parts if all of them are date groups. -/
theorem left_eq_nil_iff (named : ∀ part ∈ parts, IsNamePart part) :
    (dateSuffix (parts.flatMap ('.' :: ·))).2 = [] ↔ parts.all isDatePart = true := by
  induction parts with
  | nil => simp [dateSuffix]
  | cons part parts ih =>
    obtain ⟨here, others⟩ := List.forall_mem_cons.mp named
    rw [List.flatMap_cons, List.all_cons, Bool.and_eq_true, List.cons_append]
    cases part with
    | nil => exact here.elim
    | cons c cs =>
      cases date : isDatePart (c :: cs) with
      | true => rw [left_of_isDatePart (.inl rfl) date (head_parts parts), ih others]; simp
      | false =>
        have left : (dateSuffix ('.' :: (c :: cs ++ parts.flatMap ('.' :: ·)))).2 ≠ [] := by
          by_cases first : (c :: cs).head?.any isDateChar = true
          · obtain ⟨d, ds, -, found⟩ :=
              left_of_not_isDatePart (.inl rfl) first date here.2 (head_parts parts)
            rw [found]
            exact List.cons_ne_nil d ds
          · rw [List.cons_append, dateSuffix_of_not_date (by simpa using first)]
            exact List.cons_ne_nil _ _
        simpa using left

/-! The lexemes of a word and its parts. -/

theorem startsName_append_of_isWord (word : IsWord (c :: cs)) (rest : List Char) :
    startsName (c :: (cs ++ rest)) = true := by
  rcases isNameStart_or_star word.1 with start | rfl
  · exact startsName_of_isNameStart start _
  · cases cs with
    | nil => exact absurd word.1 (by decide)
    | cons d ds => exact word.1

/-- A word is cut off with the date suffix behind it where no cluster is named. -/
theorem cut_of_isWord (word : IsWord (c :: cs)) (ends : ∀ d ∈ rest.head?, isNameContinue d = false)
    (single : clusterSuffix (c :: cs) rest = ([], rest)) :
    cut c (cs ++ rest) = ⟨if !(dateSuffix rest).1.isEmpty then .datedName else nameKind (c :: cs),
      c :: (cs ++ (dateSuffix rest).1), (dateSuffix rest).2⟩ := by
  have inner : ∀ d ∈ cs, isNameContinue d = true := word.2
  have run := takeWhile_append_of_head cs ends
  have behind := dropWhile_append_of_head cs ends
  rw [takeWhile_of_all inner] at run
  rw [dropWhile_of_all inner, List.nil_append] at behind
  rw [cut_of_startsName (startsName_append_of_isWord word rest), cutName]
  simp [run, behind, single]

/-- A word in front of a dot is one lexeme with its date suffix. -/
theorem exists_lexemes_word (word : IsWord part) (ends : ∀ c ∈ rest.head?, c = '.') :
    ∃ l, lexemes (part ++ rest) = l :: lexemes (dateSuffix rest).2 ∧ l.isBareName = true ∧
      (l.kind = .datedName ↔ (dateSuffix rest).1 ≠ []) ∧ l.text.toList.head? = part.head? := by
  cases part with
  | nil => exact absurd word.1 (by decide)
  | cons c cs =>
    have stop : ∀ d ∈ rest.head?, isNameContinue d = false := fun d member => by
      rw [ends d member]
      rfl
    have single : clusterSuffix (c :: cs) rest = ([], rest) := by
      unfold clusterSuffix
      split
      · cases ends ':' rfl
      · rfl
    refine ⟨_, lexemes_of_cut (cut_of_isWord word stop single) ?_, ?_, ?_, by simp⟩
    all_goals
      rcases nameKind_cases (c :: cs) with ⟨k, kind, -⟩ | kind <;>
        by_cases dates : (dateSuffix rest).1 = [] <;> simp [kind, dates, Lexeme.isBareName]

/-- In front of a colon with no name behind it, a word is a lexeme of its own. -/
theorem lexemes_word_colon {s : String} (word : IsWord s.toList) (q : Quote) (cs : List Char) :
    lexemes (s.toList ++ ':' :: q.char :: cs) = .word s :: lexemes (':' :: q.char :: cs) := by
  cases spelled : s.toList with
  | nil => exact absurd word.1 (by simp [spelled, startsName])
  | cons c ds =>
    rw [spelled] at word
    have noName : startsName (q.char :: cs) = false := by cases q <;> rfl
    have single : clusterSuffix (c :: ds) (':' :: q.char :: cs) = ([], ':' :: q.char :: cs) := by
      simp [clusterSuffix, noName]
    have date : dateSuffix (':' :: q.char :: cs) = ([], ':' :: q.char :: cs) :=
      dateSuffix_of_ne (by simp)
    have stop : ∀ d ∈ (':' :: q.char :: cs).head?, isNameContinue d = false := by
      rintro _ ⟨⟩
      rfl
    have found := cut_of_isWord word stop single
    rw [date] at found
    have other : nameKind (c :: ds) ≠ .space := by
      rcases nameKind_cases (c :: ds) with ⟨k, kind, -⟩ | kind <;> simp [kind]
    rw [List.cons_append, lexemes_of_cut found (by simpa using other), Lexeme.word, spelled,
      ← String.ofList_toList (s := s), spelled]
    simp

theorem isDottedName_of_bare {l l' : Lexeme} {ls : List Lexeme} (dotted : isDottedName (l :: ls) = true)
    (bare : l'.isBareName = true) : isDottedName (l' :: ls) = true := by
  match ls with
  | [] => exact bare
  | [dot] => simp [isDottedName] at dotted
  | dot :: l'' :: ls =>
    simp only [isDottedName, Bool.and_eq_true] at dotted ⊢
    exact ⟨⟨bare, dotted.1.2⟩, dotted.2⟩

/-- A lexeme that is a dot is cut off in front of a dot. -/
theorem eq_dot_of_cut (dot : (cut c cs).kind = .mark .dot) : c = '.' := by
  obtain ⟨channel, found⟩ := Form.munches_cut c cs
  generalize (cut c cs).kind = kind at dot found
  generalize (cut c cs).text = word at found
  cases found with
  | mark _ starts _ =>
    cases dot
    obtain ⟨behind, whole⟩ := starts
    exact (List.cons.inj whole).1.symm
  | name _ _ nameKind => cases nameKind <;> cases dot
  | number =>
    split at dot <;> cases dot
  | _ => cases dot

/-- A text that starts with a character that names go on with starts with no dot. -/
theorem endsName_lexemes (name : isNameContinue c = true) (cs : List Char) :
    EndsName (lexemes (c :: cs)) := by
  have word : isBlank c = false := not_blank_of_isNameChar (by simp [isNameChar, name])
  rw [lexemes_cons, if_neg (cut_kind_ne_space word cs)]
  refine .other fun dot => ?_
  have : c = '.' := eq_dot_of_cut dot
  subst this
  exact absurd name (by decide)

/-- Where a part is neither a word nor date groups, no name goes on with what is left. -/
theorem endsName_left (named : IsNamePart part) (other : isDottedPart part = false)
    (ends : ∀ c ∈ rest.head?, c = '.') :
    EndsName (lexemes (dateSuffix ('.' :: (part ++ rest))).2) := by
  cases part with
  | nil => exact named.elim
  | cons c cs =>
    obtain ⟨start, date⟩ := Bool.or_eq_false_iff.mp other
    by_cases first : (c :: cs).head?.any isDateChar = true
    · obtain ⟨d, ds, name, left⟩ := left_of_not_isDatePart (.inl rfl) first date named.2 ends
      rw [left]
      exact endsName_lexemes name ds
    · rw [Bool.not_eq_true] at first
      obtain rfl := eq_dash named.1 start first
      rw [List.cons_append, dateSuffix_of_not_date first, lexemes_plainMark rfl,
        lexemes_plainMark rfl]
      exact .dash

/-- A word and the parts behind it scan as names with dots between them, up to the first part that is
    no part of a dotted name. -/
theorem exists_dotted_prefix (word : IsWord part) (named : ∀ q ∈ parts, IsNamePart q) :
    ∃ ls rest, lexemes (part ++ parts.flatMap ('.' :: ·)) = ls ++ rest ∧ isDottedName ls = true ∧
      if parts.all isDottedPart then rest = [] else EndsName rest := by
  induction parts generalizing part with
  | nil =>
    obtain ⟨l, found, bare, -⟩ := exists_lexemes_word word (head_parts [])
    exact ⟨[l], [], by simpa [dateSuffix] using found, bare, rfl⟩
  | cons q parts ih =>
    obtain ⟨here, others⟩ := List.forall_mem_cons.mp named
    obtain ⟨l, whole, bare, -⟩ := exists_lexemes_word word (head_parts (q :: parts))
    rw [List.flatMap_cons, List.cons_append] at whole
    rw [List.flatMap_cons, List.cons_append, whole, List.all_cons, isDottedPart]
    by_cases start : isWordPart q = true
    · -- The part is read as a word behind the dot.
      obtain ⟨ls, rest, split, dotted, ends⟩ := ih (isWord_of_isWordPart here start) others
      cases q with
      | nil => exact here.elim
      | cons c cs =>
        rw [List.cons_append, dateSuffix_of_not_date (not_date_of_isNameStart start),
          lexemes_plainMark rfl, ← List.cons_append, split, start, Bool.true_or, Bool.true_and]
        refine ⟨l :: .mark .dot :: ls, rest, rfl, ?_, ends⟩
        cases ls with
        | nil => cases dotted
        | cons l' ls => simp [isDottedName, bare, dotted]
    rw [Bool.not_eq_true] at start
    rw [start, Bool.false_or]
    by_cases date : isDatePart q = true
    · -- The part is a date suffix of what stands before it.
      obtain ⟨ls, rest, split, dotted, ends⟩ := ih word others
      obtain ⟨l', whole', -⟩ := exists_lexemes_word word (head_parts parts)
      rw [left_of_isDatePart (.inl rfl) date (head_parts parts), date, Bool.true_and]
      rw [whole'] at split
      cases ls with
      | nil => cases dotted
      | cons l'' ls =>
        obtain ⟨rfl, behind⟩ := List.cons.inj split
        exact ⟨l :: ls, rest, by rw [behind]; rfl, isDottedName_of_bare dotted bare, ends⟩
    · rw [Bool.not_eq_true] at date
      refine ⟨[l], _, rfl, bare, ?_⟩
      simpa [date] using endsName_left here (by simp [isDottedPart, start, date]) (head_parts parts)

/-! The parts of plain names and plain sources. -/

theorem mem_of_mem_dottedParts {q : List Char} (inside : q ∈ dottedParts cs) (member : c ∈ q) :
    c ∈ cs ∧ c ≠ '.' := by
  induction cs generalizing q with
  | nil =>
    obtain rfl := List.mem_singleton.mp inside
    cases member
  | cons d ds ih =>
    have later {q : List Char} (inside : q ∈ dottedParts ds) (member : c ∈ q) :
        c ∈ d :: ds ∧ c ≠ '.' := (ih inside member).imp_left (List.mem_cons_of_mem d)
    rw [dottedParts] at inside
    split at inside
    · rcases List.mem_cons.mp inside with rfl | inside
      · cases member
      · exact later inside member
    · next other =>
      obtain ⟨part, parts, split, -⟩ := exists_dottedParts ds
      rw [split] at inside later
      rcases List.mem_cons.mp inside with rfl | inside
      · rcases List.mem_cons.mp member with rfl | member
        · exact ⟨List.mem_cons_self, other⟩
        · exact later List.mem_cons_self member
      · exact later (List.mem_cons_of_mem part inside) member

theorem hasDoubleDot_append (cs : List Char) (double : hasDoubleDot rest = true) :
    hasDoubleDot (cs ++ rest) = true := by
  induction cs with
  | nil => exact double
  | cons c cs ih =>
    rw [List.cons_append]
    unfold hasDoubleDot
    split
    · rfl
    · next same =>
      rw [← (List.cons.inj same).2]
      exact ih
    · next same => cases same

/-- A text with neither two dots side by side nor a dot at its end has no empty part behind a dot. -/
theorem ne_nil_of_single_dots (single : hasDoubleDot (part ++ parts.flatMap ('.' :: ·)) = false)
    (ends : (part ++ parts.flatMap ('.' :: ·)).getLast? ≠ some '.') : ∀ q ∈ parts, q ≠ [] := by
  rintro q inside rfl
  obtain ⟨before, behind, rfl⟩ := List.append_of_mem inside
  rw [List.flatMap_append, List.flatMap_cons, ← List.append_assoc] at single ends
  cases behind with
  | nil => simp at ends
  | cons q behind =>
    simp only [List.flatMap_cons, List.cons_append, List.nil_append] at single
    rw [hasDoubleDot_append (part ++ before.flatMap ('.' :: ·)) rfl] at single
    cases single

/-- A plain source starts like a name, and no dot stands in front of another one or at the end. -/
theorem dots_of_isPlainSource {name : String} (plain : isPlainSource name = true) :
    (∃ c cs, name.toList = c :: cs ∧ isNameStart c = true) ∧ hasDoubleDot name.toList = false ∧
      name.toList.getLast? ≠ some '.' := by
  unfold isPlainSource at plain
  split at plain
  · cases plain
  · next c cs found =>
    simp only [Bool.and_eq_true, Bool.or_eq_true, decide_eq_true_eq, Bool.not_eq_true',
      bne_iff_ne] at plain
    obtain ⟨⟨⟨first, -⟩, single⟩, ends⟩ := plain
    rw [found]
    refine ⟨⟨c, cs, rfl, ?_⟩, single, ends⟩
    rcases first with alpha | rfl
    · simp [isNameStart, alpha]
    · rfl

/-- A plain source is a word and parts behind dots. -/
theorem exists_parts_of_isPlainSource {name : String} (plain : isPlainSource name = true) :
    ∃ part parts, dottedParts name.toList = part :: parts ∧
      name.toList = part ++ parts.flatMap ('.' :: ·) ∧ IsWord part ∧ ∀ q ∈ parts, IsNamePart q := by
  obtain ⟨part, parts, split, whole, -⟩ := exists_dottedParts name.toList
  have chars : ∀ q ∈ part :: parts, ∀ c ∈ q, isNameContinue c = true := by
    intro q inside c member
    rw [← split] at inside
    obtain ⟨found, other⟩ := mem_of_mem_dottedParts inside member
    exact (isNameContinue_of_isPlainSource plain found).resolve_right other
  obtain ⟨⟨c, cs, spelled, start⟩, single, ends⟩ := dots_of_isPlainSource plain
  rw [whole] at spelled single ends
  refine ⟨part, parts, split, whole, ?_, fun q inside => ?_⟩
  · cases part with
    | nil =>
      have dot : c = '.' := by
        rw [List.nil_append] at spelled
        exact head_parts parts c (spelled ▸ rfl)
      rw [dot] at start
      cases start
    | cons d ds =>
      obtain ⟨rfl, -⟩ := List.cons.inj spelled
      exact ⟨startsName_of_isNameStart start ds,
        (List.forall_mem_cons.mp (chars _ List.mem_cons_self)).2⟩
  · have all := chars q (List.mem_cons_of_mem part inside)
    cases q with
    | nil => exact absurd rfl (ne_nil_of_single_dots single ends [] inside)
    | cons d ds =>
      obtain ⟨first, others⟩ := List.forall_mem_cons.mp all
      exact ⟨.inr first, others⟩

/-- A name that is written plainly is words with dots between them. -/
theorem exists_words_of_isPlainName {name : String} (plain : isPlainName name = true) :
    ∃ part parts, dottedParts name.toList = part :: parts ∧
      name.toList = part ++ parts.flatMap ('.' :: ·) ∧ IsWord part ∧ ∀ q ∈ parts, IsWord q := by
  obtain ⟨part, parts, split, whole, -⟩ := exists_dottedParts name.toList
  simp only [isPlainName, split, Bool.and_eq_true, List.all_eq_true] at plain
  have words : ∀ q ∈ part :: parts, IsWord q := fun q inside =>
    isWord_of_isPlainPart (plain.2 q inside)
  exact ⟨part, parts, split, whole, List.forall_mem_cons.mp words⟩

/-- A star behind a dot starts a part. -/
theorem exists_star_part (star : hasDotStar cs = true) :
    ∃ q ∈ (dottedParts cs).tail, q.head? = some '*' := by
  fun_induction hasDotStar cs with
  | case1 cs =>
    obtain ⟨part, parts, split, -⟩ := exists_dottedParts cs
    refine ⟨'*' :: part, ?_, rfl⟩
    simp [dottedParts, split]
  | case2 c cs other ih =>
    obtain ⟨q, inside, first⟩ := ih star
    obtain ⟨part, parts, split, -⟩ := exists_dottedParts cs
    refine ⟨q, ?_, first⟩
    rw [split, List.tail_cons] at inside
    rw [dottedParts, split]
    split
    · exact List.mem_cons_of_mem part inside
    · exact inside
  | case3 => cases star

end Scan

end PipedQuery
