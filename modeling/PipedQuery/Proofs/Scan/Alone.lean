import PipedQuery.Proofs.Scan.Genuine
import PipedQuery.Proofs.Scan.Numbers
import PipedQuery.Proofs.Scan.Quotations

/-!
# Lexemes that stand alone

The text of a lexeme is scanned as that lexeme again in front of a text that it ends at
(`lexemes_text_cut_append`), unless it ends in a star that starts a name only for the `@` behind it.
Such a star is a mark of its own elsewhere (`head?_lexemes_of_isStrayStar`).
-/

namespace PipedQuery

/-- Whether the lexeme is a star that is taken for a name, or a cluster with such a star for a
    source. -/
def Lexeme.IsStrayStar (l : Lexeme) : Prop :=
  (l.kind = .identifier ∧ l.text = "*") ∨ (l.kind = .clusterName ∧ [':', '*'] <:+ l.text.toList)

instance (l : Lexeme) : Decidable l.IsStrayStar := inferInstanceAs (Decidable (_ ∨ _))

namespace Scan

variable {c : Char} {cs : List Char}

/-! Each way to cut a lexeme off cuts its text off whole. -/

theorem extent_again (q : Quote) (cs : List Char) :
    q.extent (q.extent cs).1 = ((q.extent cs).1, []) := by
  fun_induction Quote.extent q cs with
  | case1 => rfl
  | case2 => rfl
  | case3 c cs body rest found ih =>
    rw [found] at ih
    simp only [Quote.extent, ih]
  | case4 c => simp [Quote.extent]
  | case5 cs body rest found escape ih =>
    rw [found] at ih
    simp only [extent_cons_cons q escape, if_true, ih]
  | case6 d cs other escape => simp [Quote.extent]
  | case7 c d cs escape other body rest found ih =>
    rw [found] at ih
    cases body with
    | nil => simp [Quote.extent]
    | cons e body => rw [extent_cons_cons q escape, if_neg other, ih]

/-- A quotation without an end goes on to the end of the text. -/
theorem extent_rest_of_open (q : Quote) (cs : List Char)
    (unclosed : (q.decode (q.extent cs).1).2 = false) : (q.extent cs).2 = [] := by
  fun_induction Quote.extent q cs with
  | case1 => rfl
  | case2 => rfl
  | case3 c cs body rest found ih =>
    rw [found] at ih
    exact ih unclosed
  | case4 => rfl
  | case5 cs body rest found escape ih =>
    rw [found] at ih
    simp only [decode_cons_cons q escape, if_true] at unclosed
    exact ih unclosed
  | case6 d cs other escape => simp [Quote.decode] at unclosed
  | case7 c d cs escape other body rest found ih =>
    rw [found] at ih
    cases body with
    | nil => exact ih rfl
    | cons e body =>
      simp only [decode_cons_cons q escape, if_neg other] at unclosed
      exact ih unclosed

/-- Whether the text of the lexeme is cut off whole when nothing is behind it. -/
def Cut.IsAlone (k : Cut) : Prop :=
  ∃ c more, k.text = c :: more ∧ cut c more = ⟨k.kind, k.text, []⟩

theorem isAlone_cutNumber (digit : c.isDigit = true) (cs : List Char) : (cutNumber c cs).IsAlone := by
  have digits (ds : List Char) : ∀ d ∈ ds.takeWhile Char.isDigit, d.isDigit = true :=
    List.all_eq_true.mp List.all_takeWhile
  have whole : ∀ d ∈ c :: cs.takeWhile Char.isDigit, d.isDigit = true :=
    List.forall_mem_cons.mpr ⟨digit, digits cs⟩
  have integer : cut c (cs.takeWhile Char.isDigit) = ⟨.integer, c :: cs.takeWhile Char.isDigit, []⟩ := by
    simpa using cut_digits whole stops_nil.endsNumber
  unfold cutNumber
  split
  · next d ds _ =>
    split
    · next digit' =>
      have all : ∀ e ∈ c :: cs.takeWhile Char.isDigit ++ d :: ds.takeWhile Char.isDigit,
          e.isDigit = true :=
        List.forall_mem_append.mpr ⟨whole, List.forall_mem_cons.mpr ⟨digit', digits ds⟩⟩
      exact ⟨c, _, rfl, by simpa using cut_decimal all (List.cons_ne_nil d _) stops_nil.endsNumber⟩
    · exact ⟨c, _, rfl, integer⟩
  · exact ⟨c, _, rfl, integer⟩

theorem isAlone_cutMark {plain withEqual : Mark} (same : cut c = cutMark c plain withEqual)
    (cs : List Char) : (cutMark c plain withEqual cs).IsAlone := by
  fun_cases cutMark c plain withEqual cs with
  | case1 cs => exact ⟨c, ['='], rfl, by rw [same]; rfl⟩
  | case2 cs other => exact ⟨c, [], rfl, by rw [same]; rfl⟩

/-- A name without a cluster is cut off whole when nothing is behind it. -/
theorem cutName_again_of_plain (cs : List Char) {date : List Char}
    (suffix : (dateSuffix (cs.dropWhile isNameContinue)).1 = date) :
    cutName c (cs.takeWhile isNameContinue ++ date) =
      ⟨if !date.isEmpty then .datedName else nameKind (c :: cs.takeWhile isNameContinue),
        c :: (cs.takeWhile isNameContinue ++ date), []⟩ := by
  have ends : ∀ e ∈ date.head?, isNameContinue e = false := fun e member =>
    not_continue_dropWhile cs e (head_dateSuffix _ e (suffix ▸ member))
  have again : dateSuffix date = (date, []) := suffix ▸ dateSuffix_again _
  have noCluster : clusterSuffix (c :: cs.takeWhile isNameContinue) date = ([], date) := by
    rcases clusterSuffix_cases (c :: cs.takeWhile isNameContinue) date with none | ⟨d, ds, rfl, -⟩
    · exact none
    · exact absurd rfl (ne_colon_of_mem_dateSuffix _ ':' (suffix ▸ List.mem_cons_self))
  simp [cutName, takeWhile_name ends cs, noCluster, again]

/-- Every name is cut off whole when nothing is behind it, but for one that ends in a stray star. -/
theorem isAlone_cutName (start : startsName (c :: cs) = true) :
    (cutName c cs).IsAlone ∨ (cutName c cs).lexeme.IsStrayStar := by
  rcases clusterSuffix_cases (c :: cs.takeWhile isNameContinue) (cs.dropWhile isNameContinue) with
    none | ⟨d, ds, behind, notAt, starts, found⟩
  · generalize suffix : (dateSuffix (cs.dropWhile isNameContinue)).1 = date
    have text : (cutName c cs).text = c :: (cs.takeWhile isNameContinue ++ date) := by
      simp [cutName, none, suffix]
    rcases startsName_takeWhile start date with first | ⟨rfl, ds, rfl⟩
    · refine .inl ⟨c, _, text, ?_⟩
      rw [cut_of_startsName first, cutName_again_of_plain cs suffix, text]
      simp [cutName, none, suffix]
    · right
      rw [cutName_at]
      exact .inl ⟨rfl, rfl⟩
  · generalize suffix : (dateSuffix (ds.dropWhile isNameContinue)).1 = date
    have text : (cutName c cs).text = c :: (cs.takeWhile isNameContinue ++
        ':' :: d :: (ds.takeWhile isNameContinue ++ date)) := by
      simp [cutName, found, suffix]
    have kind : (cutName c cs).kind = if !date.isEmpty then .datedName else .clusterName := by
      simp [cutName, found, suffix]
    rcases startsName_takeWhile starts date with starts | ⟨rfl, es, rfl⟩
    · refine .inl ⟨c, _, text, ?_⟩
      rw [cut_of_startsName (startsName_cluster start behind _), cutName_again cs notAt starts suffix,
        kind, text]
    · right
      have nothing : dateSuffix ('@' :: es) = ([], '@' :: es) := dateSuffix_of_ne (by simp)
      have stop : ('@' :: es).dropWhile isNameContinue = '@' :: es := rfl
      have short : ('@' :: es).takeWhile isNameContinue = [] := rfl
      rw [stop, nothing] at suffix
      subst suffix
      rw [short] at text
      exact .inr ⟨kind, c :: cs.takeWhile isNameContinue, by simpa [Cut.lexeme] using text.symm⟩

/-- A lexeme that the grammar reads is cut off whole when nothing is behind it, or is a stray star. -/
theorem isAlone_cut (c : Char) (cs : List Char) (significant : (cut c cs).lexeme.isSignificant = true) :
    (cut c cs).IsAlone ∨ (cut c cs).lexeme.IsStrayStar := by
  unfold cut at significant ⊢
  split
  · next blank =>
    rw [if_pos blank] at significant
    cases significant
  next notBlank =>
  rw [if_neg notBlank] at significant
  split
  · next m found => exact .inl ⟨c, [], rfl, cut_plainMark found []⟩
  next plain =>
  simp only [plain] at significant
  split
  · next same => exact same ▸ .inl (isAlone_cutMark rfl cs)
  next bang =>
  split
  · next same => exact same ▸ .inl (isAlone_cutMark rfl cs)
  next less =>
  split
  · next same => exact same ▸ .inl (isAlone_cutMark rfl cs)
  next greater =>
  rw [if_neg bang, if_neg less, if_neg greater] at significant
  split
  · next q found =>
    rw [char_of_ofChar? found]
    exact .inl ⟨q.char, (q.extent cs).1, rfl, by rw [cut_quote, extent_again]⟩
  next unquoted =>
  simp only [unquoted] at significant
  split
  · next digit => exact .inl (isAlone_cutNumber digit cs)
  next digitless =>
  split
  · next start => exact isAlone_cutName start
  next noName =>
  rw [if_neg digitless, if_neg noName] at significant
  split
  · next same =>
    rw [same]
    exact .inl ⟨'*', [], rfl, rfl⟩
  · next other =>
    rw [if_neg other] at significant
    cases significant

/-! A stray star needs the sign behind it. -/

/-- Only names are called names. -/
theorem startsName_of_kind
    (named : (cut c cs).kind = .identifier ∨ (cut c cs).kind = .clusterName) :
    startsName (c :: cs) = true := by
  have mark (plain withEqual : Mark) :
      ¬((cutMark c plain withEqual cs).kind = .identifier ∨
        (cutMark c plain withEqual cs).kind = .clusterName) := by
    fun_cases cutMark c plain withEqual cs <;> simp
  have number : ¬((cutNumber c cs).kind = .identifier ∨ (cutNumber c cs).kind = .clusterName) := by
    fun_cases cutNumber c cs <;> simp
  by_contra noName
  unfold cut at named
  split at named
  · simp at named
  split at named
  · simp at named
  split at named
  · exact mark _ _ named
  split at named
  · exact mark _ _ named
  split at named
  · exact mark _ _ named
  split at named
  · simp at named
  split at named
  · exact number named
  · split at named <;> simp at named

/-- A name of which only a star is left when nothing is behind it stands in front of `@`. -/
theorem exists_at_of_star {d : Char} {ds : List Char} (starts : startsName (d :: ds) = true)
    (star : d :: ds.takeWhile isNameContinue = ['*']) : ∃ es, ds = '@' :: es := by
  obtain ⟨rfl, none⟩ := List.cons.inj star
  rcases startsName_takeWhile starts [] with first | ⟨-, es, same⟩
  · rw [none] at first
    cases first
  · exact ⟨es, same⟩

/-- What comes behind the last colon is a star if the colon and a star come last. -/
theorem eq_star_of_suffix {cluster name : List Char} {d : Char} (colonless : ':' ∉ d :: name)
    (ends : [':', '*'] <:+ cluster ++ ':' :: d :: name) : d :: name = ['*'] := by
  cases name with
  | nil =>
    have last := List.suffix_of_suffix_length_le ends (List.suffix_append cluster [':', d])
      (Nat.le_refl 2)
    cases last.eq_of_length rfl
    rfl
  | cons e name =>
    have longer : d :: e :: name <:+ cluster ++ ':' :: d :: e :: name :=
      (List.suffix_cons ..).trans (List.suffix_append ..)
    have inside := List.suffix_of_suffix_length_le ends longer (by simp)
    exact absurd (inside.subset List.mem_cons_self) colonless

/-- A stray star stands in front of `@`. -/
theorem exists_at_of_isStrayStar (stray : (cut c cs).lexeme.IsStrayStar) :
    ∃ es, (cut c cs).rest = '@' :: es := by
  have start : startsName (c :: cs) = true :=
    startsName_of_kind (stray.imp And.left And.left)
  rw [cut_of_startsName start] at stray ⊢
  rcases stray with ⟨-, star⟩ | ⟨kind, ends⟩
  · have text : (cutName c cs).text = ['*'] := by
      simpa [Cut.lexeme] using congrArg String.toList star
    simp only [cutName, List.cons.injEq, List.append_assoc, List.append_eq_nil_iff] at text
    obtain ⟨rfl, none, -⟩ := text
    obtain ⟨es, rfl⟩ := exists_at_of_star start (by rw [none])
    exact ⟨es, by rw [cutName_at]⟩
  · rcases clusterSuffix_cases (c :: cs.takeWhile isNameContinue) (cs.dropWhile isNameContinue) with
      none | ⟨d, ds, -, -, starts, found⟩
    · simp only [Cut.lexeme, cutName, none, List.isEmpty_nil] at kind
      rcases nameKind_cases (c :: cs.takeWhile isNameContinue) with ⟨k, other, -⟩ | other <;>
        rw [other] at kind <;> split at kind <;> cases kind
    · have date : (dateSuffix (ds.dropWhile isNameContinue)).1 = [] := by
        by_contra date
        simp [Cut.lexeme, cutName, found, date] at kind
      have text : (cutName c cs).text =
          (c :: cs.takeWhile isNameContinue) ++ ':' :: d :: ds.takeWhile isNameContinue := by
        simp [cutName, found, date]
      have rest : (cutName c cs).rest = ds.dropWhile isNameContinue := by
        have whole := dateSuffix_append (ds.dropWhile isNameContinue)
        rw [date, List.nil_append] at whole
        simp [cutName, found, whole]
      have star : d :: ds.takeWhile isNameContinue = ['*'] := by
        rw [Cut.lexeme, String.toList_ofList, text] at ends
        exact eq_star_of_suffix (colonless_name starts) ends
      obtain ⟨es, rfl⟩ := exists_at_of_star starts star
      exact ⟨es, rest⟩

/-! Lexemes in front of blanks. -/

section Append

variable {rest : List Char}

theorem cutName_not_quoted (c : Char) (cs : List Char) : (cutName c cs).kind.isQuoted = false := by
  simp only [cutName]
  split
  · rfl
  split
  · rfl
  · rcases nameKind_cases (c :: cs.takeWhile isNameContinue) with ⟨k, kind, -⟩ | kind <;>
      rw [kind] <;> rfl

theorem exists_quote_of_isQuoted (quoted : (cut c cs).kind.isQuoted = true) :
    ∃ q, Quote.ofChar? c = some q := by
  have mark (plain withEqual : Mark) : (cutMark c plain withEqual cs).kind.isQuoted = false := by
    fun_cases cutMark c plain withEqual cs <;> rfl
  have number : (cutNumber c cs).kind.isQuoted = false := by
    fun_cases cutNumber c cs <;> rfl
  unfold cut at quoted
  split at quoted
  · cases quoted
  split at quoted
  · cases quoted
  split at quoted
  · simp [mark] at quoted
  split at quoted
  · simp [mark] at quoted
  split at quoted
  · simp [mark] at quoted
  split at quoted
  · next q found => exact ⟨q, found⟩
  split at quoted
  · simp [number] at quoted
  split at quoted
  · simp [cutName_not_quoted] at quoted
  split at quoted <;> cases quoted

/-- A quotation without an end is the last lexeme of its text. -/
theorem rest_of_open (unclosed : ¬(cut c cs).lexeme.IsClosed) : (cut c cs).rest = [] := by
  rw [Lexeme.IsClosed, Classical.not_imp] at unclosed
  obtain ⟨quoted, unclosed⟩ := unclosed
  obtain ⟨q, found⟩ := exists_quote_of_isQuoted quoted
  rw [char_of_ofChar? found, cut_quote] at unclosed ⊢
  rw [char_of_ofChar? found] at found
  exact extent_rest_of_open q cs (by simpa [unquote, Cut.lexeme, found] using unclosed)

/-- The text of a lexeme that the grammar reads is scanned as that lexeme in front of a text that it
    ends at, unless it is a stray star. -/
theorem lexemes_text_cut_append (significant : (cut c cs).lexeme.isSignificant = true)
    (plain : ¬(cut c cs).lexeme.IsStrayStar) (stops : Stops rest)
    (closed : ¬(cut c cs).lexeme.IsClosed → rest = []) :
    lexemes ((cut c cs).text ++ rest) = (cut c cs).lexeme :: lexemes rest := by
  have word : (cut c cs).kind ≠ .space := by
    intro space
    rw [Lexeme.isSignificant, Cut.lexeme, space] at significant
    cases significant
  obtain ⟨d, more, text, again⟩ := (isAlone_cut c cs significant).resolve_right plain
  have alone : lexemes (cut c cs).text = [(cut c cs).lexeme] := by
    rw [text, lexemes_of_cut again word, lexemes_nil]
    rfl
  by_cases ends : (cut c cs).lexeme.IsClosed
  · rw [lexemes_append stops (by rw [Closed, alone]; simpa using ends), alone, List.singleton_append]
  · rw [closed ends, List.append_nil, alone, lexemes_nil]

/-- A stray star is something else in front of a text that a lexeme ends at. -/
theorem head?_lexemes_of_isStrayStar (stray : (cut c cs).lexeme.IsStrayStar) (stops : Stops rest) :
    (lexemes ((cut c cs).text ++ rest)).head? ≠ some (cut c cs).lexeme := by
  intro same
  obtain ⟨more, text, -⟩ := cut_of c cs
  have start := startsName_of_kind (stray.imp And.left And.left)
  have word : (cut c (more ++ rest)).kind ≠ .space := by
    have blank : isBlank c = false := by
      by_contra blank
      have space := cut_blank (eq_true_of_ne_false blank) cs
      rw [cut_of_startsName start] at space
      exact (cutName_kind_ne c cs).1 (by rw [space])
    exact cut_kind_ne_space blank _
  rw [text, List.cons_append, lexemes_cons, if_neg word, List.head?_cons, Option.some.injEq] at same
  obtain ⟨es, behind⟩ := exists_at_of_isStrayStar (same ▸ stray)
  have whole := cut_text_append_rest c (more ++ rest)
  have texts : (cut c (more ++ rest)).text = c :: more := by
    rw [← text]
    exact String.ofList_injective (congrArg Lexeme.text same)
  rw [texts, behind, List.cons_append, List.cons.injEq, List.append_cancel_left_eq] at whole
  rw [← whole.2] at stops
  exact absurd (stops_cons.mp stops) (by decide)

end Append

end Scan

end PipedQuery
