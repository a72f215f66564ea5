import PipedQuery.Proofs.Command.Readable
import PipedQuery.Proofs.Grammar.ReadBack
import PipedQuery.Proofs.Grammar.Sources

/-!
# Reading stages back

The commands `search`, `describe`, `where`, `fields`, `rename`, `eval`, `sort` and `head` are read
back from the lexemes of their canonical texts.  A condition, an assigned value and the filter of a
search may be any lexemes that are read as an expression.
-/

namespace PipedQuery

open PipedQuery.Expr

variable {rest ts : List Lexeme} {names : List String}

/-- Whether the lexemes neither go on with a name nor with a list. -/
def EndsNames (rest : List Lexeme) : Prop :=
  firstKind rest ≠ some (.mark .dot) ∧ firstKind rest ≠ some (.mark .comma)

theorem endsNames_nil : EndsNames [] := by simp [EndsNames]

namespace Parser

/-- A clause that is needed is there if anything is. -/
theorem need_run (clause : Clause) (nonempty : ts ≠ []) : need clause ts = ⟨.ok (), ts, []⟩ := by
  cases ts with
  | nil => exact absurd rfl nonempty
  | cons l ts => simp [need]

/-- A name reads back if no dot continues it. -/
theorem fieldName_run (name : String) (rest : List Lexeme)
    (ends : firstKind rest ≠ some (.mark .dot)) :
    fieldName (nameLexemes name ++ rest) = ⟨.ok name, rest, []⟩ :=
  qualifiedName_nameLexemes false name ends

/-- A list of names reads back in front of what ends it. -/
theorem fieldNames_run (names : List String) (nonempty : names ≠ []) (ends : EndsNames rest) :
    lenientList fieldName (fieldLexemes names ++ rest) = ⟨.ok names, rest, []⟩ := by
  cases names with
  | nil => exact absurd rfl nonempty
  | cons name names =>
    refine lenientList_run (.of_forall fun a _ more behind => ?_) ends.2
    rcases behind with rfl | comma
    · exact fieldName_run a _ ends.1
    · exact fieldName_run a _ (by simp [comma])

/-! Expressions. -/

/-- A whole expression reads back in front of what closes it. -/
theorem expression_run_whole {e : Expr} (whole : e.IsWhole) (rest : List Lexeme) (closes : Closes rest)
    (other : Follow.ofKind (firstKind rest) = .other) :
    Grammar.full.expression (e.lexemes ++ rest) = ⟨.ok e, rest, []⟩ :=
  whole.1.readsBack.whole rest whole.2 closes other

/-- A whole expression reads back at the end of a stage. -/
theorem expression_of_isWhole {e : Expr} (whole : e.IsWhole) :
    Grammar.full.expression e.lexemes = ⟨.ok e, [], []⟩ := by
  have read := expression_run_whole whole [] (by simp [Closes]) rfl
  rwa [List.append_nil] at read

section Whole

variable {e : Expr} (whole : Grammar.full.expression ts = ⟨.ok e, [], []⟩)
include whole

theorem ne_nil_of_expression : ts ≠ [] := by
  rintro rfl
  have consumed := (Grammar.consumes_level maxNesting).expression.shorter [] e
    (congrArg Outcome.result whole) trivial
  exact Nat.not_lt_zero _ consumed

/-- No list and no name goes on with the start of an expression. -/
theorem endsNames_of_expression : EndsNames ts := by
  have given := congrArg Outcome.result whole
  constructor <;> intro kind <;>
    exact Grammar.result_expression_ne_ok (by simp [primaryForm, kind]) (by simp [kind])
      (by simp [kind]) maxNesting e given

end Whole

/-! Stages. -/

/-- The sources of a search are read back. -/
theorem sources_run {sources : List DataSource} (nonempty : sources ≠ [])
    (readable : ∀ s ∈ sources, s.IsReadable) (ends : EndsNames rest) :
    lenientList dataSource (commaLexemes (sources.map DataSource.lexemes) ++ rest) =
      ⟨.ok sources, rest, []⟩ := by
  cases sources with
  | nil => exact absurd rfl nonempty
  | cons s sources =>
    refine lenientList_run (.of_forall fun s' member more behind => ?_) ends.2
    rcases behind with rfl | comma
    · exact dataSource_lexemes (readable s' member) _ ends.1
    · exact dataSource_lexemes (readable s' member) _ (by simp [comma])

/-- A source clause reads back. -/
theorem sourceClause_run {sources : List DataSource} (nonempty : sources ≠ [])
    (readable : ∀ s ∈ sources, s.IsReadable) (rest : List Lexeme) (ends : EndsNames rest) :
    sourceClause (Keyword.source.lexeme :: .mark .equal ::
      (commaLexemes (sources.map DataSource.lexemes) ++ rest)) = ⟨.ok sources, rest, []⟩ := by
  simp only [sourceClause, bind_run, skip_run, List.drop_one, List.tail_cons, Outcome.bind_ok,
    Outcome.after_nil, expectMark, expect_of_eq _ (Lexeme.mark_kind _),
    sources_run nonempty readable ends]

theorem startsSourceClause_source (rest : List Lexeme) :
    startsSourceClause (Keyword.source.lexeme :: .mark .equal :: rest) = true := by
  simp [startsSourceClause, startsOption]

/-- Behind its sources a search may have an expression as its filter. -/
theorem searchBody_of_sources {e : Expr} (whole : Grammar.full.expression ts = ⟨.ok e, [], []⟩)
    {sources : List DataSource} (nonempty : sources ≠ [])
    (readable : ∀ s ∈ sources, s.IsReadable) :
    searchBody Grammar.full (Keyword.source.lexeme :: .mark .equal ::
      (commaLexemes (sources.map DataSource.lexemes) ++ ts)) =
        ⟨.ok (.search ⟨sources, some e⟩), [], []⟩ := by
  have clause := sourceClause_run nonempty readable ts (endsNames_of_expression whole)
  have more : ts.isEmpty = false := by simpa using ne_nil_of_expression whole
  simp only [searchBody, bind_run, lexemes_run, Outcome.bind_ok, startsSourceClause_source, if_true,
    clause, Outcome.after_nil, atEnd_run, more, Bool.false_eq_true, if_false, whole]
  rfl

/-- A search is read back behind its keyword. -/
theorem searchBody_run {s : Search} (nonempty : s.sources ≠ [])
    (readable : ∀ source ∈ s.sources, source.IsReadable) (filter : ∀ e ∈ s.filter, e.IsWhole) :
    searchBody Grammar.full (Keyword.source.lexeme :: .mark .equal ::
      (commaLexemes (s.sources.map DataSource.lexemes) ++ optionalLexemes Expr.lexemes s.filter)) =
        ⟨.ok (.search s), [], []⟩ := by
  obtain ⟨sources, condition⟩ := s
  cases condition with
  | none =>
    have clause := sourceClause_run nonempty readable [] endsNames_nil
    simp only [searchBody, optionalLexemes, bind_run, lexemes_run, Outcome.bind_ok,
      startsSourceClause_source, if_true, clause, Outcome.after_nil, atEnd_run]
    rfl
  | some e =>
    exact searchBody_of_sources (expression_of_isWhole (filter e rfl)) nonempty readable

/-- A stage that reads a list behind its keyword. -/
theorem lenientList_lexemes {α : Type} {item : StageParser α} {lex : α → List Lexeme} {items : List α}
    (nonempty : items ≠ [])
    (reads : ∀ a ∈ items, ∀ more, more = [] ∨ firstKind more = some (.mark .comma) →
      item (lex a ++ more) = ⟨.ok a, more, []⟩) :
    lenientList item (commaLexemes (items.map lex)) = ⟨.ok items, [], []⟩ := by
  cases items with
  | nil => exact absurd rfl nonempty
  | cons a items =>
    rw [← List.append_nil (commaLexemes _)]
    exact lenientList_run (.of_forall reads) (by simp)

theorem commaLexemes_ne_nil {α : Type} {lex : α → List Lexeme} {items : List α}
    (nonempty : items ≠ []) (written : ∀ a ∈ items, lex a ≠ []) : commaLexemes (items.map lex) ≠ [] := by
  cases items with
  | nil => exact absurd rfl nonempty
  | cons a items =>
    rw [List.map_cons, commaLexemes_cons]
    exact List.append_ne_nil_of_left_ne_nil (written a (by simp)) _

theorem nameLexemes_ne_nil (name : String) : nameLexemes name ≠ [] := by
  obtain ⟨l, ls, found, -⟩ := exists_nameLexemes name
  simp [found]

theorem nameLexemes_ne (name : String) (ts : List Lexeme) {kind : TokenKind}
    (other : kind ≠ .identifier ∧ (∀ k, kind ≠ .keyword k) ∧ kind ≠ .quoted .backtick) :
    firstKind (nameLexemes name ++ ts) ≠ some kind := by
  obtain ⟨l, ls, found, start, -⟩ := exists_nameLexemes name
  rw [found]
  rintro ⟨⟩
  rcases start with kind | ⟨k, kind⟩ | kind
  · exact other.1 kind
  · exact other.2.1 k kind
  · exact other.2.2 kind

theorem fieldLexemes_ne (nonempty : names ≠ []) (ts : List Lexeme) {kind : TokenKind}
    (other : kind ≠ .identifier ∧ (∀ k, kind ≠ .keyword k) ∧ kind ≠ .quoted .backtick) :
    firstKind (fieldLexemes names ++ ts) ≠ some kind := by
  cases names with
  | nil => exact absurd rfl nonempty
  | cons name names =>
    rw [fieldLexemes, List.map_cons, commaLexemes_cons, List.append_assoc]
    exact nameLexemes_ne name _ other

theorem fieldLexemes_ne_nil (nonempty : names ≠ []) : fieldLexemes names ≠ [] :=
  commaLexemes_ne_nil nonempty fun name _ => nameLexemes_ne_nil name

/-- `describe` reads back. -/
theorem describe_run {s : DataSource} (readable : s.IsReadable) (written : s.lexemes ≠ []) :
    describe (Keyword.describe.lexeme :: s.lexemes) = ⟨.ok (.describe s), [], []⟩ := by
  have source := dataSource_lexemes readable [] (by simp)
  rw [List.append_nil] at source
  simp [describe, need_run _ written, source]

theorem showDatasources_run :
    showDatasources [Keyword.show_.lexeme, Keyword.datasources.lexeme] =
      ⟨.ok .showDatasources, [], []⟩ := by
  simp [showDatasources, expectKeyword, expect_of_eq _ (Keyword.lexeme_kind _)]

/-- A condition may be any lexemes that are an expression. -/
theorem filter_of_expression {e : Expr} (whole : Grammar.full.expression ts = ⟨.ok e, [], []⟩) :
    filter Grammar.full (Keyword.where_.lexeme :: ts) = ⟨.ok (.filter e), [], []⟩ := by
  simp [filter, need_run _ (ne_nil_of_expression whole), whole]

/-- A condition that is all of the first stage. -/
theorem command_where {e : Expr} (whole : Grammar.full.expression ts = ⟨.ok e, [], []⟩) :
    command Grammar.full true (Keyword.where_.lexeme :: ts) = ⟨.ok (.filter e), [], []⟩ :=
  filter_of_expression whole

/-- `fields` reads back, with or without its minus sign. -/
theorem fields_run (exclude : Bool) (names_readable : AreFields names) :
    fields (Keyword.fields.lexeme ::
      ((if exclude then [.mark .minus] else []) ++ fieldLexemes names)) =
        ⟨.ok (.fields exclude names), [], []⟩ := by
  obtain ⟨nonempty, -⟩ := names_readable
  have list := fieldNames_run names nonempty endsNames_nil
  rw [List.append_nil] at list
  have written := fieldLexemes_ne_nil nonempty
  have noSign (m : Mark) : firstKind (fieldLexemes names) ≠ some (.mark m) := by
    rw [← List.append_nil (fieldLexemes names)]
    exact fieldLexemes_ne nonempty [] (by simp)
  cases exclude with
  | true => simp [fields, eatMark, eat_of_eq _ (Lexeme.mark_kind _), need_run _ written, list]
  | false => simp [fields, eatMark, eat_of_ne (noSign _), need_run _ written, list]

theorem renamePair_run (r : Renaming) (ends : firstKind rest ≠ some (.mark .dot)) :
    renamePair (r.lexemes ++ rest) = ⟨.ok r, rest, []⟩ := by
  have old := fieldName_run r.old (Keyword.as_.lexeme :: (nameLexemes r.new ++ rest)) (by simp)
  simp [renamePair, Renaming.lexemes, old, expectKeyword, expect_of_eq _ (Keyword.lexeme_kind _),
    fieldName_run r.new rest ends]

/-- `rename` reads back. -/
theorem rename_run {renamings : List Renaming} (nonempty : renamings ≠ []) :
    rename (Keyword.rename.lexeme :: commaLexemes (renamings.map Renaming.lexemes)) =
      ⟨.ok (.rename renamings), [], []⟩ := by
  have list : lenientList renamePair (commaLexemes (renamings.map Renaming.lexemes)) =
      ⟨.ok renamings, [], []⟩ := by
    refine lenientList_lexemes nonempty fun r _ more behind => renamePair_run r ?_
    rcases behind with rfl | comma <;> simp [*]
  have written : commaLexemes (renamings.map Renaming.lexemes) ≠ [] :=
    commaLexemes_ne_nil nonempty fun r _ => by simp [Renaming.lexemes]
  simp [rename, need_run _ written, list]

/-- An assignment gives its field the expression behind the `=`. -/
theorem assignment_of_expression {e : Expr} (field : String)
    (value : Grammar.full.expression ts = ⟨.ok e, rest, []⟩) :
    assignment Grammar.full (nameLexemes field ++ .mark .equal :: ts) =
      ⟨.ok ⟨field, e⟩, rest, []⟩ := by
  have name := fieldName_run field (.mark .equal :: ts) (by simp)
  simp [assignment, name, expectMark, expect_of_eq _ (Lexeme.mark_kind _), value]

theorem assignment_run {a : Assignment} (value : a.value.IsWhole) (closes : Closes rest)
    (other : Follow.ofKind (firstKind rest) = .other) :
    assignment Grammar.full (a.lexemes ++ rest) = ⟨.ok a, rest, []⟩ := by
  have read := expression_run_whole value rest closes other
  simpa [Assignment.lexemes] using assignment_of_expression a.field read

/-- `eval` reads back. -/
theorem eval_run {assignments : List Assignment} (nonempty : assignments ≠ [])
    (readable : ∀ a ∈ assignments, a.value.IsWhole) :
    eval Grammar.full (Keyword.eval.lexeme :: commaLexemes (assignments.map Assignment.lexemes)) =
      ⟨.ok (.eval assignments), [], []⟩ := by
  have list : lenientList (assignment Grammar.full)
      (commaLexemes (assignments.map Assignment.lexemes)) = ⟨.ok assignments, [], []⟩ := by
    refine lenientList_lexemes nonempty fun a member more behind => ?_
    rcases behind with rfl | comma
    · exact assignment_run (readable a member) (by simp [Closes]) rfl
    · cases more with
      | nil => simp at comma
      | cons l more =>
        have kind : l.kind = .mark .comma := by simpa using comma
        refine assignment_run (readable a member) ?_ ?_
        · rintro l' ⟨⟩
          exact .inr (.inl kind)
        · simpa [kind] using Follow.ofKind_mark (.inr rfl)
  have written : commaLexemes (assignments.map Assignment.lexemes) ≠ [] :=
    commaLexemes_ne_nil nonempty fun a _ => by simp [Assignment.lexemes]
  simp [eval, need_run _ written, list]

theorem SortCast.ofKeyword?_keyword (cast : SortCast) :
    SortCast.ofKeyword? cast.keyword = some cast := by
  cases cast <;> rfl

/-- A name is not a cast unless a parenthesis follows it. -/
theorem startsSortCast?_name (name : String) (ends : firstKind rest ≠ some (.mark .lParen)) :
    startsSortCast? (nameLexemes name ++ rest) = none := by
  obtain ⟨l, ls, found, -, dot⟩ := exists_nameLexemes name
  have noParen : secondKind (nameLexemes name ++ rest) ≠ some (.mark .lParen) := by
    rw [found]
    cases ls with
    | nil => simpa using ends
    | cons l' ls => simp [dot l' rfl]
  simp [startsSortCast?, noParen]

/-- A sort key is read back in front of a comma and at the end of the stage. -/
theorem sortKey_run (k : SortKey) (ends : rest = [] ∨ firstKind rest = some (.mark .comma)) :
    sortKey (k.lexemes ++ rest) = ⟨.ok k, rest, []⟩ := by
  obtain ⟨field, direction, cast⟩ := k
  have other : ∀ kind, kind ≠ .mark .comma → firstKind rest ≠ some kind := by
    rintro kind different
    rcases ends with rfl | comma
    · simp
    · simpa [comma] using fun same => different same.symm
  have noWord (k : Keyword) : firstKind rest ≠ some (.keyword k) := other _ (by simp)
  cases cast with
  | none =>
    have name := fieldName_run field rest (other _ (by simp))
    have noCast := startsSortCast?_name field (other _ (by simp))
    have noSign (m : Mark) : firstKind (nameLexemes field ++ rest) ≠ some (.mark m) :=
      nameLexemes_ne field rest (by simp)
    cases direction <;>
      simp [sortKey, SortKey.lexemes, eatMark, eat_of_ne (noSign _), eat_of_eq _ (Lexeme.mark_kind _),
        noCast, name, eatKeyword, eat_of_ne (noWord _)]
  | some cast =>
    have name := fieldName_run field (.mark .rParen :: rest) (by simp)
    have hint (ts : List Lexeme) :
        startsSortCast? (cast.keyword.lexeme :: .mark .lParen :: ts) = some cast := by
      simp [startsSortCast?, TokenKind.keyword?, SortCast.ofKeyword?_keyword]
    have noSign (ts : List Lexeme) (m : Mark) :
        firstKind (cast.keyword.lexeme :: ts) ≠ some (.mark m) := by simp
    cases direction <;>
      simp [sortKey, SortKey.lexemes, eatMark, eat_of_ne (noSign _ _),
        eat_of_eq _ (Lexeme.mark_kind _), hint, name, expectMark, expect_of_eq _ (Lexeme.mark_kind _),
        eatKeyword, eat_of_ne (noWord _)]

/-- `sort` reads back. -/
theorem sort_run {keys : List SortKey} (nonempty : keys ≠ []) :
    sort (Keyword.sort.lexeme :: commaLexemes (keys.map SortKey.lexemes)) =
      ⟨.ok (.sort keys), [], []⟩ := by
  have list : lenientList sortKey (commaLexemes (keys.map SortKey.lexemes)) = ⟨.ok keys, [], []⟩ :=
    lenientList_lexemes nonempty fun k _ more behind => sortKey_run k behind
  have written : commaLexemes (keys.map SortKey.lexemes) ≠ [] :=
    commaLexemes_ne_nil nonempty fun k _ => by
      obtain ⟨field, direction, cast⟩ := k
      cases cast <;> simp [SortKey.lexemes, nameLexemes_ne_nil]
  simp [sort, need_run _ written, list]

theorem integer_run {n : Int} (count : IsCount n) (ts : List Lexeme) :
    integer ((Literal.int n).lexemes ++ ts) = ⟨.ok n, ts, []⟩ := by
  obtain ⟨positive, small⟩ := count
  obtain ⟨m, rfl⟩ := Int.eq_ofNat_of_zero_le positive
  have value : digitsValue (Lexeme.integer m).text = m := digitsValue_toString m
  have small : m ≤ maxInt := small
  rw [Literal.lexemes_of_nonneg positive]
  simp [integer, value, small]

/-- An integer that may be left out, in front of something else. -/
theorem integer?_run {o : Option Int} (count : ∀ n ∈ o, IsCount n) (rest : List Lexeme)
    (ends : firstKind rest ≠ some .integer) :
    integer? (optionalLexemes (fun n => (Literal.int n).lexemes) o ++ rest) = ⟨.ok o, rest, []⟩ := by
  cases o with
  | none => simp [integer?, ends]
  | some n =>
    have found := integer_run (count n rfl) rest
    rw [Literal.lexemes_of_nonneg (count n rfl).1, List.singleton_append] at found
    simp [integer?, Literal.lexemes_of_nonneg (count n rfl).1, found]

/-- `head` reads back, whichever of its numbers are given. -/
theorem head_run {h : Head} (size : ∀ n ∈ h.size, IsCount n) (offset : ∀ n ∈ h.offset, IsCount n) :
    head h.lexemes = ⟨.ok (.head h), [], []⟩ := by
  obtain ⟨size', offset'⟩ := h
  have other (k : Keyword) : firstKind [] ≠ some (.keyword k) := by simp
  cases offset' with
  | none =>
    have count := integer?_run size [] (by simp)
    rw [List.append_nil] at count
    simp [head, Head.lexemes, count, eatKeyword, eat_of_ne (other _)]
  | some n =>
    have count := integer?_run size (Keyword.from_.lexeme :: (Literal.int n).lexemes) (by simp)
    have skipped := integer_run (offset n rfl) []
    rw [List.append_nil] at skipped
    simp [head, Head.lexemes, count, eatKeyword, eat_of_eq _ (Keyword.lexeme_kind _), skipped]

end Parser

end PipedQuery
