import PipedQuery.Proofs.Grammar.Stages

/-!
# Reading aggregating stages back

The commands `stats`, `dedup`, `top` and `rare` are read back from the lexemes of their canonical
texts.
-/

namespace PipedQuery

open PipedQuery.Expr

variable {rest ts : List Lexeme} {names : List String}

/-- Whether an alias may end at the lexemes. -/
def EndsAlias (rest : List Lexeme) : Prop :=
  firstKind rest ≠ some (.mark .dot) ∧ firstKind rest ≠ some (.keyword .as_)

namespace Parser

theorem alias?_run (column : Option String) (ends : EndsAlias rest) :
    alias? (aliasLexemes column ++ rest) = ⟨.ok column, rest, []⟩ := by
  cases column with
  | none => simp [alias?, aliasLexemes, eatKeyword, eat_of_ne ends.2]
  | some name =>
    simp [alias?, aliasLexemes, eatKeyword, eat_of_eq _ (Keyword.lexeme_kind _),
      fieldName_run name rest ends.1]

theorem aggregation_of_call {k : Keyword} {e : Expr} {more : List Lexeme} {column : Option String}
    (function : k.family? = some .aggregate)
    (found : call Grammar.full.expression Grammar.full.additive k .aggregate
      (k.lexeme :: .mark .lParen :: ts) = ⟨.ok e, more, []⟩)
    (named : alias? more = ⟨.ok column, rest, []⟩) :
    aggregation Grammar.full (k.lexeme :: .mark .lParen :: ts) = ⟨.ok ⟨e, column⟩, rest, []⟩ := by
  unfold aggregation
  rw [bind_run, lexemes_run, Outcome.bind_ok, Outcome.after_nil]
  simp only [Keyword.lexeme] at found ⊢
  simp [function, found, named]

/-- An aggregation is read back with its alias. -/
theorem aggregation_run {a : Aggregation} (readable : a.IsReadable) (ends : EndsAlias rest) :
    aggregation Grammar.full (a.lexemes ++ rest) = ⟨.ok a, rest, []⟩ := by
  obtain ⟨function, column⟩ := a
  obtain ⟨⟨name, args, rfl⟩, readable, low, -⟩ := readable
  cases readable with
  | @call _ _ _ _ k function notCast accepted _ args_readable _ _ =>
    have low : ∀ e ∈ args, e.levels ≤ maxNesting :=
      listLevels_le.mp (by simpa [levels] using low)
    have notExtract : k ≠ .extract := by
      rintro rfl
      cases function
    have notPosition : k ≠ .position := by
      rintro rfl
      cases function
    have arguments := arguments_run (fun e member => (args_readable e member).readsBack.starts)
      (fun e member => (args_readable e member).readsBack.readsArgument (low e member))
      (aliasLexemes column ++ rest)
    have found : callArguments Grammar.full.expression Grammar.full.additive k .aggregate
        (.mark .lParen :: (commaLexemes (args.map Expr.lexemes) ++
          .mark .rParen :: (aliasLexemes column ++ rest))) =
          ⟨.ok (args, []), .mark .rParen :: (aliasLexemes column ++ rest), []⟩ :=
      callArguments_of_arguments notExtract notPosition (by simp) arguments
    have whole := aggregation_of_call function (call_run k.lexeme accepted found)
      (alias?_run column ends)
    rw [Aggregation.lexemes, Expr.lexemes_call, Lexeme.word_lowercase]
    simpa using whole

/-- The unit of a bucket is read back in front of the closing parenthesis. -/
theorem bucketUnit?_run {unit : Option Keyword} (isUnit : ∀ k ∈ unit, k.isSpanUnit = true)
    (ts : List Lexeme) :
    bucketUnit? (optionalLexemes (fun k => [k.lexeme]) unit ++ .mark .rParen :: ts) =
      ⟨.ok unit, .mark .rParen :: ts, []⟩ := by
  cases unit with
  | none => simp [bucketUnit?]
  | some k => simp [bucketUnit?, isUnit k rfl]

theorem plainNumber_of_literal {l : Lexeme} {value : Literal} (isNumber : l.kind.isNumber = true)
    (found : numberLiteral? l = some value) (what : Expected) (ts : List Lexeme) :
    plainNumber what (l :: ts) = ⟨.ok value, ts, []⟩ := by
  simp [plainNumber, isNumber, number, found]

theorem plainNumber_run {value : Literal} (isNumeric : value.isNumeric = true)
    (unsigned : value.IsUnsigned) (what : Expected) (ts : List Lexeme) :
    plainNumber what (value.lexemes ++ ts) = ⟨.ok value, ts, []⟩ := by
  cases value with
  | int n =>
    obtain ⟨positive, small⟩ := unsigned
    rw [Literal.lexemes_of_nonneg positive, List.singleton_append,
      plainNumber_of_literal rfl (numberLiteral?_integer small)]
    obtain ⟨m, rfl⟩ := Int.eq_ofNat_of_zero_le positive
    rfl
  | decimal d =>
    obtain ⟨negative, mantissa, scale⟩ := d
    obtain ⟨rfl, constant⟩ : negative = false ∧ _ := unsigned
    exact plainNumber_of_literal (Decimal.lexeme_isNumber _) (numberLiteral?_decimal constant) what ts
  | str s => cases isNumeric
  | bool b => cases isNumeric
  | date kind s => cases isNumeric

/-- A bucket is read back. -/
theorem bucket_run {b : Bucket} (readable : b.IsReadable) (rest : List Lexeme) (ends : EndsAlias rest) :
    bucket (b.lexemes ++ rest) = ⟨.ok b, rest, []⟩ := by
  obtain ⟨field, value, unit, column⟩ := b
  obtain ⟨-, isNumeric, unsigned, isUnit, -⟩ := readable
  have name (ts : List Lexeme) := fieldName_run field (.mark .comma :: ts) (by simp)
  simp [bucket, Bucket.lexemes, expectMark, expect_of_eq _ (Lexeme.mark_kind _), name,
    plainNumber_run isNumeric unsigned, bucketUnit?_run isUnit, alias?_run column ends]

/-- What may come behind the groups of `stats`: nothing but an option. -/
def EndsGroups (rest : List Lexeme) : Prop :=
  rest = [] ∨ firstKind rest = some (.keyword .dedupSplitvalues)

theorem EndsGroups.ne {rest : List Lexeme} (ends : EndsGroups rest) (kind : TokenKind)
    (other : kind ≠ .keyword .dedupSplitvalues) : firstKind rest ≠ some kind := by
  rcases ends with rfl | option
  · simp
  · simpa [option] using other.symm

theorem EndsGroups.endsNames {rest : List Lexeme} (ends : EndsGroups rest) : EndsNames rest :=
  ⟨ends.ne _ (by simp), ends.ne _ (by simp)⟩

theorem startsBucket_fields (names : List String) (nonempty : names ≠ []) (ends : EndsGroups rest) :
    startsBucket (fieldLexemes names ++ rest) = false := by
  cases names with
  | nil => exact absurd rfl nonempty
  | cons name names =>
    obtain ⟨l, ls, found, -, dot⟩ := exists_nameLexemes name
    have noParen : secondKind (fieldLexemes (name :: names) ++ rest) ≠ some (.mark .lParen) := by
      rw [fieldLexemes, List.map_cons, commaLexemes_cons, found]
      cases ls with
      | cons l' ls => simp [dot l' rfl]
      | nil =>
        cases names with
        | nil => simpa using ends.ne _ (by simp)
        | cons name' names => simp
    simp [startsBucket, noParen]

/-- What is grouped by is read back with its `by`. -/
theorem grouping_run {s : Stats} (readable : s.IsReadable) (ends : EndsGroups rest) :
    grouping (s.groupLexemes ++ rest) = ⟨.ok (s.span, s.groupBy), rest, []⟩ := by
  have span := readable.span
  have starts (b : Bucket) (ts : List Lexeme) : startsBucket (b.lexemes ++ ts) = true := by
    simp [startsBucket, Bucket.lexemes]
  unfold Stats.groupLexemes
  cases found : s.span with
  | none =>
    cases names : s.groupBy with
    | nil => simp [grouping, byLexemes, eatKeyword, eat_of_ne (ends.ne (.keyword .by_) (by simp))]
    | cons name more =>
      have list := fieldNames_run (name :: more) (by simp) ends.endsNames
      have noBucket := startsBucket_fields (name :: more) (by simp) ends
      simp [grouping, byLexemes, eatKeyword, eat_of_eq _ (Keyword.lexeme_kind _), noBucket, list]
  | some b =>
    cases names : s.groupBy with
    | nil =>
      have here := bucket_run (span b found) rest ⟨ends.ne _ (by simp), ends.ne _ (by simp)⟩
      simp [grouping, eatKeyword, eat_of_eq _ (Keyword.lexeme_kind _), starts, here, eatMark,
        eat_of_ne (ends.ne (.mark .comma) (by simp))]
    | cons name more =>
      have list := fieldNames_run (name :: more) (by simp) ends.endsNames
      have here := bucket_run (span b found)
        (.mark .comma :: (fieldLexemes (name :: more) ++ rest)) (by simp [EndsAlias])
      simp [grouping, eatKeyword, eat_of_eq _ (Keyword.lexeme_kind _), starts, here, eatMark,
        eat_of_eq _ (Lexeme.mark_kind _), list]

theorem boolean_run (b : Bool) (ts : List Lexeme) :
    boolean ((Literal.bool b).lexemes ++ ts) = ⟨.ok b, ts, []⟩ := by
  cases b with
  | true => simp [boolean, Literal.lexemes, boolKeyword, eatKeyword, eat_of_eq _ (Keyword.lexeme_kind _)]
  | false =>
    have noTrue : firstKind (Keyword.false_.lexeme :: ts) ≠ some (.keyword .true_) := by simp
    simp [boolean, Literal.lexemes, boolKeyword, eatKeyword, eat_of_ne noTrue,
      eat_of_eq _ (Keyword.lexeme_kind _)]

section Options

variable {σ α : Type} {step : σ → StageParser (Option σ)} {k : Keyword}

@[simp] theorem startsOption_option (k k' : Keyword) (value : Literal) (ts : List Lexeme) :
    startsOption k (optionLexemes k' value ++ ts) = decide (k' = k) := by
  by_cases same : k' = k <;> simp [startsOption, optionLexemes, same]

@[simp] theorem drop_option (k : Keyword) (value : Literal) (ts : List Lexeme) :
    (optionLexemes k value ++ ts).drop 2 = value.lexemes ++ ts := rfl

theorem length_lt_option (value : Literal) :
    rest.length < (optionLexemes k value ++ rest).length := by
  simp only [optionLexemes, List.length_append, List.length_cons]
  omega

theorem startsOption_of_ne (h : secondKind ts ≠ some (.mark .equal)) (k : Keyword) :
    startsOption k ts = false := by
  simp [startsOption, h]

/-- A loop over options takes in one that may be left out. -/
theorem iterate_optional (next : Option α → σ) {value : α → Literal} {o : Option α}
    (taken : ∀ a ∈ o, step (next none) (optionLexemes k (value a) ++ rest) =
      ⟨.ok (some (next (some a))), rest, []⟩) :
    iterate step (next none) (optionalLexemes (fun a => optionLexemes k (value a)) o ++ rest) =
      iterate step (next o) rest := by
  cases o with
  | none => rfl
  | some a =>
    rw [optionalLexemes_some, iterate_of_some (taken a rfl) (length_lt_option (value a)),
      Outcome.after_nil]

end Options

section Stats

variable (s : Stats)

theorem statsOption?_partitions {n : Int} (count : IsCount n) (ts : List Lexeme) :
    statsOption? s (optionLexemes .partitions (.int n) ++ ts) =
      ⟨.ok (some { s with partitions := some n }), ts, []⟩ := by
  simp [statsOption?, integer_run count]

theorem statsOption?_allNum (b : Bool) (ts : List Lexeme) :
    statsOption? s (optionLexemes .allnum (.bool b) ++ ts) =
      ⟨.ok (some { s with allNum := some b }), ts, []⟩ := by
  simp [statsOption?, boolean_run]

theorem statsOption?_delimiter (d : String) (ts : List Lexeme) :
    statsOption? s (optionLexemes .delim (.str d) ++ ts) =
      ⟨.ok (some { s with delimiter := some d }), ts, []⟩ := by
  have value : string ((Literal.str d).lexemes ++ ts) = ⟨.ok d, ts, []⟩ := string_string d ts
  simp [statsOption?, value]

theorem statsOption?_of_ne (h : secondKind ts ≠ some (.mark .equal)) :
    statsOption? s ts = ⟨.ok none, ts, []⟩ := by
  simp [statsOption?, startsOption_of_ne h]

/-- The loop over the options reads those in front of the aggregations. -/
theorem iterate_statsOption? (partitions : ∀ n ∈ s.partitions, IsCount n)
    (ends : secondKind ts ≠ some (.mark .equal)) :
    iterate statsOption? ⟨none, none, none, [], none, [], none⟩
        (optionalLexemes (fun n => optionLexemes .partitions (.int n)) s.partitions ++
          (optionalLexemes (fun b => optionLexemes .allnum (.bool b)) s.allNum ++
            (optionalLexemes (fun d => optionLexemes .delim (.str d)) s.delimiter ++ ts))) =
      ⟨.ok ⟨s.partitions, s.allNum, s.delimiter, [], none, [], none⟩, ts, []⟩ := by
  rw [iterate_optional (fun o => (⟨o, none, none, [], none, [], none⟩ : Stats)) fun n found =>
      statsOption?_partitions _ (partitions n found) _,
    iterate_optional (fun o => (⟨s.partitions, o, none, [], none, [], none⟩ : Stats)) fun b _ =>
      statsOption?_allNum _ b _,
    iterate_optional (fun o => (⟨s.partitions, s.allNum, o, [], none, [], none⟩ : Stats)) fun d _ =>
      statsOption?_delimiter _ d _,
    iterate_of_none (statsOption?_of_ne _ ends)]

theorem secondKind_aggregation {a : Aggregation} (readable : a.IsReadable) (ts : List Lexeme) :
    secondKind (a.lexemes ++ ts) = some (.mark .lParen) := by
  obtain ⟨function, column⟩ := a
  obtain ⟨⟨name, args, rfl⟩, -⟩ := readable
  simp [Aggregation.lexemes, Expr.lexemes]

/-- Aggregations are read back in front of what is grouped by. -/
theorem aggregations_run {aggregations : List Aggregation} (nonempty : aggregations ≠ [])
    (readable : ∀ a ∈ aggregations, a.IsReadable) (ends : EndsNames rest)
    (noAlias : firstKind rest ≠ some (.keyword .as_)) :
    lenientList (aggregation Grammar.full)
        (commaLexemes (aggregations.map Aggregation.lexemes) ++ rest) =
      ⟨.ok aggregations, rest, []⟩ := by
  cases aggregations with
  | nil => exact absurd rfl nonempty
  | cons a aggregations =>
    refine lenientList_run (.of_forall fun a' member more behind => ?_) ends.2
    rcases behind with rfl | comma
    · exact aggregation_run (readable a' member) ⟨ends.1, noAlias⟩
    · exact aggregation_run (readable a' member) (by simp [EndsAlias, comma])

theorem endsGroups_option (o : Option Bool) :
    EndsGroups (optionalLexemes (fun b => optionLexemes .dedupSplitvalues (.bool b)) o) := by
  cases o with
  | none => exact .inl rfl
  | some b => exact .inr (by simp [optionLexemes])

theorem firstKind_group (ends : EndsGroups rest) :
    firstKind (s.groupLexemes ++ rest) = some (.keyword .by_) ∨ EndsGroups (s.groupLexemes ++ rest) := by
  unfold Stats.groupLexemes byLexemes
  split
  · split
    · exact .inr ends
    · exact .inl (by simp)
  all_goals exact .inl (by simp)

/-- A stage `stats` is read back. -/
theorem stats_run {s : Stats} (readable : s.IsReadable) :
    stats Grammar.full s.lexemes = ⟨.ok (.stats s), [], []⟩ := by
  have grouped := grouping_run readable (endsGroups_option s.dedupSplitValues)
  have groups := firstKind_group s (endsGroups_option s.dedupSplitValues)
  unfold Stats.lexemes
  generalize option : optionalLexemes (fun b => optionLexemes .dedupSplitvalues (.bool b))
    s.dedupSplitValues = last at grouped groups ⊢
  generalize s.groupLexemes ++ last = behind at grouped groups ⊢
  have ends : EndsNames behind ∧ firstKind behind ≠ some (.keyword .as_) := by
    rcases groups with by' | ends
    · simp [EndsNames, by']
    · exact ⟨ends.endsNames, ends.ne _ (by simp)⟩
  have listed := aggregations_run readable.nonempty readable.aggregations ends.1 ends.2
  have written : commaLexemes (s.aggregations.map Aggregation.lexemes) ++ behind ≠ [] := by
    refine List.append_ne_nil_of_left_ne_nil (commaLexemes_ne_nil readable.nonempty ?_) _
    intro a member empty
    have second := secondKind_aggregation (readable.aggregations a member) []
    simp [empty] at second
  have noOption : secondKind (commaLexemes (s.aggregations.map Aggregation.lexemes) ++ behind) ≠
      some (.mark .equal) := by
    cases found : s.aggregations with
    | nil => exact absurd found readable.nonempty
    | cons a more =>
      rw [List.map_cons, commaLexemes_cons, List.append_assoc,
        secondKind_aggregation (readable.aggregations a (by simp [found]))]
      simp
  have options := iterate_statsOption? s readable.partitions noOption
  simp only [stats, bind_run, skip_run, List.drop_one, List.tail_cons, Outcome.bind_ok,
    Outcome.after_nil, options, need_run _ written, listed, grouped, atOption_run]
  obtain ⟨partitions, allNum, delimiter, aggregations, span, groupBy, splitValues⟩ := s
  cases splitValues with
  | none =>
    obtain rfl : [] = last := option
    simp [startsOption]
  | some b =>
    obtain rfl : optionLexemes .dedupSplitvalues (.bool b) = last := option
    have value := boolean_run b []
    rw [List.append_nil] at value
    simp [startsOption, optionLexemes, value]

end Stats

section Dedup

variable (d : Dedup)

theorem startsAssignment_option_keyword (k : Keyword) (value : Literal) (ts : List Lexeme) :
    startsAssignment (optionLexemes k value ++ ts) = true := by
  simp [startsAssignment, optionLexemes]

theorem dedupOption?_partitions {n : Int} (count : IsCount n) (ts : List Lexeme) :
    dedupOption? d (optionLexemes .partitions (.int n) ++ ts) =
      ⟨.ok (some { d with partitions := some n }), ts, []⟩ := by
  simp [dedupOption?, startsAssignment_option_keyword, integer_run count]

theorem dedupOption?_keepEmpty (b : Bool) (ts : List Lexeme) :
    dedupOption? d (optionLexemes .keepempty (.bool b) ++ ts) =
      ⟨.ok (some { d with keepEmpty := some b }), ts, []⟩ := by
  simp [dedupOption?, startsAssignment_option_keyword, boolean_run]

theorem dedupOption?_consecutive (b : Bool) (ts : List Lexeme) :
    dedupOption? d (optionLexemes .consecutive (.bool b) ++ ts) =
      ⟨.ok (some { d with consecutive := some b }), ts, []⟩ := by
  simp [dedupOption?, startsAssignment_option_keyword, boolean_run]

theorem dedupOption?_splitValues (b : Bool) (ts : List Lexeme) :
    dedupOption? d (optionLexemes .dedupSplitvalues (.bool b) ++ ts) =
      ⟨.ok (some { d with splitValues := some b }), ts, []⟩ := by
  simp [dedupOption?, startsAssignment_option_keyword, boolean_run]

/-- The loop over the options reads those behind the fields. -/
theorem iterate_dedupOption? (partitions : ∀ n ∈ d.partitions, IsCount n) :
    iterate dedupOption? ⟨d.count, d.fields, none, none, none, none⟩
        (optionalLexemes (fun n => optionLexemes .partitions (.int n)) d.partitions ++
          (optionalLexemes (fun b => optionLexemes .keepempty (.bool b)) d.keepEmpty ++
            (optionalLexemes (fun b => optionLexemes .consecutive (.bool b)) d.consecutive ++
              (optionalLexemes (fun b => optionLexemes .dedupSplitvalues (.bool b)) d.splitValues ++
                [])))) = ⟨.ok d, [], []⟩ := by
  have stop : dedupOption? d ([] : List Lexeme) = ⟨.ok none, [], []⟩ := by
    simp [dedupOption?, startsAssignment]
  rw [iterate_optional (fun o => (⟨d.count, d.fields, none, none, none, o⟩ : Dedup)) fun n found =>
      dedupOption?_partitions _ (partitions n found) _,
    iterate_optional (fun o => (⟨d.count, d.fields, o, none, none, d.partitions⟩ : Dedup)) fun b _ =>
      dedupOption?_keepEmpty _ b _,
    iterate_optional (fun o => (⟨d.count, d.fields, d.keepEmpty, o, none, d.partitions⟩ : Dedup))
      fun b _ => dedupOption?_consecutive _ b _,
    iterate_optional
      (fun o => (⟨d.count, d.fields, d.keepEmpty, d.consecutive, o, d.partitions⟩ : Dedup))
      fun b _ => dedupOption?_splitValues _ b _,
    iterate_of_none stop]

/-- No name and no list goes on with an option. -/
theorem endsNames_options {α : Type} (k : Keyword) (value : α → Literal) (o : Option α)
    (ends : EndsNames rest ∧ firstKind rest ≠ some (.mark .equal)) :
    EndsNames (optionalLexemes (fun a => optionLexemes k (value a)) o ++ rest) ∧
      firstKind (optionalLexemes (fun a => optionLexemes k (value a)) o ++ rest) ≠
        some (.mark .equal) := by
  cases o with
  | none => exact ends
  | some a => simp [EndsNames, optionLexemes]

theorem startsAssignment_fields (nonempty : names ≠ []) (ends : firstKind rest ≠ some (.mark .equal)) :
    startsAssignment (fieldLexemes names ++ rest) = false := by
  cases names with
  | nil => exact absurd rfl nonempty
  | cons name names =>
    obtain ⟨l, ls, found, -, dot⟩ := exists_nameLexemes name
    have noEqual : secondKind (fieldLexemes (name :: names) ++ rest) ≠ some (.mark .equal) := by
      rw [fieldLexemes, List.map_cons, commaLexemes_cons, found]
      cases ls with
      | cons l' ls => simp [dot l' rfl]
      | nil =>
        cases names with
        | nil => simpa using ends
        | cons name' names => simp
    simp [startsAssignment, noEqual]

/-- A stage `dedup` is read back. -/
theorem dedup_run {d : Dedup} (readable : d.IsReadable) :
    dedup d.lexemes = ⟨.ok (.dedup d), [], []⟩ := by
  have options := iterate_dedupOption? d readable.partitions
  have stop : EndsNames [] ∧ firstKind [] ≠ some (.mark .equal) := by simp [EndsNames]
  have ends := endsNames_options .partitions Literal.int d.partitions
    (endsNames_options .keepempty .bool d.keepEmpty
      (endsNames_options .consecutive .bool d.consecutive
        (endsNames_options .dedupSplitvalues .bool d.splitValues stop)))
  unfold Dedup.lexemes
  rw [← List.append_nil (optionalLexemes _ d.splitValues)]
  generalize optionalLexemes _ d.partitions ++ _ = behind at options ends ⊢
  have nonempty := readable.fields.1
  have count := integer?_run readable.count (fieldLexemes d.fields ++ behind)
    (fieldLexemes_ne nonempty behind (by simp))
  have listed := fieldNames_run d.fields nonempty ends.1
  have written : fieldLexemes d.fields ++ behind ≠ [] :=
    List.append_ne_nil_of_left_ne_nil (fieldLexemes_ne_nil nonempty) _
  simp [dedup, count, need_run _ written, startsAssignment_fields nonempty ends.2, listed, options]

end Dedup

/-- The body of `top` and `rare` is read back behind the name of the command. -/
theorem rank_run (k : Keyword) {r : Rank} (readable : r.IsReadable) :
    rank (k.lexeme :: r.lexemes) = ⟨.ok r, [], []⟩ := by
  obtain ⟨count, fields, groupBy⟩ := r
  have nonempty : fields ≠ [] := readable.fields.1
  have counted := integer?_run readable.count (fieldLexemes fields ++ byLexemes groupBy)
    (fieldLexemes_ne nonempty _ (by simp))
  have written : fieldLexemes fields ++ byLexemes groupBy ≠ [] :=
    List.append_ne_nil_of_left_ne_nil (fieldLexemes_ne_nil nonempty) _
  have ends : EndsNames (byLexemes groupBy) := by
    unfold byLexemes
    split <;> simp [EndsNames]
  have listed := fieldNames_run fields nonempty ends
  cases groupBy with
  | nil =>
    have noBy : firstKind [] ≠ some (.keyword .by_) := by simp
    have noGroups : byLexemes [] = [] := rfl
    rw [noGroups, List.append_nil] at counted written listed
    simp [rank, Rank.lexemes, noGroups, counted, need_run _ written, listed, eatKeyword, eat_of_ne noBy]
  | cons name names =>
    have groups := fieldNames_run (name :: names) (by simp) endsNames_nil
    rw [List.append_nil] at groups
    have groups' : byLexemes (name :: names) = Keyword.by_.lexeme :: fieldLexemes (name :: names) := rfl
    rw [groups'] at counted written listed
    simp [rank, Rank.lexemes, groups', counted, need_run _ written, listed, eatKeyword,
      eat_of_eq _ (Keyword.lexeme_kind _), groups]

end Parser

end PipedQuery
