import PipedQuery.Proofs.Command.Kept
import PipedQuery.Proofs.Grammar.KeptLevels

/-!
# What holds of every stage

Every stage gives commands that have all the parts they need, and whose expressions have a property
that all parsed expressions have (`Parser.gives_stage`).
-/

namespace PipedQuery

variable {A : Cause → Prop} {P : Expr → Prop}

namespace Parser

/-! Values. -/

theorem gives_need (clause : Clause) : Gives A (need clause) fun _ => True := by
  apply gives_bind gives_atEnd
  intro ended _
  split
  · exact gives_fail _ nofun
  · exact gives_pure trivial

/-- An integer in an option is a count. -/
theorem gives_integer : Gives A integer IsCount := by
  apply gives_bind gives_remaining
  intro place _
  apply gives_bind gives_peek
  rintro (_ | l) _
  · exact gives_fail _ nofun
  dsimp only
  split
  · apply gives_bind (gives_skip 1)
    intro _ _
    split
    · next small => exact gives_pure ⟨Int.natCast_nonneg _, small⟩
    · exact gives_failAt _ _ nofun
  · exact gives_fail _ nofun

theorem gives_integer? : Gives A integer? fun o => ∀ n ∈ o, IsCount n := by
  apply gives_bind (gives_check _)
  intro found _
  split
  · apply gives_bind gives_integer
    intro n small
    exact gives_some small
  · exact gives_none

theorem gives_boolean : Gives A boolean fun _ => True := by
  apply gives_bind (gives_eatKeyword .true_)
  intro yes _
  split
  · exact gives_pure trivial
  apply gives_bind (gives_eatKeyword .false_)
  intro no _
  split
  · exact gives_pure trivial
  · exact gives_fail _ nofun

theorem gives_string : Gives A string fun _ => True := by
  apply gives_bind gives_string?
  rintro (_ | s) _
  · exact gives_fail _ nofun
  · exact gives_pure trivial

theorem gives_alias? : Gives A alias? fun _ => True := by
  apply gives_bind (gives_eatKeyword .as_)
  intro found _
  split
  · exact gives_bind gives_fieldName fun _ _ => gives_pure trivial
  · exact gives_pure trivial

theorem gives_fieldNames : Gives A (lenientList fieldName) (· ≠ []) :=
  (gives_lenientList gives_fieldName).mono fun _ all => all.1

section Stages

variable {g : StageGrammar} (grammar : g.Gives A P)
  (literal : ∀ v : Literal, v.IsUnsigned → P (.literal v))

/-! Stages that read, keep and order rows. -/

/-- A word that names a source has a name behind its cluster. -/
theorem isNamed_sourceOfWord {l : Lexeme} {next : Option TokenKind} (genuine : l.IsGenuine next)
    (word : l.kind = .clusterName ∨ l.kind = .datedName) : (sourceOfWord l.text).IsNamed := by
  by_cases colon : ':' ∈ l.text.toList
  · have cluster : Scan.IsClusterWord l := by
      unfold Lexeme.IsGenuine at genuine
      rcases word with kind | kind
      all_goals
        rw [kind] at genuine
        exact genuine colon
    exact .inr ⟨l, word, cluster, rfl⟩
  · left
    rw [sourceOfWord, if_neg colon]
    rfl

/-- A source has a name. -/
theorem gives_dataSource : Gives A dataSource DataSource.IsNamed := by
  have name : Gives A (do return .ofName (← qualifiedName true) : StageParser DataSource)
      DataSource.IsNamed :=
    gives_bind (gives_qualifiedName true) fun _ _ => gives_pure (.inl rfl)
  have passed {source : DataSource} (named : source.IsNamed) :
      Gives A (do skip 1; return source) DataSource.IsNamed :=
    gives_bind (gives_skip 1) fun _ _ => gives_pure named
  have word {l : Lexeme} (named : (sourceOfWord l.text).IsNamed) :
      Gives A (if l.text.toList.head? = some '@' then do
        return .ofName (← qualifiedName true)
        else do
          skip 1
          return sourceOfWord l.text : StageParser DataSource) DataSource.IsNamed := by
    split
    · exact name
    · exact passed named
  apply gives_bind gives_peek
  rintro (_ | l) first
  · exact gives_fail _ nofun
  obtain ⟨next, genuine⟩ := first l rfl
  dsimp only
  split
  · next kind => exact word (isNamed_sourceOfWord genuine (.inl kind))
  · next kind => exact word (isNamed_sourceOfWord genuine (.inr kind))
  · exact passed (.inl rfl)
  · exact passed (.inl rfl)
  · exact passed (.inl rfl)
  · exact gives_bind (gives_skip 1) fun _ _ =>
      gives_bind (gives_qualifiedName true) fun _ _ => gives_pure (.inl rfl)
  · exact name

/-- A source clause has at least one source, and each has a name. -/
theorem gives_sourceClause :
    Gives A sourceClause fun sources => sources ≠ [] ∧ ∀ s ∈ sources, s.IsNamed := by
  apply gives_bind (gives_skip 1)
  intro _ _
  apply gives_bind (gives_expectMark .equal)
  intro _ _
  exact gives_lenientList gives_dataSource

include grammar in
theorem gives_searchBody : Gives A (searchBody g) (Command.Kept A P) := by
  apply gives_bind gives_lexemes
  intro ts _
  split
  · apply gives_bind gives_sourceClause
    intro sources filled
    apply gives_bind gives_atEnd
    intro ended _
    split
    · exact gives_pure ⟨filled, forall_mem_none⟩
    · apply gives_bind grammar.expression
      intro e he
      exact gives_pure ⟨filled, forall_mem_some he⟩
  · apply gives_bind (gives_need _)
    intro _ _
    apply gives_bind grammar.expression
    intro e he
    apply gives_bind gives_lexemes
    intro ts _
    have clause : Gives A (do return .search ⟨← sourceClause, some e⟩) (Command.Kept A P) := by
      apply gives_bind gives_sourceClause
      intro sources filled
      exact gives_pure ⟨filled, forall_mem_some he⟩
    dsimp only
    split
    · exact clause
    · exact gives_bind (P := fun _ => False) (gives_fail _ nofun) fun _ => False.elim

theorem gives_describe : Gives A describe (Command.Kept A P) := by
  apply gives_bind (gives_skip 1)
  intro _ _
  apply gives_bind (gives_need _)
  intro _ _
  exact gives_bind gives_dataSource fun _ named => gives_pure named

theorem gives_showDatasources : Gives A showDatasources (Command.Kept A P) := by
  apply gives_bind (gives_skip 1)
  intro _ _
  exact gives_bind (gives_expectKeyword _) fun _ _ => gives_pure trivial

include grammar in
theorem gives_filter : Gives A (filter g) (Command.Kept A P) := by
  apply gives_bind (gives_skip 1)
  intro _ _
  apply gives_bind (gives_need _)
  intro _ _
  exact gives_bind grammar.expression fun _ kept => gives_pure kept

theorem gives_fields : Gives A fields (Command.Kept A P) := by
  apply gives_bind (gives_skip 1)
  intro _ _
  apply gives_bind (gives_eatMark .minus)
  intro exclude _
  have names : Gives A (do
      need .fieldsToKeep
      return .fields exclude (← lenientList fieldName)) (Command.Kept A P) := by
    apply gives_bind (gives_need _)
    intro _ _
    exact gives_bind gives_fieldNames fun _ filled => gives_pure filled
  cases exclude
  · exact gives_bind (gives_bind (gives_eatMark .plus) fun _ _ => gives_pure trivial)
      fun _ (_ : True) => names
  · exact names

theorem gives_renamePair : Gives A renamePair fun _ => True := by
  apply gives_bind gives_fieldName
  intro old _
  apply gives_bind (gives_expectKeyword .as_)
  intro _ _
  exact gives_bind gives_fieldName fun _ _ => gives_pure trivial

theorem gives_rename : Gives A rename (Command.Kept A P) := by
  apply gives_bind (gives_skip 1)
  intro _ _
  apply gives_bind (gives_need _)
  intro _ _
  exact gives_bind (gives_lenientList gives_renamePair) fun _ all => gives_pure all.1

include grammar in
theorem gives_assignment : Gives A (assignment g) fun a => P a.value := by
  apply gives_bind gives_fieldName
  intro field _
  apply gives_bind (gives_expectMark .equal)
  intro _ _
  exact gives_bind grammar.expression fun _ kept => gives_pure kept

include grammar in
theorem gives_eval : Gives A (eval g) (Command.Kept A P) := by
  apply gives_bind (gives_skip 1)
  intro _ _
  apply gives_bind (gives_need _)
  intro _ _
  exact gives_bind (gives_lenientList (gives_assignment grammar)) fun _ all => gives_pure all

theorem gives_sortKey : Gives A sortKey fun _ => True := by
  have directed (minus : Bool) (cast : Option SortCast) (field : String) : Gives A (do
      if ← eatKeyword .desc then
        return ⟨field, .descending, cast⟩
      if ← eatKeyword .d then
        return ⟨field, .descending, cast⟩
      return ⟨field, if minus then .descending else .ascending, cast⟩ : StageParser SortKey)
      fun _ => True := by
    apply gives_bind (gives_eatKeyword .desc)
    intro desc _
    split
    · exact gives_pure trivial
    apply gives_bind (gives_eatKeyword .d)
    intro d _
    split
    · exact gives_pure trivial
    · exact gives_pure trivial
  have key (minus : Bool) : Gives A (do
      let cast := startsSortCast? (← lexemes)
      let field ←
        if cast.isSome then do
          skip 2
          let field ← fieldName
          expectMark .rParen
          pure field
        else fieldName
      if ← eatKeyword .desc then
        return ⟨field, .descending, cast⟩
      if ← eatKeyword .d then
        return ⟨field, .descending, cast⟩
      return ⟨field, if minus then .descending else .ascending, cast⟩ : StageParser SortKey)
      fun _ => True := by
    apply gives_bind gives_lexemes
    intro ts _
    dsimp only
    split
    · apply gives_bind (gives_skip 2)
      intro _ _
      apply gives_bind gives_fieldName
      intro field _
      apply gives_bind (gives_expectMark .rParen)
      intro _ _
      exact directed minus _ field
    · exact gives_bind gives_fieldName fun field _ => directed minus _ field
  apply gives_bind (gives_eatMark .minus)
  intro minus _
  cases minus
  · exact gives_bind (gives_bind (gives_eatMark .plus) fun _ _ => gives_pure trivial)
      fun _ (_ : True) => key false
  · exact key true

theorem gives_sort : Gives A sort (Command.Kept A P) := by
  apply gives_bind (gives_skip 1)
  intro _ _
  apply gives_bind (gives_need _)
  intro _ _
  exact gives_bind (gives_lenientList gives_sortKey) fun _ all => gives_pure all.1

theorem gives_head : Gives A head (Command.Kept A P) := by
  apply gives_bind (gives_skip 1)
  intro _ _
  apply gives_bind gives_integer?
  intro size hsize
  apply gives_bind (gives_eatKeyword .from_)
  intro found _
  split
  · apply gives_bind gives_integer
    intro offset hoffset
    exact gives_pure ⟨hsize, forall_mem_some hoffset⟩
  · exact gives_pure ⟨hsize, forall_mem_none⟩

/-! Stages that aggregate and rank. -/

/-- A count of all rows, which is written without parentheses, is a call without arguments. -/
theorem keptCall_count {k : Keyword} (counts : k = .count ∨ k = .c) :
    KeptCall A P k .aggregate [] [] where
  function := by rcases counts with rfl | rfl <;> rfl
  notCast := by rcases counts with rfl | rfl <;> decide
  arity := by
    rintro arity found
    rcases counts with rfl | rfl <;> cases found <;> exact .inl rfl
  args := keptArgs_of_forall nofun
  options := keptOptions_nil

include grammar literal in
theorem gives_aggregation : Gives A (aggregation g) (·.Kept A P) := by
  have columned {k : Keyword} {args : List Expr} {options : List NamedOption}
      (kept : KeptCall A P k .aggregate args options) :
      Gives A
        (do return ⟨.call k.lowercase .aggregate args options, ← alias?⟩ : StageParser Aggregation)
        (·.Kept A P) :=
    gives_bind gives_alias? fun _ _ => gives_pure ⟨k, args, options, rfl, kept⟩
  apply gives_bind gives_lexemes
  intro ts genuine
  split
  · next k text more =>
    split
    · next counts =>
      apply gives_bind (gives_skip 1)
      intro _ _
      rw [Bool.and_eq_true, Bool.or_eq_true, decide_eq_true_eq, decide_eq_true_eq] at counts
      exact columned (keptCall_count counts.1)
    · split
      · next function =>
        have notCast : k ≠ .cast := by
          rintro rfl
          cases function
        apply gives_bind (gives_call grammar.expression function notCast grammar.additive
          literal)
        rintro e ⟨args, options, rfl, kept⟩
        exact columned kept
      · exact gives_fail _ nofun
      · exact gives_fail _ nofun
  · exact gives_fail _ nofun

/-- The unit of a bucket is one that a span may have. -/
theorem gives_bucketUnit? : Gives A bucketUnit? fun o => ∀ unit ∈ o, unit.isSpanUnit = true := by
  apply gives_bind gives_lexemes
  intro ts _
  split
  · exact gives_none
  · split
    · next known =>
      apply gives_bind (gives_skip 1)
      intro _ _
      exact gives_some known
    · exact gives_fail _ (by decide)
  · exact gives_fail _ (by decide)

/-- A bucket is well-formed. -/
theorem gives_bucket : Gives A bucket Bucket.WellFormed := by
  apply gives_bind (gives_skip 1)
  intro _ _
  apply gives_bind (gives_expectMark .lParen)
  intro _ _
  apply gives_bind gives_fieldName
  intro field _
  apply gives_bind (gives_expectMark .comma)
  intro _ _
  apply gives_bind (gives_plainNumber .spanLength)
  intro value hvalue
  apply gives_bind gives_bucketUnit?
  intro unit hunit
  apply gives_bind (gives_expectMark .rParen)
  intro _ _
  exact gives_bind gives_alias? fun _ _ => gives_pure ⟨hvalue.2, hvalue.1, hunit⟩

theorem gives_grouping : Gives A grouping fun g => ∀ b ∈ g.1, b.WellFormed := by
  apply gives_bind (gives_eatKeyword .by_)
  intro found _
  cases found
  · exact gives_pure forall_mem_none
  apply gives_bind gives_lexemes
  intro ts _
  split
  · apply gives_bind gives_bucket
    intro b hb
    apply gives_bind (gives_eatMark .comma)
    intro comma _
    split
    · exact gives_bind gives_fieldNames fun _ _ => gives_pure (forall_mem_some hb)
    · exact gives_pure (forall_mem_some hb)
  · exact gives_bind gives_fieldNames fun _ _ => gives_pure forall_mem_none

/-- An option of `stats` leaves the number of partitions a count. -/
theorem gives_statsOption? {s : Stats} (h : ∀ n ∈ s.partitions, IsCount n) :
    Gives A (statsOption? s) fun o => ∀ s' ∈ o, ∀ n ∈ s'.partitions, IsCount n := by
  apply gives_bind (gives_atOption .partitions)
  intro found _
  split
  · apply gives_bind (gives_skip 2)
    intro _ _
    apply gives_bind gives_integer
    intro n hn
    exact gives_some (forall_mem_some hn)
  apply gives_bind (gives_atOption .allnum)
  intro found _
  split
  · apply gives_bind (gives_skip 2)
    intro _ _
    apply gives_bind gives_boolean
    intro b _
    exact gives_some h
  apply gives_bind (gives_atOption .delim)
  intro found _
  split
  · apply gives_bind (gives_skip 2)
    intro _ _
    apply gives_bind gives_string
    intro text _
    exact gives_some h
  · exact gives_none

include grammar literal in
theorem gives_stats : Gives A (stats g) (Command.Kept A P) := by
  apply gives_bind (gives_skip 1)
  intro _ _
  apply gives_bind (gives_iterate (P := fun s : Stats => ∀ n ∈ s.partitions, IsCount n)
    (fun _ => gives_statsOption?) forall_mem_none)
  intro s hs
  apply gives_bind (gives_need _)
  intro _ _
  apply gives_bind (gives_lenientList (gives_aggregation grammar literal))
  intro aggregations all
  apply gives_bind gives_grouping
  rintro ⟨span, groupBy⟩ hspan
  apply gives_bind (gives_atOption .dedupSplitvalues)
  intro found _
  split
  · apply gives_bind (gives_skip 2)
    intro _ _
    exact gives_bind gives_boolean fun _ _ => gives_pure ⟨hs, all.1, all.2, hspan⟩
  · exact gives_pure ⟨hs, all.1, all.2, hspan⟩

theorem gives_skipUnknownOption (command : String) :
    Gives A (skipUnknownOption command) fun _ => True := by
  apply gives_bind gives_peek
  rintro (_ | name) _
  · exact gives_pure trivial
  apply gives_bind gives_remaining
  intro place _
  apply gives_bind (gives_raiseAt _ _)
  intro _ _
  apply gives_bind (gives_skip 2)
  intro _ _
  apply gives_bind gives_atEnd
  rintro (_ | _) _
  · exact gives_skip 1
  · exact gives_pure trivial

/-- An option of `dedup` leaves what has been read well-formed. -/
theorem gives_dedupOption? {d : Dedup} (h : d.WellFormed) :
    Gives A (dedupOption? d) fun o => ∀ d' ∈ o, d'.WellFormed := by
  have flag (update : Bool → Dedup) (kept : ∀ b, (update b).WellFormed) :
      Gives A (do skip 2; return some (update (← boolean)) : StageParser (Option Dedup))
        fun o => ∀ d' ∈ o, d'.WellFormed := by
    apply gives_bind (gives_skip 2)
    intro _ _
    exact gives_bind gives_boolean fun b _ => gives_some (kept b)
  apply gives_bind gives_atAssignment
  intro assigned _
  cases assigned
  · exact gives_none
  apply gives_bind (gives_atOption .keepempty)
  intro found _
  split
  · exact flag (fun b => { d with keepEmpty := some b }) fun _ => ⟨h.count, h.fields, h.partitions⟩
  apply gives_bind (gives_atOption .consecutive)
  intro found _
  split
  · exact flag (fun b => { d with consecutive := some b }) fun _ =>
      ⟨h.count, h.fields, h.partitions⟩
  apply gives_bind (gives_atOption .dedupSplitvalues)
  intro found _
  split
  · exact flag (fun b => { d with splitValues := some b }) fun _ =>
      ⟨h.count, h.fields, h.partitions⟩
  apply gives_bind (gives_atOption .partitions)
  intro found _
  split
  · apply gives_bind (gives_skip 2)
    intro _ _
    apply gives_bind gives_integer
    intro n hn
    exact gives_some ⟨h.count, h.fields, forall_mem_some hn⟩
  · exact gives_bind (gives_skipUnknownOption "dedup") fun _ _ => gives_some h

theorem gives_dedup : Gives A dedup (Command.Kept A P) := by
  apply gives_bind (gives_skip 1)
  intro _ _
  apply gives_bind gives_integer?
  intro count hcount
  apply gives_bind (gives_need _)
  intro _ _
  apply gives_bind gives_atAssignment
  intro assigned _
  have body : Gives A (do
      let fields ← lenientList fieldName
      return .dedup (← iterate dedupOption? ⟨count, fields, none, none, none, none⟩))
      (Command.Kept A P) := by
    apply gives_bind gives_fieldNames
    intro fields filled
    apply gives_bind (gives_iterate (fun _ => gives_dedupOption?) ⟨hcount, filled, forall_mem_none⟩)
    intro d hd
    exact gives_pure hd
  cases assigned
  · exact body
  · exact gives_bind (P := fun _ => False) (gives_fail _ nofun) fun _ => False.elim

theorem gives_rank : Gives A rank Rank.WellFormed := by
  apply gives_bind gives_peek
  intro l _
  apply gives_bind (gives_skip 1)
  intro _ _
  apply gives_bind gives_integer?
  intro count hcount
  apply gives_bind (gives_need _)
  intro _ _
  apply gives_bind gives_fieldNames
  intro fields filled
  apply gives_bind (gives_eatKeyword .by_)
  intro found _
  split
  · exact gives_bind gives_fieldNames fun _ _ => gives_pure ⟨hcount, filled⟩
  · exact gives_pure ⟨hcount, filled⟩

/-! Stages that extract and learn. -/

theorem gives_pattern : Gives A pattern fun _ => True := by
  apply gives_bind gives_string?
  rintro (_ | s) _
  · exact gives_fail _ nofun
  · exact gives_pure trivial

/-- A warning in front of a parser does not change what it gives. -/
theorem gives_raise_if {p : StageParser Command} (c : Bool) (place : Nat) (cause : Cause)
    (h : Gives A p (Command.Kept A P)) :
    Gives A (do
      if c then
        raiseAt place cause
      p) (Command.Kept A P) := by
  cases c
  · exact h
  · exact gives_bind (gives_raiseAt place cause) fun _ _ => h

theorem gives_parse : Gives A parse (Command.Kept A P) := by
  apply gives_bind (gives_skip 1)
  intro _ _
  apply gives_bind gives_fieldName
  intro source _
  apply gives_bind gives_remaining
  intro place _
  apply gives_bind gives_pattern
  intro pattern _
  have named {newFields : List String} (own : newFields = Pattern.parsedFields pattern) :
      Gives A (do
        if newFields.isEmpty then
          raiseAt place .noNamedGroup
        return .extract ⟨.regex, source, some pattern, newFields⟩) (Command.Kept A P) :=
    gives_raise_if _ place .noNamedGroup (gives_pure ⟨pattern, rfl, own⟩)
  dsimp only
  split
  · next names found => exact named (by rw [Pattern.parsedFields, found])
  · next flaw found =>
    exact gives_bind (gives_raiseAt _ _) fun _ _ => named (by rw [Pattern.parsedFields, found])

theorem gives_grok : Gives A grok (Command.Kept A P) := by
  apply gives_bind (gives_skip 1)
  intro _ _
  apply gives_bind gives_fieldName
  intro source _
  apply gives_bind gives_remaining
  intro place _
  apply gives_bind gives_pattern
  intro pattern _
  exact gives_raise_if _ place .noGrokField (gives_pure ⟨pattern, rfl, rfl⟩)

theorem gives_patternsOption? (o : PatternsOptions) : Gives A (patternsOption? o) fun _ => True := by
  apply gives_bind gives_atAssignment
  intro assigned _
  cases assigned
  · exact gives_pure trivial
  apply gives_bind (gives_atOption .newField)
  intro found _
  split
  · apply gives_bind (gives_skip 2)
    intro _ _
    exact gives_bind gives_string fun _ _ => gives_pure trivial
  apply gives_bind (gives_atOption .pattern)
  intro found _
  split
  · apply gives_bind (gives_skip 2)
    intro _ _
    apply gives_bind gives_remaining
    intro place _
    apply gives_bind gives_pattern
    intro pattern _
    dsimp only
    split
    · exact gives_bind (gives_raiseAt _ _) fun _ _ => gives_pure trivial
    · exact gives_pure trivial
  · exact gives_bind (gives_skipUnknownOption _) fun _ _ => gives_pure trivial

theorem gives_patterns : Gives A patterns (Command.Kept A P) := by
  apply gives_bind (gives_skip 1)
  intro _ _
  apply gives_bind (gives_iterate (P := fun _ => True)
    (fun o _ => (gives_patternsOption? o).mono fun _ _ _ _ => trivial) trivial)
  intro o _
  apply gives_bind (gives_need _)
  intro _ _
  exact gives_bind gives_fieldName fun _ _ => gives_pure ⟨_, rfl⟩

/-- The name of a parameter is read as the same keyword in lower case, or as a word that is none. -/
theorem isWord_of_assigned {name : Lexeme} {next : Option TokenKind} (spelled : name.IsGenuine next)
    (assigned : (name.kind = .identifier ∨ ∃ k, name.kind = .keyword k) ∧
      next = some (.mark .equal)) :
    Scan.IsWord (name.text.map Char.toLower).toList ∧
      ∀ k, name.kind = .keyword k →
        Scan.nameKind (name.text.map Char.toLower).toList = .keyword k := by
  obtain ⟨kind, rfl⟩ := assigned
  rcases kind with kind | ⟨k, kind⟩
  · rw [Lexeme.IsGenuine, kind] at spelled
    rcases spelled with word | other
    · rw [String.toList_map, kind]
      refine ⟨word.map_toLower, ?_⟩
      rintro k ⟨⟩
    · exact absurd rfl (other _ rfl).2
  · rw [Lexeme.IsGenuine, kind] at spelled
    rw [Keyword.toLower_of_ofWord? spelled, kind]
    refine ⟨Scan.isWord_lowercase k, ?_⟩
    rintro k' ⟨⟩
    exact Keyword.nameKind_lowercase k

/-- A parameter keeps its type if its name is scanned on its own. -/
theorem parameterType?_nameKind {algorithm : Algorithm} {kind : TokenKind} {run : List Char}
    {type : Option ParameterType} (same : ∀ k, kind = .keyword k → Scan.nameKind run = .keyword k)
    (known : parameterType? algorithm kind = some type) :
    parameterType? algorithm (Scan.nameKind run) = some type := by
  unfold parameterType? at known
  split at known
  · exact known
  · rw [same _ rfl]
    exact known
  · rw [same _ rfl]
    exact known
  · cases known

/-- A parameter that is kept has a known name and a value of its type. -/
theorem isReadable_parameter {algorithm : Algorithm} {name : Lexeme} {next : Option TokenKind}
    {value : Literal} {type : Option ParameterType} (spelled : name.IsGenuine next)
    (assigned : (name.kind = .identifier ∨ ∃ k, name.kind = .keyword k) ∧
      next = some (.mark .equal))
    (isValue : value.IsOptionValue) (known : parameterType? algorithm name.kind = some type)
    (accepted : type.filter (fun type => !type.accepts value) = none) :
    Parameter.IsReadable algorithm ⟨name.text.map Char.toLower, value⟩ := by
  obtain ⟨word, same⟩ := isWord_of_assigned spelled assigned
  refine ⟨word, Keyword.map_toLower_map_toLower _, isValue, type,
    parameterType?_nameKind same known, ?_⟩
  rintro t ⟨⟩
  rw [Option.filter_eq_none_iff] at accepted
  simpa using accepted t rfl

/-- Every parameter that is read is one of the algorithm and can be written back. -/
theorem gives_parameter? (algorithm : Algorithm) {params : List Parameter}
    (h : ∀ p ∈ params, p.IsReadable algorithm) :
    Gives A (parameter? algorithm params) fun o => ∀ params ∈ o, ∀ p ∈ params,
      p.IsReadable algorithm := by
  constructor
  intro ts genuine raises
  cases assigned : startsAssignment ts with
  | false =>
    cases ts with
    | nil => exact Outcome.gives_ok genuine forall_mem_none []
    | cons name rest =>
      have stopped : parameter? algorithm params (name :: rest) =
          fail (.expected .assignment) (name :: rest) := by
        simp [parameter?, assigned]
      rw [stopped] at raises ⊢
      exact (gives_fail _ (Cause.kind_expected_ne _)).run genuine raises
  | true =>
    obtain ⟨name, rest, rfl, word⟩ := exists_of_startsAssignment assigned
    have behind : Genuine rest.tail := by
      rw [← List.drop_one]
      exact genuine.2.drop 1
    simp only [parameter?, bind_run, atEnd_run, List.isEmpty_cons, Outcome.bind_ok,
      Bool.false_eq_true, if_false, atAssignment_run, assigned, if_true, remaining_run, peek_run,
      List.head?_cons, skip_run, List.drop_succ_cons, List.drop_one, Outcome.after_nil]
      at raises ⊢
    rw [← bind_run] at raises ⊢
    refine (gives_bind gives_literal fun value isValue => ?_).run behind raises
    split
    · exact gives_bind (gives_raiseAt _ _) fun _ _ => gives_some h
    · next type known =>
      split
      · exact gives_bind (gives_raiseAt _ _) fun _ _ => gives_some h
      · next accepted =>
        have readable := isReadable_parameter genuine.1 word isValue known accepted
        exact gives_some (List.forall_mem_cons.mpr ⟨readable, h⟩)

theorem gives_learn (algorithm : Algorithm) : Gives A (learn algorithm) (Command.Kept A P) := by
  apply gives_bind (gives_skip 1)
  intro _ _
  apply gives_bind (gives_iterate (P := fun params => ∀ p ∈ params, p.IsReadable algorithm)
    (fun _ => gives_parameter? algorithm) nofun)
  intro params all
  exact gives_pure fun p member => all p (List.mem_reverse.mp member)

/-! Whole stages. -/

include grammar literal in
/-- Every command, whole or in part, keeps what its parts keep. -/
theorem gives_command (first : Bool) : Gives A (command g first) (Command.Kept A P) := by
  apply gives_bind gives_lexemes
  intro ts _
  split
  · exact gives_bind (gives_skip 1) fun _ _ => gives_searchBody grammar
  · exact gives_describe
  · exact gives_showDatasources
  · exact gives_filter grammar
  · exact gives_fields
  · exact gives_rename
  · exact gives_stats grammar literal
  · exact gives_dedup
  · exact gives_sort
  · exact gives_eval grammar
  · exact gives_head
  · exact gives_bind gives_rank fun _ kept => gives_pure kept
  · exact gives_bind gives_rank fun _ kept => gives_pure kept
  · exact gives_parse
  · exact gives_grok
  · exact gives_patterns
  · exact gives_patterns
  · exact gives_learn .kmeans
  · exact gives_learn .ad
  · exact gives_learn .ml
  · split
    · exact gives_searchBody grammar
    · exact gives_fail _ nofun
  · exact gives_fail _ nofun

/-- What is known of the command of a stage, and of an error where there is none. -/
structure KeptStage (A : Cause → Prop) (P : Expr → Prop) (o : Option Command) : Prop where
  command : ∀ c ∈ o, c.Kept A P
  error : o = none → ∃ cause, A cause ∧ ¬cause.IsWarning

end Stages

/-- So does the command of every stage. -/
theorem gives_stage (grammar : Grammar.full.Gives A P)
    (literal : ∀ v : Literal, v.IsUnsigned → P (.literal v)) (first : Bool) :
    Gives A (stage first) (KeptStage A P) := by
  apply gives_bind (gives_attempt (gives_command grammar literal first))
  rintro (issue | c) found
  · apply gives_bind (gives_raise issue)
    intro _ raised
    have lost : KeptStage A P none :=
      ⟨forall_mem_none, fun _ => ⟨issue.cause, raised, found.2 issue rfl⟩⟩
    exact gives_bind gives_skipAll fun _ _ => gives_pure lost
  · have kept : KeptStage A P (some c) := ⟨forall_mem_some (found.1 c rfl), fun none => nomatch none⟩
    have passed : Gives A (do skipAll; return some c) (KeptStage A P) :=
      gives_bind gives_skipAll fun _ _ => gives_pure kept
    apply gives_bind gives_atEnd
    intro ended _
    cases ended
    · apply gives_bind gives_remaining
      intro place _
      exact gives_bind (gives_raiseAt _ _) fun _ _ => passed
    · exact passed

end Parser

end PipedQuery
