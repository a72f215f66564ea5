import PipedQuery.Proofs.Command.Kept
import PipedQuery.Proofs.Grammar.Calls

/-!
# Well-formed commands

What holds of every command that is parsed, whatever is wrong with the text: only group-by lists may
be empty, counts are in range, calls and options have names of their own kind, and parameters have
values of their declared types.
-/

namespace PipedQuery

/-- Whether the constant is not an integer out of range. -/
def Literal.IsSignless (v : Literal) : Prop := ∀ i, v = .int i → IsCount i

/-- Whether the name is that of an option of relevance functions. -/
def IsRelevanceOptionName (name : String) : Prop :=
  ∃ k : Keyword, k.isRelevanceOption = true ∧ name = k.lowercase

/-- Well-formed expressions. -/
inductive Expr.WellFormed : Expr → Prop where
  | literal {v : Literal} (signless : v.IsSignless) : WellFormed (.literal v)
  | field (name : String) : WellFormed (.field name)
  /-- A call has the lower-case name of a function of its family, and has options only if it is a
      relevance function. -/
  | call {k : Keyword} {family : FunctionFamily} {args : List Expr} {options : List NamedOption}
      (function : k.family? = some family) (args_wellFormed : ∀ e ∈ args, WellFormed e)
      (options_known : ∀ o ∈ options, family = .relevance ∧ IsRelevanceOptionName o.name) :
    WellFormed (.call k.lowercase family args options)
  /-- Weighted fields are the first argument of three functions, and nothing else. -/
  | weightedCall {k : Keyword} {fields : List WeightedField} {args : List Expr}
      {options : List NamedOption}
      (function : k = .multiMatch ∨ k = .simpleQueryString ∨ k = .queryString)
      (fields_ne : fields ≠ []) (args_wellFormed : ∀ e ∈ args, WellFormed e)
      (options_known : ∀ o ∈ options, IsRelevanceOptionName o.name) :
    WellFormed (.call k.lowercase .relevance (.weighted fields :: args) options)
  | binary {op : BinaryOp} {left right : Expr} (left_wellFormed : WellFormed left)
      (right_wellFormed : WellFormed right) : WellFormed (.binary op left right)
  | unary {op : UnaryOp} {operand : Expr} (operand_wellFormed : WellFormed operand) :
    WellFormed (.unary op operand)
  | inList {item : Expr} {list : List Expr} (item_wellFormed : WellFormed item)
      (list_ne : list ≠ []) (list_wellFormed : ∀ e ∈ list, WellFormed e) :
    WellFormed (.inList item list)
  | case {branches : List (Expr × Expr)} {fallback : Option Expr} (branches_ne : branches ≠ [])
      (conditions_wellFormed : ∀ b ∈ branches, WellFormed b.1)
      (values_wellFormed : ∀ b ∈ branches, WellFormed b.2)
      (fallback_wellFormed : ∀ e ∈ fallback, WellFormed e) : WellFormed (.case branches fallback)
  | cast {value : Expr} {target : DataType} (value_wellFormed : WellFormed value) :
    WellFormed (.cast value target)
  | interval {value : Expr} {unit : Keyword} (value_wellFormed : WellFormed value)
      (isUnit : unit.isIntervalUnit = true) : WellFormed (.interval value unit)

/-- Whether the expression is a call of an aggregate function. -/
def Expr.IsAggregate (e : Expr) : Prop :=
  ∃ name args options, e = .call name .aggregate args options ∧ e.WellFormed

/-- Whether the keyword names a parameter that the algorithm reserves. -/
def Algorithm.Reserves : Algorithm → Keyword → Prop
  | .kmeans, k => k.isKmeansOption = true
  | .ad, k => k.isAdOption = true
  | .ml, _ => False

/-- A parameter of `kmeans` or `ad` has a reserved name and a value of the type of that name. -/
def Parameter.WellFormed (algorithm : Algorithm) (p : Parameter) : Prop :=
  algorithm = .ml ∨ ∃ k type, algorithm.Reserves k ∧ p.name = k.lowercase ∧
    ParameterType.ofKeyword? k = some type ∧ type.accepts p.value = true

/-- Whether a search has some sources, and a well-formed filter if any. -/
structure Search.WellFormed (s : Search) : Prop where
  sources : s.sources ≠ []
  filter : ∀ e ∈ s.filter, e.WellFormed

/-- Well-formed commands. -/
def Command.WellFormed : Command → Prop
  | .search body => body.WellFormed
  | .describe _ | .showDatasources | .extract _ => True
  | .filter condition => condition.WellFormed
  | .fields _ names => names ≠ []
  | .rename renamings => renamings ≠ []
  | .stats body => body.WellFormedWith (·.function.IsAggregate)
  | .dedup body => body.WellFormed
  | .sort keys => keys ≠ []
  | .eval assignments => assignments ≠ [] ∧ ∀ a ∈ assignments, a.value.WellFormed
  | .head body => body.WellFormed
  | .top body | .rare body => body.WellFormed
  | .learn algorithm params => ∀ p ∈ params, p.WellFormed algorithm

theorem Literal.IsUnsigned.isSignless {v : Literal} (unsigned : v.IsUnsigned) : v.IsSignless := by
  rintro i rfl
  exact unsigned

theorem isMultiField_iff {k : Keyword} :
    k.isMultiField = true ↔ k = .multiMatch ∨ k = .simpleQueryString ∨ k = .queryString := by
  constructor
  · unfold Keyword.isMultiField
    split
    · exact fun _ => .inl rfl
    · exact fun _ => .inr (.inl rfl)
    · exact fun _ => .inr (.inr rfl)
    · exact fun none => absurd none Bool.false_ne_true
  · rintro (rfl | rfl | rfl) <;> rfl

/-- A call is well-formed if its arguments are, but for weighted fields at their start. -/
theorem Expr.WellFormed.of_keptCall {A : Cause → Prop} {k : Keyword} {family : FunctionFamily}
    {args : List Expr} {options : List NamedOption}
    (kept : KeptCall A WellFormed k family args options) :
    WellFormed (.call k.lowercase family args options) := by
  obtain ⟨function, -, -, kept, options_kept⟩ := kept
  have known : ∀ o ∈ options, family = .relevance ∧ IsRelevanceOptionName o.name := fun o member =>
    ⟨(options_kept o member).1, (options_kept o member).2.1⟩
  cases args with
  | nil => exact .call function nofun known
  | cons first others =>
    rcases kept.head first rfl with wellFormed | ⟨multi, fields, filled, -, rfl⟩
    · exact .call function (List.forall_mem_cons.mpr ⟨wellFormed, kept.tail⟩) known
    · obtain rfl : FunctionFamily.relevance = family :=
        Option.some.inj ((Keyword.family?_of_isMultiField multi).symm.trans function)
      exact .weightedCall (isMultiField_iff.mp multi) filled kept.tail fun o member =>
        (known o member).2

/-- The ways to build expressions keep them well-formed. -/
theorem Grammar.keeps_wellFormed {A : Cause → Prop} : Keeps A fun _ => Expr.WellFormed where
  literal := fun unsigned => .literal unsigned.isSignless
  field := .field _
  group := id
  call := Expr.WellFormed.of_keptCall
  binary := .binary
  unary := .unary
  inList := .inList
  case := fun filled all fallback =>
    .case filled (fun b member => (all b member).1) (fun b member => (all b member).2) fallback
  cast := .cast
  interval := .interval

theorem all_options_typed :
    (Keyword.all.all fun k => !(k.isKmeansOption || k.isAdOption) ||
      (ParameterType.ofKeyword? k).isSome) = true := by
  decide +kernel

/-- Every reserved parameter has a type. -/
theorem exists_ofKeyword? {algorithm : Algorithm} {k : Keyword} (reserved : algorithm.Reserves k) :
    ∃ type, ParameterType.ofKeyword? k = some type := by
  have option : (k.isKmeansOption || k.isAdOption) = true := by
    cases algorithm with
    | kmeans => exact Bool.or_eq_true_iff.mpr (.inl reserved)
    | ad => exact Bool.or_eq_true_iff.mpr (.inr reserved)
    | ml => exact reserved.elim
  have typed := List.all_eq_true.mp all_options_typed k (Keyword.mem_all k)
  rw [option, Bool.not_true, Bool.false_or] at typed
  exact Option.isSome_iff_exists.mp typed

theorem reserves_of_parameterType? {algorithm : Algorithm} {kind : TokenKind}
    {type : Option ParameterType} (known : Parser.parameterType? algorithm kind = some type) :
    algorithm = .ml ∨ ∃ k, kind = .keyword k ∧ algorithm.Reserves k ∧
      type = ParameterType.ofKeyword? k := by
  unfold Parser.parameterType? at known
  split at known
  · exact .inl rfl
  · split at known
    · next option =>
      cases known
      exact .inr ⟨_, rfl, option, rfl⟩
    · cases known
  · split at known
    · next option =>
      cases known
      exact .inr ⟨_, rfl, option, rfl⟩
    · cases known
  · cases known

/-- A parameter of `kmeans` or `ad` that can be read has a reserved name and a value of its type. -/
theorem Parameter.IsReadable.wellFormed {algorithm : Algorithm} {p : Parameter}
    (readable : p.IsReadable algorithm) : p.WellFormed algorithm := by
  obtain ⟨type, known, accepted⟩ := readable.known
  rcases reserves_of_parameterType? known with ml | ⟨k, kind, reserved, rfl⟩
  · exact .inl ml
  obtain ⟨type, found⟩ := exists_ofKeyword? reserved
  refine .inr ⟨k, type, reserved, ?_, found, accepted type found⟩
  rcases Scan.nameKind_cases p.name.toList with ⟨k', kind', word⟩ | other
  · rw [kind'] at kind
    cases kind
    rw [String.ofList_toList] at word
    rw [← readable.lowercase]
    exact Keyword.toLower_of_ofWord? word
  · rw [other] at kind
    cases kind

theorem Aggregation.Kept.isAggregate {A : Cause → Prop} {a : Aggregation}
    (kept : a.Kept A Expr.WellFormed) : a.function.IsAggregate := by
  obtain ⟨k, args, options, call, kept⟩ := kept
  rw [call]
  exact ⟨_, _, _, rfl, .of_keptCall kept⟩

/-- A command that has all its parts is well-formed if its expressions are. -/
theorem Command.Kept.wellFormed {A : Cause → Prop} {c : Command} (kept : c.Kept A Expr.WellFormed) :
    c.WellFormed := by
  cases c with
  | search body => exact ⟨kept.1.1, kept.2⟩
  | describe | showDatasources | extract => trivial
  | filter | fields | rename | sort | eval | dedup | head | top | rare => exact kept
  | stats body =>
    exact ⟨kept.partitions, kept.nonempty, fun a member => (kept.aggregations a member).isAggregate,
      kept.span⟩
  | learn algorithm params => exact fun p member => (kept p member).wellFormed

end PipedQuery
