import PipedQuery.Pipeline
import PipedQuery.Proofs.Grammar.KeptLevels
import PipedQuery.Proofs.Pipeline.Printed
import PipedQuery.Proofs.Pipeline.Sessions

/-!
# How deep expressions nest

On no path into a parsed expression are more than `maxNesting` operators with one operand, arguments,
choices, conversions and stretches of time entered (`nesting_parseExpression`).  The lists of
membership tests are outside this limit and may nest as deep as they like
(`parseExpression_listChain`).
-/

namespace PipedQuery

namespace Expr

/-- The ways from an expression into a part of it. -/
inductive Entry where
  /-- An operand of an operator between two, or the left side of a membership test. -/
  | operand
  /-- The operand of a sign or of `not`. -/
  | signed
  /-- An argument of a call. -/
  | argument
  /-- A condition or value of a choice, or its fallback. -/
  | choice
  /-- The value of a conversion. -/
  | conversion
  /-- The value of a stretch of time. -/
  | stretch
  /-- An element of the list of a membership test. -/
  | element
deriving DecidableEq

/-- A path into an expression, from its root to one of its parts. -/
inductive Path : Expr → List Entry → Prop where
  | here {e : Expr} : Path e []
  | left {op : BinaryOp} {left right : Expr} {p : List Entry} :
    Path left p → Path (.binary op left right) (.operand :: p)
  | right {op : BinaryOp} {left right : Expr} {p : List Entry} :
    Path right p → Path (.binary op left right) (.operand :: p)
  | signed {op : UnaryOp} {operand : Expr} {p : List Entry} :
    Path operand p → Path (.unary op operand) (.signed :: p)
  | argument {name : String} {family : FunctionFamily} {args : List Expr}
      {options : List NamedOption} {e : Expr} {p : List Entry} :
    e ∈ args → Path e p → Path (.call name family args options) (.argument :: p)
  | condition {branches : List (Expr × Expr)} {fallback : Option Expr} {b : Expr × Expr}
      {p : List Entry} :
    b ∈ branches → Path b.1 p → Path (.case branches fallback) (.choice :: p)
  | value {branches : List (Expr × Expr)} {fallback : Option Expr} {b : Expr × Expr}
      {p : List Entry} :
    b ∈ branches → Path b.2 p → Path (.case branches fallback) (.choice :: p)
  | fallback {branches : List (Expr × Expr)} {e : Expr} {p : List Entry} :
    Path e p → Path (.case branches (some e)) (.choice :: p)
  | cast {value : Expr} {target : DataType} {p : List Entry} :
    Path value p → Path (.cast value target) (.conversion :: p)
  | interval {value : Expr} {unit : Keyword} {p : List Entry} :
    Path value p → Path (.interval value unit) (.stretch :: p)
  | item {item : Expr} {list : List Expr} {p : List Entry} :
    Path item p → Path (.inList item list) (.operand :: p)
  | element {item : Expr} {list : List Expr} {e : Expr} {p : List Entry} :
    e ∈ list → Path e p → Path (.inList item list) (.element :: p)

/-- Whether the limit on nesting counts the entry. -/
def Entry.isGuarded : Entry → Bool
  | .operand | .element => false
  | _ => true

/-- Whether no path into the expression has more entries that the limit counts. -/
def NestsWithin (n : Nat) (e : Expr) : Prop := ∀ p, e.Path p → p.countP Entry.isGuarded ≤ n

section Parts

variable {n : Nat} {e : Expr}

/-- More room does no harm. -/
theorem NestsWithin.deeper (h : e.NestsWithin n) : e.NestsWithin (n + 1) := by
  intro p path
  have bound := h p path
  omega

/-- A list of weighted fields contains no expression that could be nested. -/
theorem nestsWithin_of_weighted (weighted : e.IsWeighted) : e.NestsWithin n := by
  obtain ⟨fields, -, -, rfl⟩ := weighted
  rintro p ⟨⟩
  exact Nat.zero_le n

/-- One entry more takes one level more. -/
theorem countP_cons_le {entry : Entry} {p : List Entry} (bound : p.countP Entry.isGuarded ≤ n) :
    (entry :: p).countP Entry.isGuarded ≤ n + 1 := by
  rw [List.countP_cons]
  split <;> omega

/-- An entry that the limit does not count takes none. -/
theorem countP_cons_of_free {entry : Entry} {p : List Entry} (free : entry.isGuarded = false)
    (bound : p.countP Entry.isGuarded ≤ n) : (entry :: p).countP Entry.isGuarded ≤ n := by
  rw [List.countP_cons_of_neg (by rw [free]; exact Bool.false_ne_true)]
  exact bound

end Parts

end Expr

open PipedQuery.Expr

/-- The ways to build expressions keep the limit on nesting. -/
theorem Grammar.keeps_nestsWithin {A : Cause → Prop} : Keeps A NestsWithin where
  literal := by
    rintro n v - p ⟨⟩
    exact Nat.zero_le n
  field := by
    rintro n name p ⟨⟩
    exact Nat.zero_le n
  group := NestsWithin.deeper
  call := by
    intro n k family args options call p path
    have kept := call.args
    cases path with
    | here => exact Nat.zero_le _
    | argument member path =>
      apply countP_cons_le
      cases args with
      | nil => cases member
      | cons first others =>
        rcases List.mem_cons.mp member with rfl | member
        · rcases kept.head _ rfl with within | ⟨-, weighted⟩
          · exact within _ path
          · exact nestsWithin_of_weighted weighted _ path
        · exact kept.tail _ member _ path
  binary := by
    intro n op left right hleft hright p path
    cases path with
    | here => exact Nat.zero_le _
    | left path => exact countP_cons_of_free rfl (hleft _ path)
    | right path => exact countP_cons_of_free rfl (hright _ path)
  unary := by
    intro n op e h p path
    cases path with
    | here => exact Nat.zero_le _
    | signed path => exact countP_cons_le (h _ path)
  inList := by
    intro n item list hitem _ all p path
    cases path with
    | here => exact Nat.zero_le _
    | item path => exact countP_cons_of_free rfl (hitem _ path)
    | element member path => exact countP_cons_of_free rfl (all _ member _ path)
  case := by
    intro n branches fallback _ hbranches hfallback p path
    cases path with
    | here => exact Nat.zero_le _
    | condition member path => exact countP_cons_le ((hbranches _ member).1 _ path)
    | value member path => exact countP_cons_le ((hbranches _ member).2 _ path)
    | fallback path => exact countP_cons_le (hfallback _ rfl _ path)
  cast := by
    intro n e target h p path
    cases path with
    | here => exact Nat.zero_le _
    | cast path => exact countP_cons_le (h _ path)
  interval := by
    intro n e unit h _ p path
    cases path with
    | here => exact Nat.zero_le _
    | interval path => exact countP_cons_le (h _ path)

/-- A parsed expression is one that the grammar gives. -/
theorem exists_of_parseExpression {text : String} {e : Expr} (parsed : parseExpression text = .ok e) :
    ∃ ts, Genuine ts ∧ (Parser.expression ts).result = .ok e := by
  refine ⟨_, Session.genuine_stage text {}, ?_⟩
  unfold parseExpression Session.standalone at parsed
  split at parsed
  · next e' s run =>
    have result := congrArg Prod.fst run
    split at parsed
    · split at parsed
      · cases parsed
      · cases parsed
        simp only [Session.expression, Session.run] at result
        generalize (Parser.expression _).result = given at result ⊢
        cases given with
        | ok e => exact congrArg _ (Except.ok.inj result)
        | error issue => cases result
    · cases parsed
  · cases parsed

/-- On no path into a parsed expression are more than `maxNesting` parts entered, apart from operands
    between operators and from the lists of membership tests. -/
theorem nesting_parseExpression {text : String} {e : Expr} (parsed : parseExpression text = .ok e) :
    ∀ p, e.Path p → p.countP Entry.isGuarded ≤ maxNesting := by
  obtain ⟨ts, genuine, found⟩ := exists_of_parseExpression parsed
  have grammar : Grammar.full.Gives (fun _ => True) (NestsWithin maxNesting) :=
    Grammar.gives_level Grammar.keeps_nestsWithin maxNesting
  exact (grammar.expression.run genuine fun _ _ => trivial).value found

/-- A negation around a list with a sign in it: two of the three levels are counted. -/
theorem nesting_parseExpression_signs :
    parseExpression "not (x in (-y))" =
        .ok (.unary .not (.inList (.field "x") [.unary .negate (.field "y")])) ∧
      ∀ p, Expr.Path (.unary .not (.inList (.field "x") [.unary .negate (.field "y")])) p →
        p.countP Entry.isGuarded ≤ maxNesting := by
  have built : Buildable (.unary .not (.inList (.field "x") [.unary .negate (.field "y")])) :=
    .unary (.inList (List.cons_ne_nil _ _) (.field_letter 'x')
      (List.forall_mem_singleton.mpr (.unary (.field_letter 'y'))))
  have parsed := parseExpression_readable (built.readable .other) (by decide)
  have x : writeName "x" = "x" := writeName_letter (c := 'x') rfl
  have y : writeName "y" = "y" := writeName_letter (c := 'y') rfl
  have written : text (.unary .not (.inList (.field "x") [.unary .negate (.field "y")])) =
      "not (x in (-y))" := by
    simp only [text, texts, needsParens, parenthesize, x, y]
    rfl
  rw [written] at parsed
  exact ⟨parsed, nesting_parseExpression parsed⟩

section Lists

/-- Membership tests, each in the list of the one before. -/
def listChain : Nat → Expr
  | 0 => .field "x"
  | n + 1 => .inList (.field "x") [listChain n]

/-- Membership tests, each in the list of the one before, as they are written. -/
def listChainText : Nat → String
  | 0 => "x"
  | n + 1 => "x in (" ++ listChainText n ++ ")"

/-- The text of a chain of lists is the one that `listChainText` builds. -/
theorem listChain_text (n : Nat) : (listChain n).text = listChainText n := by
  have name : writeName "x" = "x" := writeName_letter (c := 'x') rfl
  induction n with
  | zero => exact name
  | succ n ih =>
    have written : (listChain (n + 1)).text =
        writeName "x" ++ " in (" ++ (listChain n).text ++ ")" := by
      simp [listChain, text, texts, needsParens, parenthesize]
    rw [written, name, ih]
    rfl

/-- Lists within lists can be written down, however many there are. -/
theorem buildable_listChain (n : Nat) : Buildable (listChain n) := by
  have field : Buildable (.field "x") := .field_letter 'x'
  induction n with
  | zero => exact field
  | succ n ih => exact .inList (List.cons_ne_nil _ _) field (List.forall_mem_singleton.mpr ih)

/-- The reader counts one level for a chain of lists, however long it is. -/
theorem levels_listChain (n : Nat) : (listChain n).levels = 1 := by
  induction n with
  | zero => rfl
  | succ n ih =>
    have levels : (listChain (n + 1)).levels = max 1 (max (listChain n).levels 0) := rfl
    rw [levels, ih]
    rfl

/-- The innermost operand of a chain of lists lies inside all of them. -/
theorem path_listChain (n : Nat) : (listChain n).Path (List.replicate n .element) := by
  induction n with
  | zero => exact .here
  | succ n ih => exact .element (List.mem_singleton.mpr rfl) ih

/-- The lists of membership tests may nest as deep as they like. -/
theorem parseExpression_listChain (n : Nat) :
    parseExpression (listChainText n) = .ok (listChain n) := by
  rw [← listChain_text]
  apply parseExpression_readable ((buildable_listChain n).readable .other)
  rw [levels_listChain]
  decide

/-- One list more than the limit on nesting allows parentheses is not refused. -/
theorem parseExpression_listChain_beyond :
    parseExpression (listChainText 101) = .ok (listChain 101) ∧
      ∃ p, (listChain 101).Path p ∧ maxNesting < p.countP (· ≠ .operand) := by
  refine ⟨parseExpression_listChain 101, _, path_listChain 101, ?_⟩
  rw [List.countP_replicate]
  decide

end Lists

end PipedQuery
