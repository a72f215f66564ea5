import PipedQuery.Proofs.Expr.Readable
import PipedQuery.Proofs.Grammar.Calls
import PipedQuery.Proofs.Grammar.Kept

/-!
# Expressions with a clear text

An expression that is parsed is readable if nothing in its canonical text is taken for something else
(`Grammar.keeps_readable`).  There are four ways in which that may happen, and `Expr.IsClearHere`
lists them.
-/

namespace PipedQuery

namespace Expr

/-- The parts of an expression, each with what comes behind it in the canonical text. -/
inductive Part : Follow → Expr → Follow → Expr → Prop
  | whole {follow e} : Part follow e follow e
  | argument {follow name family args options e behind part} (member : e ∈ args)
      (inside : Part .other e behind part) : Part follow (.call name family args options) behind part
  | left {follow op left right behind part}
      (inside : Part (left.behind (.ofKind (some op.kind))) left behind part) :
    Part follow (.binary op left right) behind part
  | right {follow op left right behind part} (inside : Part (right.behind follow) right behind part) :
    Part follow (.binary op left right) behind part
  | operand {follow op operand behind part}
      (inside : Part (operand.behind follow) operand behind part) :
    Part follow (.unary op operand) behind part
  | item {follow item list behind part} (inside : Part .other item behind part) :
    Part follow (.inList item list) behind part
  | element {follow item list e behind part} (member : e ∈ list)
      (inside : Part .other e behind part) : Part follow (.inList item list) behind part
  | condition {follow branches fallback b behind part} (member : b ∈ branches)
      (inside : Part .other b.1 behind part) : Part follow (.case branches fallback) behind part
  | value {follow branches fallback b behind part} (member : b ∈ branches)
      (inside : Part .other b.2 behind part) : Part follow (.case branches fallback) behind part
  /-- The last value stands before the word `else`. -/
  | lastValue {follow branches fallback b behind part} (last : b ∈ branches.getLast?)
      (more : fallback.isSome) (inside : Part .value b.2 behind part) :
    Part follow (.case branches fallback) behind part
  | fallback {follow branches e behind part} (inside : Part .other e behind part) :
    Part follow (.case branches (some e)) behind part
  | converted {follow value target behind part} (inside : Part .other value behind part) :
    Part follow (.cast value target) behind part
  | stretch {follow value unit behind part} (inside : Part .other value behind part) :
    Part follow (.interval value unit) behind part

/-- Whether the canonical text of the expression is not taken for something else, apart from its
    parts: a name scans as itself and is no `interval` or `percentile` with a value behind it,
    `position` reads its first argument as a sum, `like` stands before no parenthesis, where it is a
    function, and `interval` stands before a lexeme that its value may start with. -/
def IsClearHere (follow : Follow) : Expr → Prop
  | .field name => IsScannable name ∧ ¬follow.captures name
  | .call name _ args _ => name = Keyword.position.lowercase → ∀ e ∈ args.head?, e.isSum = true
  | .binary op _ right => op = .like → right.needsParens = false
  | .interval value _ => (firstKind value.operandLexemes).any startsIntervalValue = true
  | _ => True

/-- Whether no part of the canonical text is taken for something else. -/
def IsClear (follow : Follow) (e : Expr) : Prop :=
  ∀ behind part, Part follow e behind part → part.IsClearHere behind

/-- The text of a readable expression is clear. -/
theorem Readable.isClear {follow : Follow} {e : Expr} (readable : Readable follow e) :
    e.IsClear follow := by
  intro behind part inside
  induction inside with
  | @whole follow e =>
    cases readable with
    | field scannable free => exact ⟨scannable, free⟩
    | call _ _ _ position => exact fun name => position (Keyword.eq_of_lowercase_eq name)
    | multiField multi _ _ _ =>
      intro name
      rw [Keyword.eq_of_lowercase_eq name] at multi
      cases multi
    | binary notCall => exact notCall
    | interval _ starts => exact starts
    | _ => trivial
  | argument member inside ih =>
    cases readable with
    | call _ _ _ _ args => exact ih (args _ member)
    | multiField _ _ _ arg =>
      rcases List.mem_cons.mp member with rfl | member
      · cases inside
        trivial
      · obtain rfl := List.mem_singleton.mp member
        exact ih arg
  | left _ ih => cases readable with | binary _ left _ => exact ih left
  | right _ ih => cases readable with | binary _ _ right => exact ih right
  | operand _ ih => cases readable with | unary operand => exact ih operand
  | item _ ih => cases readable with | inList _ item _ => exact ih item
  | element member _ ih => cases readable with | inList _ _ list => exact ih (list _ member)
  | condition member _ ih => cases readable with | case _ conditions => exact ih (conditions _ member)
  | value member _ ih => cases readable with | case _ _ values => exact ih (values _ member)
  | lastValue last more _ ih => cases readable with | case _ _ _ value => exact ih (value more _ last)
  | fallback _ ih => cases readable with | case _ _ _ _ fallback => exact ih (fallback _ rfl)
  | converted _ ih => cases readable with | cast value => exact ih value
  | stretch _ ih => cases readable with | interval _ _ value => exact ih value

end Expr

open PipedQuery.Expr

theorem length_of_isMultiField {k : Keyword} {args : List Expr} (multi : k.isMultiField = true)
    (accepted : ∀ arity ∈ k.arity?, arity.accepts args.length = true) : args.length = 2 := by
  have exact : k.arity? = some (.exactly 2) := by
    unfold Keyword.isMultiField at multi
    split at multi
    · rfl
    · rfl
    · rfl
    · cases multi
  have both := accepted _ exact
  rw [Arity.accepts, Bool.and_eq_true, decide_eq_true_eq] at both
  exact Nat.le_antisymm (of_decide_eq_true both.2) both.1

/-- A call with a right number of arguments is readable if its arguments are, but for weighted fields
    at their start. -/
theorem KeptCall.readable {P : Expr → Prop} {k : Keyword} {family : FunctionFamily}
    {args : List Expr} {options : List NamedOption} {follow : Follow}
    (kept : KeptCall Cause.IsWarning P k family args options)
    (position : k = .position → ∀ e ∈ args.head?, e.isSum = true)
    (readable : ∀ e ∈ args, P e → Readable .other e) :
    Readable follow (.call k.lowercase family args options) := by
  obtain ⟨function, notCast, arity, args_kept, options_kept⟩ := kept
  have accepted : ∀ a ∈ k.arity?, a.accepts args.length = true := by
    intro a found
    rcases arity a found with right | warning
    · exact right
    · cases warning none
  have known : ∀ o ∈ options, o.IsReadable := fun o member => (options_kept o member).2
  by_cases weighted : k.isMultiField = true ∧ ∃ e ∈ args.head?, e.IsWeighted
  · obtain ⟨multi, e, first, fields, filled, weights, rfl⟩ := weighted
    obtain rfl : FunctionFamily.relevance = family :=
      Option.some.inj ((Keyword.family?_of_isMultiField multi).symm.trans function)
    match args, first, length_of_isMultiField multi accepted with
    | [_, arg], rfl, _ =>
      have last : P arg := args_kept.tail arg (by simp)
      exact .multiField multi filled weights (readable arg (by simp) last) known
  · have all : ∀ e ∈ args, P e := by
      cases args with
      | nil => nofun
      | cons first others =>
        rcases args_kept.head first rfl with proper | fields
        · exact List.forall_mem_cons.mpr ⟨proper, args_kept.tail⟩
        · exact absurd ⟨fields.1, first, rfl, fields.2⟩ weighted
    refine .call function notCast ?_ position (fun e member => readable e member (all e member)) ?_ known
    · cases found : k.arity? with
      | none => rfl
      | some a => exact accepted a found
    · intro some
      obtain ⟨o, member⟩ := List.exists_mem_of_ne_nil options some
      exact (options_kept o member).1

/-- An expression that is built without errors is readable if its text is clear. -/
theorem Grammar.keeps_readable :
    Keeps Cause.IsWarning fun _ e => ∀ follow, e.IsClear follow → Readable follow e where
  literal := fun unsigned _ _ => .literal unsigned
  field := by
    intro n name follow clear
    obtain ⟨scannable, free⟩ := clear _ _ .whole
    exact .field scannable free
  group := id
  call := by
    intro n k family args options kept follow clear
    have position : k = .position → ∀ e ∈ args.head?, e.isSum = true := by
      rintro rfl
      exact clear _ _ .whole rfl
    exact kept.readable position fun e member readable =>
      readable .other fun behind part inside => clear _ _ (.argument member inside)
  binary := by
    intro n op left right hleft hright follow clear
    exact .binary (clear _ _ .whole) (hleft _ fun _ _ inside => clear _ _ (.left inside))
      (hright _ fun _ _ inside => clear _ _ (.right inside))
  unary := by
    intro n op e h follow clear
    exact .unary (h _ fun _ _ inside => clear _ _ (.operand inside))
  inList := by
    intro n item list hitem filled all follow clear
    exact .inList filled (hitem _ fun _ _ inside => clear _ _ (.item inside))
      fun e member => all e member _ fun _ _ inside => clear _ _ (.element member inside)
  case := by
    intro n branches fallback filled all hfallback follow clear
    refine .case filled ?_ ?_ ?_ ?_
    · exact fun b member => (all b member).1 _ fun _ _ inside => clear _ _ (.condition member inside)
    · exact fun b member => (all b member).2 _ fun _ _ inside => clear _ _ (.value member inside)
    · intro more b last
      exact (all b (List.mem_of_getLast? last)).2 _ fun _ _ inside =>
        clear _ _ (.lastValue last more inside)
    · rintro e rfl
      exact hfallback e rfl _ fun _ _ inside => clear _ _ (.fallback inside)
  cast := by
    intro n e target h follow clear
    exact .cast (h _ fun _ _ inside => clear _ _ (.converted inside))
  interval := by
    intro n e unit h isUnit follow clear
    exact .interval isUnit (clear _ _ .whole) (h _ fun _ _ inside => clear _ _ (.stretch inside))

end PipedQuery
