import PipedQuery.Proofs.Expr.Readable

/-!
# Hand-built expressions

A fragment of expressions that can be built without thinking of their text.  Every one of them is
readable (`Expr.Buildable.readable`), and reading it takes at most two levels of nesting for each
level of its tree (`Expr.Buildable.levels_le`).
-/

namespace PipedQuery

namespace Expr

mutual

/-- How many steps the deepest part is below the whole expression. -/
def height : Expr → Nat
  | .literal _ | .field _ | .weighted _ => 0
  | .call _ _ args _ => listHeight args
  | .binary _ left right => max left.height right.height + 1
  | .unary _ operand => operand.height + 1
  | .inList item list => max (item.height + 1) (listHeight list)
  | .case branches none => branchHeight branches
  | .case branches (some fallback) => max (branchHeight branches) (fallback.height + 1)
  | .cast value _ => value.height + 1
  | .interval value _ => value.height + 1

/-- How many steps the deepest part of some expressions is below what they are parts of. -/
def listHeight : List Expr → Nat
  | [] => 0
  | e :: es => max (e.height + 1) (listHeight es)

/-- How many steps the deepest part of some branches is below their choice. -/
def branchHeight : List (Expr × Expr) → Nat
  | [] => 0
  | (condition, value) :: branches =>
    max (max condition.height value.height + 1) (branchHeight branches)

end

theorem lt_listHeight {es : List Expr} {e : Expr} (member : e ∈ es) : e.height < listHeight es := by
  induction es with
  | nil => cases member
  | cons e' es ih =>
    rw [listHeight]
    rcases List.mem_cons.mp member with rfl | member
    · omega
    · have := ih member
      omega

theorem lt_branchHeight {branches : List (Expr × Expr)} {b : Expr × Expr} (member : b ∈ branches) :
    b.1.height < branchHeight branches ∧ b.2.height < branchHeight branches := by
  induction branches with
  | nil => cases member
  | cons b' branches ih =>
    rw [branchHeight]
    rcases List.mem_cons.mp member with rfl | member
    · omega
    · have := ih member
      omega

/-- The expressions made of constants without a sign, fields of any name but a few, operators,
    membership tests, choices, conversions and calls of functions that take their arguments in the
    plain way. -/
inductive Buildable : Expr → Prop
  | int {n : Int} (positive : 0 ≤ n) (small : IsIntConstant n) : Buildable (.literal (.int n))
  | str (s : String) : Buildable (.literal (.str s))
  | bool (b : Bool) : Buildable (.literal (.bool b))
  | date (kind : DateKind) (value : String) : Buildable (.literal (.date kind value))
  | field {name : String} (noDotStar : ¬['.', '*'] <:+: name.toList)
    (notInterval : name.map Char.toLower ≠ "interval")
    (notPercentile : name.map Char.toLower ≠ "percentile") : Buildable (.field name)
  | binary {op left right} (notCall : op = .like → right.needsParens = false)
    (left_buildable : Buildable left) (right_buildable : Buildable right) :
    Buildable (.binary op left right)
  | unary {op operand} (operand_buildable : Buildable operand) : Buildable (.unary op operand)
  | inList {item list} (nonempty : list ≠ []) (item_buildable : Buildable item)
    (list_buildable : ∀ e ∈ list, Buildable e) : Buildable (.inList item list)
  | case {branches fallback} (nonempty : branches ≠ [])
    (conditions_buildable : ∀ b ∈ branches, Buildable b.1)
    (values_buildable : ∀ b ∈ branches, Buildable b.2)
    (fallback_buildable : ∀ e ∈ fallback, Buildable e) : Buildable (.case branches fallback)
  | cast {value target} (value_buildable : Buildable value) : Buildable (.cast value target)
  | call {k : Keyword} {family args} (function : k.family? = some family)
    (notSpecial : k ≠ .cast ∧ k ≠ .position)
    (accepted : ∀ arity ∈ k.arity?, arity.accepts args.length = true)
    (args_buildable : ∀ e ∈ args, Buildable e) :
    Buildable (.call k.lowercase family args [])

variable {e : Expr}

theorem hasDotStar_of_not_infix {cs : List Char} (h : ¬['.', '*'] <:+: cs) :
    hasDotStar cs = false := by
  induction cs with
  | nil => rfl
  | cons c cs ih =>
    have later : ¬['.', '*'] <:+: cs := fun inside => h (inside.trans (List.suffix_cons c cs).isInfix)
    rw [hasDotStar]
    · exact ih later
    · rintro cs' rfl rfl
      exact h ⟨[], cs', rfl⟩

/-- A name that is neither `interval` nor `percentile` means itself before everything. -/
theorem not_captures_of_toLower {name : String} (notInterval : name.map Char.toLower ≠ "interval")
    (notPercentile : name.map Char.toLower ≠ "percentile") (follow : Follow) :
    ¬follow.captures name := by
  rintro (⟨-, word⟩ | ⟨-, word⟩)
  · exact notInterval ((Keyword.toLower_of_ofWord? word).trans (by decide +kernel))
  · exact notPercentile ((Keyword.toLower_of_ofWord? word).trans (by decide +kernel))

/-- Every letter is a name that means itself. -/
theorem Buildable.field_letter (c : Char) : Buildable (.field (String.singleton c)) := by
  have short {name : String} (long : 1 < name.length) :
      (String.singleton c).map Char.toLower ≠ name := by
    rintro rfl
    rw [← String.length_toList, String.toList_map, String.toList_singleton] at long
    exact absurd long (Nat.lt_irrefl 1)
  refine .field (fun inside => ?_) (short (by decide)) (short (by decide))
  have length := inside.length_le
  simp at length

/-- Every expression of the fragment is readable before everything. -/
theorem Buildable.readable (built : Buildable e) (follow : Follow) : Readable follow e := by
  induction built generalizing follow with
  | int positive small => exact .literal ⟨positive, small⟩
  | str | bool | date => exact .literal trivial
  | field noDotStar notInterval notPercentile =>
    exact .field (fun _ => hasDotStar_of_not_infix noDotStar)
      (not_captures_of_toLower notInterval notPercentile follow)
  | binary notCall _ _ ihl ihr => exact .binary notCall (ihl _) (ihr _)
  | unary _ ih => exact .unary (ih _)
  | inList nonempty _ _ ihi ihl => exact .inList nonempty (ihi _) fun e member => ihl e member _
  | case nonempty _ _ _ ihc ihv ihf =>
    exact .case nonempty (fun b member => ihc b member _) (fun b member => ihv b member _)
      (fun _ b member => ihv b (List.mem_of_getLast? member) _) fun e member => ihf e member _
  | cast _ ih => exact .cast (ih _)
  | @call k family args function notSpecial accepted _ ih =>
    refine .call function notSpecial.1 ?_ (fun position => absurd position notSpecial.2)
      (fun e member => ih e member _) (by simp) (by simp)
    cases arity : k.arity? with
    | none => rfl
    | some a => exact accepted a arity

theorem height_pos (needed : e.needsParens = true) : 1 ≤ e.height := by
  cases e with
  | binary | unary => simp [height]
  | inList item list => simp only [height]; omega
  | _ => cases needed

/-- Parentheses around an operand are one more level. -/
theorem operandLevels_le (low : e.levels ≤ max 1 (2 * e.height)) :
    e.levels + e.needsParens.toNat ≤ 2 * e.height + 1 := by
  cases needed : e.needsParens with
  | false => simp only [Bool.toNat_false]; omega
  | true =>
    have high := height_pos needed
    simp only [Bool.toNat_true]
    omega

theorem listLevels_le_listHeight {es : List Expr}
    (low : ∀ e ∈ es, e.levels ≤ max 1 (2 * e.height)) :
    listLevels es + 1 ≤ max 1 (2 * listHeight es) := by
  cases es with
  | nil => simp [listLevels, listHeight]
  | cons e es =>
    have here := lt_listHeight (List.mem_cons_self (a := e) (l := es))
    have all : listLevels (e :: es) ≤ 2 * listHeight (e :: es) - 1 := by
      rw [listLevels_le]
      intro e' member
      have below := lt_listHeight member
      have := low e' member
      omega
    omega

theorem branchLevels_le_branchHeight {branches : List (Expr × Expr)}
    (conditions : ∀ b ∈ branches, b.1.levels ≤ max 1 (2 * b.1.height))
    (values : ∀ b ∈ branches, b.2.levels ≤ max 1 (2 * b.2.height)) :
    branchLevels branches + 1 ≤ max 1 (2 * branchHeight branches) := by
  cases branches with
  | nil => simp [branchLevels, branchHeight]
  | cons b branches =>
    have here := lt_branchHeight (List.mem_cons_self (a := b) (l := branches))
    have all : branchLevels (b :: branches) ≤ 2 * branchHeight (b :: branches) - 1 := by
      rw [branchLevels_le]
      intro b' member
      have below := lt_branchHeight member
      have := conditions b' member
      have := values b' member
      omega
    omega

/-- Reading an expression of the fragment takes at most two levels for each level of the tree, one
    for an operator in front and one for its parentheses. -/
theorem Buildable.levels_le (built : Buildable e) : e.levels ≤ max 1 (2 * e.height) := by
  induction built with
  | int | str | bool | date | field => simp [levels, height]
  | binary _ _ _ ihl ihr =>
    have left := operandLevels_le ihl
    have right := operandLevels_le ihr
    rw [levels, height]
    omega
  | unary _ ih =>
    have operand := operandLevels_le ih
    rw [levels, height]
    omega
  | inList _ _ _ ihi ihl =>
    have item := operandLevels_le ihi
    have items := listLevels_le_listHeight ihl
    rw [levels, height]
    omega
  | @case branches fallback _ _ _ _ ihc ihv ihf =>
    have choices := branchLevels_le_branchHeight ihc ihv
    cases fallback with
    | none =>
      rw [levels, height]
      exact choices
    | some e =>
      have other := ihf e rfl
      rw [levels, height]
      omega
  | cast _ ih =>
    rw [levels, height]
    omega
  | call _ _ _ _ ih =>
    rw [levels, height]
    exact listLevels_le_listHeight ih

end Expr

end PipedQuery
