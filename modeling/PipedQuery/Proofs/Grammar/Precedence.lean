import PipedQuery.Proofs.Grammar.Chain
import PipedQuery.Proofs.Grammar.Knot
import PipedQuery.Proofs.Grammar.Names
import PipedQuery.Proofs.Grammar.Operators
import PipedQuery.Proofs.Grammar.SplitTree
import PipedQuery.Proofs.Pipeline.Standalone

/-!
# Chains of operators

What the expression grammar makes of names joined by operators.  The parser of each precedence
level reads the longest part of the chain with no looser operator (`ReadsChain`), and its loop over
the parts builds the tree that `splitTree` builds by splitting.
-/

namespace PipedQuery

/-- A name in a chain, and how it is joined to what comes before it. -/
inductive Link where
  /-- By an operator. -/
  | joined (op : BinaryOp) (name : String)
  /-- By an `and` that is left out. -/
  | adjoined (name : String)

namespace Link

/-- The operator in front of the name. -/
def op : Link → BinaryOp
  | .joined op _ => op
  | .adjoined _ => .and

/-- The name. -/
def name : Link → String
  | .joined _ name | .adjoined name => name

/-- The link as it is written behind the chain. -/
def text : Link → String
  | .joined op name => " " ++ op.symbol ++ " " ++ name
  | .adjoined name => " " ++ name

/-- The lexemes of the link. -/
def lexemes : Link → List Lexeme
  | .joined op name => [op.lexeme, ⟨.identifier, name⟩]
  | .adjoined name => [⟨.identifier, name⟩]

/-- The operator and its right operand. -/
def entry (l : Link) : BinaryOp × Expr := (l.op, .field l.name)

end Link

/-- The chain as it is written. -/
def chainText (first : String) (links : List Link) : String :=
  first ++ String.join (links.map Link.text)

/-- The lexemes of a chain. -/
def chainLexemes (first : String) (links : List Link) : List Lexeme :=
  ⟨.identifier, first⟩ :: links.flatMap Link.lexemes

/-- The tree of a chain, split at its loosest operators. -/
def chainTree (first : String) (links : List Link) : Expr :=
  splitTree (.field first) (links.map Link.entry)

/-- Whether a text is a single name of no special meaning. -/
def IsBareName (name : String) : Prop :=
  (scan name).map Token.toLexeme = [⟨.identifier, name⟩] ∧ isElse name = false

instance (name : String) : Decidable (IsBareName name) := inferInstanceAs (Decidable (_ ∧ _))

/-- Whether the operators of a chain are all of the given level or tighter. -/
def TightLinks (level : Nat) (links : List Link) : Prop := ∀ l ∈ links, l.op.looseness ≤ level

/-- Whether the first operator of a chain, if there is any, is looser than the given level. -/
def LooseHead (level : Nat) (links : List Link) : Prop :=
  ∀ l ∈ links.head?, level < l.op.looseness

/-- Whether no name of a chain is `else`. -/
def NoElse (links : List Link) : Prop := ∀ l ∈ links, isElse l.name = false

/-- What a parser of the given level does with a chain: it reads as far as the operators are no
    looser than that, unless two comparisons meet in between. -/
def ReadsChain (level : Nat) (p : StageParser Expr) : Prop :=
  ∀ first inner outer, TightLinks level inner → LooseHead level outer → NoElse (inner ++ outer) →
    (¬ComparisonsMeet (inner.map Link.op) →
      p (chainLexemes first (inner ++ outer)) =
        ⟨.ok (chainTree first inner), outer.flatMap Link.lexemes, []⟩) ∧
    (ComparisonsMeet (inner.map Link.op) →
      ∃ issue rest, p (chainLexemes first (inner ++ outer)) = ⟨.error issue, rest, []⟩)

/-- What a parser of the operators of one level does between the links of a chain. -/
structure ReadsOperator (level : Nat) (op? : StageParser (Option BinaryOp)) : Prop where
  taken : ∀ (l : Link) (more : List Lexeme), l.op.looseness = level → isElse l.name = false →
    op? (l.lexemes ++ more) = ⟨.ok (some l.op), ⟨.identifier, l.name⟩ :: more, []⟩
  left : ∀ (l : Link) (more : List Lexeme), level < l.op.looseness →
    op? (l.lexemes ++ more) = ⟨.ok none, l.lexemes ++ more, []⟩
  ended : op? [] = ⟨.ok none, [], []⟩

theorem ReadsOperator.stops {level : Nat} {op? : StageParser (Option BinaryOp)}
    (h : ReadsOperator level op?) {links : List Link} (loose : LooseHead level links) :
    op? (links.flatMap Link.lexemes) = ⟨.ok none, links.flatMap Link.lexemes, []⟩ := by
  cases links with
  | nil => exact h.ended
  | cons l links => exact h.left l (links.flatMap Link.lexemes) (loose l (by simp))

/-- Every chain is cut at its first operator that is not tighter than a level. -/
theorem exists_tight_append (level : Nat) (links : List Link) :
    ∃ inner outer, links = inner ++ outer ∧ TightLinks level inner ∧ LooseHead level outer := by
  induction links with
  | nil => exact ⟨[], [], rfl, by simp [TightLinks], by simp [LooseHead]⟩
  | cons l links ih =>
    by_cases loose : level < l.op.looseness
    · exact ⟨[], l :: links, rfl, by simp [TightLinks], by simpa [LooseHead] using loose⟩
    · obtain ⟨inner, outer, rfl, tight, head⟩ := ih
      refine ⟨l :: inner, outer, rfl, ?_, head⟩
      intro l' member
      rcases List.mem_cons.mp member with rfl | member
      · exact Nat.not_lt.mp loose
      · exact tight l' member

theorem chainTree_append (first : String) {before behind : List Link} {l : Link}
    (left : TightLinks l.op.looseness before)
    (right : ∀ l' ∈ behind, l'.op.looseness < l.op.looseness) :
    chainTree first (before ++ l :: behind) =
      .binary l.op (chainTree first before) (chainTree l.name behind) := by
  unfold chainTree
  rw [List.map_append, List.map_cons]
  apply splitTree_append
  · simpa [Link.entry, TightLinks] using left
  · simpa [Link.entry] using right

theorem LooseHead.append {level : Nat} {inner outer : List Link} (head : LooseHead level inner)
    (loose : LooseHead (level + 1) outer) : LooseHead level (inner ++ outer) := by
  intro l member
  cases inner with
  | nil => exact Nat.lt_of_succ_lt (loose l member)
  | cons o inner => exact head l member

section Loop

open PipedQuery.Parser

variable {level : Nat} {operand : StageParser Expr} {op? : StageParser (Option BinaryOp)}

theorem countP_comparison {links : List Link} (tight : TightLinks 2 links) :
    (links.map Link.op).countP BinaryOp.isComparison = 0 := by
  apply List.countP_eq_zero.mpr
  intro op member comparison
  obtain ⟨l, found, rfl⟩ := List.mem_map.mp member
  have := BinaryOp.isComparison_iff.mp comparison
  have := tight l found
  omega

theorem not_meet_of_tight {links : List Link} (tight : TightLinks 2 links) :
    ¬ComparisonsMeet (links.map Link.op) :=
  ComparisonsMeet.not_of_countP (by simp [countP_comparison tight])

theorem not_meet_append_cons {before behind : List Link} {l : Link} (other : l.op.looseness ≠ 3)
    (left : TightLinks l.op.looseness before) (right : TightLinks l.op.looseness behind)
    (one : ¬ComparisonsMeet (before.map Link.op)) (two : ¬ComparisonsMeet (behind.map Link.op)) :
    ¬ComparisonsMeet ((before ++ l :: behind).map Link.op) := by
  by_cases loose : 3 < l.op.looseness
  · rw [List.map_append, List.map_cons]
    intro meet
    rcases meet.of_append_cons (BinaryOp.isLogical_iff.mpr loose) with meet | meet
    · exact one meet
    · exact two meet
  · apply not_meet_of_tight
    intro l' member
    have tighter : l'.op.looseness ≤ l.op.looseness := by
      rcases List.mem_append.mp member with member | member
      · exact left l' member
      rcases List.mem_cons.mp member with rfl | member
      · exact Nat.le_refl _
      · exact right l' member
    omega

/-- The loop goes on with a tree over a part of the chain that it has read. -/
theorem iterate_chainStep (other : level + 1 ≠ 3) (reads : ReadsChain level operand)
    (operator : ReadsOperator (level + 1) op?) (first : String) (outer : List Link)
    (loose : LooseHead (level + 1) outer) (before inner : List Link)
    (seen : TightLinks (level + 1) before) (tight : TightLinks (level + 1) inner)
    (head : LooseHead level inner) (names : NoElse (inner ++ outer))
    (apart : ¬ComparisonsMeet (before.map Link.op)) :
    (¬ComparisonsMeet ((before ++ inner).map Link.op) →
      iterate (chainStep operand op?) (chainTree first before)
          ((inner ++ outer).flatMap Link.lexemes) =
        ⟨.ok (chainTree first (before ++ inner)), outer.flatMap Link.lexemes, []⟩) ∧
    (ComparisonsMeet ((before ++ inner).map Link.op) →
      ∃ issue rest, iterate (chainStep operand op?) (chainTree first before)
          ((inner ++ outer).flatMap Link.lexemes) = ⟨.error issue, rest, []⟩) := by
  match inner with
  | [] =>
    have stop : chainStep operand op? (chainTree first before) (outer.flatMap Link.lexemes) =
        ⟨.ok none, outer.flatMap Link.lexemes, []⟩ := by
      exact chainStep_of_none (operator.stops loose)
    rw [List.append_nil, List.nil_append, iterate_of_none stop]
    exact ⟨fun _ => rfl, fun meet => absurd meet apart⟩
  | l :: links =>
    have here : l.op.looseness = level + 1 := by
      have := tight l (by simp)
      have := head l (by simp)
      omega
    obtain ⟨part, others, split, close, head'⟩ := exists_tight_append level links
    have fewer : others.length ≤ links.length := by simp [split]
    have tight' : TightLinks (level + 1) others := fun l' member => tight l' (by simp [split, member])
    have names' : NoElse (part ++ (others ++ outer)) := fun l' member => names l' (by simp_all)
    have loose' : LooseHead level (others ++ outer) := head'.append loose
    obtain ⟨sound, broken⟩ := reads l.name part (others ++ outer) close loose' names'
    have step := chainStep_of_some operand (chainTree first before)
      (operator.taken l ((part ++ (others ++ outer)).flatMap Link.lexemes) here (names l (by simp)))
    have text : (l :: links ++ outer).flatMap Link.lexemes =
        l.lexemes ++ (part ++ (others ++ outer)).flatMap Link.lexemes := by simp [split]
    have whole : before ++ l :: links = before ++ l :: part ++ others := by simp [split]
    rw [text, whole]
    by_cases meet : ComparisonsMeet (part.map Link.op)
    · obtain ⟨issue, rest, failed⟩ := broken meet
      rw [← chainLexemes, failed] at step
      refine ⟨fun apart' => absurd ?_ apart', fun _ => ⟨issue, rest, iterate_of_error step⟩⟩
      have := (meet.append_left ((before ++ [l]).map Link.op)).append_right (others.map Link.op)
      simpa using this
    · rw [← chainLexemes, sound meet, Outcome.bind_ok, Parser.pure_run, Outcome.after_nil,
        ← chainTree_append first (fun l' member => here ▸ seen l' member)
          (fun l' member => here ▸ Nat.lt_succ_of_le (close l' member))] at step
      have shorter : ((others ++ outer).flatMap Link.lexemes).length <
          (l.lexemes ++ (part ++ (others ++ outer)).flatMap Link.lexemes).length := by
        have taken : 0 < l.lexemes.length := by cases l <;> exact Nat.zero_lt_succ _
        simp only [List.flatMap_append, List.length_append]
        omega
      have seen' : TightLinks (level + 1) (before ++ l :: part) := by
        intro l' member
        rcases List.mem_append.mp member with member | member
        · exact seen l' member
        · exact tight l' (split ▸ List.cons_subset_cons l (List.subset_append_left part others) member)
      have ih := iterate_chainStep other reads operator first outer loose (before ++ l :: part)
        others seen' tight' head' (fun l' member => names' l' (by simp_all))
        (not_meet_append_cons (here ▸ other) (here ▸ seen)
          (fun l' member => here ▸ Nat.le_succ_of_le (close l' member)) apart meet)
      rw [iterate_of_some step shorter, Outcome.after_nil]
      exact ih
termination_by inner.length
decreasing_by simp only [List.length_cons]; omega

/-- The loop over the operators of one level reads chains up to that level. -/
theorem ReadsChain.chain (reads : ReadsChain level operand)
    (operator : ReadsOperator (level + 1) op?) (other : level + 1 ≠ 3) :
    ReadsChain (level + 1) (Parser.chain operand op?) := by
  intro first inner outer tight loose names
  obtain ⟨before, others, rfl, close, head⟩ := exists_tight_append level inner
  have names' : NoElse (before ++ (others ++ outer)) := by simpa using names
  obtain ⟨sound, broken⟩ := reads first before (others ++ outer) close (head.append loose) names'
  rw [chain_run, List.append_assoc]
  by_cases meet : ComparisonsMeet (before.map Link.op)
  · obtain ⟨issue, rest, failed⟩ := broken meet
    refine ⟨fun apart => absurd ?_ apart, fun _ => ⟨issue, rest, by rw [failed]; rfl⟩⟩
    simpa using meet.append_right (others.map Link.op)
  · rw [sound meet, Outcome.bind_ok, Outcome.after_nil]
    exact iterate_chainStep other reads operator first outer loose before others
      (fun l member => Nat.le_succ_of_le (close l member))
      (fun l member => tight l (List.mem_append_right before member)) head
      (fun l member => names' l (List.mem_append_right before member)) meet

end Loop

/-! The levels of the grammar. -/

/-- Operators that the kind of their lexeme tells apart, of a level other than that of `and`. -/
theorem readsOperator_operator? {level : Nat} {find : TokenKind → Option BinaryOp} (other : level ≠ 4)
    (own : ∀ op : BinaryOp, op.looseness = level → find op.kind = some op)
    (looser : ∀ op : BinaryOp, level < op.looseness → find op.kind = none)
    (name : find .identifier = none) : ReadsOperator level (Parser.operator? find) where
  taken l more here _ := by
    cases l with
    | joined op name =>
      refine Parser.operator?_of_some ?_
      simpa [Link.lexemes, Link.op] using own op here
    | adjoined name => exact absurd here.symm other
  left l more loose := by
    cases l with
    | joined op name =>
      refine Parser.operator?_of_none ?_
      simpa [Link.lexemes] using looser op loose
    | adjoined name' =>
      refine Parser.operator?_of_none ?_
      simpa [Link.lexemes] using name
  ended := rfl

/-- A keyword that is the only operator of its level. -/
theorem readsOperator_keywordOperator? {level : Nat} {k : Keyword} {op : BinaryOp} (other : level ≠ 4)
    (kind : op.kind = .keyword k) (own : ∀ op' : BinaryOp, op'.looseness = level → op' = op)
    (looser : ∀ op' : BinaryOp, level < op'.looseness → op'.kind ≠ .keyword k) :
    ReadsOperator level (Parser.keywordOperator? k op) where
  taken l more here _ := by
    cases l with
    | joined op' name =>
      obtain rfl := own op' here
      exact Parser.keywordOperator?_of_eq (by simpa using kind)
    | adjoined name => exact absurd here.symm other
  left l more loose := by
    cases l with
    | joined op' name =>
      refine Parser.keywordOperator?_of_ne ?_
      simpa [Link.lexemes] using looser op' loose
    | adjoined name => exact Parser.keywordOperator?_of_ne nofun
  ended := rfl

theorem readsOperator_multiplicative : ReadsOperator 1 (Parser.operator? multiplicativeOp?) :=
  readsOperator_operator? (by decide) (fun op => by cases op <;> decide)
    (fun op => by cases op <;> decide) rfl

theorem readsOperator_additive : ReadsOperator 2 (Parser.operator? additiveOp?) :=
  readsOperator_operator? (by decide) (fun op => by cases op <;> decide)
    (fun op => by cases op <;> decide) rfl

theorem readsOperator_and : ReadsOperator 4 Parser.andOperator? where
  taken l more level name := by
    cases l with
    | joined op name => cases op <;> first | rfl | cases level
    | adjoined name' =>
      have name : isElse name' = false := name
      simp [Parser.andOperator?, Link.lexemes, Parser.eatKeyword, Parser.eat_run,
        startsImpliedOperand, name, Link.op, Link.name]
  left l more loose := by
    cases l with
    | joined op name => cases op <;> first | rfl | simp [Link.op, BinaryOp.looseness] at loose
    | adjoined name => simp [Link.op, BinaryOp.looseness] at loose
  ended := rfl

theorem readsOperator_or : ReadsOperator 5 (Parser.keywordOperator? .or_ .or) :=
  readsOperator_keywordOperator? (by decide) rfl (fun op => by cases op <;> decide)
    fun op => by cases op <;> decide

theorem readsOperator_xor : ReadsOperator 6 (Parser.keywordOperator? .xor_ .xor) :=
  readsOperator_keywordOperator? (by decide) rfl (fun op => by cases op <;> decide)
    fun op => by cases op <;> decide

section Levels

open PipedQuery.Parser

/-- No link looks like the rest of a name, a sign, a call or an option. -/
theorem firstKind_links (links : List Link) :
    firstKind (links.flatMap Link.lexemes) ≠ some (.mark .dot) ∧
      firstKind (links.flatMap Link.lexemes) ≠ some (.mark .lParen) := by
  rcases links with _ | ⟨⟨op, name⟩ | name, links⟩
  · simp
  · cases op <;> simp [Link.lexemes, BinaryOp.kind]
  · simp [Link.lexemes]

/-- The parser of signed operands reads the first name of a chain. -/
theorem readsChain_signed (deeper : StageGrammar) : ReadsChain 0 (Grammar.signed deeper) := by
  intro first inner outer tight loose names
  have empty : inner = [] := by
    cases inner with
    | nil => rfl
    | cons l inner =>
      have := tight l (by simp)
      rcases l with ⟨op, _⟩ | _
      · cases op <;> simp [Link.op, BinaryOp.looseness] at this
      · simp [Link.op, BinaryOp.looseness] at this
  subst empty
  obtain ⟨noDot, noCall⟩ := firstKind_links outer
  have form : primaryForm (chainLexemes first outer) = .field := by
    simp [chainLexemes, primaryForm, noCall]
  have name : fieldName (chainLexemes first outer) =
      ⟨.ok first, outer.flatMap Link.lexemes, []⟩ := qualifiedName_of_ne rfl noDot
  refine ⟨fun _ => ?_, fun meet => ?_⟩
  · have sign (m : Mark) : eat (.mark m) (chainLexemes first outer) =
        ⟨.ok false, chainLexemes first outer, []⟩ := eat_of_ne (by simp [chainLexemes])
    simp only [List.nil_append, Grammar.signed, eatMark, bind_run, sign, Outcome.bind_ok,
      Bool.false_eq_true, if_false, Outcome.after_nil]
    simp [Grammar.primary, form, name, chainTree]
  · exact absurd meet not_comparisonsMeet_nil

theorem comparison?_link (l : Link) (more : List Lexeme) :
    comparison? (l.lexemes ++ more) = if l.op.isComparison then some l.op else none := by
  cases l with
  | joined op name => cases op <;> rfl
  | adjoined name => rfl

theorem startsComparison_link (l : Link) (more : List Lexeme) :
    startsComparison (l.lexemes ++ more) = l.op.isComparison := by
  cases l with
  | joined op name => cases op <;> rfl
  | adjoined name => rfl

theorem not_in_links (links : List Link) :
    firstKind (links.flatMap Link.lexemes) ≠ some (.keyword .in_) := by
  rcases links with _ | ⟨⟨op, name⟩ | name, links⟩
  · simp
  · cases op <;> simp [Link.lexemes, BinaryOp.kind]
  · simp [Link.lexemes]

theorem tail_link {l : Link} (comparison : l.op.isComparison = true) (more : List Lexeme) :
    (l.lexemes ++ more).tail = ⟨.identifier, l.name⟩ :: more := by
  cases l with
  | joined op name => rfl
  | adjoined name => cases comparison

/-- Neither the end of a chain nor an operator that joins conditions goes on with a comparison. -/
theorem comparison?_of_looseHead {links : List Link} (loose : LooseHead 3 links) :
    comparison? (links.flatMap Link.lexemes) = none ∧
      startsComparison (links.flatMap Link.lexemes) = false := by
  cases links with
  | nil => exact ⟨rfl, rfl⟩
  | cons l links =>
    have := loose l rfl
    have other : ¬l.op.isComparison = true := by
      rw [BinaryOp.isComparison_iff]
      omega
    rw [List.flatMap_cons, comparison?_link, if_neg other, startsComparison_link]
    exact ⟨rfl, by simpa using other⟩

/-- A comparison that is not gone on with is read with what is tighter on both its sides. -/
theorem ReadsChain.comparison {additive : StageParser Expr} (reads : ReadsChain 2 additive)
    (expression : StageParser Expr) : ReadsChain 3 (Parser.comparison additive expression) := by
  intro first inner outer tight loose names
  obtain ⟨before, others, rfl, close, head⟩ := exists_tight_append 2 inner
  have left := (reads first before (others ++ outer) close (head.append loose)
    (by simpa using names)).1 (not_meet_of_tight close)
  rw [List.append_assoc]
  cases others with
  | nil =>
    have read := comparison_of_none expression left (not_in_links _)
      (comparison?_of_looseHead loose).1
    rw [List.append_nil]
    exact ⟨fun _ => read, fun meet => absurd meet (not_meet_of_tight close)⟩
  | cons l links =>
    have level : l.op.looseness = 3 := by
      have := head l rfl
      have := tight l (by simp)
      omega
    have comparison := BinaryOp.isComparison_iff.mpr level
    have operator : comparison? ((l :: links ++ outer).flatMap Link.lexemes) = some l.op := by
      rw [List.cons_append, List.flatMap_cons, comparison?_link, if_pos comparison]
    obtain ⟨behind, more, rfl, close', head'⟩ := exists_tight_append 2 links
    have right := (reads l.name behind (more ++ outer) close' (head'.append loose)
      (fun l' member => names l' (by simp_all))).1 (not_meet_of_tight close')
    have follow : additive ((l :: (behind ++ more) ++ outer).flatMap Link.lexemes).tail =
        ⟨.ok (chainTree l.name behind), (more ++ outer).flatMap Link.lexemes, []⟩ := by
      rw [List.cons_append, List.flatMap_cons, tail_link comparison, List.append_assoc]
      exact right
    have read := comparison_of_some expression left operator follow
    have left' : TightLinks l.op.looseness before := fun l' member => by
      have := close l' member
      omega
    cases more with
    | nil =>
      rw [List.append_nil, List.nil_append, if_neg (by simp [comparison?_of_looseHead loose]),
        ← chainTree_append first left' (fun l' member => by
          have := close' l' member
          omega)] at read
      refine ⟨fun _ => by simpa using read, fun meet => absurd meet ?_⟩
      rw [List.append_nil, List.map_append, List.map_cons]
      apply ComparisonsMeet.not_of_countP
      simp [countP_comparison close, countP_comparison close', comparison]
    | cons l' more =>
      have level' : l'.op.looseness = 3 := by
        have := head' l' rfl
        have := tight l' (by simp)
        omega
      have comparison' := BinaryOp.isComparison_iff.mpr level'
      rw [List.cons_append (a := l'), List.flatMap_cons (x := l'),
        if_pos (by rw [startsComparison_link, comparison'])] at read
      refine ⟨fun apart' => absurd ?_ apart', fun _ => ⟨_, _, read⟩⟩
      refine ⟨before.map Link.op, l.op, (behind ++ l' :: more).map Link.op, by simp, comparison,
        behind.map Link.op, l'.op, more.map Link.op, by simp, comparison', ?_⟩
      intro op member
      obtain ⟨l'', found, rfl⟩ := List.mem_map.mp member
      have := close' l'' found
      have := mt BinaryOp.isLogical_iff.mp (show ¬3 < l''.op.looseness by omega)
      simpa using this

theorem ReadsChain.negation {comparison : StageParser Expr} (reads : ReadsChain 3 comparison)
    (deeper : StageParser Expr) : ReadsChain 3 (Parser.negation deeper comparison) := by
  intro first inner outer tight loose names
  have same : Parser.negation deeper comparison (chainLexemes first (inner ++ outer)) =
      comparison (chainLexemes first (inner ++ outer)) := by
    have noSign : eat (.keyword .not_) (chainLexemes first (inner ++ outer)) =
        ⟨.ok false, chainLexemes first (inner ++ outer), []⟩ := eat_of_ne (by simp [chainLexemes])
    simp [Parser.negation, eatKeyword, noSign]
  rw [same]
  exact reads first inner outer tight loose names

theorem ReadsChain.logical {negation : StageParser Expr} (reads : ReadsChain 3 negation) :
    ReadsChain 6 (Parser.logical negation) :=
  ((reads.chain readsOperator_and (by decide)).chain readsOperator_or (by decide)).chain
    readsOperator_xor (by decide)

/-- Expressions are read to the end of a chain. -/
theorem readsChain_expression : ReadsChain 6 Parser.expression := by
  have unary : ReadsChain 0 Grammar.full.unary := readsChain_signed (Grammar.level 99)
  have additive : ReadsChain 2 Grammar.full.additive :=
    (unary.chain readsOperator_multiplicative (by decide)).chain readsOperator_additive (by decide)
  have unfolded : Parser.expression = logical Grammar.full.negation := Grammar.expression_level 100
  rw [unfolded]
  exact ((additive.comparison _).negation _).logical

end Levels

theorem reads_of_isBareName {name : String} (bare : IsBareName name) :
    Scan.Reads name.toList [⟨.identifier, name⟩] := by
  have visible := congrArg (List.filter fun l => l.kind ≠ .space) bare.1
  rw [List.filter_map] at visible
  refine ⟨(lexemes_scan name).symm.trans visible, ?_⟩
  simp [Lexeme.IsSound, Lexeme.IsClosed, Lexeme.isSignificant, TokenKind.channel,
    TokenKind.isQuoted]

/-- A link starts with a blank, so the lexeme before it ends there. -/
theorem reads_link {l : Link} (bare : IsBareName l.name) :
    Scan.Reads l.text.toList l.lexemes ∧ Scan.Stops l.text.toList := by
  have name := (reads_of_isBareName bare).blank
  cases l with
  | joined op name' =>
    have text : (Link.joined op name').text.toList =
        ' ' :: op.symbol.toList ++ ' ' :: name'.toList := by simp [Link.text]
    rw [text]
    exact ⟨op.reads_symbol.blank.append name (Scan.stops_cons.mpr rfl), Scan.stops_cons.mpr rfl⟩
  | adjoined name' =>
    have text : (Link.adjoined name').text.toList = ' ' :: name'.toList := by simp [Link.text]
    rw [text]
    exact ⟨name, Scan.stops_cons.mpr rfl⟩

theorem reads_links {links : List Link} (bare : ∀ l ∈ links, IsBareName l.name) :
    Scan.Reads (String.join (links.map Link.text)).toList (links.flatMap Link.lexemes) ∧
      Scan.Stops (String.join (links.map Link.text)).toList := by
  induction links with
  | nil => exact ⟨Scan.reads_nil, Scan.stops_nil⟩
  | cons l links ih =>
    obtain ⟨others, stops⟩ := ih fun l' member => bare l' (by simp [member])
    obtain ⟨here, start⟩ := reads_link (bare l (by simp))
    rw [List.map_cons, String.join_cons, String.toList_append, List.flatMap_cons]
    exact ⟨here.append others stops, start.append stops⟩

theorem reads_chainText {first : String} {links : List Link} (bareFirst : IsBareName first)
    (bare : ∀ l ∈ links, IsBareName l.name) :
    Scan.Reads (chainText first links).toList (chainLexemes first links) := by
  obtain ⟨others, stops⟩ := reads_links bare
  rw [chainText, String.toList_append]
  exact (reads_of_isBareName bareFirst).append others stops

theorem no_pipe_chainLexemes (first : String) (links : List Link) :
    ∀ l ∈ chainLexemes first links, l.kind ≠ .mark .pipe := by
  intro l member
  rcases List.mem_cons.mp member with rfl | member
  · simp
  obtain ⟨link, -, here⟩ := List.mem_flatMap.mp member
  cases link with
  | joined op name =>
    simp only [Link.lexemes, List.mem_cons, List.not_mem_nil, or_false] at here
    rcases here with rfl | rfl
    · cases op <;> simp [BinaryOp.kind]
    · simp
  | adjoined name =>
    obtain rfl := List.mem_singleton.mp here
    simp

/-- Names joined by operators are refused exactly if two comparisons meet, and otherwise make the
    tree that splitting at the loosest operators gives. -/
theorem parseExpression_chain (first : String) (links : List Link) (bareFirst : IsBareName first)
    (bare : ∀ l ∈ links, IsBareName l.name) :
    ((∃ ds, parseExpression (chainText first links) = .error ds) ↔
      ComparisonsMeet (links.map Link.op)) ∧
    (¬ComparisonsMeet (links.map Link.op) →
      parseExpression (chainText first links) = .ok (chainTree first links)) := by
  have reads := reads_chainText bareFirst bare
  have noPipe := no_pipe_chainLexemes first links
  have tight : TightLinks 6 links := fun l _ => by cases l.op <;> decide
  obtain ⟨sound, broken⟩ := readsChain_expression first links [] tight (by simp [LooseHead])
    (by simpa [NoElse] using fun l member => (bare l member).2)
  rw [List.append_nil] at sound broken
  have accepted (apart : ¬ComparisonsMeet (links.map Link.op)) :=
    parseExpression_of_ok reads noPipe (sound apart)
  refine ⟨⟨?_, ?_⟩, accepted⟩
  · rintro ⟨ds, refused⟩
    by_cases meet : ComparisonsMeet (links.map Link.op)
    · exact meet
    · rw [accepted meet] at refused
      cases refused
  · intro meet
    obtain ⟨issue, rest, failed⟩ := broken meet
    exact parseExpression_of_error reads noPipe failed

/-- Every level of operators in one chain. -/
theorem parseExpression_chain_every_level :
    parseExpression "a or b = f + g * k n" = .ok (.binary .or (.field "a") (.binary .and
      (.binary .equal (.field "b")
        (.binary .add (.field "f") (.binary .multiply (.field "g") (.field "k"))))
      (.field "n"))) := by
  let links : List Link := [.joined .or "b", .joined .equal "f", .joined .add "g",
    .joined .multiply "k", .adjoined "n"]
  have written : IsBareName "a" ∧ (∀ l ∈ links, IsBareName l.name) ∧
      chainText "a" links = "a or b = f + g * k n" := by
    decide +kernel
  have parsed := (parseExpression_chain "a" links written.1 written.2.1).2 (by decide)
  rw [written.2.2] at parsed
  simpa [links, chainTree, Link.entry, Link.op, Link.name, splitTree, splitLoosest,
    BinaryOp.looseness] using parsed

end PipedQuery
