import PipedQuery.Proofs.Expr.Lexemes
import PipedQuery.Proofs.Parser.Run

/-!
# Reading lists

A list is read to its end if each of its items is, in front of a comma and in front of what ends
the list.
-/

namespace PipedQuery

theorem commaLexemes_cons (ls : List Lexeme) (more : List (List Lexeme)) :
    commaLexemes (ls :: more) = ls ++ more.flatMap (.mark .comma :: ·) := rfl

namespace Parser

variable {α β : Type} {ts rest : List Lexeme}

section Threaded

variable {item : β → StageParser β} {b b' : β}

theorem behindCommas_of_ne (ends : firstKind ts ≠ some (.mark .comma)) :
    behindCommas item b ts = ⟨.ok b, ts, []⟩ := by
  have step : (do
      if ← eatMark .comma then
        return some (← item b)
      return none : StageParser (Option β)) ts = ⟨.ok none, ts, []⟩ := by
    simp [eatMark, eat_of_ne ends]
  rw [behindCommas, iterate_of_none step]

theorem behindCommas_comma (found : item b ts = ⟨.ok b', rest, []⟩)
    (shorter : rest.length ≤ ts.length) :
    behindCommas item b (.mark .comma :: ts) = behindCommas item b' rest := by
  have step : (do
      if ← eatMark .comma then
        return some (← item b)
      return none : StageParser (Option β)) (.mark .comma :: ts) = ⟨.ok (some b'), rest, []⟩ := by
    simp [eatMark, eat_of_eq ts (Lexeme.mark_kind .comma), found]
  rw [behindCommas, iterate_of_some step (Nat.lt_succ_of_le shorter), Outcome.after_nil]
  rfl

end Threaded

section Items

variable {item : StageParser α} {lex : α → List Lexeme}

/-- Whether the parser reads the item in front of the lexemes. -/
def ReadsItem (item : StageParser α) (lex : α → List Lexeme) (a : α) (more : List Lexeme) : Prop :=
  item (lex a ++ more) = ⟨.ok a, more, []⟩

/-- Whether the parser reads each of the items in front of commas, and the last one in front of what
    ends the list. -/
structure ReadsItems (item : StageParser α) (lex : α → List Lexeme) (xs : List α)
    (rest : List Lexeme) : Prop where
  separated : ∀ a ∈ xs, ∀ more, firstKind more = some (.mark .comma) → ReadsItem item lex a more
  last : ∀ a ∈ xs.getLast?, ReadsItem item lex a rest

theorem ReadsItems.head {x : α} {xs : List α} (reads : ReadsItems item lex (x :: xs) rest) :
    ReadsItem item lex x (xs.flatMap (fun a => .mark .comma :: lex a) ++ rest) := by
  cases xs with
  | nil => exact reads.last x rfl
  | cons y xs => exact reads.separated x (by simp) _ rfl

theorem ReadsItems.tail {x : α} {xs : List α} (reads : ReadsItems item lex (x :: xs) rest) :
    ReadsItems item lex xs rest := by
  refine ⟨fun a member => reads.separated a (List.mem_cons_of_mem x member), ?_⟩
  cases xs with
  | nil => simp
  | cons y xs =>
    intro a member
    exact reads.last a (by rwa [List.getLast?_cons_cons])

/-- A parser that reads each item in front of everything that ends an item reads all of them. -/
theorem ReadsItems.of_forall {xs : List α}
    (reads : ∀ a ∈ xs, ∀ more, more = rest ∨ firstKind more = some (.mark .comma) →
      item (lex a ++ more) = ⟨.ok a, more, []⟩) : ReadsItems item lex xs rest :=
  ⟨fun a member more comma => reads a member more (.inr comma),
    fun a member => reads a (List.mem_of_getLast? member) rest (.inl rfl)⟩

theorem behindCommas_items {xs : List α} (reads : ReadsItems item lex xs rest)
    (ends : firstKind rest ≠ some (.mark .comma)) (seen : List α) :
    behindCommas (fun items => do return (← item) :: items) seen
        (xs.flatMap (fun a => .mark .comma :: lex a) ++ rest) =
      ⟨.ok (xs.reverse ++ seen), rest, []⟩ := by
  induction xs generalizing seen with
  | nil => exact behindCommas_of_ne ends
  | cons x xs ih =>
    have found : item _ = _ := reads.head
    have step : (do return (← item) :: seen : StageParser (List α))
        (lex x ++ (xs.flatMap (fun a => .mark .comma :: lex a) ++ rest)) =
          ⟨.ok (x :: seen), xs.flatMap (fun a => .mark .comma :: lex a) ++ rest, []⟩ := by
      simp [found]
    rw [List.flatMap_cons, List.append_assoc, List.cons_append,
      behindCommas_comma step (by simp), ih reads.tail (x :: seen)]
    simp

theorem list_run {x : α} {xs : List α} (reads : ReadsItems item lex (x :: xs) rest)
    (ends : firstKind rest ≠ some (.mark .comma)) :
    list item (commaLexemes ((x :: xs).map lex) ++ rest) = ⟨.ok (x :: xs), rest, []⟩ := by
  rw [List.map_cons, commaLexemes_cons, List.flatMap_map, List.append_assoc]
  have found : item _ = _ := reads.head
  have others := behindCommas_items reads.tail ends [x]
  simp only [list, separated, bind_run, found, Outcome.bind_ok, pure_run, Outcome.after_nil, others]
  simp

/-- The step of the loop of a list that keeps the items before a faulty one. -/
def lenientStep (item : StageParser α) (items : List α) : StageParser (Option (List α)) := do
  unless ← eatMark .comma do
    return none
  match ← attempt item with
  | .ok a => return some (a :: items)
  | .error issue =>
    raise issue
    skipAll
    return none

theorem lenientStep_of_ne (ends : firstKind ts ≠ some (.mark .comma)) (seen : List α) :
    lenientStep item seen ts = ⟨.ok none, ts, []⟩ := by
  simp [lenientStep, eatMark, eat_of_ne ends]

theorem lenientStep_comma {x : α} (found : item ts = ⟨.ok x, rest, []⟩) (seen : List α) :
    lenientStep item seen (.mark .comma :: ts) = ⟨.ok (some (x :: seen)), rest, []⟩ := by
  simp [lenientStep, eatMark, eat_of_eq ts (Lexeme.mark_kind .comma), found]

theorem iterate_lenientStep {xs : List α} (reads : ReadsItems item lex xs rest)
    (ends : firstKind rest ≠ some (.mark .comma)) (seen : List α) :
    iterate (lenientStep item) seen (xs.flatMap (fun a => .mark .comma :: lex a) ++ rest) =
      ⟨.ok (xs.reverse ++ seen), rest, []⟩ := by
  induction xs generalizing seen with
  | nil => exact iterate_of_none (lenientStep_of_ne ends seen)
  | cons x xs ih =>
    have step := lenientStep_comma reads.head seen
    rw [List.flatMap_cons, List.append_assoc, List.cons_append,
      iterate_of_some step (by simp only [List.length_cons, List.length_append]; omega),
      Outcome.after_nil, ih reads.tail (x :: seen)]
    simp

theorem lenientList_of_one {x : α} (found : item ts = ⟨.ok x, rest, []⟩)
    (ends : firstKind rest ≠ some (.mark .comma)) : lenientList item ts = ⟨.ok [x], rest, []⟩ := by
  have others : iterate (lenientStep item) [x] rest = ⟨.ok [x], rest, []⟩ :=
    iterate_of_none (lenientStep_of_ne ends [x])
  unfold lenientList
  rw [bind_run, found, Outcome.bind_ok, Outcome.after_nil, bind_run]
  change (iterate (lenientStep item) [x] _).bind _ = _
  rw [others]
  rfl

/-- Items none of which is faulty are read as a list that would keep the items before a faulty one. -/
theorem lenientList_run {x : α} {xs : List α} (reads : ReadsItems item lex (x :: xs) rest)
    (ends : firstKind rest ≠ some (.mark .comma)) :
    lenientList item (commaLexemes ((x :: xs).map lex) ++ rest) = ⟨.ok (x :: xs), rest, []⟩ := by
  rw [List.map_cons, commaLexemes_cons, List.flatMap_map, List.append_assoc]
  have found : item _ = _ := reads.head
  have others := iterate_lenientStep reads.tail ends [x]
  unfold lenientList
  rw [bind_run, found, Outcome.bind_ok, Outcome.after_nil, bind_run]
  change (iterate (lenientStep item) [x] _).bind _ = _
  rw [others]
  simp

/-- A list in parentheses is read with them. -/
theorem valueList_run {expression : StageParser Expr} {x : Expr} {xs : List Expr}
    (reads : ReadsItems expression Expr.lexemes (x :: xs) (.mark .rParen :: rest)) :
    valueList expression
        (.mark .lParen :: (commaLexemes ((x :: xs).map Expr.lexemes) ++ .mark .rParen :: rest)) =
      ⟨.ok (x :: xs), rest, []⟩ := by
  have items := list_run reads (by simp)
  simp only [valueList, expectMark, bind_run, expect_of_eq _ (Lexeme.mark_kind _), Outcome.bind_ok,
    items, Outcome.after_nil, pure_run]

end Items

end Parser

end PipedQuery
