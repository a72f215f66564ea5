import PipedQuery.Cursor
import PipedQuery.Proofs.Pipeline.Limits

/-!
# The limit only truncates

What a session keeps of its diagnostics is a list that takes no more when it is full
(`Session.kept_raise`).  Nothing but that list depends on the limit: a parse with a lower limit gives
the same query, and some of the diagnostics that one with a higher limit gives (`parseWith_limit`).
-/

namespace PipedQuery

namespace Diagnostic

/-- Taking a diagnostic in while there is room keeps the first of them, up to the limit. -/
theorem keep_take (limit : Nat) (raised : List Diagnostic) (d : Diagnostic) :
    keep limit (raised.take limit) d = (raised ++ [d]).take limit := by
  rw [keep, List.length_take]
  by_cases room : raised.length < limit
  · have all : (raised ++ [d]).length ≤ limit := by
      rw [List.length_append, List.length_singleton]
      omega
    rw [if_pos (by omega), List.take_of_length_le (by omega), List.take_of_length_le all]
  · rw [if_neg (by omega), List.take_append_of_le_length (by omega)]

/-- Whether `es` are the diagnostics `ds` in the order of their places, where those at one place stay
    in the order that they had. -/
structure IsStableSort (ds es : List Diagnostic) : Prop where
  ordered : es.Pairwise fun d e => d.span.start ≤ e.span.start
  stable : ∀ place, (es.filter fun d => d.span.start = place) = ds.filter fun d => d.span.start = place

theorem isStableSort_sorted (ds : List Diagnostic) : IsStableSort ds (sorted ds) :=
  ⟨pairwise_sorted ds, fun place => filter_sorted place ds⟩

end Diagnostic

/-- What a session keeps is a list that further diagnostics are put into while there is room. -/
theorem Session.kept_raise (s : Session) (ds : List Diagnostic) :
    (s.raise ds).kept = ds.foldl (Diagnostic.keep s.options.maxDiagnostics) s.kept := by
  induction ds generalizing s with
  | nil => simp [raise]
  | cons d ds ih =>
    have one : (s.raise [d]).kept = Diagnostic.keep s.options.maxDiagnostics s.kept d :=
      (Diagnostic.keep_take _ _ d).symm
    have both : s.raise (d :: ds) = (s.raise [d]).raise ds := by simp [raise]
    rw [both, ih, one]
    rfl

/-- Of the diagnostics of a text a parse keeps the first ones up to its limit, in the order that they
    are raised in, the lexical ones first.  It sorts them by their places, and a higher limit only adds
    more of them.  The query does not depend on the limit. -/
theorem parseWith_limit (text : String) {m n : Nat} (fewer : m ≤ n) :
    let few := parseWith { maxDiagnostics := m } text
    let more := parseWith { maxDiagnostics := n } text
    few.query = more.query ∧
      few.diagnostics.length = min m (findings text).length ∧
      few.diagnostics.Sublist more.diagnostics ∧
      Diagnostic.IsStableSort ((findings text).take m) few.diagnostics ∧
      lexicalDiagnostics (scan text) <+: findings text := by
  intro few more
  have kept : few.diagnostics = Diagnostic.sorted ((findings text).take m) :=
    diagnostics_parseWith rfl text
  have added : more.diagnostics = Diagnostic.sorted ((findings text).take n) :=
    diagnostics_parseWith rfl text
  have part : ((findings text).take m).Sublist ((findings text).take n) := by
    have first := List.take_sublist m ((findings text).take n)
    rwa [List.take_take, Nat.min_eq_left fewer] at first
  refine ⟨?_, ?_, ?_, ?_, List.prefix_append _ _⟩
  · have commands : few.query.commands = more.query.commands :=
      (commands_parseWith rfl text).trans (commands_parseWith rfl text).symm
    calc few.query
      _ = ⟨few.query.commands⟩ := rfl
      _ = more.query := by rw [commands]
  · rw [kept, Diagnostic.length_sorted, List.length_take]
  · rw [kept, added]
    exact Diagnostic.sorted_sublist part
  · rw [kept]
    exact Diagnostic.isStableSort_sorted _

/-- The string without an end is what is kept, although something is missing in front of it. -/
theorem parseWith_limit_open_string :
    let text := "where | head '"
    let starts (ds : List Diagnostic) := ds.map fun d => d.span.start
    let few := parseWith { maxDiagnostics := 1 } text
    let more := parseWith { maxDiagnostics := 3 } text
    starts (findings text) = [13, 6, 13] ∧ starts few.diagnostics = [13] ∧
      few.query = more.query ∧ few.diagnostics.Sublist more.diagnostics := by
  intro text starts few more
  have found : starts (findings text) = [13, 6, 13] := by decide +kernel
  obtain ⟨query, -, part, -⟩ := parseWith_limit text (show 1 ≤ 3 by decide)
  refine ⟨found, ?_, query, part⟩
  have kept : few.diagnostics = Diagnostic.sorted ((findings text).take 1) :=
    diagnostics_parseWith rfl text
  cases all : findings text with
  | nil =>
    rw [all] at found
    cases found
  | cons d ds =>
    rw [all] at found kept
    have first : d.span.start = 13 := (List.cons.inj found).1
    simp [kept, starts, Diagnostic.sorted_cons, first]

end PipedQuery
