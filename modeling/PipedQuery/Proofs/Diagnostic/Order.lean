import PipedQuery.Diagnostic

/-!
# The order of diagnostics

Sorting puts a diagnostic in front of the first one that does not start before it
(`Diagnostic.sorted_cons`), so whatever is left out of a list, the others keep their order
(`Diagnostic.sorted_sublist`).  Diagnostics at one place keep theirs as well
(`Diagnostic.filter_sorted`).
-/

namespace PipedQuery.Diagnostic

/-- Whether the diagnostic starts no later than the other one. -/
def startsBy (d e : Diagnostic) : Bool := d.span.start ≤ e.span.start

theorem startsBy_trans (c d e : Diagnostic) (first : c.startsBy d = true)
    (second : d.startsBy e = true) : c.startsBy e = true := by
  simp only [startsBy, decide_eq_true_eq] at first second ⊢
  exact Nat.le_trans first second

theorem startsBy_total (d e : Diagnostic) : (d.startsBy e || e.startsBy d) = true := by
  simp only [startsBy, Bool.or_eq_true, decide_eq_true_eq]
  exact Nat.le_total ..

variable {ds es : List Diagnostic}

@[simp] theorem sorted_nil : sorted [] = [] := List.mergeSort_nil

@[simp] theorem mem_sorted {d : Diagnostic} : d ∈ sorted ds ↔ d ∈ ds := List.mem_mergeSort

@[simp] theorem length_sorted (ds : List Diagnostic) : (sorted ds).length = ds.length :=
  List.length_mergeSort ds

@[simp] theorem any_sorted (p : Diagnostic → Bool) (ds : List Diagnostic) :
    (sorted ds).any p = ds.any p := by
  rw [Bool.eq_iff_iff, List.any_eq_true, List.any_eq_true]
  simp only [mem_sorted]

@[simp] theorem countP_sorted (p : Diagnostic → Bool) (ds : List Diagnostic) :
    (sorted ds).countP p = ds.countP p :=
  (List.mergeSort_perm ds _).countP_eq p

/-- The first of some diagnostics goes in front of those that do not start before it. -/
theorem sorted_cons (d : Diagnostic) (ds : List Diagnostic) :
    sorted (d :: ds) =
      (sorted ds).filter (fun e => !d.startsBy e) ++ d :: (sorted ds).filter d.startsBy := by
  obtain ⟨before, behind, whole, others, later⟩ :=
    List.mergeSort_cons startsBy_trans startsBy_total d ds
  have ordered := List.pairwise_mergeSort startsBy_trans startsBy_total (d :: ds)
  rw [whole, List.pairwise_append] at ordered
  have next : ∀ e ∈ behind, d.startsBy e = true := (List.pairwise_cons.mp ordered.2.1).1
  have before_not : before.filter d.startsBy = [] :=
    List.filter_eq_nil_iff.mpr fun e member => by simpa using later e member
  have behind_not : behind.filter (fun e => !d.startsBy e) = [] :=
    List.filter_eq_nil_iff.mpr fun e member => by simpa using next e member
  calc sorted (d :: ds)
    _ = before ++ d :: behind := whole
    _ = (before ++ behind).filter (fun e => !d.startsBy e) ++
          d :: (before ++ behind).filter d.startsBy := by
        rw [List.filter_append, List.filter_append, before_not, behind_not, List.append_nil,
          List.nil_append, List.filter_eq_self.mpr later, List.filter_eq_self.mpr next]
    _ = _ := by rw [← others]; rfl

/-- Sorted diagnostics come in the order of their places. -/
theorem pairwise_sorted (ds : List Diagnostic) :
    (sorted ds).Pairwise fun d e => d.span.start ≤ e.span.start := by
  have ordered : (sorted ds).Pairwise fun d e => d.startsBy e :=
    List.pairwise_mergeSort startsBy_trans startsBy_total ds
  exact ordered.imp fun first => of_decide_eq_true first

/-- Sorting leaves the diagnostics at one place in the order that they had. -/
theorem filter_sorted (place : Nat) (ds : List Diagnostic) :
    (sorted ds).filter (fun d => d.span.start = place) =
      ds.filter fun d => d.span.start = place := by
  let here := ds.filter fun d => d.span.start = place
  have together : here.Pairwise fun d e => d.startsBy e := by
    refine List.pairwise_of_forall_mem_list ?_
    intro d first e second
    have first : d.span.start = place := by simpa using (List.mem_filter.mp first).2
    have second : e.span.start = place := by simpa using (List.mem_filter.mp second).2
    simp [startsBy, first, second]
  -- Sorting is stable, so what is sorted already is a part of the whole.
  have part : here.Sublist (sorted ds) :=
    List.sublist_mergeSort startsBy_trans startsBy_total together List.filter_sublist
  have kept := part.filter fun d => d.span.start = place
  rw [List.filter_filter] at kept
  simp only [Bool.and_self] at kept
  have count : here.length = ((sorted ds).filter fun d => d.span.start = place).length := by
    rw [← List.countP_eq_length_filter, ← List.countP_eq_length_filter, countP_sorted]
  exact (kept.eq_of_length count).symm

/-- Diagnostics keep their order where others come in. -/
theorem sorted_sublist (part : ds.Sublist es) : (sorted ds).Sublist (sorted es) := by
  induction part with
  | slnil => exact List.Sublist.refl _
  | @cons ds es e _ ih =>
    refine ih.trans ?_
    obtain ⟨before, behind, whole, others, -⟩ :=
      List.mergeSort_cons startsBy_trans startsBy_total e es
    change (es.mergeSort startsBy).Sublist ((e :: es).mergeSort startsBy)
    rw [whole, others]
    exact (List.sublist_cons_self e behind).append_left before
  | @cons_cons ds es d _ ih =>
    rw [sorted_cons, sorted_cons]
    exact (ih.filter _).append ((ih.filter _).cons_cons d)

end PipedQuery.Diagnostic
