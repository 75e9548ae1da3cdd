import Mathlib.Data.List.Forall2
import Mathlib.Data.List.Perm.Basic
import RecordAudit.Report.Report

/-!
# The columns of a report

A report is assembled by inserting the statistics of its columns one by one.
If no two of them are of one column, each gets one entry (`assemble_perm`), and
that entry is what a look-up of the column finds (`column?_assemble`).  Where
the entries stand depends on the names only, so statistics that are related
column by column give reports that are (`forall₂_assemble`).
-/

namespace RecordAudit.Report

variable {α : Type}

/-- Statistics of a column that is not there yet become one more entry. -/
theorem insertColumn_perm (s : ColumnStats α) {columns : List (String × ColumnStats α)}
    (h : s.column ∉ columns.map Prod.fst) :
    (insertColumn s columns).Perm ((s.column, s) :: columns) := by
  induction columns with
  | nil => exact List.Perm.refl _
  | cons entry rest ih =>
    obtain ⟨k, t⟩ := entry
    simp only [List.map_cons, List.mem_cons, not_or] at h
    rw [insertColumn]
    split
    · exact List.Perm.refl _
    · rw [if_neg h.1]
      exact ((ih h.2).cons (k, t)).trans (List.Perm.swap _ _ rest)

theorem foldl_insertColumn_perm (stats : List (ColumnStats α))
    {columns : List (String × ColumnStats α)}
    (hnodup : (columns.map Prod.fst ++ stats.map (·.column)).Nodup) :
    (stats.foldl (fun columns s => insertColumn s columns) columns).Perm
      (columns ++ stats.map fun s => (s.column, s)) := by
  induction stats generalizing columns with
  | nil => simp
  | cons s rest ih =>
    have hfresh : s.column ∉ columns.map Prod.fst := by
      intro hmem
      exact (List.nodup_append.mp hnodup).2.2 _ hmem _ (by simp) rfl
    have hperm := insertColumn_perm s hfresh
    have hnodup' : ((insertColumn s columns).map Prod.fst ++ rest.map (·.column)).Nodup := by
      refine (((hperm.map Prod.fst).append_right _).nodup_iff).mpr ?_
      refine (List.perm_middle.nodup_iff).mp ?_
      simpa using hnodup
    refine (ih hnodup').trans ?_
    refine (hperm.append_right _).trans ?_
    exact List.perm_middle.symm

/-- Statistics of different columns are the entries of the report. -/
theorem assemble_perm (outcomes : List Outcome) {stats : List (ColumnStats α)} (filtered : Nat)
    (hnodup : (stats.map (·.column)).Nodup) :
    (assemble outcomes stats filtered).columns.Perm (stats.map fun s => (s.column, s)) := by
  have hfold := @foldl_insertColumn_perm α stats [] hnodup
  exact hfold

theorem column?_eq_some_of_mem {r : Report α} {name : String} {s : ColumnStats α}
    (hnodup : (r.columns.map Prod.fst).Nodup) (hmem : (name, s) ∈ r.columns) :
    r.column? name = some s := by
  rw [column?]
  generalize r.columns = columns at hnodup hmem ⊢
  induction columns with
  | nil => simp at hmem
  | cons entry rest ih =>
    rw [List.map_cons, List.nodup_cons] at hnodup
    rw [List.find?_cons]
    rcases List.mem_cons.mp hmem with rfl | hrest
    · simp
    · have hne : entry.1 ≠ name := by
        intro heq
        exact hnodup.1 (heq ▸ List.mem_map_of_mem hrest)
      rw [beq_eq_false_iff_ne.mpr hne]
      exact ih hnodup.2 hrest

/-- A look-up finds the statistics that the report was assembled of. -/
theorem column?_assemble (outcomes : List Outcome) {stats : List (ColumnStats α)} (filtered : Nat)
    (hnodup : (stats.map (·.column)).Nodup) {s : ColumnStats α} (hs : s ∈ stats) :
    (assemble outcomes stats filtered).column? s.column = some s := by
  have hperm := assemble_perm outcomes filtered hnodup
  refine column?_eq_some_of_mem ?_ (hperm.mem_iff.mpr (List.mem_map_of_mem hs))
  refine (hperm.map Prod.fst).nodup_iff.mpr ?_
  simpa [Function.comp_def] using hnodup

/-- Two entries of one column whose statistics are related. -/
def EntriesRelated {β : Type} (rel : ColumnStats α → ColumnStats β → Prop)
    (x : String × ColumnStats α) (y : String × ColumnStats β) : Prop :=
  x.1 = y.1 ∧ rel x.2 y.2

theorem forall₂_insertColumn {β : Type} {rel : ColumnStats α → ColumnStats β → Prop}
    {s : ColumnStats α} {t : ColumnStats β} (hname : s.column = t.column) (hrel : rel s t)
    {xs : List (String × ColumnStats α)} {ys : List (String × ColumnStats β)}
    (h : List.Forall₂ (EntriesRelated rel) xs ys) :
    List.Forall₂ (EntriesRelated rel) (insertColumn s xs) (insertColumn t ys) := by
  induction h with
  | nil => exact .cons ⟨hname, hrel⟩ .nil
  | @cons x y xs ys hxy htail ih =>
    obtain ⟨k, u⟩ := x
    obtain ⟨l, v⟩ := y
    obtain rfl : k = l := hxy.1
    rw [insertColumn, insertColumn, hname]
    split
    · exact .cons ⟨rfl, hrel⟩ (.cons hxy htail)
    · split
      · exact .cons ⟨rfl, hrel⟩ htail
      · exact .cons hxy ih

theorem forall₂_assemble {β : Type} {rel : ColumnStats α → ColumnStats β → Prop}
    {ss : List (ColumnStats α)} {ts : List (ColumnStats β)}
    (h : List.Forall₂ (fun s t => s.column = t.column ∧ rel s t) ss ts)
    (outcomes outcomes' : List Outcome) (filtered filtered' : Nat) :
    List.Forall₂ (EntriesRelated rel) (assemble outcomes ss filtered).columns
      (assemble outcomes' ts filtered').columns := by
  have hfold : ∀ {xs : List (String × ColumnStats α)} {ys : List (String × ColumnStats β)},
      List.Forall₂ (EntriesRelated rel) xs ys →
      List.Forall₂ (EntriesRelated rel) (ss.foldl (fun columns s => insertColumn s columns) xs)
        (ts.foldl (fun columns s => insertColumn s columns) ys) := by
    induction h with
    | nil => exact fun hxy => hxy
    | cons hst _ ih => exact fun hxy => ih (forall₂_insertColumn hst.1 hst.2 hxy)
  exact hfold .nil

end RecordAudit.Report
