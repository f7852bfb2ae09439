import Blueprint.Schema.Tables
import Mathlib.Data.List.Nodup

/-!
# The account of the tables in being

What its operations do where a script uses them: a column is added to a table that is not there, or
new columns to one that is.
-/

namespace Blueprint.Schema.Tables

variable {ts : Tables} {table column : String}

theorem isCreated_iff : ts.isCreated table ↔ table ∈ ts.map Table.name := by
  simp [isCreated, columns?, List.find?_isSome]

/-- A column of a table that is not there makes the table. -/
theorem addColumn_of_not_mem (h : table ∉ ts.map Table.name) :
    ts.addColumn table column = ts ++ [{ name := table, columns := [column] }] := by
  have hcreated : ts.isCreated table = false := by
    rw [Bool.eq_false_iff, ne_eq, isCreated_iff]
    exact h
  have hother : ∀ t ∈ ts, t.name ≠ table := fun t ht e => h (e ▸ List.mem_map_of_mem ht)
  rw [addColumn, create, hcreated, if_neg (by decide), List.map_append]
  congr 1
  · conv_rhs => rw [← List.map_id ts]
    refine List.map_congr_left fun t ht => ?_
    rw [if_neg fun e => hother t ht e.1, id]
  · simp

/-- A table with more columns. -/
def widen (ts : Tables) (table : String) (names : List String) : Tables :=
  ts.map fun t => if t.name = table then { t with columns := t.columns ++ names } else t

theorem widen_of_not_mem (h : table ∉ ts.map Table.name) (names : List String) :
    ts.widen table names = ts := by
  rw [widen]
  conv_rhs => rw [← List.map_id ts]
  refine List.map_congr_left fun t ht => ?_
  have hother : t.name ≠ table := fun e => h (List.mem_map.mpr ⟨t, ht, e⟩)
  rw [if_neg hother, id]

/-- A table that was made last with more columns. -/
theorem widen_append_last (column : String) (h : table ∉ ts.map Table.name)
    (names : List String) :
    widen (ts ++ [{ name := table, columns := [column] }]) table names =
      ts ++ [{ name := table, columns := column :: names }] := by
  have hfirst := widen_of_not_mem h names
  rw [widen] at hfirst
  rw [widen, List.map_append, hfirst]
  simp

theorem map_name_widen (names : List String) :
    (ts.widen table names).map Table.name = ts.map Table.name := by
  rw [widen, List.map_map]
  refine List.map_congr_left fun t _ => ?_
  by_cases ht : t.name = table
  · simp [ht]
  · simp [ht]

theorem addColumn_of_mem (h : table ∈ ts.map Table.name)
    (hnew : ∀ t ∈ ts, t.name = table → column ∉ t.columns) :
    ts.addColumn table column = ts.widen table [column] := by
  rw [addColumn, create, if_pos (isCreated_iff.mpr h), widen]
  refine List.map_congr_left fun t ht => ?_
  by_cases hn : t.name = table
  · rw [if_pos ⟨hn, hnew t ht hn⟩, if_pos hn]
  · rw [if_neg fun e => hn e.1, if_neg hn]

/-- New columns are added to a table that is there, in order. -/
theorem addColumns_of_mem {names : List String} (h : table ∈ ts.map Table.name)
    (hnd : names.Nodup) (hnew : ∀ t ∈ ts, t.name = table → ∀ n ∈ names, n ∉ t.columns) :
    ts.addColumns table names = ts.widen table names := by
  induction names generalizing ts with
  | nil =>
    rw [addColumns, List.foldl_nil, widen]
    conv_lhs => rw [← List.map_id ts]
    refine List.map_congr_left fun t _ => ?_
    by_cases ht : t.name = table
    · rw [if_pos ht, List.append_nil, id]
    · rw [if_neg ht, id]
  | cons n ns ih =>
    obtain ⟨hn, hns⟩ := List.nodup_cons.mp hnd
    have hfirst : ts.addColumn table n = ts.widen table [n] :=
      addColumn_of_mem h fun t ht e => hnew t ht e n List.mem_cons_self
    have hrest : (ts.widen table [n]).addColumns table ns =
        (ts.widen table [n]).widen table ns := by
      refine ih ((map_name_widen [n]).symm ▸ h) hns ?_
      intro t ht e k hk
      obtain ⟨u, hu, rfl⟩ := List.mem_map.mp ht
      by_cases hut : u.name = table
      · rw [if_pos hut, List.mem_append, not_or]
        refine ⟨hnew u hu hut k (List.mem_cons_of_mem _ hk), ?_⟩
        intro hkn
        exact hn (List.mem_singleton.mp hkn ▸ hk)
      · rw [if_neg hut] at e
        exact absurd e hut
    have htwice : (ts.widen table [n]).widen table ns = ts.widen table (n :: ns) := by
      rw [widen, widen, List.map_map, widen]
      refine List.map_congr_left fun t _ => ?_
      by_cases ht : t.name = table
      · simp [ht]
      · simp [ht]
    have hfold : ts.addColumns table (n :: ns) = (ts.addColumn table n).addColumns table ns := rfl
    rw [hfold, hfirst, hrest, htwice]

/-- New columns of a table that was made last. -/
theorem addColumns_append_last {names : List String} (h : table ∉ ts.map Table.name)
    (hnd : names.Nodup) (hnew : column ∉ names) :
    addColumns (ts ++ [{ name := table, columns := [column] }]) table names =
      ts ++ [{ name := table, columns := column :: names }] := by
  rw [← widen_append_last column h names]
  refine addColumns_of_mem ?_ hnd ?_
  · rw [List.map_append]
    exact List.mem_append_right _ (List.mem_singleton_self _)
  · intro t ht e n hn hmem
    rcases List.mem_append.mp ht with ht | ht
    · exact h (List.mem_map.mpr ⟨t, ht, e⟩)
    · rw [List.mem_singleton.mp ht] at hmem
      exact hnew (List.mem_singleton.mp hmem ▸ hn)

end Blueprint.Schema.Tables
