import Blueprint.Journal
import Mathlib.Algebra.Ring.Nat

/-!
# Counting diagnostics

A diagnostic is a warning if something of the diagram was left out, and an info if something was
done differently from what was wanted. A run's diagnostics are put together from those of its parts,
so they are counted part by part.
-/

namespace Blueprint

/-- Diagnostics among which there are so many warnings and so many infos. -/
structure Tally (ds : List Diagnostic) (warnings infos : Nat) : Prop where
  /-- The warnings. -/
  warnings_eq : ds.countP (·.severity == .warning) = warnings
  /-- The infos. -/
  infos_eq : ds.countP (·.severity == .info) = infos

namespace Tally

variable {ds es : List Diagnostic} {w w' i i' : Nat}

theorem nil : Tally [] 0 0 := ⟨rfl, rfl⟩

theorem append (h : Tally ds w i) (h' : Tally es w' i') : Tally (ds ++ es) (w + w') (i + i') :=
  ⟨by rw [List.countP_append, h.warnings_eq, h'.warnings_eq],
    by rw [List.countP_append, h.infos_eq, h'.infos_eq]⟩

theorem flatMap {α : Type} {xs : List α} {f : α → List Diagnostic} {w i : α → Nat}
    (h : ∀ x ∈ xs, Tally (f x) (w x) (i x)) :
    Tally (xs.flatMap f) (xs.map w).sum (xs.map i).sum := by
  induction xs with
  | nil => exact nil
  | cons x xs ih =>
    obtain ⟨hx, hxs⟩ := List.forall_mem_cons.mp h
    exact hx.append (ih hxs)

/-- Where all diagnostics are warnings, there are as many of these as diagnostics. -/
theorem of_warnings (h : ∀ d ∈ ds, d.severity = .warning) : Tally ds ds.length 0 := by
  refine ⟨List.countP_eq_length.mpr fun d hd => ?_, List.countP_eq_zero.mpr fun d hd => ?_⟩
  · rw [h d hd]
    rfl
  · rw [h d hd]
    decide

/-- Where all diagnostics are infos, there are as many of these as diagnostics. -/
theorem of_infos (h : ∀ d ∈ ds, d.severity = .info) : Tally ds 0 ds.length := by
  refine ⟨List.countP_eq_zero.mpr fun d hd => ?_, List.countP_eq_length.mpr fun d hd => ?_⟩
  · rw [h d hd]
    decide
  · rw [h d hd]
    rfl

theorem warning {d : Diagnostic} (h : d.severity = .warning) : Tally [d] 1 0 :=
  of_warnings fun _ hd => by rw [List.mem_singleton.mp hd, h]

theorem info {d : Diagnostic} (h : d.severity = .info) : Tally [d] 0 1 :=
  of_infos fun _ hd => by rw [List.mem_singleton.mp hd, h]

end Tally

end Blueprint
