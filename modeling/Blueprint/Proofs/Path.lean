import Blueprint.Path
import Blueprint.Proofs.Text.Blank
import Mathlib.Data.List.Basic

/-!
# Entries of a directory

A path leads to an entry of a directory if it has the steps of the directory and one more, which is
the name of the entry. A name without a slash, taken from a directory, leads there. A name with a
slash never does: it makes for more steps than one, or for a step of another name.
-/

namespace Blueprint.Path

variable {directory name path : String} {s t : List Char}

/-- A path leads to the entry of a name in a directory. -/
structure IsEntry (directory name path : String) : Prop where
  /-- It has the steps of the directory and one more. -/
  steps_eq : steps path = steps directory ++ [name]
  /-- It starts where the directory does. -/
  isAbsolute_eq : isAbsolute path = isAbsolute directory

/-! ## Steps -/

theorem steps_ofList (s : List Char) :
    steps (String.ofList s) = ((s.splitOn '/').map String.ofList).filter (· ≠ "") := by
  rw [steps, String.toList_ofList]

theorem steps_append_slash (s t : List Char) :
    steps (String.ofList (s ++ '/' :: t)) = steps (String.ofList s) ++ steps (String.ofList t) := by
  rw [steps_ofList, List.splitOn_eq_splitOnP, List.splitOnP_append_cons s t (by simp),
    List.map_append, List.filter_append, steps_ofList, steps_ofList, List.splitOn_eq_splitOnP,
    List.splitOn_eq_splitOnP]

/-- A name without a slash is a single step. -/
theorem steps_of_slashless (hne : name ≠ "") (h : '/' ∉ name.toList) : steps name = [name] := by
  have hcut : name.toList.splitOn '/' = [name.toList] := by
    rw [List.splitOn_eq_splitOnP]
    refine List.splitOnP_eq_singleton fun c hc => beq_eq_false_iff_ne.mpr ?_
    rintro rfl
    exact h hc
  rw [steps, hcut, List.map_singleton, String.ofList_toList]
  simp [hne]

/-- No step holds a slash. -/
theorem slashless_of_mem_steps (h : name ∈ steps path) : '/' ∉ name.toList := by
  obtain ⟨w, hw, rfl⟩ := List.mem_map.mp (List.mem_of_mem_filter h)
  rw [String.toList_ofList]
  intro hslash
  exact absurd (Text.of_mem_splitOnP hw '/' hslash).2 (by simp)

/-! ## Joining -/

theorem isAbsolute_of_slashless (h : '/' ∉ name.toList) : isAbsolute name = false := by
  rw [isAbsolute, beq_eq_false_iff_ne]
  intro hhead
  exact h (List.mem_of_head? hhead)

/-- A name without a slash, taken from a directory, leads to the entry of this name. -/
theorem isEntry_join (hne : name ≠ "") (h : '/' ∉ name.toList) (directory : String) :
    IsEntry directory name (join directory name) := by
  have hrelative := isAbsolute_of_slashless h
  have hname := steps_of_slashless hne h
  by_cases hempty : directory = ""
  · rw [join, if_pos (Or.inr hempty), hempty]
    exact ⟨hname, hrelative⟩
  · have hchars : directory.toList ≠ [] := by simpa using hempty
    rw [join, if_neg (by simp [hrelative, hempty])]
    split
    · next hlast =>
      -- the slash at the end of the directory separates the two
      obtain ⟨s, hs⟩ : ∃ s, directory.toList = s ++ ['/'] :=
        ⟨_, (List.dropLast_append_getLast? '/' hlast).symm⟩
      have hdirectory : directory = String.ofList (s ++ '/' :: []) := by
        rw [← hs, String.ofList_toList]
      have hjoined : directory ++ name = String.ofList (s ++ '/' :: name.toList) := by
        rw [hdirectory, ← String.toList_inj]
        simp
      refine ⟨?_, ?_⟩
      · rw [hjoined, steps_append_slash, hdirectory, steps_append_slash, String.ofList_toList, hname]
        simp [steps]
      · rw [isAbsolute, isAbsolute, String.toList_append, List.head?_append_of_ne_nil _ hchars]
    · have hjoined : directory ++ "/" ++ name =
          String.ofList (directory.toList ++ '/' :: name.toList) := by
        rw [← String.toList_inj]
        simp
      refine ⟨?_, ?_⟩
      · rw [hjoined, steps_append_slash, String.ofList_toList, String.ofList_toList, hname]
      · rw [isAbsolute, isAbsolute, String.append_assoc, String.toList_append,
          List.head?_append_of_ne_nil _ hchars]

/-- A name that is not empty leads to the entry of this name if and only if it holds no slash. -/
theorem isEntry_join_iff (hne : name ≠ "") (directory : String) :
    IsEntry directory name (join directory name) ↔ '/' ∉ name.toList := by
  refine ⟨fun h => ?_, fun h => isEntry_join hne h directory⟩
  have hmem : name ∈ steps (join directory name) := by
    rw [h.steps_eq]
    exact List.mem_append_right _ (List.mem_singleton_self name)
  exact slashless_of_mem_steps hmem

end Blueprint.Path
