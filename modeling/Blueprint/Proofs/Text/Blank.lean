import Blueprint.Text.Blank
import Mathlib.Data.List.DropRight

/-!
# Trimming and cutting

Trimming takes the blanks off both ends of a text and nothing else. What is left has no blank at
either end, and a text like that stays as it is. Words are cut apart at every single blank, so it does
not matter how many blanks stand between two of them. Lines are cut apart at every line feed,
and they come back as they were joined.
-/

namespace Blueprint.Text

variable {s t : List Char} {c : Char}

/-! ## One end -/

theorem trimStart_append_of_blank (h : ∀ c ∈ s, isBlank c) (t : List Char) :
    trimStart (s ++ t) = trimStart t :=
  List.dropWhile_append_of_pos h

theorem trimStart_cons_of_blank (h : isBlank c) (s : List Char) : trimStart (c :: s) = trimStart s :=
  List.dropWhile_cons_of_pos h

theorem trimStart_cons_of_not_blank (h : isBlank c = false) (s : List Char) :
    trimStart (c :: s) = c :: s :=
  List.dropWhile_cons_of_neg (by simp [h])

theorem trimEnd_eq_rdropWhile (s : List Char) : trimEnd s = s.rdropWhile isBlank := rfl

theorem trimEnd_append_of_blank (h : ∀ c ∈ t, isBlank c) (s : List Char) :
    trimEnd (s ++ t) = trimEnd s := by
  have hreverse : ∀ c ∈ t.reverse, isBlank c := fun c hc => h c (List.mem_reverse.mp hc)
  rw [trimEnd, List.reverse_append, List.dropWhile_append_of_pos hreverse, trimEnd]

/-- What stands before a character that is not blank is not taken off the end. -/
theorem trimEnd_append_cons (h : isBlank c = false) (s t : List Char) :
    trimEnd (s ++ c :: t) = s ++ c :: trimEnd t := by
  have hsplit : (s ++ c :: t).reverse = t.reverse ++ c :: s.reverse := by simp
  rw [trimEnd, hsplit, List.dropWhile_append]
  split
  · next hempty =>
    rw [List.isEmpty_iff] at hempty
    simp [h, trimEnd, hempty]
  · simp [trimEnd]

/-! ## Both ends -/

/-- A text without blanks at its ends. -/
structure Trimmed (s : List Char) : Prop where
  /-- It starts with no blank. -/
  head : ∀ c ∈ s.head?, isBlank c = false
  /-- It ends with no blank. -/
  last : ∀ c ∈ s.getLast?, isBlank c = false

theorem mem_of_mem_trimChars (h : c ∈ trimChars s) : c ∈ s :=
  (List.dropWhile_suffix _).subset ((List.rdropWhile_prefix isBlank _).subset h)

theorem trimChars_eq_nil_iff : trimChars s = [] ↔ ∀ c ∈ s, isBlank c := by
  rw [trimChars, trimEnd_eq_rdropWhile, List.rdropWhile_eq_nil_iff]
  constructor
  · intro h c hc
    rw [← List.takeWhile_append_dropWhile (p := isBlank) (l := s)] at hc
    rcases List.mem_append.mp hc with hc | hc
    · exact List.mem_takeWhile_imp hc
    · exact h c hc
  · exact fun h c hc => h c ((List.dropWhile_suffix _).subset hc)

theorem trimChars_ne_nil_iff : trimChars s ≠ [] ↔ ∃ c ∈ s, isBlank c = false := by
  rw [ne_eq, trimChars_eq_nil_iff]
  simp

theorem trimmed_trimChars (s : List Char) : Trimmed (trimChars s) := by
  refine ⟨fun c hc => ?_, fun c hc => ?_⟩
  · -- trimming the end leaves the start alone, as long as anything is left
    obtain ⟨u, hu⟩ : trimChars s <+: s.dropWhile isBlank := List.rdropWhile_prefix isBlank _
    have hhead : (s.dropWhile isBlank).head? = some c := by
      rw [← hu, List.head?_append, hc, Option.some_or]
    have hnot := List.head?_dropWhile_not isBlank s
    rw [hhead] at hnot
    exact hnot
  · obtain ⟨hne, rfl⟩ := List.mem_getLast?_eq_getLast hc
    have hnot : ¬isBlank ((trimChars s).getLast hne) := List.rdropWhile_last_not isBlank _ hne
    simpa using hnot

theorem trimChars_of_trimmed (h : Trimmed s) : trimChars s = s := by
  cases s with
  | nil => rfl
  | cons c s =>
    rw [trimChars, trimStart_cons_of_not_blank (h.head c rfl), trimEnd_eq_rdropWhile,
      List.rdropWhile_eq_self_iff]
    intro hne
    simp [h.last _ (List.getLast?_eq_some_getLast hne)]

/-- Trimming does not mind what of the blanks in front is gone already. -/
theorem trimChars_dropWhile {p : Char → Bool} (hp : ∀ c, p c → isBlank c) (s : List Char) :
    trimChars (s.dropWhile p) = trimChars s := by
  have hblank : ∀ c ∈ s.takeWhile p, isBlank c := fun c hc => hp c (List.mem_takeWhile_imp hc)
  conv_rhs => rw [← List.takeWhile_append_dropWhile (p := p) (l := s)]
  rw [trimChars, trimChars, trimStart_append_of_blank hblank]

/-- Trimming does not mind whether the end is trimmed already. -/
theorem trimChars_trimEnd (s : List Char) : trimChars (trimEnd s) = trimChars s := by
  have hblank : ∀ c ∈ s.rtakeWhile isBlank, isBlank c := fun c hc => List.mem_rtakeWhile_imp hc
  conv_rhs => rw [← List.rdropWhile_append_rtakeWhile (p := isBlank) (l := s)]
  rw [← trimEnd_eq_rdropWhile, trimChars, trimChars, trimStart, trimStart, List.dropWhile_append]
  split
  · next hempty =>
    rw [List.isEmpty_iff] at hempty
    rw [hempty, List.dropWhile_eq_nil_iff.mpr hblank]
  · rw [trimEnd_append_of_blank hblank]

/-! ## Cutting -/

/-- The first member of a kind is where it is, however a list is put together. -/
theorem append_cons_inj_of_first {α : Type} {p : α → Bool} {s s' t t' : List α} {c d : α}
    (hs : ∀ x ∈ s, p x = false) (hs' : ∀ x ∈ s', p x = false) (hc : p c) (hd : p d)
    (h : s ++ c :: t = s' ++ d :: t') : s = s' ∧ c = d ∧ t = t' := by
  have hfirst : s = s' := by
    have htake := congrArg (List.takeWhile (!p ·)) h
    rwa [List.takeWhile_append_of_pos (by simpa using hs),
      List.takeWhile_append_of_pos (by simpa using hs'), List.takeWhile_cons_of_neg (by simp [hc]),
      List.takeWhile_cons_of_neg (by simp [hd]), List.append_nil, List.append_nil] at htake
  rw [hfirst] at h
  exact ⟨hfirst, List.cons.inj (List.append_cancel_left h)⟩

/-- Lines that were joined by line feeds come apart again, if they hold none themselves. -/
theorem splitOn_intercalate_feed {lines : List String} (h : ∀ l ∈ lines, '\n' ∉ l.toList)
    (hne : lines ≠ []) :
    ("\n".intercalate lines).toList.splitOn '\n' = lines.map String.toList := by
  rw [String.toList_intercalate]
  refine List.splitOn_intercalate '\n' ?_ (by simpa using hne)
  intro l hl
  obtain ⟨l', hl', rfl⟩ := List.mem_map.mp hl
  exact h l' hl'

/-- The parts of a list that is cut hold members of it that it is not cut at. -/
theorem of_mem_splitOnP {α : Type} {p : α → Bool} {l w : List α} (h : w ∈ l.splitOnP p) :
    ∀ x ∈ w, x ∈ l ∧ p x = false := by
  induction l generalizing w with
  | nil =>
    rw [List.splitOnP_nil, List.mem_singleton] at h
    simp [h]
  | cons a l ih =>
    rw [List.splitOnP_cons_eq_if_modifyHead] at h
    have hlater : w ∈ l.splitOnP p → ∀ x ∈ w, x ∈ a :: l ∧ p x = false := fun hw x hx =>
      ⟨List.mem_cons_of_mem _ (ih hw x hx).1, (ih hw x hx).2⟩
    by_cases ha : p a
    · rw [if_pos ha] at h
      rcases List.mem_cons.mp h with rfl | h
      · simp
      · exact hlater h
    · rw [if_neg ha] at h
      obtain ⟨first, rest, hcut⟩ := List.exists_cons_of_ne_nil (List.splitOnP_ne_nil p l)
      rw [hcut, List.modifyHead_cons] at h
      rcases List.mem_cons.mp h with rfl | h
      · intro x hx
        rcases List.mem_cons.mp hx with rfl | hx
        · exact ⟨List.mem_cons_self, by simpa using ha⟩
        · obtain ⟨hmem, hp⟩ := ih (hcut ▸ List.mem_cons_self) x hx
          exact ⟨List.mem_cons_of_mem _ hmem, hp⟩
      · exact hlater (hcut ▸ List.mem_cons_of_mem _ h)

/-! ## Words -/

theorem words_append_blank (h : isBlank c) (s t : List Char) :
    words (s ++ c :: t) = words s ++ words t := by
  rw [words, List.splitOnP_append_cons s t h, List.filter_append, words, words]

theorem words_cons_blank (h : isBlank c) (s : List Char) : words (c :: s) = words s :=
  words_append_blank h [] s

theorem words_of_solid (hne : s ≠ []) (h : ∀ c ∈ s, isBlank c = false) : words s = [s] := by
  rw [words, List.splitOnP_eq_singleton h]
  simp [hne]

/-- Words are made of characters that are not blank. -/
theorem mem_words {w : List Char} (h : w ∈ words s) :
    w ≠ [] ∧ ∀ c ∈ w, c ∈ s ∧ isBlank c = false := by
  obtain ⟨hcut, hne⟩ := List.mem_filter.mp h
  exact ⟨by simpa using hne, of_mem_splitOnP hcut⟩

end Blueprint.Text
