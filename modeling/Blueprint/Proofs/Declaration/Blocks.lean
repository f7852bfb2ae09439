import Blueprint.Declaration.Block
import Blueprint.Proofs.Text.Blank
import Mathlib.Data.List.Forall2

/-!
# Blocks line by line

What a block is read as depends on the texts of its lines alone, and each line is read for itself:
the class, the numbers of the lines and the blanks around them only tell where an error is. The texts
are trimmed, not empty, and free of line feeds. A block that cannot be read fails with the first
fault of its lines.
-/

namespace Blueprint

/-- The failure in a result. -/
def failureOf? {α : Type} : Except Failure α → Option Failure
  | .ok _ => none
  | .error f => some f

namespace Declaration

variable {className block : String} {ls : List BlockLine} {ms : List Method}

/-! ## Lines -/

/-- The texts of the lines of a block. -/
def blockTexts (block : String) : List (List Char) := (blockLines block).map BlockLine.text

theorem blockTexts_eq (block : String) :
    blockTexts block =
      ((block.toList.splitOn '\n').map Text.trimChars).filter (!·.isEmpty) := by
  rw [blockTexts, blockLines, ← List.splitOn_eq_splitOnP]
  generalize block.toList.splitOn '\n' = raws
  -- the numbers of the lines are carried along and then forgotten
  generalize 1 = first
  induction raws generalizing first with
  | nil => rfl
  | cons raw raws ih =>
    rw [List.zipIdx_cons, List.map_cons]
    by_cases hempty : (Text.trimChars raw).isEmpty
    · rw [List.filterMap_cons_none (by simp [hempty]), ih, List.filter_cons_of_neg (by simp [hempty])]
    · rw [List.filterMap_cons_some (by simp [hempty]; rfl), List.map_cons, ih,
        List.filter_cons_of_pos (by simp [hempty])]

/-- A block of lines that are not blank has just these lines, trimmed. -/
theorem blockTexts_intercalate {lines : List String}
    (h : ∀ l ∈ lines, '\n' ∉ l.toList ∧ Text.trimChars l.toList ≠ []) :
    blockTexts ("\n".intercalate lines) = lines.map fun l => Text.trimChars l.toList := by
  rw [blockTexts_eq]
  by_cases hnil : lines = []
  · rw [hnil]
    rfl
  · rw [Text.splitOn_intercalate_feed (fun l hl => (h l hl).1) hnil, List.map_map]
    refine List.filter_eq_self.mpr fun text htext => ?_
    obtain ⟨l, hl, rfl⟩ := List.mem_map.mp htext
    simpa using (h l hl).2

theorem not_mem_of_mem_blockTexts {text : List Char} (h : text ∈ blockTexts block) :
    '\n' ∉ text := by
  rw [blockTexts_eq] at h
  obtain ⟨raw, hraw, rfl⟩ := List.mem_map.mp (List.mem_of_mem_filter h)
  intro hfeed
  exact absurd (Text.of_mem_splitOnP hraw '\n' (Text.mem_of_mem_trimChars hfeed)).2 (by simp)

/-! ## Attributes -/

/-- A traversal that can fail gets to its end if and only if each of its steps does. -/
theorem mapM_eq_ok_iff {α β ε : Type} {f : α → Except ε β} {xs : List α} {ys : List β} :
    xs.mapM f = .ok ys ↔ List.Forall₂ (fun x y => f x = .ok y) xs ys := by
  induction xs generalizing ys with
  | nil => cases ys <;> simp [pure, Except.pure]
  | cons x xs ih =>
    rw [List.mapM_cons, List.forall₂_cons_left_iff]
    cases hx : f x with
    | error e => simp [bind, Except.bind]
    | ok y =>
      cases hxs : xs.mapM f with
      | error e => simp [bind, Except.bind, ← ih, hxs]
      | ok ys' => simp [bind, Except.bind, pure, Except.pure, ← ih, hxs, @eq_comm _ ys]

/-- Attributes are read line by line. -/
theorem readAttributes_eq_ok_iff {as : List Attribute} :
    readAttributes className block = .ok as ↔
      List.Forall₂ (fun text a => ∃ l, readAttribute text = .ok l ∧ l.attribute = a)
        (blockTexts block) as := by
  rw [readAttributes, mapM_eq_ok_iff, blockTexts, List.forall₂_map_left_iff]
  refine iff_of_eq (congrArg (List.Forall₂ · _ as) ?_)
  funext l a
  cases readAttribute l.text <;> simp

/-! ## Methods -/

theorem readMethodLines_eq_ok_iff :
    (readMethodLines className ls).2 = .ok ms ↔
      List.Forall₂ (fun l m => ∃ line, readMethod l.text = .ok line ∧ line.method = m) ls ms := by
  induction ls generalizing ms with
  | nil => cases ms <;> simp [readMethodLines]
  | cons l ls ih =>
    rw [readMethodLines, List.forall₂_cons_left_iff]
    cases hl : readMethod l.text with
    | error e => simp
    | ok line =>
      cases hls : (readMethodLines className ls).2 with
      | error f => simp [Except.map, ← ih, hls]
      | ok ms' => simp [Except.map, ← ih, hls, @eq_comm _ ms]

/-- Methods are read line by line. -/
theorem readMethods_eq_ok_iff :
    (readMethods className block).2 = .ok ms ↔
      List.Forall₂ (fun text m => ∃ l, readMethod text = .ok l ∧ l.method = m)
        (blockTexts block) ms := by
  rw [readMethods, readMethodLines_eq_ok_iff, blockTexts, List.forall₂_map_left_iff]

theorem readMethodLines_cons_fst {l : BlockLine} {line : MethodLine}
    (h : readMethod l.text = .ok line) : (readMethodLines className (l :: ls)).1 =
      skippedParameters className l line ++ (readMethodLines className ls).1 := by
  rw [readMethodLines, h]

/-- The parameter that a segment declares is made of two words of it. -/
theorem words_of_parameter? {s : Segment} {q : Parameter} (h : s.parameter? = some q) :
    Text.words s.text.toList = [q.type.toList, q.name.toList] := by
  rw [Segment.parameter?] at h
  split at h
  · next type name hwords =>
    rw [← Option.some.inj h, String.toList_ofList, String.toList_ofList, hwords]
  · exact absurd h (by simp)

theorem parameter?_of_words {s : Segment} {q : Parameter}
    (h : Text.words s.text.toList = [q.type.toList, q.name.toList]) : s.parameter? = some q := by
  rw [Segment.parameter?, h]
  simp

/-- If all segments of all lines declare parameters, there is nothing to warn of. -/
theorem readMethodLines_fst_eq_nil
    (h : ∀ l ∈ ls, ∀ m, readMethod l.text = .ok m →
      ∀ s ∈ m.parameterSegments, s.parameter?.isSome) :
    (readMethodLines className ls).1 = [] := by
  induction ls with
  | nil => rfl
  | cons l ls ih =>
    obtain ⟨hl, hls⟩ := List.forall_mem_cons.mp h
    rw [readMethodLines]
    cases hread : readMethod l.text with
    | error e => rfl
    | ok m =>
      have hskipped : skippedParameters className l m = [] := by
        rw [skippedParameters, List.map_eq_nil_iff, List.filter_eq_nil_iff]
        intro s hs
        simpa [Option.isSome_iff_ne_none] using hl m hread s hs
      simp [hskipped, ih hls]

/-! ## Faults -/

/-- The fault of a line that is no attribute. -/
def BlockLine.attributeFault? (className : String) (l : BlockLine) : Option Failure :=
  match readAttribute l.text with
  | .ok _ => none
  | .error e => some (l.failure className .attributes e)

/-- The fault of a line that is no method. -/
def BlockLine.methodFault? (className : String) (l : BlockLine) : Option Failure :=
  match readMethod l.text with
  | .ok _ => none
  | .error e => some (l.failure className .methods e)

theorem failureOf?_mapM {α β : Type} (f : α → Except Failure β) (xs : List α) :
    failureOf? (xs.mapM f) = (xs.filterMap fun x => failureOf? (f x)).head? := by
  induction xs with
  | nil => rfl
  | cons x xs ih =>
    rw [List.mapM_cons]
    cases hx : f x with
    | error e => simp [bind, Except.bind, failureOf?, hx]
    | ok y =>
      rw [List.filterMap_cons_none (by simp [failureOf?, hx]), ← ih]
      cases xs.mapM f <;> rfl

theorem failureOf?_readAttributes (className block : String) :
    failureOf? (readAttributes className block) =
      ((blockLines block).filterMap (·.attributeFault? className)).head? := by
  rw [readAttributes, failureOf?_mapM]
  refine congrArg (fun f => ((blockLines block).filterMap f).head?) (funext fun l => ?_)
  rw [BlockLine.attributeFault?]
  cases readAttribute l.text <;> rfl

theorem failureOf?_readMethodLines (className : String) (ls : List BlockLine) :
    failureOf? (readMethodLines className ls).2 =
      (ls.filterMap (·.methodFault? className)).head? := by
  induction ls with
  | nil => rfl
  | cons l ls ih =>
    rw [readMethodLines]
    cases hl : readMethod l.text with
    | error e =>
      rw [List.filterMap_cons_some (by simp [BlockLine.methodFault?, hl]; rfl)]
      rfl
    | ok line =>
      rw [List.filterMap_cons_none (by simp [BlockLine.methodFault?, hl]), ← ih]
      cases hls : (readMethodLines className ls).2 <;> simp [failureOf?, Except.map, hls]

end Declaration

end Blueprint
