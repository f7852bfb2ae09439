import Blueprint.Declaration.Block
import Blueprint.Proofs.Declaration.Grammar

/-!
# Lines and columns

A line of a block is counted with all lines before it, and a column of it with all characters before
it, blanks included. What is read is the trimmed line, and segments are placed by their bytes in it:
both ways of counting are led back to the characters of the line as it stands.
-/

namespace Blueprint.Declaration

open Text (byteLength)

/-! ## Lines -/

/-- The lines of a block that are not blank, as they stand, each with its number, from one. -/
def numberedLines (block : String) : List (List Char × Nat) :=
  ((block.toList.splitOn '\n').zipIdx 1).filter fun l => !l.1.all Text.isBlank

/-- The blanks before a line. -/
def indentation (raw : List Char) : List Char := raw.takeWhile Text.isBlank

/-- What is read of a line of a block. -/
def trimmedLine (l : List Char × Nat) : BlockLine where
  text := Text.trimChars l.1
  number := l.2
  indent := (indentation l.1).length

/-- A block is read from those of its lines that are not blank. -/
theorem blockLines_eq (block : String) :
    blockLines block = (numberedLines block).map trimmedLine := by
  have hindent (raw : List Char) :
      raw.length - (Text.trimStart raw).length = (indentation raw).length := by
    have hlength := congrArg List.length
      (List.takeWhile_append_dropWhile (p := Text.isBlank) (l := raw))
    rw [List.length_append] at hlength
    rw [Text.trimStart, indentation]
    omega
  rw [blockLines, numberedLines, List.splitOn_eq_splitOnP, ← List.filterMap_eq_map,
    List.filterMap_filter]
  refine List.filterMap_congr fun l _ => ?_
  have hblank : (Text.trimChars l.1).isEmpty = l.1.all Text.isBlank := by
    rw [Bool.eq_iff_iff, List.isEmpty_iff, Text.trimChars_eq_nil_iff, List.all_eq_true]
  simp only [hblank, hindent]
  cases l.1.all Text.isBlank <;> rfl

/-! ## Columns -/

/-- A line is what is read of it, between its indentation and the blanks at its end. -/
theorem exists_eq_indentation_append (raw : List Char) :
    ∃ after, raw = indentation raw ++ (Text.trimChars raw ++ after) := by
  obtain ⟨after, hafter⟩ : Text.trimChars raw <+: raw.dropWhile Text.isBlank :=
    List.rdropWhile_prefix Text.isBlank _
  exact ⟨after, by rw [hafter, indentation, List.takeWhile_append_dropWhile]⟩

/-- The characters of a trimmed line are those of the line behind its indentation. -/
theorem take_indentation (raw : List Char) {k : Nat} (h : k ≤ (Text.trimChars raw).length) :
    raw.take ((indentation raw).length + k) = indentation raw ++ (Text.trimChars raw).take k := by
  obtain ⟨after, hraw⟩ := exists_eq_indentation_append raw
  generalize indentation raw = blanks at hraw ⊢
  generalize Text.trimChars raw = text at hraw h ⊢
  rw [hraw, List.take_length_add_append, List.take_append_of_le_length h]

/-- A byte at which a character starts is counted by the characters before it. -/
theorem charactersBefore?_byteLength (before rest : List Char) :
    charactersBefore? (before ++ rest) (byteLength before) = some before.length := by
  induction before with
  | nil =>
    rw [byteLength]
    cases rest <;> rfl
  | cons c before ih =>
    obtain ⟨n, hn⟩ : ∃ n, c.utf8Size + byteLength before = n + 1 :=
      Nat.exists_eq_add_of_le' (Nat.le_add_right_of_le c.utf8Size_pos)
    have hle : c.utf8Size ≤ n + 1 := hn ▸ Nat.le_add_right _ _
    have hsub : n + 1 - c.utf8Size = byteLength before := by omega
    rw [byteLength, hn, List.cons_append, charactersBefore?, if_pos hle, hsub, ih]
    rfl

theorem columnOfByte_byteLength (before rest : List Char) :
    columnOfByte (before ++ rest) (byteLength before) = before.length + 1 := by
  rw [columnOfByte, charactersBefore?_byteLength, Option.getD_some]

/-! ## Segments -/

/-- Texts with commas between them stand in a line, and something before them. -/
def StandBehind (line before : List Char) (texts : List (List Char)) : Prop :=
  texts ≠ [] → ∃ after, before ++ ([','].intercalate texts ++ after) = line

/-- The first text stands there, and the others stand behind it and a comma. -/
theorem StandBehind.cons {line before text : List Char} {texts : List (List Char)}
    (h : StandBehind line before (text :: texts)) :
    (∃ rest, before ++ (text ++ rest) = line) ∧ StandBehind line (before ++ text ++ [',']) texts := by
  obtain ⟨after, hline⟩ := h (by simp)
  cases texts with
  | nil =>
    rw [List.intercalate_singleton] at hline
    exact ⟨⟨after, hline⟩, fun hne => absurd rfl hne⟩
  | cons next texts =>
    rw [List.intercalate_cons_cons] at hline
    refine ⟨⟨[','] ++ [','].intercalate (next :: texts) ++ after, ?_⟩, fun _ => ⟨after, ?_⟩⟩
    · rw [← hline]
      simp
    · rw [← hline]
      simp

/-- The next segment starts behind a text and a comma. -/
theorem segmentsFrom_cons (before text : List Char) (texts : List (List Char)) :
    segmentsFrom (byteLength before) (text :: texts) =
      { text := String.ofList text, start := byteLength before
        stop := byteLength before + byteLength text } ::
        segmentsFrom (byteLength (before ++ text ++ [','])) texts := by
  rw [segmentsFrom, byteLength_append, byteLength_append]
  rfl

/-- The parameters of a line stand behind its opening parenthesis. -/
theorem MethodParts.standBehind (p : MethodParts) :
    StandBehind p.line (p.chars ++ ['(']) (p.parameters.splitOn ',') := by
  intro _
  refine ⟨')' :: (p.gap ++ ':' :: p.returnType), ?_⟩
  rw [List.intercalate_splitOn, MethodParts.line, List.append_assoc, List.singleton_append]

theorem MethodParts.start_eq (p : MethodParts) : p.start = byteLength (p.chars ++ ['(']) := by
  rw [byteLength_append]
  rfl

end Blueprint.Declaration
