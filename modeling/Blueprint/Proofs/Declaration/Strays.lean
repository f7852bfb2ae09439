import Blueprint.Proofs.Declaration.Blocks
import Blueprint.Proofs.Declaration.Grammar
import Blueprint.Proofs.Diagnostic

/-!
# Parameters and types where they stand

Where the parameters of a method and the type of an attribute stand can be told without reading the
line: the parameters between the first opening parenthesis and the next closing one, the type behind
the first colon. A parameter is a stray if it is not two words. Every stray of a block that is read
leaves a warning, and nothing else does.
-/

namespace Blueprint.Declaration

/-- What stands between the first opening parenthesis of a line and the next closing one. -/
def parameterText (line : List Char) : List Char :=
  (line.dropWhile (· != '(')).tail.takeWhile (· != ')')

/-- What stands between the commas of the parameters of a line. Where all of it is blank, there are
no parameters. -/
def parameterTexts (line : List Char) : List (List Char) :=
  if (parameterText line).all Text.isBlank then [] else (parameterText line).splitOn ','

/-- How many parameters of a line are not two words. -/
def straysOfLine (line : List Char) : Nat :=
  (parameterTexts line).countP fun t => (Text.words t).length != 2

/-- How many parameters of a block are not two words. -/
def strays (block : String) : Nat := ((blockTexts block).map straysOfLine).sum

/-- What stands behind the first colon of a line. -/
def typeText (line : List Char) : List Char := (line.dropWhile (· != ':')).tail

variable {line : List Char} {className : String}

/-! ## One line -/

/-- The first stop of a line comes behind marker and name. -/
theorem HeadParts.forall_mem_chars {isStop : Char → Bool} (p : HeadParts isStop) {stop : Char}
    (hmarker : ∀ v : Visibility, v.marker ≠ stop) (hspace : isSpace stop = false)
    (hstop : isStop stop) : ∀ c ∈ p.chars, (c != stop) = true := by
  have hne : ∀ c ∈ p.chars, c ≠ stop := by
    intro c hc
    rcases List.mem_append.mp hc with hc | hc
    · obtain ⟨v, -, rfl⟩ := List.mem_map.mp hc
      exact hmarker v
    · rcases List.mem_append.mp hc with hc | hc
      · rintro rfl
        rw [p.isSpace_of_mem _ hc] at hspace
        exact absurd hspace (by simp)
      · rintro rfl
        rw [p.not_isStop_of_mem _ hc] at hstop
        exact absurd hstop (by simp)
  exact fun c hc => bne_iff_ne.mpr (hne c hc)

theorem parameterText_line (p : MethodParts) : parameterText p.line = p.parameters := by
  have hfirst : p.line.dropWhile (· != '(') =
      '(' :: (p.parameters ++ ')' :: (p.gap ++ ':' :: p.returnType)) := by
    rw [MethodParts.line, List.dropWhile_append_of_pos
      (p.forall_mem_chars (by intro v; cases v <;> decide) rfl rfl)]
    rfl
  have hfree : ∀ c ∈ p.parameters, (c != ')') = true := by
    intro c hc
    refine bne_iff_ne.mpr ?_
    rintro rfl
    exact absurd (p.not_endsParameters_of_mem _ hc) (by decide)
  rw [parameterText, hfirst, List.tail_cons, List.takeWhile_append_of_pos hfree,
    List.takeWhile_cons_of_neg (by decide), List.append_nil]

theorem typeText_line (p : AttributeParts) : typeText p.line = p.type := by
  rw [typeText, AttributeParts.line, List.dropWhile_append_of_pos
    (p.forall_mem_chars (by intro v; cases v <;> decide) rfl rfl)]
  rfl

/-- The type of an attribute is what stands behind the first colon. -/
theorem type_of_readAttribute {a : AttributeLine} (h : readAttribute line = .ok a) :
    a.type = String.ofList (Text.trimChars (typeText line)) := by
  obtain ⟨p, rfl, rfl⟩ := exists_attributeParts h
  rw [typeText_line, AttributeParts.declaration]

/-- The segments that should declare a parameter are the parameters of the line. -/
theorem map_text_parameterSegments {m : MethodLine} (h : readMethod line = .ok m) :
    m.parameterSegments.map (fun s => s.text.toList) = parameterTexts line := by
  obtain ⟨p, rfl⟩ := exists_methodParts h
  rw [readMethod_line p] at h
  obtain rfl := Except.ok.inj h
  have htexts : p.declaration.segments.map (fun s => s.text.toList) = p.parameters.splitOn ',' :=
    map_text_segmentsFrom _ _
  rw [parameterTexts, parameterText_line]
  by_cases hblank : p.parameters.all Text.isBlank
  · -- a comma is not blank, so there is but one segment
    have hlone : p.parameters.splitOn ',' = [p.parameters] := by
      rw [List.splitOn_eq_splitOnP]
      refine List.splitOnP_eq_singleton fun c hc => beq_eq_false_iff_ne.mpr ?_
      rintro rfl
      exact absurd (List.all_eq_true.mp hblank _ hc) (by decide)
    rw [hlone] at htexts
    obtain ⟨s, hs, htext⟩ := List.map_eq_singleton_iff.mp htexts
    rw [if_pos hblank, MethodLine.parameterSegments, hs]
    simp [htext, hblank]
  · rw [if_neg hblank, ← htexts, MethodLine.parameterSegments]
    split
    · next s hs =>
      have htext : s.text.toList = p.parameters := by
        have hjoin : [','].intercalate (p.parameters.splitOn ',') = p.parameters :=
          List.intercalate_splitOn ','
        rw [← htexts, hs, List.map_singleton, List.intercalate_singleton] at hjoin
        exact hjoin
      rw [if_neg (htext ▸ hblank), hs]
    · rfl

theorem isNone_parameter?_iff (s : Segment) :
    s.parameter?.isNone ↔ (Text.words s.text.toList).length ≠ 2 := by
  rw [Segment.parameter?]
  split
  · next type name hwords => simp [hwords]
  · next hwords =>
    simp only [Option.isNone_none, true_iff]
    intro hlength
    obtain ⟨type, name, heq⟩ := List.length_eq_two.mp hlength
    exact hwords type name heq

/-- Each stray of a line leaves a warning. -/
theorem tally_skippedParameters {l : BlockLine} {m : MethodLine} (h : readMethod l.text = .ok m) :
    Tally (skippedParameters className l m) (straysOfLine l.text) 0 := by
  have hlength : (skippedParameters className l m).length = straysOfLine l.text := by
    rw [skippedParameters, List.length_map, ← List.countP_eq_length_filter, straysOfLine,
      ← map_text_parameterSegments h, List.countP_map]
    refine List.countP_congr fun s _ => ?_
    rw [isNone_parameter?_iff]
    exact bne_iff_ne.symm
  rw [← hlength]
  refine Tally.of_warnings fun d hd => ?_
  obtain ⟨s, -, rfl⟩ := List.mem_map.mp hd
  rfl

/-! ## Blocks -/

/-- In a block that is read, each stray leaves a warning. -/
theorem tally_readMethods {block : String} {ms : List Method}
    (h : (readMethods className block).2 = .ok ms) :
    Tally (readMethods className block).1 (strays block) 0 := by
  rw [readMethods] at h ⊢
  rw [strays, blockTexts]
  generalize blockLines block = ls at h ⊢
  induction ls generalizing ms with
  | nil => exact Tally.nil
  | cons l ls ih =>
    obtain ⟨m, ms, ⟨line, hread, -⟩, hrest, -⟩ :=
      List.forall₂_cons_left_iff.mp (readMethodLines_eq_ok_iff.mp h)
    rw [readMethodLines_cons_fst hread, List.map_cons, List.map_cons, List.sum_cons]
    exact (tally_skippedParameters hread).append (ih (readMethodLines_eq_ok_iff.mpr hrest))

/-- The types of the attributes of a block stand behind the first colons of its lines. -/
theorem map_type_of_readAttributes {block : String} {as : List Attribute}
    (h : readAttributes className block = .ok as) :
    as.map Attribute.type =
      (blockTexts block).map fun line => String.ofList (Text.trimChars (typeText line)) := by
  have hall := readAttributes_eq_ok_iff.mp h
  clear h
  generalize blockTexts block = texts at hall ⊢
  induction hall with
  | nil => rfl
  | cons hread _ ih =>
    obtain ⟨l, hl, rfl⟩ := hread
    rw [List.map_cons, List.map_cons, ih, ← type_of_readAttribute hl]
    rfl

/-- A lone blank between the parentheses is no parameter, and a word on its own is a stray, as are
three words and a blank between two commas. -/
example : straysOfLine "run( ): void".toList = 0 ∧
    straysOfLine "run(int a, b, , final int c): void".toList = 3 := by
  decide

end Blueprint.Declaration
