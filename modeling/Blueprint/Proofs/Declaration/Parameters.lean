import Blueprint.Proofs.Declaration.Columns
import Blueprint.Proofs.Declaration.Strays

/-!
# Parameters in their order

The parameters of a method and the warnings of its line come from a walk over the segments between
its parentheses. Each segment gives the next parameter, if it is a type and a name, and the next
warning otherwise. The walk knows what of the line stands before a segment, and a warning tells the
place behind it, in characters of the line as it stands in the block.
-/

namespace Blueprint.Declaration

open Text (byteLength)

variable {className name block : String} {l : BlockLine} {before after blanks : List Char}
  {texts : List (List Char)}

/-! ## Walks -/

/-- The warning for a segment that is not a type and a name, where something stands before it. -/
def strayWarning (className : String) (number : Nat) (name : String) (before text : List Char) :
    Diagnostic :=
  .warning
    ("skipped parameter '" ++ String.ofList (Text.trimChars text) ++ "' of " ++ name ++
      ": expected `type name`")
    (some (.declaration className .methods number (before.length + 1)))

/-- A walk over segments, given what stands before the first of them, with the parameters and the
warnings that come of it. -/
inductive Walk (className : String) (number : Nat) (name : String) :
    List Char → List (List Char) → List Parameter → List Diagnostic → Prop
  /-- There is no segment left. -/
  | done (before : List Char) : Walk className number name before [] [] []
  /-- A segment of two words gives the next parameter. -/
  | parameter {before text : List Char} {texts : List (List Char)} {p : Parameter}
      {ps : List Parameter} {ds : List Diagnostic}
      (hwords : Text.words text = [p.type.toList, p.name.toList])
      (rest : Walk className number name (before ++ text ++ [',']) texts ps ds) :
      Walk className number name before (text :: texts) (p :: ps) ds
  /-- Any other segment gives the next warning. -/
  | stray {before text : List Char} {texts : List (List Char)} {ps : List Parameter}
      {ds : List Diagnostic} (hwords : (Text.words text).length ≠ 2)
      (rest : Walk className number name (before ++ text ++ [',']) texts ps ds) :
      Walk className number name before (text :: texts) ps
        (strayWarning className number name before text :: ds)

/-- There is but one segment, and it is blank. -/
def LoneBlank (texts : List (List Char)) : Prop :=
  ∃ text, texts = [text] ∧ ∀ c ∈ text, Text.isBlank c

/-- A line of a block with the method that is read from it and the warnings that it leaves. -/
structure LineWalk (className : String) (raw : List Char) (number : Nat) (m : Method)
    (ds : List Diagnostic) : Prop where
  /-- The method is that of the line. -/
  read : ∃ line, readMethod (Text.trimChars raw) = .ok line ∧ line.method = m
  /-- The segments stand between the first parenthesis and the next one, and are walked over unless
  there is but a blank one. -/
  walk : ∃ before parameters after, raw = before ++ '(' :: (parameters ++ ')' :: after) ∧
    '(' ∉ before ∧ ')' ∉ parameters ∧
    (LoneBlank (parameters.splitOn ',') → m.parameters = [] ∧ ds = []) ∧
    (¬LoneBlank (parameters.splitOn ',') →
      Walk className number m.name (before ++ ['(']) (parameters.splitOn ',') m.parameters ds)

/-- Lines of a block with the methods that are read from them and the warnings that they leave, line
by line. -/
inductive BlockWalk (className : String) :
    List (List Char × Nat) → List Method → List Diagnostic → Prop
  /-- There is no line left. -/
  | done : BlockWalk className [] [] []
  /-- The next line gives the next method, and its warnings come next. -/
  | line {raw : List Char} {number : Nat} {m : Method} {ds : List Diagnostic}
      {lines : List (List Char × Nat)} {ms : List Method} {ds' : List Diagnostic}
      (walk : LineWalk className raw number m ds) (rest : BlockWalk className lines ms ds') :
      BlockWalk className ((raw, number) :: lines) (m :: ms) (ds ++ ds')

/-! ## Segments -/

/-- The warning for a segment of a line. -/
def BlockLine.skipped (className : String) (l : BlockLine) (name : String) (s : Segment) :
    Diagnostic :=
  .warning ("skipped parameter '" ++ Text.trim s.text ++ "' of " ++ name ++ ": expected `type name`")
    (some (.declaration className .methods l.number (l.indent + columnOfByte l.text s.start)))

theorem skippedParameters_eq (m : MethodLine) : skippedParameters className l m =
    (m.parameterSegments.filter (·.parameter?.isNone)).map (l.skipped className m.name) := rfl

/-- The warning for a segment tells where it starts. -/
theorem skipped_segment {text rest : List Char} {stop : Nat} (hindent : l.indent = blanks.length)
    (hline : before ++ rest = l.text) :
    l.skipped className name ⟨String.ofList text, byteLength before, stop⟩ =
      strayWarning className l.number name (blanks ++ before) text := by
  rw [BlockLine.skipped, strayWarning, ← hline, columnOfByte_byteLength, hindent, Text.trim,
    String.toList_ofList, List.length_append, Nat.add_assoc]

/-- The segments of a line are walked over. -/
theorem walk_segmentsFrom (hindent : l.indent = blanks.length)
    (h : StandBehind l.text before texts) :
    Walk className l.number name (blanks ++ before) texts
      ((segmentsFrom (byteLength before) texts).filterMap Segment.parameter?)
      (((segmentsFrom (byteLength before) texts).filter (·.parameter?.isNone)).map
        (l.skipped className name)) := by
  induction texts generalizing before with
  | nil => exact Walk.done _
  | cons text texts ih =>
    obtain ⟨⟨after, hline⟩, hrest⟩ := h.cons
    -- the walk goes on behind the segment and a comma, and so do the bytes
    have hwalk := ih hrest
    rw [← List.append_assoc, ← List.append_assoc] at hwalk
    rw [segmentsFrom_cons]
    set s : Segment := ⟨String.ofList text, byteLength before, byteLength before + byteLength text⟩
      with hs
    have htext : s.text.toList = text := String.toList_ofList
    cases hparameter : s.parameter? with
    | none =>
      have hnone : s.parameter?.isNone := by rw [hparameter]; rfl
      rw [List.filterMap_cons_none hparameter,
        List.filter_cons_of_pos (p := fun s : Segment => s.parameter?.isNone) hnone, List.map_cons,
        hs, skipped_segment hindent hline]
      exact Walk.stray (htext ▸ (isNone_parameter?_iff s).mp hnone) hwalk
    | some p =>
      have hsome : ¬s.parameter?.isNone := by rw [hparameter]; simp
      rw [List.filterMap_cons_some hparameter,
        List.filter_cons_of_neg (p := fun s : Segment => s.parameter?.isNone) hsome]
      exact Walk.parameter (htext ▸ words_of_parameter? hparameter) hwalk

/-! ## Lines -/

theorem parameterSegments_of_loneBlank {m : MethodLine}
    (h : LoneBlank (m.segments.map fun s => s.text.toList)) : m.parameterSegments = [] := by
  obtain ⟨text, htexts, hblank⟩ := h
  obtain ⟨s, hs, htext⟩ := List.map_eq_singleton_iff.mp htexts
  rw [MethodLine.parameterSegments, hs]
  simpa [htext] using hblank

theorem parameterSegments_of_not_loneBlank {m : MethodLine}
    (h : ¬LoneBlank (m.segments.map fun s => s.text.toList)) : m.parameterSegments = m.segments := by
  rw [MethodLine.parameterSegments]
  split
  · next s hs =>
    have hblank : ¬s.text.toList.all Text.isBlank := fun hblank =>
      h ⟨s.text.toList, by rw [hs, List.map_singleton], List.all_eq_true.mp hblank⟩
    rw [if_neg hblank, hs]
  · rfl

/-- A line that is read is walked over. -/
theorem lineWalk_of_readMethod {raw : List Char} {number : Nat} {line : MethodLine}
    (h : readMethod (Text.trimChars raw) = .ok line) :
    LineWalk className raw number line.method
      (skippedParameters className (trimmedLine (raw, number)) line) := by
  refine ⟨⟨line, h, rfl⟩, ?_⟩
  obtain ⟨p, hp⟩ := exists_methodParts h
  rw [← hp, readMethod_line p] at h
  obtain rfl := Except.ok.inj h
  obtain ⟨after, hraw⟩ := exists_eq_indentation_append raw
  have htexts : p.declaration.segments.map (fun s => s.text.toList) = p.parameters.splitOn ',' :=
    map_text_segmentsFrom _ _
  refine ⟨indentation raw ++ p.chars, p.parameters, p.gap ++ ':' :: (p.returnType ++ after), ?_, ?_,
    ?_, fun hlone => ?_, fun hlone => ?_⟩
  · rw [← hp] at hraw
    refine hraw.trans ?_
    simp [MethodParts.line]
  · intro hmem
    rcases List.mem_append.mp hmem with hmem | hmem
    · exact absurd (List.mem_takeWhile_imp hmem) (by decide)
    · have hfree : ∀ c ∈ p.chars, (c != '(') = true :=
        p.forall_mem_chars (by intro v; cases v <;> decide) rfl rfl
      exact absurd (hfree _ hmem) (by decide)
  · intro hmem
    exact absurd (p.not_endsParameters_of_mem _ hmem) (by decide)
  · rw [← htexts] at hlone
    rw [skippedParameters_eq, MethodLine.method, parameterSegments_of_loneBlank hlone]
    exact ⟨rfl, rfl⟩
  · rw [← htexts] at hlone
    rw [skippedParameters_eq, MethodLine.method, parameterSegments_of_not_loneBlank hlone]
    have hstand : StandBehind (Text.trimChars raw) (p.chars ++ ['(']) (p.parameters.splitOn ',') :=
      hp ▸ p.standBehind
    rw [MethodParts.declaration, p.start_eq, List.append_assoc]
    exact walk_segmentsFrom (l := trimmedLine (raw, number)) rfl hstand

/-! ## Blocks -/

/-- Lines that are read are walked over one after another. -/
theorem blockWalk_of_readMethodLines {lines : List (List Char × Nat)} {ms : List Method}
    (h : (readMethodLines className (lines.map trimmedLine)).2 = .ok ms) :
    BlockWalk className lines ms (readMethodLines className (lines.map trimmedLine)).1 := by
  induction lines generalizing ms with
  | nil =>
    obtain rfl := Except.ok.inj h
    exact BlockWalk.done
  | cons l lines ih =>
    rw [List.map_cons] at h ⊢
    obtain ⟨m, ms, ⟨line, hread, rfl⟩, hrest, rfl⟩ :=
      List.forall₂_cons_left_iff.mp (readMethodLines_eq_ok_iff.mp h)
    rw [readMethodLines_cons_fst hread]
    exact BlockWalk.line (lineWalk_of_readMethod hread) (ih (readMethodLines_eq_ok_iff.mpr hrest))

/-- No parameter of a block that is read is lost. Each segment of each line is the next parameter of
the next method or the next warning of the block, and where there is but a blank segment, the method
has no parameters and there is no warning. -/
theorem readMethods_walk {ms : List Method} (h : (readMethods className block).2 = .ok ms) :
    BlockWalk className (numberedLines block) ms (readMethods className block).1 := by
  rw [readMethods, blockLines_eq] at h ⊢
  exact blockWalk_of_readMethodLines h

/-- The blanks before the line and the accents in it are characters like any other. -/
theorem readMethods_walk_accent :
    BlockWalk "Cat" [("\u00a0+é(int x, ü, ):t".toList, 1), ("run( ): void".toList, 3)]
      [{ name := "é", returnType := "t", visibility := .pub
         parameters := [{ type := "int", name := "x" }] },
        { name := "run", returnType := "void", visibility := .priv, parameters := [] }]
      [.warning "skipped parameter 'ü' of é: expected `type name`"
          (some (.declaration "Cat" .methods 1 11)),
        .warning "skipped parameter '' of é: expected `type name`"
          (some (.declaration "Cat" .methods 1 14))] :=
  @readMethods_walk "Cat" "\u00a0+é(int x, ü, ):t\n\nrun( ): void" _ rfl

end Blueprint.Declaration
