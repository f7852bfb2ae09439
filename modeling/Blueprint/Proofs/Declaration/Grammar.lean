import Blueprint.Proofs.Declaration.Segments
import Blueprint.Proofs.Text.Blank

/-!
# The grammar of declaration lines

A line declares an attribute or a method if and only if it can be put together from the parts that
such a line has, and then it declares what these parts say. The parts of the grammar know nothing of
how a line is read: they are texts with conditions on their characters, and a line is their
concatenation. A line may be put together in more than one way, since a name may start with spaces,
but never so that it declares two different things.
-/

namespace Blueprint

/-- Only the marker of a visibility stands for it. -/
theorem Visibility.eq_marker_of_ofMarker? {c : Char} {v : Visibility} (h : ofMarker? c = some v) :
    c = v.marker := by
  rw [ofMarker?] at h
  split at h
  · next hc => rw [hc, ← Option.some.inj h, marker]
  · split at h
    · next hc => rw [hc, ← Option.some.inj h, marker]
    · split at h
      · next hc => rw [hc, ← Option.some.inj h, marker]
      · exact absurd h (by simp)

namespace Declaration

open Text (byteLength)

theorem isBlank_of_isSpace {c : Char} (h : isSpace c) : Text.isBlank c := by
  rw [isSpace, Bool.or_eq_true, beq_iff_eq, beq_iff_eq] at h
  rcases h with rfl | rfl <;> rfl

/-! ## Parts of a line -/

/-- The parts of a line up to a stop: a marker, spaces, and a name. -/
structure HeadParts (isStop : Char → Bool) where
  /-- The marker, if there is one. -/
  marker : Option Visibility
  /-- The spaces. -/
  spaces : List Char
  /-- The name, with the blanks around it. -/
  name : List Char
  /-- The spaces are spaces. -/
  isSpace_of_mem : ∀ c ∈ spaces, isSpace c
  /-- The name holds no stop. -/
  not_isStop_of_mem : ∀ c ∈ name, isStop c = false
  /-- The name is not blank. -/
  exists_not_blank : ∃ c ∈ name, Text.isBlank c = false
  /-- Where a line starts with a marker character, this is its marker. -/
  unmarked : marker = none → ∀ v : Visibility, (spaces ++ name).head? ≠ some v.marker

/-- The characters of the parts. -/
def HeadParts.chars {isStop : Char → Bool} (p : HeadParts isStop) : List Char :=
  p.marker.toList.map Visibility.marker ++ (p.spaces ++ p.name)

/-- The parts of an attribute line. -/
structure AttributeParts extends HeadParts (· == ':') where
  /-- The type, with the blanks around it. -/
  type : List Char

namespace AttributeParts

/-- The line. -/
def line (p : AttributeParts) : List Char := p.chars ++ ':' :: p.type

/-- What the line declares. -/
def declaration (p : AttributeParts) : AttributeLine where
  visibility := p.marker
  name := String.ofList (Text.trimChars p.name)
  type := String.ofList (Text.trimChars p.type)

end AttributeParts

/-- The parts of a method line. -/
structure MethodParts extends HeadParts (fun c => c == '(' || c == ':') where
  /-- The parameters. -/
  parameters : List Char
  /-- What stands before the colon. -/
  gap : List Char
  /-- The type of the result, with the blanks around it. -/
  returnType : List Char
  /-- The parameters hold no parenthesis and no colon. -/
  not_endsParameters_of_mem : ∀ c ∈ parameters, endsParameters c = false
  /-- Only spaces stand before the colon. -/
  isSpace_of_mem_gap : ∀ c ∈ gap, isSpace c

namespace MethodParts

/-- The line. -/
def line (p : MethodParts) : List Char :=
  p.chars ++ '(' :: (p.parameters ++ ')' :: (p.gap ++ ':' :: p.returnType))

/-- The byte at which the parameters start. -/
def start (p : MethodParts) : Nat := byteLength p.chars + 1

/-- The byte after the parameters. -/
def stop (p : MethodParts) : Nat := p.start + byteLength p.parameters

/-- What the line declares. -/
structure Declares (p : MethodParts) (m : MethodLine) : Prop where
  /-- The marker tells the visibility. -/
  visibility_eq : m.visibility = p.marker
  /-- The name is trimmed. -/
  name_eq : m.name = String.ofList (Text.trimChars p.name)
  /-- The type of the result is trimmed. -/
  returnType_eq : m.returnType = String.ofList (Text.trimChars p.returnType)
  /-- The segments with commas between them are the parameters. -/
  parameters_eq : [','].intercalate (m.segments.map fun s => s.text.toList) = p.parameters
  /-- No segment holds a comma. -/
  not_mem : ∀ s ∈ m.segments, ',' ∉ s.text.toList
  /-- The segments take up the bytes of the parameters. -/
  sideBySide : SideBySide p.line p.start p.stop m.segments
  /-- The first segment follows the opening parenthesis. -/
  opening : bytesBetween p.line (p.start - 1) p.start = bytesOf ['(']
  /-- The closing parenthesis follows the last segment. -/
  closing : bytesBetween p.line p.stop (p.stop + 1) = bytesOf [')']

/-- The line that the parts are read as. -/
def declaration (p : MethodParts) : MethodLine where
  visibility := p.marker
  name := String.ofList (Text.trimChars p.name)
  segments := segmentsFrom p.start (p.parameters.splitOnP (· == ','))
  returnType := String.ofList (Text.trimChars p.returnType)

end MethodParts

/-! ## Marker and name -/

variable {line : List Char} {isStop : Char → Bool} {block : Block}

theorem splitMarker_cons_marker (v : Visibility) (s : List Char) :
    splitMarker (v.marker :: s) = (some v, s) := by
  rw [splitMarker, Visibility.ofMarker?_marker]

theorem splitMarker_of_unmarked (h : ∀ v : Visibility, line.head? ≠ some v.marker) :
    splitMarker line = (none, line) := by
  cases line with
  | nil => rfl
  | cons c s =>
    cases hc : Visibility.ofMarker? c with
    | some v => exact absurd (congrArg some (Visibility.eq_marker_of_ofMarker? hc)) (h v)
    | none => rw [splitMarker, hc]

/-- A marker is taken off, and without one the line must not start like it had one. -/
theorem splitMarker_append {marker : Option Visibility} {s : List Char}
    (h : marker = none → ∀ v : Visibility, s.head? ≠ some v.marker) :
    splitMarker (marker.toList.map Visibility.marker ++ s) = (marker, s) := by
  cases marker with
  | some v => exact splitMarker_cons_marker v s
  | none => exact splitMarker_of_unmarked (h rfl)

/-- Taking the marker off a line loses nothing, and leaves no marker character unless there was a
marker. -/
theorem splitMarker_spec (line : List Char) :
    (splitMarker line).1.toList.map Visibility.marker ++ (splitMarker line).2 = line ∧
      ((splitMarker line).1 = none →
        ∀ v : Visibility, (splitMarker line).2.head? ≠ some v.marker) := by
  cases line with
  | nil => exact ⟨rfl, fun _ v h => absurd h (by simp [splitMarker])⟩
  | cons c s =>
    cases hc : Visibility.ofMarker? c with
    | some v =>
      obtain rfl := Visibility.eq_marker_of_ofMarker? hc
      rw [splitMarker_cons_marker]
      exact ⟨rfl, fun hnone => absurd hnone (by simp)⟩
    | none =>
      have hunmarked : ∀ v : Visibility, (c :: s).head? ≠ some v.marker := by
        intro v hv
        rw [Option.some.inj hv, Visibility.ofMarker?_marker] at hc
        exact absurd hc (by simp)
      rw [splitMarker_of_unmarked hunmarked]
      exact ⟨rfl, fun _ => hunmarked⟩

/-- Reading the start of a line that is not empty. -/
theorem readHead_of_ne_nil (hne : line ≠ []) :
    readHead block isStop line =
      let named := (splitMarker line).2.dropWhile isSpace
      let name := named.takeWhile (!isStop ·)
      let rest := named.dropWhile (!isStop ·)
      if name.all Text.isBlank then
        if named.length = line.length then .error ⟨.noMarker (line.head hne), line, 0⟩
        else if name.isEmpty then .error (errorAt line named (.noName rest.head?))
        else .error (errorAt line named (.blankName block))
      else .ok { visibility := (splitMarker line).1, name := String.ofList (Text.trimChars name), rest } := by
  cases line with
  | nil => exact absurd rfl hne
  | cons c s => rfl

namespace HeadParts

variable (p : HeadParts isStop)

theorem name_ne_nil : p.name ≠ [] := by
  obtain ⟨c, hc, -⟩ := p.exists_not_blank
  exact List.ne_nil_of_mem hc

theorem splitMarker_chars (rest : List Char) :
    splitMarker (p.chars ++ rest) = (p.marker, p.spaces ++ (p.name ++ rest)) := by
  have hne : p.spaces ++ p.name ≠ [] := by simp [p.name_ne_nil]
  rw [chars, List.append_assoc, List.append_assoc]
  refine splitMarker_append fun hmarker v => ?_
  rw [← List.append_assoc, List.head?_append_of_ne_nil _ hne]
  exact p.unmarked hmarker v

/-- Spaces before the name are passed over, also those that are a part of it. -/
theorem dropWhile_spaces (rest : List Char) :
    (p.spaces ++ (p.name ++ rest)).dropWhile isSpace = p.name.dropWhile isSpace ++ rest := by
  obtain ⟨c, hc, hblank⟩ := p.exists_not_blank
  have hne : ¬(p.name.dropWhile isSpace).isEmpty := by
    rw [List.isEmpty_iff, List.dropWhile_eq_nil_iff]
    intro hall
    rw [isBlank_of_isSpace (hall c hc)] at hblank
    exact absurd hblank (by simp)
  rw [List.dropWhile_append_of_pos p.isSpace_of_mem, List.dropWhile_append, if_neg hne]

/-- Marker and name are read from a line that is put together from them and goes on with a stop. -/
theorem readHead_chars (block : Block) {stop : Char} (hstop : isStop stop) (rest : List Char) :
    readHead block isStop (p.chars ++ stop :: rest) =
      .ok { visibility := p.marker, name := String.ofList (Text.trimChars p.name)
            rest := stop :: rest } := by
  have hfree : ∀ c ∈ p.name.dropWhile isSpace, (!isStop c) = true := fun c hc => by
    simp [p.not_isStop_of_mem c ((List.dropWhile_suffix _).subset hc)]
  have htrim : Text.trimChars (p.name.dropWhile isSpace) = Text.trimChars p.name :=
    Text.trimChars_dropWhile (fun _ => isBlank_of_isSpace) p.name
  have hblank : ¬(p.name.dropWhile isSpace).all Text.isBlank := by
    rw [List.all_eq_true, ← Text.trimChars_eq_nil_iff, htrim]
    exact Text.trimChars_ne_nil_iff.mpr p.exists_not_blank
  rw [readHead_of_ne_nil (by simp)]
  simp only [p.splitMarker_chars, p.dropWhile_spaces, List.takeWhile_append_of_pos hfree,
    List.dropWhile_append_of_pos hfree]
  simp [hstop, hblank, htrim]

/-- Wherever marker and name are read, the line is put together from them and what follows. -/
theorem exists_of_readHead {head : Head} (h : readHead block isStop line = .ok head) :
    ∃ p : HeadParts isStop, p.chars ++ head.rest = line ∧ p.marker = head.visibility ∧
      String.ofList (Text.trimChars p.name) = head.name := by
  by_cases hne : line = []
  · rw [hne, readHead] at h
    exact absurd h (by simp)
  · obtain ⟨hjoin, hunmarked⟩ := splitMarker_spec line
    set marked := splitMarker line with hmarked
    set named := marked.2.dropWhile isSpace with hnamed
    set name := named.takeWhile (!isStop ·) with hname
    rw [readHead_of_ne_nil hne] at h
    simp only [← hmarked, ← hnamed, ← hname] at h
    have hspaces : marked.2.takeWhile isSpace ++ (name ++ named.dropWhile (!isStop ·)) = marked.2 := by
      rw [hname, List.takeWhile_append_dropWhile, hnamed, List.takeWhile_append_dropWhile]
    by_cases hblank : name.all Text.isBlank
    · rw [if_pos hblank] at h
      split at h
      · exact absurd h (by simp)
      · split at h <;> exact absurd h (by simp)
    · rw [if_neg hblank] at h
      obtain rfl := Except.ok.inj h
      refine ⟨{ marker := marked.1, spaces := marked.2.takeWhile isSpace, name
                isSpace_of_mem := fun c hc => List.mem_takeWhile_imp hc
                not_isStop_of_mem := fun c hc => by simpa using List.mem_takeWhile_imp hc
                exists_not_blank := by simpa using hblank
                unmarked := fun hnone v hv => hunmarked hnone v ?_ }, ?_, rfl, rfl⟩
      · rw [← hspaces, ← List.append_assoc, List.head?_append, hv, Option.some_or]
      · simp only [chars, List.append_assoc, hspaces, hjoin]

end HeadParts

/-! ## Whole lines -/

theorem readAttribute_line (p : AttributeParts) : readAttribute p.line = .ok p.declaration := by
  rw [readAttribute, AttributeParts.line, p.readHead_chars .attributes (by simp)]
  rfl

/-- Whatever is read as an attribute is put together from the parts of one. -/
theorem exists_attributeParts {a : AttributeLine} (h : readAttribute line = .ok a) :
    ∃ p : AttributeParts, p.line = line ∧ p.declaration = a := by
  rw [readAttribute] at h
  cases hhead : readHead .attributes (· == ':') line with
  | error e =>
    rw [hhead] at h
    exact absurd h (by simp [bind, Except.bind])
  | ok head =>
    obtain ⟨p, hline, hmarker, hname⟩ := HeadParts.exists_of_readHead hhead
    rw [hhead] at h
    simp only [bind, Except.bind] at h
    split at h
    · next type hrest =>
      refine ⟨{ p with type }, ?_, ?_⟩
      · rw [← hline, hrest, AttributeParts.line]
      · rw [← Except.ok.inj h, AttributeParts.declaration, hmarker, hname]
    · exact absurd h (by simp)

theorem readAttribute_isOk_iff :
    (∃ a, readAttribute line = .ok a) ↔ ∃ p : AttributeParts, p.line = line := by
  constructor
  · rintro ⟨a, h⟩
    obtain ⟨p, hline, -⟩ := exists_attributeParts h
    exact ⟨p, hline⟩
  · rintro ⟨p, rfl⟩
    exact ⟨p.declaration, readAttribute_line p⟩

/-- The parameters start behind what stands before them. -/
theorem offsetOf_line (p : MethodParts) :
    offsetOf p.line (p.parameters ++ ')' :: (p.gap ++ ':' :: p.returnType)) = p.start := by
  have hline : p.line =
      (p.chars ++ ['(']) ++ (p.parameters ++ ')' :: (p.gap ++ ':' :: p.returnType)) := by
    simp [MethodParts.line]
  rw [hline, offsetOf_append, byteLength_append, MethodParts.start]
  rfl

theorem readMethod_line (p : MethodParts) : readMethod p.line = .ok p.declaration := by
  have hparameters : ∀ c ∈ p.parameters, (!endsParameters c) = true := fun c hc => by
    simp [p.not_endsParameters_of_mem c hc]
  have htake : (p.parameters ++ ')' :: (p.gap ++ ':' :: p.returnType)).takeWhile
      (!endsParameters ·) = p.parameters := by
    rw [List.takeWhile_append_of_pos hparameters, List.takeWhile_cons_of_neg (by decide),
      List.append_nil]
  have hdrop : (p.parameters ++ ')' :: (p.gap ++ ':' :: p.returnType)).dropWhile
      (!endsParameters ·) = ')' :: (p.gap ++ ':' :: p.returnType) := by
    rw [List.dropWhile_append_of_pos hparameters, List.dropWhile_cons_of_neg (by decide)]
  have hgap : (p.gap ++ ':' :: p.returnType).dropWhile isSpace = ':' :: p.returnType := by
    rw [List.dropWhile_append_of_pos p.isSpace_of_mem_gap, List.dropWhile_cons_of_neg (by decide)]
  rw [readMethod, MethodParts.line, p.readHead_chars .methods (by simp)]
  simp only [bind, Except.bind, htake, hdrop, hgap]
  rw [MethodParts.declaration, ← offsetOf_line p]
  rfl

/-- The parts of a method line declare what is read from it. -/
theorem declares_declaration (p : MethodParts) : p.Declares p.declaration := by
  have htexts : p.declaration.segments.map (fun s => s.text.toList) =
      p.parameters.splitOn ',' := map_text_segmentsFrom _ _
  have hjoin : [','].intercalate (p.parameters.splitOn ',') = p.parameters :=
    List.intercalate_splitOn ','
  have hone : byteLength ['('] = 1 := rfl
  have hone' : byteLength [')'] = 1 := rfl
  have hstart : byteLength (p.chars ++ ['(']) = p.start := by
    rw [byteLength_append, MethodParts.start, hone]
  refine ⟨rfl, rfl, rfl, htexts ▸ hjoin, ?_, ?_, ?_, ?_⟩
  · intro s hs hcomma
    have hcut : s.text.toList ∈ p.parameters.splitOn ',' := htexts ▸ List.mem_map_of_mem hs
    exact absurd (Text.of_mem_splitOnP hcut ',' hcomma).2 (by simp)
  · have hline : p.line = p.chars ++ ['('] ++ ([','].intercalate (p.parameters.splitOn ',') ++
        ')' :: (p.gap ++ ':' :: p.returnType)) := by
      rw [hjoin]
      simp [MethodParts.line]
    have hside := sideBySide_segmentsFrom (List.splitOn_ne_nil ',' p.parameters) hline
    rw [hjoin, hstart] at hside
    exact hside
  · have hmiddle := bytesBetween_middle p.chars ['(']
      (p.parameters ++ ')' :: (p.gap ++ ':' :: p.returnType))
    rw [hone] at hmiddle
    exact hmiddle
  · have hmiddle := bytesBetween_middle (p.chars ++ ['('] ++ p.parameters) [')']
      (p.gap ++ ':' :: p.returnType)
    have hline : p.line = p.chars ++ ['('] ++ p.parameters ++
        ([')'] ++ (p.gap ++ ':' :: p.returnType)) := by simp [MethodParts.line]
    rw [byteLength_append, hstart, hone', ← hline] at hmiddle
    exact hmiddle

/-- Nothing else than what is read is declared by the parts of a line. -/
theorem MethodParts.Declares.eq_declaration {p : MethodParts} {m : MethodLine} (h : p.Declares m) :
    m = p.declaration := by
  have htexts : m.segments.map (fun s => s.text.toList) = p.parameters.splitOnP (· == ',') := by
    rw [← h.parameters_eq]
    refine (List.splitOn_intercalate ',' ?_ ?_).symm
    · intro text htext
      obtain ⟨s, hs, rfl⟩ := List.mem_map.mp htext
      exact h.not_mem s hs
    · intro hnil
      have hfirst := h.sideBySide.first
      rw [List.map_eq_nil_iff.mp hnil] at hfirst
      exact absurd hfirst (by simp)
  obtain ⟨visibility, name, segments, returnType⟩ := m
  obtain rfl := h.visibility_eq
  obtain rfl := h.name_eq
  obtain rfl := h.returnType_eq
  rw [declaration, ← htexts, ← h.sideBySide.eq_segmentsFrom]

/-- Whatever is read as a method is put together from the parts of one. -/
theorem exists_methodParts {m : MethodLine} (h : readMethod line = .ok m) :
    ∃ p : MethodParts, p.line = line := by
  rw [readMethod] at h
  cases hhead : readHead .methods (fun c => c == '(' || c == ':') line with
  | error e =>
    rw [hhead] at h
    exact absurd h (by simp [bind, Except.bind])
  | ok head =>
    obtain ⟨p, hline, -, -⟩ := HeadParts.exists_of_readHead hhead
    rw [hhead] at h
    simp only [bind, Except.bind] at h
    split at h
    · next inner hrest =>
      split at h
      · next closed hclosed =>
        split at h
        · next returnType hcolon =>
          have hinner : inner.takeWhile (!endsParameters ·) ++ ')' ::
              (closed.takeWhile isSpace ++ ':' :: returnType) = inner := by
            rw [← hcolon, List.takeWhile_append_dropWhile, ← hclosed,
              List.takeWhile_append_dropWhile]
          refine ⟨{ p with
            parameters := inner.takeWhile (!endsParameters ·)
            gap := closed.takeWhile isSpace
            returnType
            not_endsParameters_of_mem := fun c hc => by simpa using List.mem_takeWhile_imp hc
            isSpace_of_mem_gap := fun c hc => List.mem_takeWhile_imp hc }, ?_⟩
          rw [← hline, hrest, MethodParts.line, hinner]
        · exact absurd h (by simp)
      · exact absurd h (by simp)
    · exact absurd h (by simp)

theorem readMethod_isOk_iff :
    (∃ m, readMethod line = .ok m) ↔ ∃ p : MethodParts, p.line = line := by
  constructor
  · rintro ⟨m, h⟩
    exact exists_methodParts h
  · rintro ⟨p, rfl⟩
    exact ⟨p.declaration, readMethod_line p⟩

/-! ## Reading is the grammar -/

/-- A line is read as an attribute or a method if and only if it is put together from the parts of
one, and what is read is what these parts declare. -/
theorem read_eq_ok_iff (line : List Char) :
    ((∃ a, readAttribute line = .ok a) ↔ ∃ p : AttributeParts, p.line = line) ∧
      (∀ a, readAttribute line = .ok a ↔
        ∃ p : AttributeParts, p.line = line ∧ p.declaration = a) ∧
      ((∃ m, readMethod line = .ok m) ↔ ∃ p : MethodParts, p.line = line) ∧
      ∀ m, readMethod line = .ok m ↔ ∃ p : MethodParts, p.line = line ∧ p.Declares m := by
  refine ⟨readAttribute_isOk_iff, fun a => ?_, readMethod_isOk_iff, fun m => ?_⟩
  · constructor
    · exact exists_attributeParts
    · rintro ⟨p, rfl, rfl⟩
      exact readAttribute_line p
  · constructor
    · intro h
      obtain ⟨p, rfl⟩ := exists_methodParts h
      rw [readMethod_line p] at h
      exact ⟨p, rfl, Except.ok.inj h ▸ declares_declaration p⟩
    · rintro ⟨p, rfl, hdeclares⟩
      rw [readMethod_line p, hdeclares.eq_declaration]

/-- A name may start like a marker and hold commas and closing parentheses, and bytes are counted,
not characters. -/
example : readMethod "+ -é),b (int x, ):t".toList =
    .ok { visibility := some .pub, name := "-é),b", returnType := "t"
          segments := [⟨"int x", 10, 15⟩, ⟨" ", 16, 17⟩] } := by
  rfl

end Declaration

end Blueprint
