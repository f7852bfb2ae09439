import Blueprint.Outline
import Blueprint.Proofs.Declaration.Blocks
import Blueprint.Proofs.Declaration.Grammar
import Blueprint.Proofs.Naming

/-!
# Outlines read back

The members that a block declares are plain: their names, types and parameters are trimmed and hold
nothing that would end them early in a line. The outline of a plain member is a declaration line, and
it declares just this member. So the lines that an outline has for the members of a class are a block
that declares these members again.

Reading drops what it warns of. In the lines of an outline there is nothing left to warn of.
-/

namespace Blueprint

open Declaration Text

/-! ## Plain members -/

/-- A name that runs up to a stop. -/
structure IsName (isStop : Char → Bool) (s : String) : Prop where
  ne_nil : s.toList ≠ []
  trimmed : Trimmed s.toList
  no_stop : ∀ c ∈ s.toList, isStop c = false
  no_feed : '\n' ∉ s.toList

/-- A type at the end of a line. -/
structure IsType (s : String) : Prop where
  trimmed : Trimmed s.toList
  no_feed : '\n' ∉ s.toList

/-- A word of a parameter. -/
structure IsWord (s : String) : Prop where
  ne_nil : s.toList ≠ []
  solid : ∀ c ∈ s.toList, isBlank c = false
  no_stop : ∀ c ∈ s.toList, c ≠ ',' ∧ endsParameters c = false

/-- An attribute that a line can declare. -/
structure Attribute.Plain (a : Attribute) : Prop where
  name : IsName (· == ':') a.name
  type : IsType a.type

/-- A method that a line can declare without a warning. -/
structure Method.Plain (m : Method) : Prop where
  name : IsName (fun c => c == '(' || c == ':') m.name
  returnType : IsType m.returnType
  parameter : ∀ p ∈ m.parameters, IsWord p.type ∧ IsWord p.name

variable {text : List Char}

/-! ## What is read is plain -/

theorem Declaration.HeadParts.isName {isStop : Char → Bool} (p : HeadParts isStop) (h : '\n' ∉ p.chars) :
    IsName isStop (String.ofList (trimChars p.name)) := by
  refine ⟨?_, ?_, ?_, ?_⟩ <;> rw [String.toList_ofList]
  · exact trimChars_ne_nil_iff.mpr p.exists_not_blank
  · exact trimmed_trimChars p.name
  · exact fun c hc => p.not_isStop_of_mem c (mem_of_mem_trimChars hc)
  · intro hfeed
    exact h (by simp [HeadParts.chars, mem_of_mem_trimChars hfeed])

theorem isType_trim {s : List Char} (h : '\n' ∉ s) : IsType (String.ofList (trimChars s)) := by
  refine ⟨?_, ?_⟩ <;> rw [String.toList_ofList]
  · exact trimmed_trimChars s
  · exact fun hfeed => h (mem_of_mem_trimChars hfeed)

theorem plain_of_readAttribute {a : AttributeLine} (h : readAttribute text = .ok a)
    (hfeed : '\n' ∉ text) : a.attribute.Plain := by
  obtain ⟨p, rfl, rfl⟩ := exists_attributeParts h
  rw [AttributeParts.line, List.mem_append, not_or] at hfeed
  exact ⟨p.isName hfeed.1, isType_trim fun h => hfeed.2 (List.mem_cons_of_mem _ h)⟩

theorem mem_of_mem_parameterSegments {m : MethodLine} {s : Segment}
    (h : s ∈ m.parameterSegments) : s ∈ m.segments := by
  rw [MethodLine.parameterSegments] at h
  split at h
  · next hone =>
    split at h
    · exact absurd h List.not_mem_nil
    · rwa [hone]
  · exact h

theorem plain_of_readMethod {m : MethodLine} (h : readMethod text = .ok m)
    (hfeed : '\n' ∉ text) : m.method.Plain := by
  obtain ⟨p, rfl⟩ := exists_methodParts h
  rw [readMethod_line] at h
  obtain rfl := Except.ok.inj h
  simp only [MethodParts.line, List.mem_append, List.mem_cons, not_or] at hfeed
  refine ⟨p.isName hfeed.1, isType_trim hfeed.2.2.2.2.2.2, ?_⟩
  intro q hq
  obtain ⟨s, hs, hparameter⟩ := List.mem_filterMap.mp hq
  have hwords := words_of_parameter? hparameter
  have hcut : s.text.toList ∈ p.parameters.splitOn ',' := by
    rw [← map_text_segmentsFrom p.start (p.parameters.splitOn ',')]
    exact List.mem_map_of_mem (mem_of_mem_parameterSegments hs)
  have hword {w : String} (hw : w.toList ∈ words s.text.toList) : IsWord w := by
    obtain ⟨hne, hchars⟩ := mem_words hw
    refine ⟨hne, fun c hc => (hchars c hc).2, fun c hc => ?_⟩
    obtain ⟨hmem, hcomma⟩ := of_mem_splitOnP hcut c (hchars c hc).1
    exact ⟨by simpa using hcomma, p.not_endsParameters_of_mem c hmem⟩
  exact ⟨hword (by simp [hwords]), hword (by simp [hwords])⟩

/-! ## What is plain is read -/

theorem Visibility.isBlank_marker (v : Visibility) : isBlank v.marker = false := by
  cases v <;> decide

/-- The line of a member is trimmed before its marker and behind its colon. -/
theorem trimChars_member (v : Visibility) (s t : List Char) :
    trimChars (' ' :: ' ' :: v.marker :: (s ++ ':' :: t)) = v.marker :: (s ++ ':' :: trimEnd t) := by
  have hspaces : trimStart (' ' :: ' ' :: v.marker :: (s ++ ':' :: t)) =
      v.marker :: (s ++ ':' :: t) := by
    rw [trimStart_cons_of_blank (by decide), trimStart_cons_of_blank (by decide),
      trimStart_cons_of_not_blank v.isBlank_marker]
  rw [trimChars, hspaces]
  exact trimEnd_append_cons (by decide) (v.marker :: s) t

theorem IsName.exists_not_blank {isStop : Char → Bool} {s : String} (h : IsName isStop s) :
    ∃ c ∈ s.toList, isBlank c = false := by
  rw [← trimChars_ne_nil_iff, trimChars_of_trimmed h.trimmed]
  exact h.ne_nil

theorem IsName.trim_eq {isStop : Char → Bool} {s : String} (h : IsName isStop s) :
    String.ofList (trimChars s.toList) = s := by
  rw [trimChars_of_trimmed h.trimmed, String.ofList_toList]

/-- A type is found again behind the space that is put before it. -/
theorem IsType.trim_eq {s : String} (h : IsType s) :
    String.ofList (trimChars (trimEnd (' ' :: s.toList))) = s := by
  have hspace : trimStart (' ' :: s.toList) = trimStart s.toList :=
    trimStart_cons_of_blank (by decide) _
  rw [trimChars_trimEnd, trimChars, hspace, ← trimChars, trimChars_of_trimmed h.trimmed,
    String.ofList_toList]

/-- The parts of the line of an attribute. -/
def Attribute.parts (a : Attribute) (h : a.Plain) : AttributeParts where
  marker := some a.visibility
  spaces := []
  name := a.name.toList
  type := trimEnd (' ' :: a.type.toList)
  isSpace_of_mem := by simp
  not_isStop_of_mem := h.name.no_stop
  exists_not_blank := h.name.exists_not_blank
  unmarked := fun hnone => absurd hnone (by simp)

theorem Attribute.line_parts (a : Attribute) (h : a.Plain) :
    trimChars ("  " ++ a.outline).toList = (a.parts h).line := by
  have hline : ("  " ++ a.outline).toList =
      ' ' :: ' ' :: a.visibility.marker :: (a.name.toList ++ ':' :: ' ' :: a.type.toList) := by
    simp [outline]
  rw [hline, trimChars_member]
  simp [AttributeParts.line, HeadParts.chars, parts]

theorem Attribute.attribute_parts (a : Attribute) (h : a.Plain) :
    (a.parts h).declaration.attribute = a := by
  obtain ⟨name, type, visibility⟩ := a
  rw [AttributeLine.attribute, AttributeParts.declaration]
  simp only [parts, h.name.trim_eq, h.type.trim_eq, Option.getD_some]

/-! ## Parameters -/

/-- What stands in a joined list stands in one of its members or between two of them. -/
theorem mem_or_of_mem_intercalate {α : Type} {sep : List α} {l : List (List α)} {x : α}
    (h : x ∈ sep.intercalate l) : x ∈ sep ∨ ∃ t ∈ l, x ∈ t := by
  induction l with
  | nil => exact absurd h (by simp)
  | cons t l ih =>
    cases l with
    | nil =>
      rw [List.intercalate_singleton] at h
      exact Or.inr ⟨t, List.mem_singleton_self t, h⟩
    | cons u l =>
      rw [List.intercalate_cons_cons, List.append_assoc, List.mem_append, List.mem_append] at h
      rcases h with h | h | h
      · exact Or.inr ⟨t, List.mem_cons_self, h⟩
      · exact Or.inl h
      · rcases ih h with h | ⟨v, hv, h⟩
        · exact Or.inl h
        · exact Or.inr ⟨v, List.mem_cons_of_mem _ hv, h⟩

/-- A separator that ends in a space puts that space before every member but the first. -/
theorem intercalate_comma_space (t : List Char) (ts : List (List Char)) :
    [',', ' '].intercalate (t :: ts) = [','].intercalate (t :: ts.map (' ' :: ·)) := by
  induction ts generalizing t with
  | nil => rfl
  | cons u ts ih =>
    rw [List.intercalate_cons_cons, ih, List.map_cons, List.intercalate_cons_cons]
    cases ts with
    | nil => simp
    | cons v ts => simp [List.intercalate_cons_cons]

theorem Parameter.toList_outline (q : Parameter) :
    q.outline.toList = q.type.toList ++ ' ' :: q.name.toList := by
  simp [outline]

theorem toList_parameterList (ps : List Parameter) :
    (parameterList ps).toList = [',', ' '].intercalate (ps.map fun q => q.outline.toList) := by
  have hseparator : ", ".toList = [',', ' '] := by simp
  rw [parameterList, String.toList_intercalate, List.map_map, hseparator, Function.comp_def]

section Words

variable {q : Parameter} (h : IsWord q.type ∧ IsWord q.name)

include h

/-- The outline of a parameter holds nothing that ends it or the parameters. -/
theorem not_stop_of_mem_outline :
    ∀ c ∈ q.outline.toList, c ≠ ',' ∧ c ≠ '\n' ∧ endsParameters c = false := by
  have hword {w : String} (hw : IsWord w) :
      ∀ c ∈ w.toList, c ≠ ',' ∧ c ≠ '\n' ∧ endsParameters c = false := by
    intro c hc
    refine ⟨(hw.no_stop c hc).1, ?_, (hw.no_stop c hc).2⟩
    rintro rfl
    exact absurd (hw.solid _ hc) (by decide)
  intro c hc
  rw [q.toList_outline, List.mem_append, List.mem_cons] at hc
  rcases hc with hc | rfl | hc
  · exact hword h.1 c hc
  · decide
  · exact hword h.2 c hc

theorem words_outline : words q.outline.toList = [q.type.toList, q.name.toList] := by
  rw [q.toList_outline, words_append_blank (by decide), words_of_solid h.1.ne_nil h.1.solid,
    words_of_solid h.2.ne_nil h.2.solid, List.singleton_append]

end Words

/-- A parameter list is cut at its commas into the outlines of its parameters. -/
theorem splitOn_parameterList {p : Parameter} {ps : List Parameter}
    (h : ∀ q ∈ p :: ps, IsWord q.type ∧ IsWord q.name) :
    (parameterList (p :: ps)).toList.splitOn ',' =
      p.outline.toList :: ps.map fun q => ' ' :: q.outline.toList := by
  rw [toList_parameterList, List.map_cons, intercalate_comma_space, List.map_map]
  refine List.splitOn_intercalate ',' ?_ (by simp)
  intro t ht
  rcases List.mem_cons.mp ht with rfl | ht
  · exact fun hcomma => (not_stop_of_mem_outline (h p List.mem_cons_self) _ hcomma).1 rfl
  · obtain ⟨q, hq, rfl⟩ := List.mem_map.mp ht
    intro hcomma
    rcases List.mem_cons.mp hcomma with hspace | hcomma
    · exact absurd hspace (by decide)
    · exact (not_stop_of_mem_outline (h q (List.mem_cons_of_mem _ hq)) _ hcomma).1 rfl

/-- A segment that declares a parameter is not blank. -/
theorem not_blank_of_parameter? {s : Segment} (h : s.parameter?.isSome) :
    ¬s.text.toList.all isBlank := by
  obtain ⟨q, hq⟩ := Option.isSome_iff_exists.mp h
  obtain ⟨hne, hchars⟩ := mem_words (s := s.text.toList) (w := q.type.toList)
    (by simp [words_of_parameter? hq])
  obtain ⟨c, hc⟩ := List.exists_mem_of_ne_nil _ hne
  obtain ⟨hmem, hblank⟩ := hchars c hc
  intro hall
  rw [List.all_eq_true.mp hall c hmem] at hblank
  exact absurd hblank (by simp)

theorem parameterSegments_eq {l : MethodLine} (h : ∀ s ∈ l.segments, s.parameter?.isSome) :
    l.parameterSegments = l.segments := by
  rw [MethodLine.parameterSegments]
  split
  · next s hone =>
    rw [if_neg (not_blank_of_parameter? (h s (by simp [hone]))), hone]
  · rfl

/-- Values that a list of values gives one by one are what is found in it. -/
theorem filterMap_of_forall₂ {α β : Type} {f : α → Option β} {xs : List α} {ys : List β}
    (h : List.Forall₂ (fun x y => f x = some y) xs ys) :
    xs.filterMap f = ys ∧ ∀ x ∈ xs, (f x).isSome := by
  induction h with
  | nil => exact ⟨rfl, fun x hx => absurd hx List.not_mem_nil⟩
  | cons hxy _ ih =>
    rw [List.filterMap_cons_some hxy, ih.1, List.forall_mem_cons]
    exact ⟨rfl, Option.isSome_of_eq_some hxy, ih.2⟩

/-- The segments of a parameter list declare its parameters, and each of them declares one. -/
theorem parameters_of_parameterList {l : MethodLine} {ps : List Parameter}
    (h : ∀ q ∈ ps, IsWord q.type ∧ IsWord q.name)
    (hl : l.segments.map (fun s => s.text.toList) = (parameterList ps).toList.splitOn ',') :
    l.parameterSegments.filterMap Segment.parameter? = ps ∧
      ∀ s ∈ l.parameterSegments, s.parameter?.isSome := by
  cases ps with
  | nil =>
    -- an empty parameter list has one segment, which is blank
    obtain ⟨s, hone, hempty⟩ : ∃ s, l.segments = [s] ∧ s.text.toList = [] :=
      List.map_eq_singleton_iff.mp hl
    have hnone : l.parameterSegments = [] := by
      simp only [MethodLine.parameterSegments, hone, hempty]
      rfl
    rw [hnone]
    exact ⟨rfl, fun s hs => absurd hs List.not_mem_nil⟩
  | cons p ps =>
    rw [splitOn_parameterList h] at hl
    have hwords : l.segments.map (fun s => words s.text.toList) =
        (p :: ps).map fun q => [q.type.toList, q.name.toList] := by
      have htexts := congrArg (List.map words) hl
      rw [List.map_map] at htexts
      refine htexts.trans ?_
      rw [List.map_cons, List.map_cons, List.map_map, words_outline (h p List.mem_cons_self)]
      refine congrArg _ (List.map_congr_left fun q hq => ?_)
      exact (words_cons_blank (by decide) _).trans (words_outline (h q (List.mem_cons_of_mem _ hq)))
    have hdeclared : List.Forall₂ (fun s q => s.parameter? = some q) l.segments (p :: ps) := by
      rw [← List.forall₂_eq_eq_eq, List.forall₂_map_left_iff, List.forall₂_map_right_iff] at hwords
      exact hwords.imp fun s q => parameter?_of_words
    obtain ⟨hparameters, hsome⟩ := filterMap_of_forall₂ hdeclared
    rw [parameterSegments_eq hsome]
    exact ⟨hparameters, hsome⟩

/-- The parts of the line of a method. -/
def Method.parts (m : Method) (h : m.Plain) : MethodParts where
  marker := some m.visibility
  spaces := []
  name := m.name.toList
  parameters := (parameterList m.parameters).toList
  gap := []
  returnType := trimEnd (' ' :: m.returnType.toList)
  isSpace_of_mem := by simp
  not_isStop_of_mem := h.name.no_stop
  exists_not_blank := h.name.exists_not_blank
  unmarked := fun hnone => absurd hnone (by simp)
  not_endsParameters_of_mem := by
    intro c hc
    rw [toList_parameterList] at hc
    rcases mem_or_of_mem_intercalate hc with hc | ⟨t, ht, hc⟩
    · simp only [List.mem_cons, List.not_mem_nil, or_false] at hc
      rcases hc with rfl | rfl <;> decide
    · obtain ⟨q, hq, rfl⟩ := List.mem_map.mp ht
      exact (not_stop_of_mem_outline (h.parameter q hq) c hc).2.2
  isSpace_of_mem_gap := by simp

theorem Method.line_parts (m : Method) (h : m.Plain) :
    trimChars ("  " ++ m.outline).toList = (m.parts h).line := by
  have hline : ("  " ++ m.outline).toList = ' ' :: ' ' :: m.visibility.marker ::
      ((m.name.toList ++ '(' :: ((parameterList m.parameters).toList ++ [')'])) ++
        ':' :: ' ' :: m.returnType.toList) := by
    simp [outline]
  rw [hline, trimChars_member]
  simp [MethodParts.line, HeadParts.chars, parts]

theorem Method.method_parts (m : Method) (h : m.Plain) :
    (m.parts h).declaration.method = m ∧
      ∀ s ∈ (m.parts h).declaration.parameterSegments, s.parameter?.isSome := by
  obtain ⟨hparameters, hsome⟩ := parameters_of_parameterList (l := (m.parts h).declaration)
    h.parameter (map_text_segmentsFrom _ _)
  refine ⟨?_, hsome⟩
  rw [MethodLine.method, hparameters]
  obtain ⟨name, returnType, visibility, parameters⟩ := m
  simp only [MethodParts.declaration, parts, h.name.trim_eq, h.returnType.trim_eq, Option.getD_some]

/-! ## Reading back -/

theorem Visibility.marker_ne_feed (v : Visibility) : '\n' ≠ v.marker := by
  cases v <;> decide

theorem not_mem_attributeLine {a : Attribute} (h : a.Plain) :
    '\n' ∉ ("  " ++ a.outline).toList := by
  simp [Attribute.outline, a.visibility.marker_ne_feed, h.name.no_feed, h.type.no_feed]

theorem not_mem_methodLine {m : Method} (h : m.Plain) : '\n' ∉ ("  " ++ m.outline).toList := by
  have hparameters : '\n' ∉ (parameterList m.parameters).toList := by
    intro hfeed
    rw [toList_parameterList] at hfeed
    rcases mem_or_of_mem_intercalate hfeed with hfeed | ⟨t, ht, hfeed⟩
    · exact absurd hfeed (by decide)
    · obtain ⟨q, hq, rfl⟩ := List.mem_map.mp ht
      exact (not_stop_of_mem_outline (h.parameter q hq) _ hfeed).2.1 rfl
  simp [Method.outline, m.visibility.marker_ne_feed, h.name.no_feed, h.returnType.no_feed,
    hparameters]

/-- The lines of plain attributes declare these attributes. -/
theorem readAttributes_attributeLines {as : List Attribute} (h : ∀ a ∈ as, a.Plain)
    (className : String) :
    readAttributes className ("\n".intercalate (attributeLines as)) = .ok as := by
  rw [readAttributes_eq_ok_iff, blockTexts_intercalate, attributeLines, List.map_map,
    List.forall₂_map_left_iff, List.forall₂_same]
  · intro a ha
    refine ⟨(a.parts (h a ha)).declaration, ?_, a.attribute_parts (h a ha)⟩
    rw [Function.comp_apply, a.line_parts (h a ha), readAttribute_line]
  · intro line hline
    obtain ⟨a, ha, rfl⟩ := List.mem_map.mp hline
    refine ⟨not_mem_attributeLine (h a ha), ?_⟩
    rw [a.line_parts (h a ha)]
    simp [AttributeParts.line]

/-- The lines of plain methods declare these methods, and there is nothing to warn of. -/
theorem readMethods_methodLines {ms : List Method} (h : ∀ m ∈ ms, m.Plain) (className : String) :
    readMethods className ("\n".intercalate (methodLines ms)) = ([], .ok ms) := by
  have htexts : blockTexts ("\n".intercalate (methodLines ms)) =
      ms.map fun m => trimChars ("  " ++ m.outline).toList := by
    rw [blockTexts_intercalate, methodLines, List.map_map, Function.comp_def]
    intro line hline
    obtain ⟨m, hm, rfl⟩ := List.mem_map.mp hline
    refine ⟨not_mem_methodLine (h m hm), ?_⟩
    rw [m.line_parts (h m hm)]
    simp [MethodParts.line]
  have hread : ∀ m (hm : m ∈ ms), readMethod (trimChars ("  " ++ m.outline).toList) =
      .ok (m.parts (h m hm)).declaration := by
    intro m hm
    rw [m.line_parts (h m hm), readMethod_line]
  refine Prod.ext ?_ ?_
  · refine readMethodLines_fst_eq_nil fun l hl line hline => ?_
    have htext : l.text ∈ blockTexts ("\n".intercalate (methodLines ms)) :=
      List.mem_map_of_mem hl
    rw [htexts] at htext
    obtain ⟨m, hm, hm'⟩ := List.mem_map.mp htext
    rw [← hm', hread m hm] at hline
    rw [← Except.ok.inj hline]
    exact (m.method_parts (h m hm)).2
  · rw [readMethods_eq_ok_iff, htexts, List.forall₂_map_left_iff, List.forall₂_same]
    exact fun m hm => ⟨_, hread m hm, (m.method_parts (h m hm)).1⟩

/-- The attributes that a block declares are plain. -/
theorem plain_of_readAttributes {className block : String} {as : List Attribute}
    (h : readAttributes className block = .ok as) : ∀ a ∈ as, a.Plain := by
  intro a ha
  obtain ⟨text, htext, l, hl, rfl⟩ := exists_left_of_mem (readAttributes_eq_ok_iff.mp h) ha
  exact plain_of_readAttribute hl (not_mem_of_mem_blockTexts htext)

/-- The methods that a block declares are plain: parameters that are none are left out already. -/
theorem plain_of_readMethods {className block : String} {ms : List Method}
    (h : (readMethods className block).2 = .ok ms) : ∀ m ∈ ms, m.Plain := by
  intro m hm
  obtain ⟨text, htext, l, hl, rfl⟩ := exists_left_of_mem (readMethods_eq_ok_iff.mp h) hm
  exact plain_of_readMethod hl (not_mem_of_mem_blockTexts htext)

theorem ClassDecl.outline_eq (c : ClassDecl) : c.outline =
    ("class " ++ c.name ++ (c.superclass.elim "" fun name => " extends " ++ name)) ::
      (attributeLines c.attributes ++ methodLines c.methods) := by
  rw [outline]
  cases c.superclass <;> rfl

/-- The lines that an outline has for the attributes and the methods of a block are read back as
just these attributes and these methods, the methods without any warning. These are the lines under
each class of a model in its outline. -/
theorem read_outline (className block : String) :
    (∀ as, readAttributes className block = .ok as →
        readAttributes className ("\n".intercalate (attributeLines as)) = .ok as) ∧
      (∀ ms, (readMethods className block).2 = .ok ms →
        readMethods className ("\n".intercalate (methodLines ms)) = ([], .ok ms)) ∧
      ∀ m : Model, ∃ rest : List String,
        m.outline = String.join (((m.classes.flatMap fun c =>
          ("class " ++ c.name ++ (c.superclass.elim "" fun name => " extends " ++ name)) ::
            (attributeLines c.attributes ++ methodLines c.methods)) ++ rest).map (· ++ "\n")) := by
  refine ⟨fun as h => ?_, fun ms h => ?_, fun m => ?_⟩
  · exact readAttributes_attributeLines (plain_of_readAttributes h) className
  · exact readMethods_methodLines (plain_of_readMethods h) className
  · simp only [← ClassDecl.outline_eq, Model.outline, Model.outlineLines, List.append_assoc]
    exact ⟨_, rfl⟩

/-- The members of a ship: a name that starts like a marker, a type that holds a colon, a method
without a type, and a parameter that is none. The outline of the ship starts with its line and those
of its members. -/
theorem read_outline_ship :
    let as : List Attribute := [⟨"-mast", "a:b", .pub⟩, ⟨"flag", "", .priv⟩]
    let ms : List Method := [⟨"sail), to", "", .prot, [⟨"Port", "p"⟩, ⟨"int", "days"⟩]⟩]
    let ship : Model := { classes := [{ name := "Ship", attributes := as, methods := ms }] }
    readAttributes "Ship" "+ -mast :a:b\n\r\nflag:" = .ok as ∧
      readAttributes "Ship" ("\n".intercalate (attributeLines as)) = .ok as ∧
      (readMethods "Ship" "* sail), to (Port\u00a0p, fast, int\tdays):").2 = .ok ms ∧
      readMethods "Ship" ("\n".intercalate (methodLines ms)) = ([], .ok ms) ∧
      ∃ rest, ship.outline = String.join ((["class Ship", "  +-mast: a:b", "  -flag: ",
        "  *sail), to(Port p, int days): "] ++ rest).map (· ++ "\n")) := by
  intro as ms ship
  have has : readAttributes "Ship" "+ -mast :a:b\n\r\nflag:" = .ok as := by
    decide +kernel
  have hms : (readMethods "Ship" "* sail), to (Port\u00a0p, fast, int\tdays):").2 = .ok ms := by
    decide +kernel
  have hlines : (ship.classes.flatMap fun c =>
      ("class " ++ c.name ++ (c.superclass.elim "" fun name => " extends " ++ name)) ::
        (attributeLines c.attributes ++ methodLines c.methods)) =
      ["class Ship", "  +-mast: a:b", "  -flag: ", "  *sail), to(Port p, int days): "] := by
    decide +kernel
  refine ⟨has, (read_outline _ _).1 _ has, hms, (read_outline _ _).2.1 _ hms, ?_⟩
  rw [← hlines]
  exact (read_outline "Ship" "").2.2 ship

end Blueprint
