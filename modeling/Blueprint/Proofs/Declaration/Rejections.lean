import Blueprint.Proofs.Declaration.Blocks
import Blueprint.Proofs.Declaration.Columns
import Blueprint.Proofs.Declaration.Grammar

/-!
# Where a line goes wrong

A line that is no declaration is rejected at its first character that no declaration goes on with.
What stands before that character is the start of some declaration. There is one exception, a name
that is made of blanks only: it is rejected where it starts, although a name may start with blanks.

A block is rejected at the first of its lines that is, and the column is that of the line as it stands
in the block.
-/

namespace Blueprint.Declaration

open Text (append_cons_inj_of_first byteLength)

variable {α : Type} {read : List Char → Except LineError α} {isStop : Char → Bool} {block : Block}
  {line before rest : List Char} {e : LineError}

/-! ## Rejected lines -/

/-- Some line that is read starts like this. -/
def Viable (read : List Char → Except LineError α) (start : List Char) : Prop :=
  ∃ rest a, read (start ++ rest) = .ok a

/-- What stands behind marker and spaces, up to a stop. -/
def nameText (isStop : Char → Bool) (line : List Char) : List Char :=
  ((splitMarker line).2.dropWhile isSpace).takeWhile (!isStop ·)

/-- The name of a line is made of blanks only. -/
def BlankName (isStop : Char → Bool) (line : List Char) : Prop :=
  nameText isStop line ≠ [] ∧ ∀ c ∈ nameText isStop line, Text.isBlank c

/-- An error that points at the first character at fault. -/
structure Points (read : List Char → Except LineError α) (isStop : Char → Bool) (line : List Char)
    (e : LineError) : Prop where
  /-- Columns are counted from one. -/
  pos : 1 ≤ e.column
  /-- The column is one of the line, or the one behind it. -/
  le : e.column ≤ line.length + 1
  /-- A declaration can start like the line does before the column. -/
  viable : Viable read (line.take (e.column - 1))
  /-- No declaration starts like the line does up to the column. -/
  stuck : e.column ≤ line.length → ¬BlankName isStop line → ¬Viable read (line.take e.column)
  /-- The byte at fault is where a character starts or the line ends, so the characters before it are
  counted, and the column is that of the byte. -/
  boundary : ∃ before rest, before ++ rest = line ∧ byteLength before = e.offset ∧
    charactersBefore? line e.offset = some before.length ∧ columnOfByte line e.offset = e.column

/-- An error between two parts of a line: what stands before it is the start of a declaration, and
what follows does not go on with it. -/
structure FaultAt (read : List Char → Except LineError α) (isStop : Char → Bool)
    (before rest : List Char) (e : LineError) : Prop where
  /-- The error is in this line. -/
  line_eq : e.line = before ++ rest
  /-- It is at the byte where the second part starts. -/
  offset_eq : e.offset = byteLength before
  /-- A declaration can start like this. -/
  viable : Viable read before
  /-- It does not go on like this. -/
  stuck : ∀ c ∈ rest.head?, ¬BlankName isStop (before ++ rest) → ¬Viable read (before ++ [c])

/-- An error at the start of the second part is one between the two. -/
theorem faultAt_errorAt {fault : Fault} (hviable : Viable read before)
    (hstuck : ∀ c ∈ rest.head?, ¬BlankName isStop (before ++ rest) → ¬Viable read (before ++ [c])) :
    FaultAt read isStop before rest (errorAt (before ++ rest) rest fault) :=
  ⟨rfl, offsetOf_append before rest, hviable, hstuck⟩

theorem FaultAt.column_eq (h : FaultAt read isStop before rest e) :
    e.column = before.length + 1 := by
  rw [LineError.column, h.line_eq, h.offset_eq, columnOfByte_byteLength]

theorem FaultAt.points (h : FaultAt read isStop before rest e) :
    Points read isStop (before ++ rest) e := by
  have hcolumn := h.column_eq
  obtain ⟨hline, hoffset, hviable, hstuck⟩ := h
  refine ⟨?_, ?_, ?_, fun hle hname => ?_, before, rest, rfl, hoffset.symm, ?_, ?_⟩
  · omega
  · rw [List.length_append]
    omega
  · rw [hcolumn, Nat.add_sub_cancel, List.take_left]
    exact hviable
  · cases rest with
    | nil =>
      rw [List.append_nil] at hle
      omega
    | cons c rest =>
      have htake : (before ++ c :: rest).take e.column = before ++ [c] := by
        rw [hcolumn, List.take_length_add_append, List.take_succ_cons, List.take_zero]
      rw [htake]
      exact hstuck c rfl hname
  · rw [hoffset, charactersBefore?_byteLength]
  · rw [LineError.column, hline]

theorem Viable.of_append (h : Viable read (before ++ rest)) : Viable read before := by
  obtain ⟨more, a, hread⟩ := h
  exact ⟨rest ++ more, a, by rw [← List.append_assoc, hread]⟩

theorem not_of_mem_head?_dropWhile {p : Char → Bool} {s : List Char} {c : Char}
    (h : c ∈ (s.dropWhile p).head?) : p c = false := by
  have hnot := List.head?_dropWhile_not p s
  rw [h] at hnot
  exact hnot

/-! ## Marker and name -/

theorem isSpace_marker (v : Visibility) : isSpace v.marker = false := by
  cases v <;> rfl

theorem head?_ne_marker_of_spaces {spaces : List Char} (h : ∀ c ∈ spaces, isSpace c)
    (v : Visibility) : spaces.head? ≠ some v.marker := by
  intro hv
  have hspace := h v.marker (List.mem_of_mem_head? hv)
  rw [isSpace_marker] at hspace
  exact absurd hspace (by simp)

/-- Lines that start with marker and name and go on with a stop. -/
structure StartsWithHead (read : List Char → Except LineError α) (isStop : Char → Bool) : Prop where
  /-- Markers are no stops. -/
  marker : ∀ v : Visibility, isStop v.marker = false
  /-- Spaces are no stops. -/
  space : ∀ c, isSpace c → isStop c = false
  /-- A letter is no stop, so there are names. -/
  letter : isStop 'a' = false
  /-- Any marker and name will do. -/
  viable : ∀ p : HeadParts isStop, Viable read p.chars
  /-- No line does without. -/
  exists_head : ∀ line a, read line = .ok a →
    ∃ (p : HeadParts isStop) (stop : Char) (rest : List Char),
      isStop stop ∧ line = p.chars ++ stop :: rest

/-- Marker and name are more than a marker and spaces. -/
theorem HeadParts.chars_ne (p : HeadParts isStop) {marker : Option Visibility} {spaces : List Char}
    (hspaces : ∀ c ∈ spaces, isSpace c) :
    marker.toList.map Visibility.marker ++ spaces ≠ p.chars := by
  intro h
  have hsplit := p.splitMarker_chars []
  rw [List.append_nil, List.append_nil, ← h, splitMarker_append fun _ =>
    head?_ne_marker_of_spaces hspaces] at hsplit
  obtain ⟨c, hc, hblank⟩ := p.exists_not_blank
  have hspace : c ∈ spaces := by
    rw [(Prod.mk.inj hsplit).2]
    exact List.mem_append_right _ hc
  rw [isBlank_of_isSpace (hspaces c hspace)] at hblank
  exact absurd hblank (by simp)

/-- Marker and name are not read where there is no name or but a blank one. The error is where the
name should start. -/
theorem of_readHead_eq_error (h : readHead block isStop line = .error e) :
    (∀ c ∈ nameText isStop line, Text.isBlank c) ∧
      e.line = line ∧ e.offset = offsetOf line ((splitMarker line).2.dropWhile isSpace) := by
  by_cases hne : line = []
  · subst hne
    obtain rfl := Except.error.inj h
    exact ⟨by simp [nameText, splitMarker], rfl, rfl⟩
  · have hname : ((splitMarker line).2.dropWhile isSpace).takeWhile (!isStop ·) =
        nameText isStop line := rfl
    rw [readHead_of_ne_nil hne] at h
    simp only [hname] at h
    by_cases hblank : (nameText isStop line).all Text.isBlank
    · refine ⟨by simpa using hblank, ?_⟩
      rw [if_pos hblank] at h
      split at h
      · next hlength =>
        -- nothing is taken off the line then, so what is left starts where the line does
        have hsuffix : (splitMarker line).2.dropWhile isSpace <:+ line :=
          (List.dropWhile_suffix _).trans ⟨_, (splitMarker_spec line).1⟩
        rw [hsuffix.eq_of_length hlength, offsetOf, Nat.sub_self, ← Except.error.inj h]
        exact ⟨rfl, rfl⟩
      · split at h <;> rw [← Except.error.inj h] <;> exact ⟨rfl, rfl⟩
    · rw [if_neg hblank] at h
      exact absurd h (by simp)

namespace StartsWithHead

variable (h : StartsWithHead read isStop)

include h

theorem not_isStop_of_mem_spaces (marker : Option Visibility) {spaces : List Char}
    (hspaces : ∀ c ∈ spaces, isSpace c) :
    ∀ c ∈ marker.toList.map Visibility.marker ++ spaces, isStop c = false := by
  intro c hc
  rcases List.mem_append.mp hc with hc | hc
  · obtain ⟨v, -, rfl⟩ := List.mem_map.mp hc
    exact h.marker v
  · exact h.space c (hspaces c hc)

theorem not_isStop_of_mem_chars (p : HeadParts isStop) : ∀ c ∈ p.chars, isStop c = false := by
  intro c hc
  rw [HeadParts.chars, ← List.append_assoc] at hc
  rcases List.mem_append.mp hc with hc | hc
  · exact h.not_isStop_of_mem_spaces p.marker p.isSpace_of_mem c hc
  · exact p.not_isStop_of_mem c hc

/-- A name can follow a marker and spaces. -/
theorem viable_spaces (marker : Option Visibility) {spaces : List Char}
    (hspaces : ∀ c ∈ spaces, isSpace c) :
    Viable read (marker.toList.map Visibility.marker ++ spaces) := by
  have hunmarked (v : Visibility) : (spaces ++ ['a']).head? ≠ some v.marker := by
    cases spaces with
    | nil => cases v <;> decide
    | cons c spaces => exact head?_ne_marker_of_spaces hspaces v
  have hviable := h.viable
    { marker, spaces, name := ['a'], isSpace_of_mem := hspaces
      not_isStop_of_mem := by simpa using h.letter
      exists_not_blank := ⟨'a', by simp, rfl⟩
      unmarked := fun _ => hunmarked }
  rw [HeadParts.chars, ← List.append_assoc] at hviable
  exact hviable.of_append

/-- A stop cannot. -/
theorem not_viable_stop (marker : Option Visibility) {spaces : List Char} {stop : Char}
    (hspaces : ∀ c ∈ spaces, isSpace c) (hstop : isStop stop) :
    ¬Viable read (marker.toList.map Visibility.marker ++ spaces ++ [stop]) := by
  rintro ⟨rest, a, hread⟩
  obtain ⟨p, stop', rest', hstop', hline⟩ := h.exists_head _ a hread
  rw [List.append_assoc, List.singleton_append] at hline
  -- the first stop of a line that is read comes behind a whole name
  obtain ⟨heq, -⟩ := append_cons_inj_of_first (h.not_isStop_of_mem_spaces marker hspaces)
    (h.not_isStop_of_mem_chars p) hstop hstop' hline
  exact p.chars_ne hspaces heq

/-- Where marker and name cannot be read, the fault is where the name should start. -/
theorem faultAt_of_readHead (herror : readHead block isStop line = .error e) :
    ∃ before rest, before ++ rest = line ∧ FaultAt read isStop before rest e := by
  obtain ⟨hmarker, -⟩ := splitMarker_spec line
  set marked := splitMarker line with hmarked
  set spaces := marked.2.takeWhile isSpace with hspaces
  set named := marked.2.dropWhile isSpace with hnamed
  have hspace : ∀ c ∈ spaces, isSpace c := fun c hc => List.mem_takeWhile_imp hc
  have hline : marked.1.toList.map Visibility.marker ++ spaces ++ named = line := by
    rw [List.append_assoc, hspaces, hnamed, List.takeWhile_append_dropWhile, hmarker]
  obtain ⟨hblank, hplace, hoffset⟩ := of_readHead_eq_error herror
  rw [← hmarked, ← hnamed, ← hline, offsetOf_append] at hoffset
  refine ⟨_, named, hline, hplace.trans hline.symm, hoffset, h.viable_spaces marked.1 hspace,
    fun c hc hname => ?_⟩
  rw [hline] at hname
  -- a blank name is excepted, so there is none, and a stop stands where it should
  have hnil : nameText isStop line = [] := by
    by_contra hne
    exact hname ⟨hne, hblank⟩
  have hstop : isStop c := by
    obtain ⟨named', hcons⟩ := List.head?_eq_some_iff.mp hc
    rw [nameText, ← hmarked, ← hnamed, hcons] at hnil
    by_contra hfree
    rw [List.takeWhile_cons_of_pos (by simpa using hfree)] at hnil
    exact absurd hnil (by simp)
  exact h.not_viable_stop marked.1 hspace hstop

end StartsWithHead

/-- What follows marker and name is nothing, or starts with a stop. -/
theorem isStop_of_readHead {head : Head} (h : readHead block isStop line = .ok head) :
    ∀ c ∈ head.rest.head?, isStop c := by
  intro c hc
  have hne : line ≠ [] := by
    rintro rfl
    exact absurd h (by simp [readHead])
  rw [readHead_of_ne_nil hne] at h
  simp only at h
  split at h
  · split at h
    · exact absurd h (by simp)
    · split at h <;> exact absurd h (by simp)
  · obtain rfl := Except.ok.inj h
    simpa using not_of_mem_head?_dropWhile hc

/-! ## Attributes -/

theorem startsWithHead_attribute : StartsWithHead readAttribute (· == ':') where
  marker v := by cases v <;> rfl
  space c hc := by
    rw [isSpace, Bool.or_eq_true, beq_iff_eq, beq_iff_eq] at hc
    rcases hc with rfl | rfl <;> rfl
  letter := rfl
  viable p := ⟨[':'], _, readAttribute_line { p with type := [] }⟩
  exists_head line a hread := by
    obtain ⟨p, rfl, -⟩ := exists_attributeParts hread
    exact ⟨p.toHeadParts, ':', p.type, rfl, rfl⟩

/-- A line that is no attribute has a fault in the grammar of attributes. -/
theorem faultAt_of_readAttribute (h : readAttribute line = .error e) :
    ∃ before rest, before ++ rest = line ∧ FaultAt readAttribute (· == ':') before rest e := by
  rw [readAttribute] at h
  cases hhead : readHead .attributes (· == ':') line with
  | error e' =>
    rw [hhead] at h
    obtain rfl := Except.error.inj h
    exact startsWithHead_attribute.faultAt_of_readHead hhead
  | ok head =>
    obtain ⟨p, hline, -, -⟩ := HeadParts.exists_of_readHead hhead
    have hstop := isStop_of_readHead hhead
    rw [hhead] at h
    simp only [bind, Except.bind] at h
    split at h
    · exact absurd h (by simp)
    · next hcolon =>
      rw [← Except.error.inj h, ← hline]
      refine ⟨p.chars, head.rest, rfl, faultAt_errorAt (startsWithHead_attribute.viable p) ?_⟩
      -- the only stop is a colon, and no colon follows
      intro c hc
      obtain ⟨type, hrest⟩ := List.head?_eq_some_iff.mp hc
      obtain rfl := beq_iff_eq.mp (hstop c hc)
      exact absurd hrest (hcolon type)

theorem points_of_readAttribute (h : readAttribute line = .error e) :
    Points readAttribute (· == ':') line e := by
  obtain ⟨before, rest, rfl, hfault⟩ := faultAt_of_readAttribute h
  exact hfault.points

/-! ## Methods -/

theorem startsWithHead_method : StartsWithHead readMethod fun c => c == '(' || c == ':' where
  marker v := by cases v <;> rfl
  space c hc := by
    rw [isSpace, Bool.or_eq_true, beq_iff_eq, beq_iff_eq] at hc
    rcases hc with rfl | rfl <;> rfl
  letter := rfl
  viable p := ⟨"():".toList, _, readMethod_line
    { p with parameters := [], gap := [], returnType := []
             not_endsParameters_of_mem := by simp
             isSpace_of_mem_gap := by simp }⟩
  exists_head line m hread := by
    obtain ⟨p, rfl⟩ := exists_methodParts hread
    exact ⟨p.toHeadParts, '(', _, rfl, rfl⟩

section

variable (p : HeadParts fun c => c == '(' || c == ':') {parameters gap : List Char}

/-- Where the name of a method ends is settled by its line. -/
theorem MethodParts.inj_of_line (q : MethodParts) {c : Char} {rest : List Char}
    (hc : c == '(' || c == ':') (h : p.chars ++ c :: rest = q.line) :
    c = '(' ∧ rest = q.parameters ++ ')' :: (q.gap ++ ':' :: q.returnType) :=
  (append_cons_inj_of_first (startsWithHead_method.not_isStop_of_mem_chars p)
    (startsWithHead_method.not_isStop_of_mem_chars q.toHeadParts) hc rfl h).2

/-- The name of a method goes on with an opening parenthesis. -/
theorem faultAt_opening {fault : Fault}
    (hrest : ∀ c ∈ rest.head?, (c == '(' || c == ':') ∧ c ≠ '(') :
    FaultAt readMethod (fun c => c == '(' || c == ':') p.chars rest
      (errorAt (p.chars ++ rest) rest fault) := by
  refine faultAt_errorAt (startsWithHead_method.viable p) ?_
  rintro c hc - ⟨more, m, hread⟩
  obtain ⟨hstop, hne⟩ := hrest c hc
  obtain ⟨q, hq⟩ := exists_methodParts hread
  rw [List.append_assoc, List.singleton_append] at hq
  exact hne (q.inj_of_line p hstop hq.symm).1

/-- The parameters of a method go on with a closing parenthesis. -/
theorem faultAt_closing {fault : Fault} (hparameters : ∀ c ∈ parameters, endsParameters c = false)
    (hrest : ∀ c ∈ rest.head?, endsParameters c ∧ c ≠ ')') :
    FaultAt readMethod (fun c => c == '(' || c == ':') (p.chars ++ '(' :: parameters) rest
      (errorAt (p.chars ++ '(' :: parameters ++ rest) rest fault) := by
  refine faultAt_errorAt ?_ ?_
  · have hread := readMethod_line { p with
      parameters, gap := [], returnType := []
      not_endsParameters_of_mem := hparameters
      isSpace_of_mem_gap := by simp }
    exact ⟨"):".toList, _, by rw [List.append_assoc]; exact hread⟩
  · rintro c hc - ⟨more, m, hread⟩
    obtain ⟨hends, hne⟩ := hrest c hc
    obtain ⟨q, hq⟩ := exists_methodParts hread
    rw [List.append_assoc, List.append_assoc, List.singleton_append, List.cons_append] at hq
    have hinner := (q.inj_of_line p rfl hq.symm).2
    obtain ⟨-, heq, -⟩ :=
      append_cons_inj_of_first hparameters q.not_endsParameters_of_mem hends rfl hinner
    exact hne heq

/-- The closing parenthesis goes on with a colon, but for spaces. -/
theorem faultAt_colon {fault : Fault} (hparameters : ∀ c ∈ parameters, endsParameters c = false)
    (hgap : ∀ c ∈ gap, isSpace c) (hrest : ∀ c ∈ rest.head?, isSpace c = false ∧ c ≠ ':') :
    FaultAt readMethod (fun c => c == '(' || c == ':')
      (p.chars ++ '(' :: (parameters ++ ')' :: gap)) rest
      (errorAt (p.chars ++ '(' :: (parameters ++ ')' :: gap) ++ rest) rest fault) := by
  refine faultAt_errorAt ?_ ?_
  · have hread := readMethod_line { p with
      parameters, gap, returnType := []
      not_endsParameters_of_mem := hparameters
      isSpace_of_mem_gap := hgap }
    exact ⟨":".toList, _, by simpa [MethodParts.line] using hread⟩
  · rintro c hc - ⟨more, m, hread⟩
    obtain ⟨hspace, hne⟩ := hrest c hc
    obtain ⟨q, hq⟩ := exists_methodParts hread
    have hq' : p.chars ++ '(' :: (parameters ++ ')' :: (gap ++ c :: more)) = q.line := by
      rw [hq]
      simp
    have hinner := (q.inj_of_line p rfl hq').2
    obtain ⟨-, -, hclosed⟩ :=
      append_cons_inj_of_first hparameters q.not_endsParameters_of_mem rfl rfl hinner
    have hfree : ∀ x ∈ gap, (!isSpace x) = false := by simpa using hgap
    have hfree' : ∀ x ∈ q.gap, (!isSpace x) = false := by simpa using q.isSpace_of_mem_gap
    exact hne (append_cons_inj_of_first hfree hfree' (by simp [hspace]) rfl hclosed).2.1

end

/-- A line that is no method has a fault in the grammar of methods. -/
theorem faultAt_of_readMethod (h : readMethod line = .error e) :
    ∃ before rest, before ++ rest = line ∧
      FaultAt readMethod (fun c => c == '(' || c == ':') before rest e := by
  rw [readMethod] at h
  cases hhead : readHead .methods (fun c => c == '(' || c == ':') line with
  | error e' =>
    rw [hhead] at h
    obtain rfl := Except.error.inj h
    exact startsWithHead_method.faultAt_of_readHead hhead
  | ok head =>
    obtain ⟨p, hline, -, -⟩ := HeadParts.exists_of_readHead hhead
    have hstop := isStop_of_readHead hhead
    rw [hhead] at h
    simp only [bind, Except.bind] at h
    split at h
    · next inner hrest =>
      have hparameters : ∀ c ∈ inner.takeWhile (!endsParameters ·), endsParameters c = false :=
        fun c hc => by simpa using List.mem_takeWhile_imp hc
      have hinner := List.takeWhile_append_dropWhile (p := (!endsParameters ·)) (l := inner)
      split at h
      · next closed hclosed =>
        have hgap : ∀ c ∈ closed.takeWhile isSpace, isSpace c := fun c hc =>
          List.mem_takeWhile_imp hc
        have hjoin : p.chars ++ '(' :: (inner.takeWhile (!endsParameters ·) ++
            ')' :: closed.takeWhile isSpace) ++ closed.dropWhile isSpace = line := by
          rw [List.append_assoc, List.cons_append, List.append_assoc, List.cons_append,
            List.takeWhile_append_dropWhile, ← hclosed, hinner, ← hrest, hline]
        split at h
        · exact absurd h (by simp)
        · next hcolon =>
          rw [← Except.error.inj h, ← hjoin]
          refine ⟨_, _, rfl, faultAt_colon p hparameters hgap fun c hc => ?_⟩
          obtain ⟨type, htype⟩ := List.head?_eq_some_iff.mp hc
          refine ⟨not_of_mem_head?_dropWhile hc, ?_⟩
          rintro rfl
          exact hcolon type htype
      · next hclosing =>
        have hjoin : p.chars ++ '(' :: inner.takeWhile (!endsParameters ·) ++
            inner.dropWhile (!endsParameters ·) = line := by
          rw [List.append_assoc, List.cons_append, hinner, ← hrest, hline]
        rw [← Except.error.inj h, ← hjoin]
        refine ⟨_, _, rfl, faultAt_closing p hparameters fun c hc => ?_⟩
        obtain ⟨closed, hclosed⟩ := List.head?_eq_some_iff.mp hc
        refine ⟨by simpa using not_of_mem_head?_dropWhile hc, ?_⟩
        rintro rfl
        exact hclosing closed hclosed
    · next hopening =>
      rw [← Except.error.inj h, ← hline]
      refine ⟨p.chars, head.rest, rfl, faultAt_opening p fun c hc => ?_⟩
      obtain ⟨inner, hrest⟩ := List.head?_eq_some_iff.mp hc
      refine ⟨hstop c hc, ?_⟩
      rintro rfl
      exact hopening inner hrest

theorem points_of_readMethod (h : readMethod line = .error e) :
    Points readMethod (fun c => c == '(' || c == ':') line e := by
  obtain ⟨before, rest, rfl, hfault⟩ := faultAt_of_readMethod h
  exact hfault.points

/-! ## Segments -/

theorem exists_of_mem_segmentsFrom {texts : List (List Char)} (h : StandBehind line before texts) :
    ∀ s ∈ segmentsFrom (byteLength before) texts, ∃ before' after',
      before' ++ (s.text.toList ++ after') = line ∧ s.start = byteLength before' := by
  induction texts generalizing before with
  | nil => simp [segmentsFrom]
  | cons text texts ih =>
    obtain ⟨⟨after, hline⟩, hrest⟩ := h.cons
    rw [segmentsFrom_cons, List.forall_mem_cons]
    exact ⟨⟨before, after, by rw [String.toList_ofList, hline], rfl⟩, ih hrest⟩

/-- A segment starts where a character does. -/
theorem start_of_mem_segments {m : MethodLine} (h : readMethod line = .ok m) :
    ∀ s ∈ m.segments, ∃ before after, before ++ (s.text.toList ++ after) = line ∧
      charactersBefore? line s.start = some before.length := by
  obtain ⟨p, rfl⟩ := exists_methodParts h
  rw [readMethod_line p] at h
  obtain rfl := Except.ok.inj h
  intro s hs
  rw [MethodParts.declaration, p.start_eq] at hs
  obtain ⟨before, after, hline, hbyte⟩ := exists_of_mem_segmentsFrom p.standBehind s hs
  refine ⟨before, after, hline, ?_⟩
  rw [← hline, hbyte]
  exact charactersBefore?_byteLength before _

/-! ## Rejected blocks -/

/-- The first line of a block that is rejected. The lines before it are blank or read. -/
structure FirstRejected (read : List Char → Except LineError α) (text : String) (number : Nat)
    (raw : List Char) (e : LineError) : Prop where
  /-- The number counts all lines of the block, from one. -/
  earlier : ∃ before after, text.toList.splitOn '\n' = before ++ raw :: after ∧
    number = before.length + 1 ∧
    ∀ other ∈ before, (∀ c ∈ other, Text.isBlank c) ∨ ∃ a, read (Text.trimChars other) = .ok a
  /-- The line is not blank. -/
  not_blank : ∃ c ∈ raw, Text.isBlank c = false
  /-- It is rejected for an error of what is left when it is trimmed. -/
  rejected : read (Text.trimChars raw) = .error e

/-- The failure of a block at the first of its lines that is rejected. The column is moved by the
blanks that the line starts with, so that the same characters stand before it, and these blanks. -/
def FailsAt (read : List Char → Except LineError α) (block : Block) (className text : String)
    (f : Failure) : Prop :=
  ∃ number raw e, FirstRejected read text number raw e ∧
    raw.take ((indentation raw).length + e.column - 1) =
      indentation raw ++ (Text.trimChars raw).take (e.column - 1) ∧
    f = .malformedDeclaration className block number ((indentation raw).length + e.column)
      e.fault.message

/-- The fault of a line as it stands in a block. A blank line has none. -/
def rawFault? (read : List Char → Except LineError α) (className : String) (block : Block)
    (l : List Char × Nat) : Option Failure :=
  if l.1.all Text.isBlank then none
  else
    match read (Text.trimChars l.1) with
    | .ok _ => none
    | .error e => some ((trimmedLine l).failure className block e)

theorem rawFault?_eq_none_iff {className : String} {l : List Char × Nat} :
    rawFault? read className block l = none ↔
      (∀ c ∈ l.1, Text.isBlank c) ∨ ∃ a, read (Text.trimChars l.1) = .ok a := by
  rw [rawFault?]
  cases read (Text.trimChars l.1) <;> simp

theorem rawFault?_eq_some_iff {className : String} {f : Failure} {l : List Char × Nat} :
    rawFault? read className block l = some f ↔ (∃ c ∈ l.1, Text.isBlank c = false) ∧
      ∃ e, read (Text.trimChars l.1) = .error e ∧ (trimmedLine l).failure className block e = f := by
  rw [rawFault?]
  cases read (Text.trimChars l.1) <;> simp

/-- The faults of a block are those of its lines as they stand. -/
theorem filterMap_blockLines {className : String} {fault? : BlockLine → Option Failure}
    (hok : ∀ l a, read l.text = .ok a → fault? l = none)
    (herror : ∀ l e, read l.text = .error e → fault? l = some (l.failure className block e))
    (text : String) :
    (blockLines text).filterMap fault? =
      ((text.toList.splitOn '\n').zipIdx 1).filterMap (rawFault? read className block) := by
  rw [blockLines_eq, numberedLines, List.filterMap_map, List.filterMap_filter]
  refine List.filterMap_congr fun l _ => ?_
  have hfault : (fault? ∘ trimmedLine) l = match read (Text.trimChars l.1) with
      | .ok _ => none
      | .error e => some ((trimmedLine l).failure className block e) := by
    cases hread : read (Text.trimChars l.1) with
    | ok a => exact hok _ a hread
    | error e => exact herror _ e hread
  rw [rawFault?, hfault]
  cases l.1.all Text.isBlank <;> rfl

/-- The first fault of the lines of a block is that of the first one that is rejected. -/
theorem findSome?_rawFault?_eq_some_iff {className text : String} {f : Failure}
    (hcolumn : ∀ line e, read line = .error e → 1 ≤ e.column ∧ e.column ≤ line.length + 1) :
    ((text.toList.splitOn '\n').zipIdx 1).findSome? (rawFault? read className block) = some f ↔
      FailsAt read block className text f := by
  rw [List.findSome?_eq_some_iff]
  constructor
  · rintro ⟨numbered, ⟨raw, number⟩, rest, hsplit, hf, hearlier⟩
    obtain ⟨before, tail, hlines, rfl, htail⟩ := List.zipIdx_eq_append_iff.mp hsplit
    obtain ⟨raw', after, rfl, hpair, -⟩ := List.zipIdx_eq_cons_iff.mp htail.symm
    obtain ⟨rfl, rfl⟩ := Prod.mk.inj hpair
    obtain ⟨hblank, e, hread, rfl⟩ := rawFault?_eq_some_iff.mp hf
    refine ⟨_, raw, e, ⟨⟨before, after, hlines, Nat.add_comm _ _, fun other hother => ?_⟩, hblank,
      hread⟩, ?_, rfl⟩
    · obtain ⟨k, hk, rfl⟩ := List.mem_iff_getElem.mp hother
      exact rawFault?_eq_none_iff.mp
        (hearlier (before[k], 1 + k) (by simp [List.mem_iff_getElem, hk]))
    · obtain ⟨hpos, hle⟩ := hcolumn _ e hread
      rw [Nat.add_sub_assoc hpos]
      exact take_indentation raw (Nat.sub_le_of_le_add hle)
  · rintro ⟨number, raw, e, ⟨⟨before, after, hlines, rfl, hearlier⟩, hblank, hread⟩, -, rfl⟩
    refine ⟨before.zipIdx 1, (raw, before.length + 1), after.zipIdx (before.length + 2), ?_,
      rawFault?_eq_some_iff.mpr ⟨hblank, e, hread, rfl⟩, fun l hl => ?_⟩
    · rw [hlines, List.zipIdx_append, List.zipIdx_cons, Nat.add_comm 1]
    · exact rawFault?_eq_none_iff.mpr (hearlier l.1 (List.fst_mem_of_mem_zipIdx hl))

theorem failureOf?_eq_some_iff {β : Type} {result : Except Failure β} {f : Failure} :
    failureOf? result = some f ↔ result = .error f := by
  cases result <;> simp [failureOf?]

theorem readAttributes_eq_error_iff {className text : String} {f : Failure} :
    readAttributes className text = .error f ↔
      FailsAt readAttribute .attributes className text f := by
  have hok (l : BlockLine) (a : AttributeLine) (h : readAttribute l.text = .ok a) :
      l.attributeFault? className = none := by
    rw [BlockLine.attributeFault?, h]
  have herror (l : BlockLine) (e : LineError) (h : readAttribute l.text = .error e) :
      l.attributeFault? className = some (l.failure className .attributes e) := by
    rw [BlockLine.attributeFault?, h]
  rw [← failureOf?_eq_some_iff, failureOf?_readAttributes, filterMap_blockLines hok herror,
    List.head?_filterMap]
  exact findSome?_rawFault?_eq_some_iff fun line e h =>
    ⟨(points_of_readAttribute h).pos, (points_of_readAttribute h).le⟩

theorem readMethods_eq_error_iff {className text : String} {f : Failure} :
    (readMethods className text).2 = .error f ↔ FailsAt readMethod .methods className text f := by
  have hok (l : BlockLine) (a : MethodLine) (h : readMethod l.text = .ok a) :
      l.methodFault? className = none := by
    rw [BlockLine.methodFault?, h]
  have herror (l : BlockLine) (e : LineError) (h : readMethod l.text = .error e) :
      l.methodFault? className = some (l.failure className .methods e) := by
    rw [BlockLine.methodFault?, h]
  rw [← failureOf?_eq_some_iff, readMethods, failureOf?_readMethodLines,
    filterMap_blockLines hok herror, List.head?_filterMap]
  exact findSome?_rawFault?_eq_some_iff fun line e h =>
    ⟨(points_of_readMethod h).pos, (points_of_readMethod h).le⟩

/-! ## Errors tell where they are -/

/-- Where the errors of lines and blocks are. The column of a line that is rejected is where it stops
being the start of a declaration, that of a block belongs to the first line that is rejected, and
neither an error nor a segment starts within a character. -/
theorem error_positions :
    (∀ line e, readAttribute line = .error e → Points readAttribute (· == ':') line e) ∧
      (∀ line e, readMethod line = .error e →
        Points readMethod (fun c => c == '(' || c == ':') line e) ∧
      (∀ className text f, readAttributes className text = .error f ↔
        FailsAt readAttribute .attributes className text f) ∧
      (∀ className text f, (readMethods className text).2 = .error f ↔
        FailsAt readMethod .methods className text f) ∧
      ∀ line m, readMethod line = .ok m → ∀ s ∈ m.segments, ∃ before after,
        before ++ (s.text.toList ++ after) = line ∧
          charactersBefore? line s.start = some before.length :=
  ⟨fun _ _ => points_of_readAttribute, fun _ _ => points_of_readMethod,
    fun _ _ _ => readAttributes_eq_error_iff, fun _ _ _ => readMethods_eq_error_iff,
    fun _ _ => start_of_mem_segments⟩

/-- Accents take two bytes and blanks of other kinds up to three, and each is one character. -/
theorem error_positions_accent :
    Points readAttribute (· == ':') "+é name".toList
        ⟨.noTypeColon none, "+é name".toList, 8⟩ ∧
      Points readMethod (fun c => c == '(' || c == ':') "run(éé(x)".toList
        ⟨.noClosing (some '('), "run(éé(x)".toList, 8⟩ ∧
      FailsAt readAttribute .attributes "Cat" "é: int\n \t\n\u2003 é x"
        (.malformedDeclaration "Cat" .attributes 3 6 (Fault.noTypeColon none).message) ∧
      FailsAt readMethod .methods "Cat" "\u00a0+é()x"
        (.malformedDeclaration "Cat" .methods 1 6 (Fault.noReturnColon (some 'x')).message) ∧
      ∃ before after, before ++ (" y".toList ++ after) = "+é(ü, y):t".toList ∧
        charactersBefore? "+é(ü, y):t".toList 7 = some before.length := by
  refine ⟨error_positions.1 _ _ rfl, error_positions.2.1 _ _ rfl,
    (error_positions.2.2.1 _ _ _).mp rfl, (error_positions.2.2.2.1 _ _ _).mp rfl, ?_⟩
  exact error_positions.2.2.2.2 "+é(ü, y):t".toList _ rfl ⟨" y", 7, 9⟩ (by decide)

/-- A name may start with a blank that is no space, although it may not be blank. -/
example : readAttribute "+\u00a0:x".toList = .error
      ⟨.blankName .attributes, "+\u00a0:x".toList, 1⟩ ∧
    Viable readAttribute "+\u00a0".toList :=
  ⟨rfl, "a:".toList, _, rfl⟩

end Blueprint.Declaration
