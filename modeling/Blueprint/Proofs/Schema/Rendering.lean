import Blueprint.Proofs.Text.Blank
import Blueprint.Schema.Statement
import Mathlib.Data.Set.Function

/-!
# Statements read back

The text of a statement is its head, a line for each entry, and a closing line; a blank line comes
behind it. Names are free texts, so an entry may hold anything that a head or a closing line holds.
But an entry ends in the keyword of a type, in a parenthesis or in what is said on deletion, and a
closing line ends in a semicolon. So the first line that is a closing line does close the statement.

What stands between head and closing line are the entries, and these tell the columns and the foreign
keys of the statement. A foreign key alone would not, as a name in it may hold its words; but its
column is one of the statement's, and with the column known it does.
-/

namespace Blueprint.Schema

variable {s s' : Statement} {indentation : String}

/-! ## Columns and foreign keys -/

/-- How a text ends does not depend on what stands before its last part. -/
theorem getLast?_toList_append (a : String) {b : String} (h : b ≠ "") :
    (a ++ b).toList.getLast? = b.toList.getLast? := by
  rw [String.toList_append, List.getLast?_append_of_ne_nil _ (by simpa using h)]

theorem ColumnType.keyword_injective : Function.Injective ColumnType.keyword := by
  intro t u h
  cases t <;> cases u <;> first | rfl | exact absurd h (by decide)

namespace Column

theorem getLast?_text (c : Column) : c.text.toList.getLast? = c.type.keyword.toList.getLast? := by
  refine getLast?_toList_append _ ?_
  cases c.type <;> decide

/-- The last word of a column is the keyword of its type. -/
theorem takeWhile_text (c : Column) :
    c.text.toList.reverse.takeWhile (· ≠ ' ') = c.type.keyword.toList.reverse := by
  cases ht : c.type <;> simp [text, ht, ColumnType.keyword]

theorem text_injective : Function.Injective Column.text := by
  rintro ⟨name, type⟩ ⟨name', type'⟩ h
  have hlast := congrArg (fun e => e.toList.reverse.takeWhile (· ≠ ' ')) h
  simp only [takeWhile_text] at hlast
  obtain rfl := ColumnType.keyword_injective (String.toList_injective (List.reverse_injective hlast))
  have hname : name = name' := by simpa [text] using h
  rw [hname]

theorem not_mem_text {c : Column} (h : '\n' ∉ c.name.toList) : '\n' ∉ c.text.toList := by
  simp only [text, String.toList_append, List.mem_append, not_or]
  refine ⟨⟨h, by decide⟩, ?_⟩
  cases c.type <;> decide

end Column

namespace ForeignKey

theorem text_eq (k : ForeignKey) :
    k.text = "FOREIGN KEY (" ++ k.column ++ ") REFERENCES " ++ k.references ++ "(" ++ primaryKey ++
      (")" ++ k.onDelete.clause) := String.append_assoc

theorem getLast?_text (k : ForeignKey) :
    k.text.toList.getLast? = (")" ++ k.onDelete.clause).toList.getLast? := by
  rw [k.text_eq]
  refine getLast?_toList_append _ ?_
  cases k.onDelete <;> decide

/-- On a column that is known, a foreign key is read off its text. -/
theorem eq_of_text {k l : ForeignKey} (hcolumn : k.column = l.column) (h : k.text = l.text) :
    k = l := by
  obtain ⟨column, references, onDelete⟩ := k
  obtain ⟨column', references', onDelete'⟩ := l
  obtain rfl : column = column' := hcolumn
  have hlast := congrArg (fun e => e.toList.getLast?) h
  simp only [getLast?_text] at hlast
  obtain rfl : onDelete = onDelete' := by
    cases onDelete <;> cases onDelete' <;> first | rfl | exact absurd hlast (by decide)
  have hreferences : references = references' := by
    rw [text_eq, text_eq] at h
    simpa using h
  rw [hreferences]

theorem not_mem_text {k : ForeignKey} (hcolumn : '\n' ∉ k.column.toList)
    (hreferences : '\n' ∉ k.references.toList) : '\n' ∉ k.text.toList := by
  simp only [text_eq, String.toList_append, List.mem_append, not_or]
  refine ⟨⟨⟨⟨⟨⟨by decide, hcolumn⟩, by decide⟩, hreferences⟩, by decide⟩, by decide⟩, by decide, ?_⟩
  cases k.onDelete <;> decide

end ForeignKey

/-! ## Entries -/

/-- Columns end in a type, and foreign keys do not. -/
def endsInType (e : String) : Bool := e.toList.getLast?.any (['R', 'N', 'T'].contains ·)

theorem endsInType_text (c : Column) : endsInType c.text := by
  rw [endsInType, c.getLast?_text]
  cases c.type <;> decide

theorem not_endsInType_text (k : ForeignKey) : endsInType k.text = false := by
  rw [endsInType, k.getLast?_text]
  cases k.onDelete <;> decide

namespace Statement

/-- The foreign keys of a statement are on the last of its columns. -/
def KeysLast (s : Statement) : Prop :=
  s.keys.map ForeignKey.column <:+ s.columns.map Column.name

/-- A statement that its text stands for: no name in it breaks a line, it adds something, and its
foreign keys are on the last of its columns. -/
structure Legible (s : Statement) : Prop where
  table : '\n' ∉ s.table.toList
  column : ∀ c ∈ s.columns, '\n' ∉ c.name.toList
  target : ∀ k ∈ s.keys, '\n' ∉ k.references.toList
  adds : s.entries ≠ []
  keysLast : s.KeysLast

theorem forall_mem_entries {p : String → Prop} (hprimary : p (primaryKey ++ " NUMBER PRIMARY KEY"))
    (hcolumns : ∀ c ∈ s.columns, p c.text) (hkeys : ∀ k ∈ s.keys, p k.text) :
    ∀ e ∈ s.entries, p e := by
  intro e he
  rw [entries, List.mem_append, List.mem_append] at he
  rcases he with (he | he) | he
  · split at he
    · exact List.mem_singleton.mp he ▸ hprimary
    · exact absurd he List.not_mem_nil
  · obtain ⟨c, hc, rfl⟩ := List.mem_map.mp he
    exact hcolumns c hc
  · obtain ⟨k, hk, rfl⟩ := List.mem_map.mp he
    exact hkeys k hk

theorem Legible.not_mem_entry (h : s.Legible) : ∀ e ∈ s.entries, '\n' ∉ e.toList := by
  refine forall_mem_entries (by decide) ?_ ?_
  · exact fun c hc => Column.not_mem_text (h.column c hc)
  · intro k hk
    obtain ⟨c, hc, hname⟩ := List.mem_map.mp (h.keysLast.subset (List.mem_map_of_mem hk))
    exact ForeignKey.not_mem_text (hname ▸ h.column c hc) (h.target k hk)

/-- Whatever names an entry holds, it does not end as a closing line does. -/
theorem getLast?_entry (s : Statement) :
    ∀ e ∈ s.entries, ∃ c, e.toList.getLast? = some c ∧ c ≠ ';' := by
  refine forall_mem_entries ⟨'Y', by decide, by decide⟩ ?_ ?_
  · intro c _
    rw [c.getLast?_text]
    cases c.type <;> exact ⟨_, rfl, by decide⟩
  · intro k _
    rw [k.getLast?_text]
    cases k.onDelete <;> exact ⟨_, rfl, by decide⟩

/-- The entries of a statement tell its columns, and the texts of its foreign keys. -/
theorem columns_eq_of_entries (hkind : s.kind = s'.kind) (h : s.entries = s'.entries) :
    s.columns = s'.columns ∧ s.keys.map ForeignKey.text = s'.keys.map ForeignKey.text := by
  rw [entries, entries, hkind, List.append_assoc, List.append_assoc] at h
  have hadded := List.append_cancel_left h
  have hcolumns : s.columns.map Column.text = s'.columns.map Column.text := by
    have hread := congrArg (List.filter endsInType) hadded
    simpa [List.filter_append, List.filter_map, Function.comp_def, endsInType_text,
      not_endsInType_text] using hread
  rw [hcolumns] at hadded
  exact ⟨List.map_injective_iff.mpr Column.text_injective hcolumns, List.append_cancel_left hadded⟩

/-- With the columns known, the foreign keys on the last of them are told by their texts. -/
theorem eq_of_entries (hlast : s.KeysLast) (hlast' : s'.KeysLast) (hkind : s.kind = s'.kind)
    (htable : s.table = s'.table) (h : s.entries = s'.entries) : s = s' := by
  obtain ⟨hcolumns, htexts⟩ := columns_eq_of_entries hkind h
  have hlen : s.keys.length = s'.keys.length := by simpa using congrArg List.length htexts
  have hon : s.keys.map ForeignKey.column = s'.keys.map ForeignKey.column := by
    rw [KeysLast, hcolumns] at hlast
    exact (List.suffix_of_suffix_length_le hlast hlast' (by simp [hlen])).eq_of_length
      (by simp [hlen])
  have hpairs : s.keys.map (fun k => (k.column, k.text)) =
      s'.keys.map fun k => (k.column, k.text) := by
    rw [← List.zip_map', ← List.zip_map', hon, htexts]
  have hinjective : Function.Injective fun k : ForeignKey => (k.column, k.text) := by
    intro k l hkl
    exact ForeignKey.eq_of_text (Prod.mk.inj hkl).1 (Prod.mk.inj hkl).2
  have hkeys : s.keys = s'.keys := List.map_injective_iff.mpr hinjective hpairs
  obtain ⟨kind, table, columns, keys⟩ := s
  obtain ⟨kind', table', columns', keys'⟩ := s'
  simp_all

end Statement

/-! ## Lines -/

/-- Entries as lines: all but the last get a comma. -/
def commas : List String → List String
  | [] => []
  | [e] => [e]
  | e :: e' :: es => (e ++ ",") :: commas (e' :: es)

@[simp]
theorem commas_eq_nil_iff {es : List String} : commas es = [] ↔ es = [] := by
  fun_cases commas es <;> simp

theorem intercalate_commas (es : List String) :
    "\n".intercalate (commas es) = ",\n".intercalate es := by
  induction es using commas.induct with
  | case1 => rfl
  | case2 e => rfl
  | case3 e e' es ih =>
    have hmore : commas (e' :: es) ≠ [] := mt commas_eq_nil_iff.mp (List.cons_ne_nil e' es)
    have hsep : e ++ "," ++ "\n" = e ++ ",\n" := String.append_assoc
    rw [commas, String.intercalate_cons_of_ne_nil hmore, ih, String.intercalate_cons_cons, hsep]

/-- Which line has a comma that is not its own is seen from its place. -/
theorem commas_injective : Function.Injective commas := by
  intro es es' h
  induction es using commas.induct generalizing es' with
  | case1 => exact (commas_eq_nil_iff.mp h.symm).symm
  | case2 e => fun_cases commas es' <;> simp_all [commas]
  | case3 e e' es ih =>
    fun_cases commas es' with
    | case1 => simp [commas] at h
    | case2 l => simp [commas] at h
    | case3 l l' ls =>
      obtain ⟨hhead, htail⟩ := List.cons.inj h
      rw [(String.append_left_inj _).mp hhead, ih htail]

theorem mem_commas {es : List String} {l : String} (h : l ∈ commas es) :
    ∃ e ∈ es, l = e ∨ l = e ++ "," := by
  induction es using commas.induct with
  | case1 => simp [commas] at h
  | case2 e => exact ⟨e, List.mem_singleton_self e, Or.inl (List.mem_singleton.mp h)⟩
  | case3 e e' es ih =>
    rcases List.mem_cons.mp h with h | h
    · exact ⟨e, List.mem_cons_self, Or.inr h⟩
    · obtain ⟨x, hx, hl⟩ := ih h
      exact ⟨x, List.mem_cons_of_mem _ hx, hl⟩

/-- The line that closes a statement. -/
def closing : String := ");"

namespace Statement

/-- The lines of the entries of a statement. -/
def entryLines (indentation : String) (s : Statement) : List String :=
  commas (s.entries.map (indentation ++ ·))

/-- The lines of a statement, and the blank line behind it. -/
def lines (indentation : String) (s : Statement) : List String :=
  s.head :: (s.entryLines indentation ++ [closing, ""])

theorem exists_of_mem_entryLines {l : String} (h : l ∈ s.entryLines indentation) :
    ∃ e ∈ s.entries, l = indentation ++ e ∨ l = indentation ++ e ++ "," := by
  obtain ⟨indented, hmem, hl⟩ := mem_commas h
  obtain ⟨e, he, rfl⟩ := List.mem_map.mp hmem
  exact ⟨e, he, hl⟩

theorem ne_closing_of_mem_entryLines {l : String} (h : l ∈ s.entryLines indentation) :
    l ≠ closing := by
  rintro rfl
  obtain ⟨e, he, hl⟩ := exists_of_mem_entryLines h
  obtain ⟨c, hc, hne⟩ := s.getLast?_entry e he
  have hend : closing.toList.getLast? = some ';' := rfl
  rcases hl with hl | hl
  · have hlast : (indentation ++ e).toList.getLast? = some c := by
      rw [getLast?_toList_append _ (by rintro rfl; simp at hc), hc]
    rw [hl, hlast] at hend
    exact hne (Option.some.inj hend)
  · have hlast : (indentation ++ e ++ ",").toList.getLast? = some ',' :=
      getLast?_toList_append _ (by decide)
    rw [hl, hlast] at hend
    exact absurd hend (by decide)

theorem not_mem_head (h : '\n' ∉ s.table.toList) : '\n' ∉ s.head.toList := by
  cases hk : s.kind <;> simp only [head, hk, String.toList_append, List.mem_append, not_or] <;>
    exact ⟨⟨by decide, h⟩, by decide⟩

theorem Legible.not_mem_line (h : s.Legible) (hindentation : '\n' ∉ indentation.toList) :
    ∀ l ∈ s.lines indentation, '\n' ∉ l.toList := by
  intro l hl
  rw [lines, List.mem_cons, List.mem_append] at hl
  rcases hl with rfl | hl | hl
  · exact not_mem_head h.table
  · obtain ⟨e, he, hl⟩ := exists_of_mem_entryLines hl
    have hentry := h.not_mem_entry e he
    rcases hl with rfl | rfl <;> simp [hindentation, hentry]
  · rcases List.mem_pair.mp hl with rfl | rfl <;> decide

/-- The text of a statement that adds something is made of its lines. -/
theorem intercalate_lines (indentation : String) (h : s.entries ≠ []) :
    "\n".intercalate (s.lines indentation) = s.render indentation ++ "\n" := by
  have hlines : s.entryLines indentation ≠ [] := by simpa [entryLines] using h
  have hbody : "\n".intercalate (s.entryLines indentation) =
      ",\n".intercalate (s.entries.map (indentation ++ ·)) := intercalate_commas _
  have hend : "\n".intercalate [closing, ""] = ");\n" := rfl
  rw [lines, String.intercalate_cons_of_ne_nil (by simp),
    String.intercalate_append_of_ne_nil hlines (by simp), hbody, hend, render]
  refine String.toList_injective ?_
  simp

/-- The head of a statement tells what the statement does, and to which table. -/
theorem eq_of_head (h : s.head = s'.head) : s.kind = s'.kind ∧ s.table = s'.table := by
  have hfirst := congrArg (fun l => l.toList.head?) h
  cases hk : s.kind <;> cases hk' : s'.kind <;> simp only [head, hk, hk'] at h hfirst
  · simpa using h
  · simp at hfirst
  · simp at hfirst
  · simpa using h

/-- The first statement of a text is read, and the lines behind it are left. -/
theorem Legible.eq_of_lines (h : s.Legible) (h' : s'.Legible) {rest rest' : List String}
    (heq : s.lines indentation ++ rest = s'.lines indentation ++ rest') :
    s = s' ∧ rest = rest' := by
  simp only [lines, List.cons_append, List.append_assoc] at heq
  obtain ⟨hhead, hmore⟩ := List.cons.inj heq
  obtain ⟨hkind, htable⟩ := eq_of_head hhead
  -- on both sides the first closing line is the one that closes the statement
  obtain ⟨hlines, -, hrest⟩ := Text.append_cons_inj_of_first (p := (· == closing))
    (fun l hl => by simpa using ne_closing_of_mem_entryLines hl)
    (fun l hl => by simpa using ne_closing_of_mem_entryLines hl) (by simp) (by simp) hmore
  have hentries : s.entries = s'.entries :=
    List.map_injective_iff.mpr (fun _ _ => (String.append_right_inj _).mp)
      (commas_injective hlines)
  exact ⟨eq_of_entries h.keysLast h'.keysLast hkind htable hentries, (List.cons.inj hrest).2⟩

end Statement

/-! ## Many statements -/

variable {ss ss' : List Statement}

theorem render_eq_intercalate (config : Config) (h : ∀ s ∈ ss, s.entries ≠ []) :
    Schema.render config ss =
      "\n".intercalate (ss.flatMap (Statement.lines (config.indentation 1))) := by
  induction ss with
  | nil => rfl
  | cons s ss ih =>
    obtain ⟨hs, hss⟩ := List.forall_mem_cons.mp h
    have hlines := Statement.intercalate_lines (config.indentation 1) hs
    cases ss with
    | nil => simpa [render] using hlines.symm
    | cons s' ss =>
      have hfirst : s.lines (config.indentation 1) ≠ [] := List.cons_ne_nil _ _
      have hmore : (s' :: ss).flatMap (Statement.lines (config.indentation 1)) ≠ [] := by
        simp [Statement.lines]
      rw [List.flatMap_cons, String.intercalate_append_of_ne_nil hfirst hmore, hlines, ← ih hss]
      simp only [render, List.isEmpty_cons, Bool.false_eq_true, if_false, List.map_cons,
        String.intercalate_cons_cons]
      refine String.toList_injective ?_
      simp

theorem render_eq_empty_iff (config : Config) : Schema.render config ss = "" ↔ ss = [] := by
  cases ss <;> simp [render]

theorem not_mem_indentation (config : Config) (depth : Nat) :
    '\n' ∉ (config.indentation depth).toList := by
  simp [Config.indentation]

/-- The text of legible statements comes apart into their lines. -/
theorem splitOn_render (config : Config) (h : ∀ s ∈ ss, s.Legible) (hne : ss ≠ []) :
    (Schema.render config ss).toList.splitOn '\n' =
      (ss.flatMap (Statement.lines (config.indentation 1))).map String.toList := by
  rw [render_eq_intercalate config fun s hs => (h s hs).adds]
  refine Text.splitOn_intercalate_feed ?_ ?_
  · intro l hl
    obtain ⟨s, hs, hl⟩ := List.mem_flatMap.mp hl
    exact (h s hs).not_mem_line (not_mem_indentation config 1) l hl
  · obtain ⟨s, ss, rfl⟩ := List.exists_cons_of_ne_nil hne
    simp [Statement.lines]

theorem eq_of_flatMap_lines (h : ∀ s ∈ ss, s.Legible) (h' : ∀ s ∈ ss', s.Legible)
    (heq : ss.flatMap (Statement.lines indentation) = ss'.flatMap (Statement.lines indentation)) :
    ss = ss' := by
  induction ss generalizing ss' with
  | nil =>
    cases ss' with
    | nil => rfl
    | cons s' ss' => simp [Statement.lines] at heq
  | cons s ss ih =>
    cases ss' with
    | nil => simp [Statement.lines] at heq
    | cons s' ss' =>
      obtain ⟨hs, hss⟩ := List.forall_mem_cons.mp h
      obtain ⟨hs', hss'⟩ := List.forall_mem_cons.mp h'
      rw [List.flatMap_cons, List.flatMap_cons] at heq
      obtain ⟨rfl, hrest⟩ := hs.eq_of_lines hs' heq
      rw [ih hss hss' hrest]

/-- Legible statements are read back from their text. -/
theorem render_injOn (config : Config) :
    Set.InjOn (Schema.render config) {ss | ∀ s ∈ ss, s.Legible} := by
  intro ss h ss' h' heq
  by_cases hnil : ss = []
  · have hempty : Schema.render config ss' = "" := by
      rw [← heq, hnil]
      rfl
    rw [hnil, (render_eq_empty_iff config).mp hempty]
  · have hnil' : ss' ≠ [] := by rwa [Ne, ← render_eq_empty_iff config, ← heq, render_eq_empty_iff]
    have hlines := congrArg (fun text => text.toList.splitOn '\n') heq
    simp only [splitOn_render config h hnil, splitOn_render config h' hnil'] at hlines
    exact eq_of_flatMap_lines h h'
      (List.map_injective_iff.mpr (fun _ _ => String.toList_injective) hlines)

/-! ## The words of a script -/

/-- What a statement adds, in words: the primary key of a new table, the columns with their types,
and the foreign keys with what they say on deletion. -/
def Statement.words (s : Statement) : List String :=
  (match s.kind with
    | .create => ["ID NUMBER PRIMARY KEY"]
    | .alter => []) ++
    (s.columns.map fun c => c.name ++ " " ++ match c.type with
      | .varchar => "VARCHAR"
      | .number => "NUMBER"
      | .boolean => "BOOLEAN"
      | .float => "FLOAT") ++
    s.keys.map fun k => "FOREIGN KEY (" ++ k.column ++ ") REFERENCES " ++ k.references ++ "(ID)" ++
      match k.onDelete with
      | .unstated => ""
      | .setNull => " ON DELETE SET NULL"
      | .cascade => " ON DELETE CASCADE"

/-- A text holds a statement, with what it adds on lines of their own. -/
def Statement.StandsIn (config : Config) (s : Statement) (text : String) : Prop :=
  ∃ above below, text = above ++ ((match s.kind with
      | .create => "CREATE TABLE " ++ s.table ++ " ("
      | .alter => "ALTER TABLE " ++ s.table ++ " ADD (") ++ "\n" ++
    ",\n".intercalate (s.words.map (config.indentation 1 ++ ·)) ++ "\n);") ++ below

/-- A column is given by its name and the word for its type. -/
theorem Column.text_eq_words (c : Column) : c.text = c.name ++ " " ++
    match c.type with
    | .varchar => "VARCHAR"
    | .number => "NUMBER"
    | .boolean => "BOOLEAN"
    | .float => "FLOAT" := by
  rw [text]
  cases c.type <;> rfl

/-- A foreign key is given by its column, what it refers to, and what it says on deletion. -/
theorem ForeignKey.text_eq_words (k : ForeignKey) : k.text =
    "FOREIGN KEY (" ++ k.column ++ ") REFERENCES " ++ k.references ++ "(ID)" ++
      match k.onDelete with
      | .unstated => ""
      | .setNull => " ON DELETE SET NULL"
      | .cascade => " ON DELETE CASCADE" := by
  have hkey : "(" ++ (primaryKey ++ ")") = "(ID)" := by decide
  have hprimary (front : String) : front ++ "(" ++ primaryKey ++ ")" = front ++ "(ID)" := by
    rw [String.append_assoc, String.append_assoc, hkey]
  refine (congrArg (· ++ k.onDelete.clause) (hprimary _)).trans ?_
  cases k.onDelete <;> rfl

theorem Statement.entries_eq_words (s : Statement) : s.entries = s.words := by
  have hcolumns : s.columns.map Column.text = s.columns.map _ :=
    List.map_congr_left fun c _ => c.text_eq_words
  have hkeys : s.keys.map ForeignKey.text = s.keys.map _ :=
    List.map_congr_left fun k _ => k.text_eq_words
  rw [entries, words, hcolumns, hkeys]
  cases s.kind <;> rfl

/-- What is joined stands in the whole. -/
theorem exists_intercalate_eq (separator : String) {x : String} {xs : List String} (h : x ∈ xs) :
    ∃ above below, separator.intercalate xs = above ++ x ++ below := by
  induction xs with
  | nil => exact absurd h List.not_mem_nil
  | cons y xs ih =>
    cases xs with
    | nil =>
      rw [List.mem_singleton.mp h, String.intercalate_singleton]
      exact ⟨"", "", by simp⟩
    | cons z xs =>
      rw [String.intercalate_cons_cons]
      rcases List.mem_cons.mp h with rfl | h
      · exact ⟨"", separator ++ separator.intercalate (z :: xs), by simp [String.append_assoc]⟩
      · obtain ⟨above, below, hjoin⟩ := ih h
        exact ⟨y ++ separator ++ above, below, by rw [hjoin]; simp only [String.append_assoc]⟩

/-- The text of a script holds all of its statements. -/
theorem standsIn_render (config : Config) (h : s ∈ ss) :
    s.StandsIn config (Schema.render config ss) := by
  obtain ⟨above, below, hjoin⟩ := exists_intercalate_eq "\n\n"
    (List.mem_map_of_mem (f := Statement.render (config.indentation 1)) h)
  have hne : ss.isEmpty = false := by
    rw [List.isEmpty_eq_false_iff]
    exact List.ne_nil_of_mem h
  refine ⟨above, below ++ "\n", ?_⟩
  rw [Schema.render, hne, if_neg (by decide), hjoin, Statement.render, s.entries_eq_words,
    Statement.head]
  cases s.kind <;> simp only [String.append_assoc]

end Blueprint.Schema
