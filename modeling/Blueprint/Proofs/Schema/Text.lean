import Blueprint.Proofs.Schema.Execution
import Blueprint.Proofs.Schema.Rendering

/-!
# The text of a script

The statements of a script are legible if no name of a class, an attribute or an arrival breaks a
line. A column has the name of an attribute, or that of an arrival behind `id_`, and at most a number
behind it; a new table has its primary key, and nothing is added to a table without a column. So the
text of a script is all there is to know about its statements.
-/

namespace Blueprint

/-- No name that a script takes from a model breaks a line. Departures are not asked about: a script
has an association only with the class that it leaves. -/
structure Model.OneLine (m : Model) : Prop where
  className : ∀ c ∈ m.classes, '\n' ∉ c.name.toList
  attributeName : ∀ c ∈ m.classes, ∀ a ∈ c.attributes, '\n' ∉ a.name.toList
  arrivalName : ∀ a ∈ m.associations, '\n' ∉ a.arrival.toList

namespace Schema

variable {m m' : Model} {c : ClassDecl} {references : List Reference}

/-! ## The statements of a class -/

theorem Statement.Legible.bare {name : String} (h : '\n' ∉ name.toList) :
    Statement.Legible { kind := .create, table := name } :=
  ⟨h, fun _ hc => absurd hc List.not_mem_nil, fun _ hk => absurd hk List.not_mem_nil,
    List.cons_ne_nil _ _, List.nil_suffix⟩

theorem legible_createArrivals {as : List Association} (h : ∀ a ∈ as, '\n' ∉ a.arrival.toList)
    (table : String) (ts : Tables) :
    ∀ s ∈ (createArrivals table ts as).statements, s.Legible := by
  induction as generalizing ts with
  | nil => exact fun s hs => absurd hs List.not_mem_nil
  | cons a as ih =>
    obtain ⟨ha, has⟩ := List.forall_mem_cons.mp h
    rw [createArrivals]
    cases reference? a with
    | none => exact ih has ts
    | some r =>
      by_cases hnew : a.arrival ≠ table ∧ !ts.isCreated a.arrival
      · simp only [if_pos hnew, Script.statements_after, List.singleton_append]
        exact List.forall_mem_cons.mpr ⟨.bare ha, ih has _⟩
      · simp only [if_neg hnew]
        exact ih has ts

theorem not_mem_columnNames (hattributes : ∀ a ∈ c.attributes, '\n' ∉ a.name.toList)
    (hreferences : ∀ r ∈ references, '\n' ∉ r.table.toList) (taken : List String) :
    ∀ name ∈ columnNames taken c references, '\n' ∉ name.toList := by
  refine char_not_mem_freshNames (by decide) (by decide) ?_
  intro w hw
  obtain ⟨column, hcolumn, rfl⟩ := List.mem_map.mp hw
  rcases List.mem_append.mp hcolumn with hcolumn | hcolumn
  · obtain ⟨a, ha, hwanted⟩ := List.mem_filterMap.mp hcolumn
    obtain ⟨type, -, rfl⟩ := Option.map_eq_some_iff.mp hwanted
    exact hattributes a ha
  · obtain ⟨r, hr, rfl⟩ := List.mem_map.mp hcolumn
    simpa using hreferences r hr

section Own

variable (hname : '\n' ∉ c.name.toList) (hattributes : ∀ a ∈ c.attributes, '\n' ∉ a.name.toList)
  (hreferences : ∀ r ∈ references, '\n' ∉ r.table.toList)

include hname hattributes hreferences

theorem legible_ownStatement {isThere : Bool} {taken : List String}
    (hadds : ¬(isThere ∧ ownColumns taken c references = [])) :
    (ownStatement isThere taken c references).Legible where
  table := hname
  column := by
    intro column hcolumn
    have hmem : column.name ∈ (ownColumns taken c references).map Column.name :=
      List.mem_map_of_mem hcolumn
    rw [map_name_ownColumns] at hmem
    exact not_mem_columnNames hattributes hreferences taken _ hmem
  target := by
    intro k hk
    obtain ⟨r, hr, htable⟩ := exists_reference_of_mem_ownKeys hk
    exact htable ▸ hreferences r hr
  adds := by
    cases isThere with
    | false => exact List.cons_ne_nil _ _
    | true => simpa [Statement.entries, ownStatement] using fun h => absurd ⟨rfl, h⟩ hadds
  keysLast := by
    rw [Statement.KeysLast, ownStatement, map_column_ownKeys, map_name_ownColumns]
    exact List.drop_suffix _ _

theorem legible_ownTable (ts : Tables) :
    ∀ s ∈ (ownTable c references ts).statements, s.Legible := by
  rcases ownTable_cases c references ts with ⟨-, -, -, hnone⟩ | ⟨hadds, -, hone⟩
  · rw [hnone]
    exact fun s hs => absurd hs List.not_mem_nil
  · rw [hone]
    intro s hs
    rw [List.mem_singleton.mp hs]
    exact legible_ownStatement hname hattributes hreferences hadds

end Own

theorem legible_scriptOfClass (h : m.OneLine) (hc : c ∈ m.classes) (ts : Tables) :
    ∀ s ∈ (scriptOfClass m ts c).statements, s.Legible := by
  have hleaving : ∀ a ∈ m.departing c.name, '\n' ∉ a.arrival.toList := fun a ha =>
    h.arrivalName a (List.mem_of_mem_filter ha)
  have hreferences : ∀ r ∈ (m.departing c.name).filterMap reference?, '\n' ∉ r.table.toList := by
    intro r hr
    obtain ⟨a, ha, -, harrival⟩ := exists_association_of_mem_filterMap hr
    exact harrival ▸ hleaving a ha
  have harrivals := legible_createArrivals hleaving c.name ts
  have hown := legible_ownTable (h.className c hc) (h.attributeName c hc) hreferences
    (createArrivals c.name ts (m.departing c.name)).tables
  exact List.forall_mem_append.mpr ⟨harrivals, hown⟩

/-! ## The statements of a script -/

theorem legible_scriptOfClasses (h : m.OneLine) {cs : List ClassDecl} (hcs : cs ⊆ m.classes)
    (ts : Tables) : ∀ s ∈ (scriptOfClasses m ts cs).statements, s.Legible := by
  induction cs generalizing ts with
  | nil => exact fun s hs => absurd hs List.not_mem_nil
  | cons c cs ih =>
    rw [statements_scriptOfClasses_cons]
    exact List.forall_mem_append.mpr ⟨legible_scriptOfClass h (hcs List.mem_cons_self) ts,
      ih (fun d hd => hcs (List.mem_cons_of_mem _ hd)) _⟩

/-- The statements of a script can be read off its text. -/
theorem legible_script (h : m.OneLine) (ts : Tables) : ∀ s ∈ (script m ts).statements, s.Legible :=
  legible_scriptOfClasses h (List.Subset.refl _) ts

/-- The text of a script determines its statements, under any settings and whatever tables are
there. No other character in a name matters: a name may be the closing line of a statement. There is
no text if and only if there is no statement. -/
theorem statements_eq_of_render (h : m.OneLine) (h' : m'.OneLine) (config : Config)
    (ts ts' : Tables) :
    let statements := (script m ts).statements
    let statements' := (script m' ts').statements
    (Schema.render config statements = Schema.render config statements' → statements = statements') ∧
      (Schema.render config statements = "" ↔ statements = []) := by
  intro statements statements'
  have hread := render_injOn config (legible_script h ts) (legible_script h' ts')
  exact ⟨hread, render_eq_empty_iff config⟩

/-- Classes with names like the lines of a statement. Of the types of numbers one is taken. -/
def ledger (number : String) : Model where
  classes := [
    { name := ");", attributes := [⟨"CREATE TABLE x (", number, .priv⟩, ⟨"a,", "String", .priv⟩] },
    { name := "x ADD (", attributes := [⟨"ID", "float", .priv⟩] }]
  associations := [
    { kind := .composition, departure := ");", arrival := "x ADD (" },
    { kind := .aggregation, departure := "x ADD (", arrival := ");" }]

theorem oneLine_ledger (number : String) : (ledger number).OneLine := by
  refine ⟨?_, ?_, ?_⟩ <;> simp [ledger]

theorem statements_eq_of_render_ledger :
    let text (m : Model) := Schema.render { indent := 0 } (script m []).statements
    ledger "int" ≠ ledger "long" ∧ text (ledger "int") = text (ledger "long") ∧
      (script (ledger "int") []).statements = (script (ledger "long") []).statements ∧
      (script (ledger "int") []).statements ≠ [] := by
  intro text
  have htext : text (ledger "int") = text (ledger "long") := by decide +kernel
  have hsome : text (ledger "int") ≠ "" := by decide +kernel
  obtain ⟨hsame, hempty⟩ := statements_eq_of_render (oneLine_ledger "int") (oneLine_ledger "long")
    { indent := 0 } [] []
  exact ⟨by decide, htext, hsame htext, mt hempty.mpr hsome⟩

end Schema

end Blueprint
