import Blueprint.Proofs.Skeleton.Source

/-!
# The lines of class sources

The text of a class source is made of lines. A layout names those that tell one source from another:
the line that opens the class, one line for each field, the line that opens the constructor, the lines
in its body, and the lines that open the methods. What stands around them is the same everywhere.

A page is a file with the layout of its text. The pages of a model show its classes, one each, and
what a page shows of a class is said in the words that stand in its text.
-/

namespace Blueprint

/-- What stands behind the keyword of a visibility does not depend on it. -/
theorem Visibility.keyword_append_inj {v w : Visibility} {t u : String}
    (h : v.keyword ++ t = w.keyword ++ u) : t = u := by
  refine String.toList_injective ?_
  have hchars := congrArg String.toList h
  cases v <;> cases w <;> simp [keyword] at hchars <;> exact hchars

namespace Skeleton

/-- The lines that tell a class source from others. -/
structure Layout where
  /-- The line that opens the class. -/
  opening : String
  /-- The lines of the fields. -/
  fields : List String
  /-- The line that opens the constructor. -/
  signature : String
  /-- The lines in the body of the constructor. -/
  body : List String
  /-- The lines that open the methods. -/
  stubs : List String
  deriving DecidableEq, Repr

namespace Layout

/-- The lines before a class. -/
def preamble (config : Config) : List String :=
  (config.package.elim [] fun name => ["package " ++ name ++ ";", ""]) ++ ["import java.util.*;", ""]

/-- All lines of a class source. -/
def lines (config : Config) (l : Layout) : List String :=
  let once (line : String) := config.indentation 1 ++ line
  let twice (line : String) := config.indentation 2 ++ line
  preamble config ++ [l.opening, "", once "// Attributes"] ++ l.fields.map once ++
    ["", once "// Constructor", once l.signature] ++ l.body.map twice ++
    [once "\x7d", "", once "// Methods"] ++
    l.stubs.flatMap (fun stub => [once stub, twice "// function body", once "\x7d"]) ++ ["\x7d"]

/-- The text that is made of the lines of a class source. -/
def text (config : Config) (l : Layout) : String := String.join ((l.lines config).map (· ++ "\n"))

end Layout

/-- A file whose text is laid out as a class source. -/
structure Page (config : Config) extends Layout where
  /-- The file. -/
  file : SourceFile
  /-- Its text is made of these lines. -/
  text_eq : file.text = toLayout.text config

variable {config : Config} {m : Model} {c : ClassDecl} {s : Source}

namespace Page

/-- A page says that its class extends another one. -/
def Extends (p : Page config) (other : String) : Prop :=
  ∃ v : Visibility,
    p.opening = v.keyword ++ " class " ++ p.file.className ++ " extends " ++ other ++ " \x7b"

/-- A page has the lines of a constructor: the parameters stand in its signature. The body calls the
constructor of the superclass, sets fields, and makes others. -/
structure Constructs (p : Page config) (k : Constructor) : Prop where
  signature_eq : p.signature = "public " ++ p.file.className ++ "(" ++
    ", ".intercalate (k.parameters.map fun q => q.type ++ " " ++ q.name) ++ ") \x7b"
  body_eq : p.body =
    (k.superArguments.map fun as => "super(" ++ ", ".intercalate as ++ ");").toList ++
      (k.assignments.map fun x => "this." ++ x.1 ++ " = " ++ x.2 ++ ";") ++
      k.compositions.flatMap fun f =>
        if f.isMany then
          ["this." ++ f.name ++ " = new ArrayList<" ++ f.elementType ++ ">();",
            "this." ++ f.name ++ ".add(new " ++ f.elementType ++ "());"]
        else ["this." ++ f.name ++ " = new " ++ f.elementType ++ "();"]

/-- A page shows a class of a model: what the class extends, its attributes and a private field for
each association, its constructor, and its methods, of which one without a type has no result. -/
structure Shows (p : Page config) (m : Model) (c : ClassDecl) : Prop where
  className_eq : p.file.className = c.name
  opening_eq : p.opening = c.visibility.keyword ++ " class " ++ c.name ++
    (c.superclass.elim "" fun name => " extends " ++ name) ++ " \x7b"
  fields_eq : p.fields =
    (c.attributes.map fun a => a.visibility.keyword ++ " " ++ a.type ++ " " ++ a.name ++ ";") ++
      (fields m c).map fun f => "private " ++ f.type ++ " " ++ f.name ++ ";"
  constructs : ∃ k, Constructor.ofClass m c (fields m c) = .ok k ∧ p.Constructs k
  stubs_eq : p.stubs = c.methods.map fun w =>
    w.visibility.keyword ++ " " ++ (if w.returnType = "" then "void" else w.returnType) ++ " " ++
      w.name ++ "(" ++ ", ".intercalate (w.parameters.map fun q => q.type ++ " " ++ q.name) ++ ") \x7b"

/-- The page of a class says what the class extends, and nothing else. -/
theorem Shows.extends_iff {p : Page config} (h : p.Shows m c) (other : String) :
    p.Extends other ↔ c.superclass = some other := by
  rw [Extends, h.opening_eq, h.className_eq]
  simp only [String.append_assoc]
  constructor
  · rintro ⟨v, hv⟩
    have hrest := Visibility.keyword_append_inj hv
    cases hs : c.superclass with
    | none =>
      rw [hs] at hrest
      have hchars := congrArg String.toList hrest
      simp at hchars
    | some found => simpa [hs, String.append_assoc] using hrest
  · intro hs
    exact ⟨c.visibility, by rw [hs]; simp [String.append_assoc]⟩

end Page

/-! ## Pages of sources -/

theorem Constructor.body_eq (k : Constructor) : k.body =
    (k.superArguments.map fun as => "super(" ++ ", ".intercalate as ++ ");").toList ++
      (k.assignments.map fun x => "this." ++ x.1 ++ " = " ++ x.2 ++ ";") ++
      k.compositions.flatMap fun f =>
        if f.isMany then
          ["this." ++ f.name ++ " = new ArrayList<" ++ f.elementType ++ ">();",
            "this." ++ f.name ++ ".add(new " ++ f.elementType ++ "());"]
        else ["this." ++ f.name ++ " = new " ++ f.elementType ++ "();"] := by
  rw [body]
  cases k.superArguments <;> rfl

/-- The lines of a source. -/
def Source.layout (s : Source) : Layout where
  opening := s.opening
  fields := s.fields.map FieldDecl.line
  signature := "public " ++ s.className ++ "(" ++ parameterList s.creation.parameters ++ ") \x7b"
  body := s.creation.body
  stubs := s.methods.map openingOf

theorem Source.lines_layout (config : Config) (s : Source) :
    s.layout.lines config = s.lines config := by
  have hfields : s.layout.fields.map (config.indentation 1 ++ ·) =
      s.fields.map fun f => config.indentation 1 ++ f.line := List.map_map
  rw [Layout.lines, lines, hfields]
  cases hpackage : config.package <;>
    simp [Layout.preamble, hpackage, layout, methodBody, List.flatMap_map]

/-- The page of a source. -/
def Source.page (config : Config) (s : Source) : Page config where
  toLayout := s.layout
  file := s.file config
  text_eq := by rw [Source.file, Layout.text, s.lines_layout]

theorem Source.constructs_page (config : Config) (s : Source) :
    (s.page config).Constructs s.creation := ⟨rfl, s.creation.body_eq⟩

/-- The page of a class shows it. -/
theorem Source.shows_page (config : Config) (h : (Source.ofClass m c).2 = .ok s) :
    (s.page config).Shows m c := by
  obtain ⟨creation, hcreation, rfl⟩ := Source.exists_constructor_of_ofClass h
  refine ⟨rfl, ?_, ?_, ⟨creation, hcreation, Source.constructs_page config _⟩, rfl⟩
  · change Source.opening _ = _
    rw [Source.opening, Source.build]
    cases c.superclass <;> rfl
  · change List.map FieldDecl.line (_ ++ _) = _
    rw [List.map_append, List.map_map, List.map_map]
    rfl

/-- The files of a model have pages, which show its classes one by one. -/
theorem exists_pages_of_files {fs : List SourceFile} (h : (files config m).2 = .ok fs) :
    ∃ pages : List (Page config), pages.map Page.file = fs ∧
      List.Forall₂ (fun c p => p.Shows m c) m.classes pages := by
  obtain ⟨ss, hss, rfl⟩ := exists_sources_of_files h
  refine ⟨ss.map (Source.page config), List.map_map, ?_⟩
  exact List.forall₂_map_right_iff.mpr (hss.imp fun _ _ => Source.shows_page config)

end Skeleton

end Blueprint
