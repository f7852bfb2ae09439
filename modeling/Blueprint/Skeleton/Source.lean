import Blueprint.Config
import Blueprint.Journal
import Blueprint.Outline
import Blueprint.Skeleton.Constructor

/-!
# Class sources

The Java source of a class: its fields, its constructor and a stub for every method. It is built as
a value first and then written out line by line.
-/

namespace Blueprint.Skeleton

/-- A declared field. -/
structure FieldDecl where
  /-- Who may see it. -/
  visibility : Visibility
  /-- The type. -/
  type : String
  /-- The name. -/
  name : String
  deriving DecidableEq, Repr

/-- The parts of a class source. -/
structure Source where
  /-- Who may see the class. -/
  visibility : Visibility
  /-- The name of the class. -/
  className : String
  /-- The class that it extends. -/
  superclass : Option String
  /-- The fields. -/
  fields : List FieldDecl
  /-- The constructor. -/
  creation : Constructor
  /-- The methods. -/
  methods : List Method
  deriving DecidableEq, Repr

/-- A class source, ready to be written to a file. -/
structure SourceFile where
  /-- The name of the class. -/
  className : String
  /-- The name of the file. -/
  fileName : String
  /-- The content of the file. -/
  text : String
  deriving DecidableEq, Repr

/-- The body of a method stub. -/
def methodBody : String := "// function body"

/-! ## Layout -/

/-- The lines that make a composition. -/
def Field.creationLines (f : Field) : List String :=
  if f.isMany then
    ["this." ++ f.name ++ " = new ArrayList<" ++ f.elementType ++ ">();",
      "this." ++ f.name ++ ".add(new " ++ f.elementType ++ "());"]
  else ["this." ++ f.name ++ " = new " ++ f.elementType ++ "();"]

/-- The lines of a constructor's body. -/
def Constructor.body (k : Constructor) : List String :=
  let forwarding := match k.superArguments with
    | some arguments => ["super(" ++ ", ".intercalate arguments ++ ");"]
    | none => []
  forwarding ++ k.assignments.map (fun a => "this." ++ a.1 ++ " = " ++ a.2 ++ ";") ++
    k.compositions.flatMap Field.creationLines

/-- The line of a field. -/
def FieldDecl.line (f : FieldDecl) : String :=
  f.visibility.keyword ++ " " ++ f.type ++ " " ++ f.name ++ ";"

/-- The line that opens a method. A method without a result says so. -/
def openingOf (m : Method) : String :=
  let result := if m.returnType = "" then "void" else m.returnType
  m.visibility.keyword ++ " " ++ result ++ " " ++ m.name ++ "(" ++ parameterList m.parameters ++
    ") \x7b"

namespace Source

/-- The line that opens a class. -/
def opening (s : Source) : String :=
  let extension := match s.superclass with
    | some name => " extends " ++ name
    | none => ""
  s.visibility.keyword ++ " class " ++ s.className ++ extension ++ " \x7b"

/-- The lines of a class source. -/
def lines (config : Config) (s : Source) : List String :=
  let once (line : String) := config.indentation 1 ++ line
  let twice (line : String) := config.indentation 2 ++ line
  let package := match config.package with
    | some name => ["package " ++ name ++ ";", ""]
    | none => []
  let parameters := parameterList s.creation.parameters
  package ++ ["import java.util.*;", "", s.opening, "", once "// Attributes"] ++
    s.fields.map (fun f => once f.line) ++
    ["", once "// Constructor", once ("public " ++ s.className ++ "(" ++ parameters ++ ") \x7b")] ++
    s.creation.body.map twice ++
    [once "\x7d", "", once "// Methods"] ++
    s.methods.flatMap (fun m => [once (openingOf m), twice methodBody, once "\x7d"]) ++ ["\x7d"]

/-- A class source as a file. -/
def file (config : Config) (s : Source) : SourceFile :=
  { className := s.className
    fileName := s.className ++ ".java"
    text := String.join ((s.lines config).map (· ++ "\n")) }

/-- The parts of the source of a class with its fields and constructor. -/
def build (c : ClassDecl) (fs : List Field) (creation : Constructor) : Source :=
  { visibility := c.visibility
    className := c.name
    superclass := c.superclass
    fields := c.attributes.map (fun a => ⟨a.visibility, a.type, a.name⟩) ++
      fs.map (fun f => ⟨.priv, f.type, f.name⟩)
    creation
    methods := c.methods }

/-- The parts of the source of a class, and the notes on its fields. -/
def ofClass (m : Model) (c : ClassDecl) : List Diagnostic × Except Failure Source :=
  let fs := Skeleton.fields m c
  (fieldsRenamed c.name fs, (Constructor.ofClass m c fs).map (build c fs))

end Source

/-- The source of a class, and what was noted. -/
def fileOfClass (config : Config) (m : Model) (c : ClassDecl) :
    Journal × Except Failure SourceFile :=
  match Source.ofClass m c with
  | (ds, .error f) => (.ofDiagnostics ds, .error f)
  | (ds, .ok s) =>
    let made : Entry :=
      .event (.sourceMade s.className s.fields.length s.creation.parameters.length)
    (.ofDiagnostics ds ++ [made], .ok (s.file config))

/-- The sources of classes, up to a class that has none. -/
def filesOfClasses (config : Config) (m : Model) :
    List ClassDecl → Journal × Except Failure (List SourceFile)
  | [] => ([], .ok [])
  | c :: cs =>
    match fileOfClass config m c with
    | (j, .error f) => (j, .error f)
    | (j, .ok file) =>
      let rest := filesOfClasses config m cs
      (j ++ rest.1, rest.2.map (file :: ·))

/-- The sources of a model, and what was noted. -/
def files (config : Config) (m : Model) : Journal × Except Failure (List SourceFile) :=
  let made := filesOfClasses config m m.classes
  let done : Journal := match made.2 with
    | .ok files => [.event (.sourcesMade files.length)]
    | .error _ => []
  (.within (.sources m.classes.length) (made.1 ++ done), made.2)

end Blueprint.Skeleton
