import Blueprint.Host
import Blueprint.Json.Printer
import Blueprint.Log.Filter
import Blueprint.Text.LowerCase
import Blueprint.Text.Quoted

/-!
# Logs

The lines that a log shows of a journal. In the compact format a record is a line of text, in which
the scopes around it stand before its message. In the JSON format it is an object, and entering and
leaving a scope are records too.
-/

namespace Blueprint.Log

/-- The format of a log. -/
inductive Format where
  /-- A line for every record. -/
  | compact
  /-- A layout for reading. It differs from the compact one in nothing that is told here. -/
  | pretty
  /-- A JSON object for every record. -/
  | json
  deriving DecidableEq, Repr

namespace Format

/-- The name of a format. -/
def name : Format → String
  | compact => "compact"
  | pretty => "pretty"
  | json => "json"

/-- All formats. -/
def all : List Format := [compact, pretty, json]

/-- The format with a name. -/
def ofName? (s : String) : Option Format := all.find? (·.name == s)

/-- The format that a text names, in any case, or the complaint that there is none. -/
def ofText (s : String) : Except String Format :=
  match ofName? (Text.lower s) with
  | some f => .ok f
  | none => .error ("Unknown log format: " ++ s)

end Format

/-- A scope that is open, with the detail shown within it. -/
structure OpenSpan where
  /-- The scope. -/
  scope : Scope
  /-- The detail. -/
  detail : Nat
  deriving DecidableEq, Repr

/-- The scopes that are open, innermost first. -/
abbrev Context := List OpenSpan

/-- Whether one of the scopes that are open shows a level. -/
def Context.shows (context : Context) (l : Level) : Bool := context.any fun s => l.detail ≤ s.detail

/-- The detail within a scope, if it is opened. -/
def opened? (f : Filter) (context : Context) (s : Span) : Option Nat :=
  match f.detailIn? s with
  | some detail => if spanLevel.detail ≤ f.greatestDetail then some detail else none
  | none => if context.shows spanLevel || f.showsSpan s then some 0 else none

/-! ## Text -/

/-- A value in words. -/
def Datum.text : Datum → String
  | nat n => toString n
  | plain s => s
  | quoted s => Text.quoted s

/-- Values in words. -/
def dataText (data : List (String × Datum)) : String :=
  " ".intercalate (data.map fun d => d.1 ++ "=" ++ d.2.text)

/-- A scope in words. -/
def Span.text (s : Span) : String := s.name ++ "\x7b" ++ dataText s.data ++ "\x7d:"

/-- A record in words. -/
def Record.text (context : Context) (r : Record) : String :=
  let scopes := String.join (context.reverse.map fun s => (span s.scope).text)
  let around := if context.isEmpty then "" else scopes ++ " "
  let values := if r.data.isEmpty then "" else " " ++ dataText r.data
  r.level.name ++ " " ++ around ++ r.message ++ values

/-! ## JSON -/

/-- The JSON form of a value. -/
def Datum.json : Datum → Json.Value
  | nat n => .nat n
  | plain s | quoted s => .text s

/-- The JSON form of values. -/
def dataJson (data : List (String × Datum)) : List (String × Json.Value) :=
  data.map fun d => (d.1, d.2.json)

/-- The JSON form of a scope. -/
def Span.json (s : Span) : Json.Value := .object (dataJson s.data ++ [("name", .text s.name)])

/-- The JSON form of a record within some scopes, the innermost of which is `current`. -/
def Record.json (context : Context) (current : Option Scope) (r : Record) : Json.Value :=
  let scopes := match current with
    | none => []
    | some s =>
      [("span", (span s).json),
        ("spans", Json.Value.list (context.reverse.map fun s => (span s.scope).json))]
  .object ([("level", .text r.level.name),
    ("fields", .object ((messageName, .text r.message) :: dataJson r.data)),
    ("target", .text r.origin.name)] ++ scopes)

/-! ## Lines -/

/-- What a log shows, and how. -/
structure Settings where
  /-- The format. -/
  format : Format := .compact
  /-- The filter. -/
  filter : Filter := []
  deriving DecidableEq, Repr

namespace Settings

/-- The line of a record. -/
def line (settings : Settings) (context : Context) (r : Record) : List Output :=
  if context.shows r.level || settings.filter.showsRecord r then
    match settings.format with
    | .json => [.record (r.json context ((context.head?).map OpenSpan.scope))]
    | _ => [.message (r.text context)]
  else []

/-- The record that a scope is entered or left, in the JSON format. -/
def turn (settings : Settings) (context : Context) (message : String) (s : Scope) :
    List Output :=
  match settings.format with
  | .json => [.record (Record.json context (some s) ⟨spanLevel, (span s).origin, message, []⟩)]
  | _ => []

/-- The lines of a journal within some scopes. -/
def linesIn (settings : Settings) (context : Context) : Journal → List Output
  | [] => []
  | .diagnostic d :: j => settings.line context (diagnosticRecord d) ++ settings.linesIn context j
  | .event e :: j => settings.line context (record e) ++ settings.linesIn context j
  | .enter s :: j =>
    match opened? settings.filter context (span s) with
    | some detail =>
      let context := ⟨s, detail⟩ :: context
      settings.turn context "enter" s ++ settings.linesIn context j
    | none => settings.linesIn context j
  | .leave s :: j =>
    match context with
    | innermost :: outer =>
      if innermost.scope = s then settings.turn outer "exit" s ++ settings.linesIn outer j
      else settings.linesIn context j
    | [] => settings.linesIn context j

/-- The lines of a journal. -/
def lines (settings : Settings) (j : Journal) : List Output := settings.linesIn [] j

end Settings

end Blueprint.Log
