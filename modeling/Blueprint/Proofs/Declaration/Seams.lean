import Blueprint.Proofs.Declaration.Rejections
import Mathlib.Data.List.Count

/-!
# Blocks one under the other

A block is read line by line from the top. So two blocks with a line feed between them are read as
the upper one and then as the lower one, whatever blanks and carriage returns stand at the seam. If
the upper block fails, nothing is heard of the lower one. Otherwise all that is told of a line of
the lower block is told of the line that it has become, behind all lines of the upper one.
-/

namespace Blueprint

/-- A failure at a line that has come to stand under `k` more lines. -/
def Failure.lowered (k : Nat) : Failure → Failure
  | .malformedDeclaration className block line column fault =>
    .malformedDeclaration className block (line + k) column fault
  | f => f

/-- A diagnostic of a line that has come to stand under `k` more lines. -/
def Diagnostic.lowered (k : Nat) (d : Diagnostic) : Diagnostic :=
  { d with location := d.location.map fun l => { l with line := l.line.map (· + k) } }

namespace Declaration

/-- What two blocks are read as, the lower one under the `k` lines of the upper one. -/
def stacked {α : Type} (k : Nat) :
    Except Failure (List α) → Except Failure (List α) → Except Failure (List α)
  | .error f, _ => .error f
  | .ok _, .error f => .error (f.lowered k)
  | .ok as, .ok bs => .ok (as ++ bs)

/-- A line that has come to stand under `k` more lines. -/
def BlockLine.lowered (k : Nat) (l : BlockLine) : BlockLine := { l with number := l.number + k }

variable {className : String} {ls : List BlockLine} {k : Nat}

/-! ## The lines of both blocks -/

/-- A text has one line more than line feeds. -/
theorem length_splitOn {α : Type} [BEq α] [LawfulBEq α] (x : α) (xs : List α) :
    (xs.splitOn x).length = xs.count x + 1 := by
  induction xs with
  | nil => rfl
  | cons a xs ih =>
    rw [List.splitOn_eq_splitOnP] at ih ⊢
    rw [List.splitOnP_cons_eq_if_modifyHead]
    by_cases ha : a == x
    · rw [if_pos ha, List.length_cons, ih, beq_iff_eq.mp ha, List.count_cons_self]
    · rw [if_neg ha, List.length_modifyHead, ih,
        List.count_cons_of_ne fun e => ha (beq_iff_eq.mpr e)]

/-- The lines of the lower block are numbered on behind all lines of the upper one. -/
theorem blockLines_under (upper lower : String) :
    blockLines (upper ++ "\n" ++ lower) = blockLines upper ++
      (blockLines lower).map (BlockLine.lowered (upper.toList.count '\n' + 1)) := by
  set k := upper.toList.count '\n' + 1 with hk
  have hchars : (upper ++ "\n" ++ lower).toList = upper.toList ++ '\n' :: lower.toList := by simp
  have hraws : (upper ++ "\n" ++ lower).toList.splitOn '\n' =
      upper.toList.splitOn '\n' ++ lower.toList.splitOn '\n' := by
    rw [hchars, List.splitOn_eq_splitOnP]
    exact List.splitOnP_append_cons _ _ rfl
  have hnumbers : (lower.toList.splitOn '\n').zipIdx (1 + k) =
      ((lower.toList.splitOn '\n').zipIdx 1).map fun l => (l.1, l.2 + k) := by
    rw [List.zipIdx_eq_map_add, List.zipIdx_eq_map_add (i := 1), List.map_map]
    refine List.map_congr_left fun l _ => Prod.ext rfl ?_
    simp only [Function.comp_apply]
    omega
  rw [blockLines_eq, blockLines_eq, blockLines_eq, numberedLines, hraws, List.zipIdx_append,
    length_splitOn, ← hk, hnumbers, List.filter_append, List.map_append, List.filter_map,
    List.map_map, List.map_map]
  rfl

/-! ## Attributes -/

/-- Reads a line of a block of attributes. -/
def BlockLine.readAttribute (className : String) (l : BlockLine) : Except Failure Attribute :=
  match Declaration.readAttribute l.text with
  | .ok a => .ok a.attribute
  | .error e => .error (l.failure className .attributes e)

theorem readAttributes_eq_mapM (className block : String) :
    readAttributes className block = (blockLines block).mapM (·.readAttribute className) := rfl

/-- A line under more lines is read alike, and fails further down. -/
theorem readAttribute_lowered (className : String) (l : BlockLine) (k : Nat) :
    (l.lowered k).readAttribute className =
      (l.readAttribute className).mapError (Failure.lowered k) := by
  rw [BlockLine.readAttribute, BlockLine.readAttribute, BlockLine.lowered]
  cases Declaration.readAttribute l.text <;> rfl

/-- A traversal that can fail, with other failures. -/
theorem mapM_mapError {α β ε ε' : Type} (f : α → Except ε β) (g : ε → ε') (xs : List α) :
    (xs.mapM fun x => (f x).mapError g) = (xs.mapM f).mapError g := by
  induction xs with
  | nil => rfl
  | cons x xs ih =>
    rw [List.mapM_cons, List.mapM_cons, ih]
    cases f x with
    | error e => rfl
    | ok y => cases xs.mapM f <;> rfl

/-- A block of attributes under another one is read after it. -/
theorem readAttributes_under (className upper lower : String) :
    readAttributes className (upper ++ "\n" ++ lower) =
      stacked (upper.toList.count '\n' + 1) (readAttributes className upper)
        (readAttributes className lower) := by
  set k := upper.toList.count '\n' + 1 with hk
  have hlower : ((blockLines lower).map (BlockLine.lowered k)).mapM (·.readAttribute className) =
      (readAttributes className lower).mapError (Failure.lowered k) := by
    rw [List.mapM_map, readAttributes_eq_mapM, ← mapM_mapError]
    exact congrArg (List.mapM · (blockLines lower))
      (funext fun l => readAttribute_lowered className l k)
  rw [readAttributes_eq_mapM, blockLines_under, ← hk, List.mapM_append, hlower,
    ← readAttributes_eq_mapM]
  cases readAttributes className upper with
  | error f => rfl
  | ok as => cases readAttributes className lower <;> rfl

/-! ## Methods -/

theorem skippedParameters_lowered (className : String) (l : BlockLine) (m : MethodLine) (k : Nat) :
    skippedParameters className (l.lowered k) m =
      (skippedParameters className l m).map (Diagnostic.lowered k) := by
  rw [skippedParameters, skippedParameters, List.map_map]
  rfl

/-- Lines under more lines are read alike, and all that is told of them is told further down. -/
theorem readMethodLines_lowered (className : String) (ls : List BlockLine) (k : Nat) :
    readMethodLines className (ls.map (BlockLine.lowered k)) =
      ((readMethodLines className ls).1.map (Diagnostic.lowered k),
        (readMethodLines className ls).2.mapError (Failure.lowered k)) := by
  induction ls with
  | nil => rfl
  | cons l ls ih =>
    have htext : (l.lowered k).text = l.text := rfl
    rw [List.map_cons, readMethodLines, readMethodLines, htext, ih]
    cases readMethod l.text with
    | error e => rfl
    | ok m =>
      simp only [skippedParameters_lowered, List.map_append]
      cases (readMethodLines className ls).2 <;> rfl

/-- Lines that follow others are read after them, unless one of these fails. -/
theorem readMethodLines_append (className : String) (ls ls' : List BlockLine) :
    readMethodLines className (ls ++ ls') =
      match (readMethodLines className ls).2 with
      | .error f => ((readMethodLines className ls).1, .error f)
      | .ok ms => ((readMethodLines className ls).1 ++ (readMethodLines className ls').1,
          (readMethodLines className ls').2.map (ms ++ ·)) := by
  induction ls with
  | nil =>
    rw [List.nil_append]
    generalize readMethodLines className ls' = result
    obtain ⟨ds, _ | ms⟩ := result <;> rfl
  | cons l ls ih =>
    rw [List.cons_append, readMethodLines, readMethodLines]
    cases readMethod l.text with
    | error e => rfl
    | ok m =>
      simp only [ih]
      cases (readMethodLines className ls).2 with
      | error f => rfl
      | ok ms =>
        simp only [Except.map, List.append_assoc]
        cases (readMethodLines className ls').2 <;> rfl

/-- A block of methods under another one is read after it, unless the upper one fails. -/
theorem readMethods_under (className upper lower : String) :
    let k := upper.toList.count '\n' + 1
    let joined := readMethods className (upper ++ "\n" ++ lower)
    joined.2 = stacked k (readMethods className upper).2 (readMethods className lower).2 ∧
      joined.1 = (readMethods className upper).1 ++
        if (readMethods className upper).2.isOk then
          (readMethods className lower).1.map (Diagnostic.lowered k)
        else [] := by
  intro k joined
  have hjoined : joined = readMethodLines className
      (blockLines upper ++ (blockLines lower).map (BlockLine.lowered k)) := by
    rw [← blockLines_under]
    rfl
  rw [hjoined, readMethodLines_append, readMethodLines_lowered, readMethods, readMethods]
  cases (readMethodLines className (blockLines upper)).2 with
  | error f => exact ⟨rfl, (List.append_nil _).symm⟩
  | ok ms =>
    refine ⟨?_, rfl⟩
    cases (readMethodLines className (blockLines lower)).2 <;> rfl

/-! ## What is told of lines -/

/-- A failure at a line of a block of a class. -/
def FailsAtLine (className : String) (block : Block) (f : Failure) : Prop :=
  ∃ line column fault, f = .malformedDeclaration className block line column fault

theorem FailsAt.failsAtLine {α : Type} {read : List Char → Except LineError α} {block : Block}
    {text : String} {f : Failure} (h : FailsAt read block className text f) :
    FailsAtLine className block f := by
  obtain ⟨number, raw, e, -, -, rfl⟩ := h
  exact ⟨number, _, _, rfl⟩

/-- What is noted of a block of methods is noted of a line of it. -/
theorem location_of_mem_readMethodLines {d : Diagnostic}
    (h : d ∈ (readMethodLines className ls).1) :
    ∃ line column, d.location = some (.declaration className .methods line column) := by
  induction ls with
  | nil => exact absurd h List.not_mem_nil
  | cons l ls ih =>
    rw [readMethodLines] at h
    cases hread : readMethod l.text with
    | error e => simp [hread] at h
    | ok m =>
      rw [hread] at h
      rcases List.mem_append.mp h with h | h
      · obtain ⟨s, -, rfl⟩ := List.mem_map.mp h
        exact ⟨_, _, rfl⟩
      · exact ih h

/-! ## Both blocks -/

/-- Blocks one under the other are read one after the other. The upper block is read as it is on its
own. If it fails, so do both, and nothing else is told. Otherwise what is read of the lower block
comes behind, and its failure or its diagnostics, all of which tell of a line, tell of the line that
is as much further down as the upper block has lines. -/
theorem read_under (className upper lower : String) :
    let k := upper.toList.count '\n' + 1
    let joined := upper ++ "\n" ++ lower
    readAttributes className joined =
        stacked k (readAttributes className upper) (readAttributes className lower) ∧
      (readMethods className joined).2 =
        stacked k (readMethods className upper).2 (readMethods className lower).2 ∧
      (readMethods className joined).1 = (readMethods className upper).1 ++
        (if (readMethods className upper).2.isOk then
          (readMethods className lower).1.map (Diagnostic.lowered k)
        else []) ∧
      (∀ f, readAttributes className lower = .error f → FailsAtLine className .attributes f) ∧
      (∀ f, (readMethods className lower).2 = .error f → FailsAtLine className .methods f) ∧
      ∀ d ∈ (readMethods className lower).1, ∃ line column,
        d.location = some (.declaration className .methods line column) :=
  ⟨readAttributes_under className upper lower, (readMethods_under className upper lower).1,
    (readMethods_under className upper lower).2,
    fun _ h => (readAttributes_eq_error_iff.mp h).failsAtLine,
    fun _ h => (readMethods_eq_error_iff.mp h).failsAtLine,
    fun _ => location_of_mem_readMethodLines⟩

/-- A carriage return at the seam is blank, and so is the line behind it. Both count as one line. -/
theorem read_under_seam :
    readAttributes "Cat" ("\n+a: int\r" ++ "\n" ++ "\r\n b int\n") =
        .error (.malformedDeclaration "Cat" .attributes 4 7 (Fault.noTypeColon none).message) ∧
      (readMethods "Cat" ("run(x): t\r\n" ++ "\n" ++ "\t go(int y, z): u")).1 =
        [.warning "skipped parameter 'x' of run: expected `type name`"
            (some (.declaration "Cat" .methods 1 5)),
          .warning "skipped parameter 'z' of go: expected `type name`"
            (some (.declaration "Cat" .methods 3 12))] ∧
      FailsAtLine "Cat" .methods
        (.malformedDeclaration "Cat" .methods 1 2 (Fault.noOpening none).message) := by
  refine ⟨?_, ?_, (read_under "Cat" "" "b").2.2.2.2.1 _ rfl⟩
  · rw [(read_under "Cat" "\n+a: int\r" "\r\n b int\n").1]
    rfl
  · rw [(read_under "Cat" "run(x): t\r\n" "\t go(int y, z): u").2.2.1]
    rfl

end Declaration

end Blueprint
