import Blueprint.Declaration.Line
import Mathlib.Data.List.Basic

/-!
# Segments and their bytes

A parameter list is cut at its commas. Its segments stand side by side: the bytes that each of them
claims to take up are those of its text, and there is a comma and nothing else between one and the
next. No other segments with the same texts start where these do.
-/

namespace Blueprint.Declaration

open Text (byteLength)

variable {line before text after : List Char} {texts : List (List Char)} {start stop : Nat}
  {ss : List Segment}

/-! ## Bytes -/

/-- The bytes of a line from one to another. -/
def bytesBetween (line : List Char) (start stop : Nat) : ByteArray :=
  (String.ofList line).toByteArray.extract start stop

/-- The bytes of a text. -/
def bytesOf (text : List Char) : ByteArray := (String.ofList text).toByteArray

@[simp]
theorem byteLength_append (s t : List Char) :
    byteLength (s ++ t) = byteLength s + byteLength t := by
  induction s with
  | nil => simp [byteLength]
  | cons c s ih => rw [List.cons_append, byteLength, byteLength, ih, Nat.add_assoc]

/-- A part of a line starts at the byte behind what stands before it. -/
theorem offsetOf_append (before rest : List Char) :
    offsetOf (before ++ rest) rest = byteLength before := by
  rw [offsetOf, byteLength_append, Nat.add_sub_cancel]

theorem size_bytesOf (s : List Char) : (bytesOf s).size = byteLength s := by
  induction s with
  | nil => rfl
  | cons c s ih =>
    rw [bytesOf, String.toByteArray_ofList] at ih ⊢
    rw [List.utf8Encode_cons, ByteArray.size_append, ih, List.utf8Encode_singleton,
      List.size_toByteArray, String.length_utf8EncodeChar, byteLength]

theorem bytesOf_append (s t : List Char) : bytesOf (s ++ t) = bytesOf s ++ bytesOf t := by
  rw [bytesOf, String.ofList_append, String.toByteArray_append, bytesOf, bytesOf]

/-- The bytes of a part of a line are those of its text. -/
theorem bytesBetween_middle (before text after : List Char) :
    bytesBetween (before ++ (text ++ after)) (byteLength before)
      (byteLength before + byteLength text) = bytesOf text := by
  change (bytesOf (before ++ (text ++ after))).extract _ _ = _
  rw [bytesOf_append, bytesOf_append, ← size_bytesOf before, ← size_bytesOf text]
  conv_lhs => rw [← Nat.add_zero (bytesOf before).size, Nat.add_assoc, Nat.zero_add]
  rw [ByteArray.extract_append_size_add, ByteArray.extract_append_eq_left rfl]

/-! ## Side by side -/

/-- Segments that take up the bytes of a line from one to another, but for the commas between
them. -/
structure SideBySide (line : List Char) (start stop : Nat) (ss : List Segment) : Prop where
  /-- The first segment starts where they all start. -/
  first : ss.head?.map Segment.start = some start
  /-- The last segment stops where they all stop. -/
  last : ss.getLast?.map Segment.stop = some stop
  /-- A segment takes up as many bytes as its text. -/
  length : ∀ s ∈ ss, s.stop = s.start + byteLength s.text.toList
  /-- These bytes are those of its text. -/
  bytes : ∀ s ∈ ss, bytesBetween line s.start s.stop = bytesOf s.text.toList
  /-- The next segment starts one byte later, and this byte is a comma. -/
  comma : ss.IsChain fun s t => t.start = s.stop + 1 ∧ bytesBetween line s.stop t.start = bytesOf [',']

theorem map_text_segmentsFrom (start : Nat) (texts : List (List Char)) :
    (segmentsFrom start texts).map (fun s => s.text.toList) = texts := by
  induction texts generalizing start with
  | nil => rfl
  | cons text texts ih => simp [segmentsFrom, ih]

/-- A segment that ends at a comma can be put before those that start behind it. -/
theorem SideBySide.cons {s : Segment} (h : SideBySide line (s.stop + 1) stop ss)
    (hlength : s.stop = s.start + byteLength s.text.toList)
    (hbytes : bytesBetween line s.start s.stop = bytesOf s.text.toList)
    (hcomma : bytesBetween line s.stop (s.stop + 1) = bytesOf [',']) :
    SideBySide line s.start stop (s :: ss) := by
  cases ss with
  | nil => exact absurd h.first (by simp)
  | cons t ss =>
    have hstart : t.start = s.stop + 1 := Option.some.inj h.first
    refine ⟨rfl, ?_, ?_, ?_, ?_⟩
    · rw [List.getLast?_cons_cons]
      exact h.last
    · exact List.forall_mem_cons.mpr ⟨hlength, h.length⟩
    · exact List.forall_mem_cons.mpr ⟨hbytes, h.bytes⟩
    · rw [List.isChain_cons_cons, hstart]
      exact ⟨⟨rfl, hcomma⟩, h.comma⟩

/-- Texts with commas between them become segments side by side. -/
theorem sideBySide_segmentsFrom (hne : texts ≠ [])
    (hline : line = before ++ ([','].intercalate texts ++ after)) :
    SideBySide line (byteLength before)
      (byteLength before + byteLength ([','].intercalate texts))
      (segmentsFrom (byteLength before) texts) := by
  induction texts generalizing before with
  | nil => exact absurd rfl hne
  | cons text texts ih =>
    cases texts with
    | nil =>
      rw [List.intercalate_singleton] at hline ⊢
      refine ⟨rfl, rfl, ?_, ?_, List.IsChain.singleton _⟩
      · simp [segmentsFrom]
      · simp [segmentsFrom, hline, bytesBetween_middle]
    | cons next texts =>
      rw [List.intercalate_cons_cons] at hline ⊢
      set rest := [','].intercalate (next :: texts)
      have htext : line = before ++ (text ++ ([','] ++ rest ++ after)) := by rw [hline]; simp
      have hcomma : line = (before ++ text) ++ ([','] ++ (rest ++ after)) := by rw [hline]; simp
      have hrest : line = (before ++ text ++ [',']) ++ (rest ++ after) := by rw [hline]; simp
      have hone : byteLength [','] = 1 := rfl
      have hnext := ih (by simp) hrest
      simp only [byteLength_append, hone] at hnext ⊢
      rw [Nat.add_assoc (byteLength text), ← Nat.add_assoc (byteLength before),
        ← Nat.add_assoc (byteLength before + byteLength text)]
      refine SideBySide.cons (s := ⟨String.ofList text, byteLength before,
        byteLength before + byteLength text⟩) hnext ?_ ?_ ?_
      · rw [String.toList_ofList]
      · rw [htext, String.toList_ofList]
        exact bytesBetween_middle before text _
      · have hmiddle := bytesBetween_middle (before ++ text) [','] (rest ++ after)
        rw [← hcomma, byteLength_append, hone] at hmiddle
        exact hmiddle

/-- Segments are known by their texts and by where the first one starts. -/
theorem SideBySide.eq_segmentsFrom (h : SideBySide line start stop ss) :
    ss = segmentsFrom start (ss.map fun s => s.text.toList) := by
  have hchain := h.comma
  have hlength := h.length
  have hfirst := h.first
  clear h
  induction ss generalizing start with
  | nil => rfl
  | cons s ss ih =>
    obtain rfl : s.start = start := Option.some.inj hfirst
    obtain ⟨hs, hrest⟩ := List.forall_mem_cons.mp hlength
    rw [List.map_cons, segmentsFrom, ← hs, String.ofList_toList]
    cases ss with
    | nil => rfl
    | cons t ss =>
      obtain ⟨⟨hstart, -⟩, hchain⟩ := List.isChain_cons_cons.mp hchain
      rw [← ih hchain hrest (congrArg some hstart)]

end Blueprint.Declaration
