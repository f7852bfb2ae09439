import Blueprint.Naming
import Mathlib.Order.Bounds.Defs
import Mathlib.Order.Interval.Finset.Nat
import Mathlib.Order.Nat

/-!
# The search for a free name

A turn of the search tries one number. So the state after any number of turns follows from the least
number that makes the wanted name free. There is one whenever finitely many names are taken, and it
exceeds their number by one at most: the wanted name and its substitutes up to there are too many to
be all taken.

The counter does not go past that number, so one that holds it does not run out.
-/

namespace Blueprint

variable {base separator : String} {taken : String → Bool} {names : Finset String}
  {last : Option Nat} {m n : Nat}

/-! ## Numbered names -/

/-- Different numbers give different names. -/
theorem numbered_injective : Function.Injective (numbered base separator) := by
  intro m n h
  have hrepr : m.repr = n.repr := (String.append_right_inj _).mp h
  have hread := congrArg (fun s => Nat.ofDigitChars 10 s.toList 0) hrepr
  simpa using hread

/-- A numbered name is longer than the wanted one. -/
theorem numbered_ne_base (n : Nat) : numbered base separator n ≠ base := by
  intro h
  have hlen := congrArg String.length h
  have hpos : 0 < (toString n).length := Nat.length_repr_pos
  simp only [numbered, String.length_append] at hlen
  omega

/-- The numbers of free substitutes, from two on. -/
def freeNumbers (base separator : String) (taken : String → Bool) : Set Nat :=
  {n | 2 ≤ n ∧ taken (numbered base separator n) = false}

/-- Below the least free number all substitutes are taken. -/
theorem taken_of_lt_isLeast (hleast : IsLeast (freeNumbers base separator taken) n) (hm : 2 ≤ m)
    (hlt : m < n) : taken (numbered base separator m) = true := by
  by_contra hfree
  have hle : n ≤ m := hleast.2 ⟨hm, by simpa using hfree⟩
  omega

/-- If the wanted name is taken and only finitely many names are, some substitute is free: those
with the numbers up to one more than there are taken names cannot all be taken beside it. -/
theorem exists_freeNumber_le (separator : String) (htaken : ∀ x, taken x = true → x ∈ names)
    (hbase : taken base = true) :
    ∃ n ∈ freeNumbers base separator taken, n ≤ names.card + 1 := by
  by_contra hall
  push Not at hall
  let substitutes := (Finset.Icc 2 (names.card + 1)).image (numbered base separator)
  have hbase_notMem : base ∉ substitutes := by
    intro hmem
    obtain ⟨n, -, hn⟩ := Finset.mem_image.mp hmem
    exact numbered_ne_base n hn
  have hsub : insert base substitutes ⊆ names := by
    intro x hx
    rcases Finset.mem_insert.mp hx with rfl | hx
    · exact htaken x hbase
    · obtain ⟨n, hn, rfl⟩ := Finset.mem_image.mp hx
      obtain ⟨hfrom, hto⟩ := Finset.mem_Icc.mp hn
      refine htaken _ ?_
      by_contra hfree
      exact absurd hto (hall n ⟨hfrom, by simpa using hfree⟩).not_ge
  -- different numbers give different substitutes, so one name more is taken than there are
  have hcard := Finset.card_le_card hsub
  rw [Finset.card_insert_of_notMem hbase_notMem,
    Finset.card_image_of_injective _ numbered_injective, Nat.card_Icc] at hcard
  omega

/-- Where there is a free substitute, there is a first one. -/
theorem exists_isLeast_le (hfree : n ∈ freeNumbers base separator taken) :
    ∃ least, IsLeast (freeNumbers base separator taken) least ∧ least ≤ n := by
  classical
  have hleast := Nat.isLeast_find ⟨n, hfree⟩
  exact ⟨_, hleast, hleast.2 hfree⟩

/-- The least number of a free substitute exceeds the number of taken names by one at most. -/
theorem exists_isLeast_freeNumbers (separator : String)
    (htaken : ∀ x, taken x = true → x ∈ names) (hbase : taken base = true) :
    ∃ n, IsLeast (freeNumbers base separator taken) n ∧ n ≤ names.card + 1 := by
  obtain ⟨n, hfree, hn⟩ := exists_freeNumber_le separator htaken hbase
  obtain ⟨least, hleast, hle⟩ := exists_isLeast_le hfree
  exact ⟨least, hleast, hle.trans hn⟩

/-! ## Turns -/

namespace Search

theorem step_of_free (hfree : taken (numbered base separator n) = false) :
    (trying n).step last base separator taken = found (numbered base separator n) := by
  simp [step, hfree]

theorem step_of_taken (htaken : taken (numbered base separator n) = true) (hlast : last ≠ some n) :
    (trying n).step last base separator taken = trying (n + 1) := by
  simp [step, htaken, hlast]

theorem step_of_last (htaken : taken (numbered base separator n) = true) :
    (trying n).step (some n) base separator taken = overflow := by
  simp [step, htaken]

@[simp]
theorem run_found (turns : Nat) (name : String) :
    (found name).run last base separator taken turns = found name := by
  induction turns with
  | zero => rfl
  | succ turns ih => exact ih

theorem run_add (s : Search) (k l : Nat) :
    s.run last base separator taken (k + l) =
      (s.run last base separator taken k).run last base separator taken l := by
  induction k generalizing s with
  | zero => rw [Nat.zero_add, run]
  | succ k ih => rw [Nat.succ_add, run, run, ih]

/-- The search passes over the numbers of taken substitutes, as far as the counter holds them. -/
theorem run_of_taken (turns : Nat)
    (htaken : ∀ k, m ≤ k → k < m + turns → taken (numbered base separator k) = true)
    (hlast : ∀ l ∈ last, m + turns ≤ l) :
    (trying m).run last base separator taken turns = trying (m + turns) := by
  induction turns generalizing m with
  | zero => rfl
  | succ turns ih =>
    have hnext : m + 1 + turns = m + (turns + 1) := by omega
    have hne : last ≠ some m := by
      intro h
      have hle := hlast m h
      omega
    rw [run, step_of_taken (htaken m le_rfl (by omega)) hne, ← hnext]
    refine ih (fun k hk hlt => htaken k (by omega) (by omega)) fun l hl => ?_
    exact hnext ▸ hlast l hl

end Search

open Search

/-! ## The whole search -/

/-- A name that is free is found at once. -/
theorem search_of_free (hbase : taken base = false) (turns : Nat) :
    search last base separator taken turns = found base := by
  simp [search, start, hbase]

/-- Else the search tries one number after the other, as long as it meets taken substitutes. -/
theorem search_trying (hbase : taken base = true) {turns : Nat}
    (htaken : ∀ k, 2 ≤ k → k < turns + 2 → taken (numbered base separator k) = true)
    (hlast : ∀ l ∈ last, turns + 2 ≤ l) :
    search last base separator taken turns = trying (turns + 2) := by
  rw [Nat.add_comm turns] at htaken hlast ⊢
  rw [search, start, if_pos hbase, run_of_taken turns htaken hlast]

theorem search_add (k l : Nat) :
    search last base separator taken (k + l) =
      (search last base separator taken k).run last base separator taken l :=
  run_add _ k l

/-- It ends with the first free one. -/
theorem search_of_isLeast (hbase : taken base = true)
    (hleast : IsLeast (freeNumbers base separator taken) n) (hlast : ∀ l ∈ last, n ≤ l)
    (turns : Nat) :
    search last base separator taken turns =
      if turns + 2 ≤ n then trying (turns + 2) else found (numbered base separator n) := by
  have hreach : ∀ k, k + 2 ≤ n → search last base separator taken k = trying (k + 2) := by
    intro k hk
    refine search_trying hbase (fun i hi hlt => taken_of_lt_isLeast hleast hi (by omega)) ?_
    exact fun l hl => hk.trans (hlast l hl)
  obtain ⟨hfrom, hfree⟩ := hleast.1
  split
  next hbefore => exact hreach turns hbefore
  next hafter =>
    -- after the turns up to `n` one more finds its substitute, and the others change nothing
    obtain ⟨k, rfl⟩ := Nat.exists_eq_add_of_le' hfrom
    obtain ⟨more, rfl⟩ := Nat.exists_eq_add_of_lt (show k < turns by omega)
    rw [Nat.add_assoc, search_add, hreach k le_rfl, run, step_of_free hfree, run_found]

/-- A search all of whose names are taken never ends. -/
theorem search_endless (hbase : taken base = true)
    (htaken : ∀ k, 2 ≤ k → taken (numbered base separator k) = true) (turns : Nat) :
    search none base separator taken turns = trying (turns + 2) :=
  search_trying hbase (fun k hk _ => htaken k hk) (by simp)

/-- So the search finds a name if and only if there is one to find, however many are taken. -/
theorem exists_search_eq_found_iff :
    (∃ turns name, search none base separator taken turns = found name) ↔
      taken base = false ∨ (freeNumbers base separator taken).Nonempty := by
  constructor
  · rintro ⟨turns, name, hfound⟩
    by_contra hall
    obtain ⟨hbase, hnone⟩ := not_or.mp hall
    have htaken : ∀ k, 2 ≤ k → taken (numbered base separator k) = true := by
      intro k hk
      by_contra hfree
      exact hnone ⟨k, hk, by simpa using hfree⟩
    rw [search_endless (by simpa using hbase) htaken] at hfound
    cases hfound
  · intro hfree
    cases hbase : taken base with
    | false => exact ⟨0, base, search_of_free hbase 0⟩
    | true =>
      obtain ⟨k, hk⟩ := hfree.resolve_left (by simp [hbase])
      obtain ⟨n, hleast, -⟩ := exists_isLeast_le hk
      refine ⟨n, numbered base separator n, ?_⟩
      rw [search_of_isLeast hbase hleast (by simp), if_neg (by omega)]

/-- A counter runs out if and only if all substitutes that it can number are taken. That is as many
names as its last number, the wanted one counted. -/
theorem exists_search_eq_overflow_iff {l : Nat} (hl : 2 ≤ l) :
    (∃ turns, search (some l) base separator taken turns = overflow) ↔
      taken base = true ∧ ∀ k, 2 ≤ k → k ≤ l → taken (numbered base separator k) = true := by
  constructor
  · rintro ⟨turns, hover⟩
    cases hbase : taken base with
    | false =>
      rw [search_of_free hbase] at hover
      cases hover
    | true =>
      refine ⟨rfl, fun k hk hkl => ?_⟩
      by_contra hfree
      obtain ⟨n, hleast, hn⟩ := exists_isLeast_le ⟨hk, by simpa using hfree⟩
      rw [search_of_isLeast hbase hleast (by simp; omega)] at hover
      split at hover <;> cases hover
  · rintro ⟨hbase, htaken⟩
    obtain ⟨k, rfl⟩ := Nat.exists_eq_add_of_le' hl
    have hreach : search (some (k + 2)) base separator taken k = trying (k + 2) :=
      search_trying hbase (fun i hi hlt => htaken i hi hlt.le) (by simp)
    refine ⟨k + 1, ?_⟩
    rw [search_add, hreach, run, step_of_last (htaken _ hl le_rfl), run]

/-- If only finitely many names are taken, the search ends after at most as many turns. It finds a
name that is not taken: the wanted one if and only if that is free, else its first free substitute,
whose number exceeds the number of taken names by one at most. As long as these are fewer than the
last number of a signed counter of 32 bits, such a counter does not run out and changes nothing. -/
theorem search_ends (base separator : String) {taken : String → Bool} {names : Finset String}
    (hnames : ∀ x, taken x = true ↔ x ∈ names) :
    ∃ name,
      (∀ turns, names.card ≤ turns → search none base separator taken turns = found name) ∧
      taken name = false ∧ (name = base ↔ taken base = false) ∧
      (taken base = true → ∃ n, name = numbered base separator n ∧
        IsLeast {n | 2 ≤ n ∧ taken (numbered base separator n) = false} n ∧
        n ≤ names.card + 1) ∧
      (names.card < 2 ^ 31 - 1 → ∀ turns,
        search (some (2 ^ 31 - 1)) base separator taken turns ≠ overflow ∧
        search (some (2 ^ 31 - 1)) base separator taken turns =
          search none base separator taken turns) := by
  cases hbase : taken base with
  | false =>
    refine ⟨base, fun turns _ => search_of_free hbase turns, hbase, by simp, by simp, ?_⟩
    intro _ turns
    simp [search_of_free hbase]
  | true =>
    obtain ⟨n, hleast, hbound⟩ :=
      exists_isLeast_freeNumbers separator (fun x => (hnames x).mp) hbase
    refine ⟨numbered base separator n, ?_, hleast.1.2, ?_, ?_, ?_⟩
    · intro turns hturns
      rw [search_of_isLeast hbase hleast (by simp), if_neg (by omega)]
    · simp [numbered_ne_base]
    · exact fun _ => ⟨n, rfl, hleast, hbound⟩
    · intro hcount turns
      rw [search_of_isLeast hbase hleast (by simp; omega), search_of_isLeast hbase hleast (by simp)]
      refine ⟨?_, rfl⟩
      split <;> simp

/-- Substitutes before and after the free one are taken, and a name that is no substitute. -/
theorem search_ends_age :
    let names := ["ID", "age", "age_2", "age_4"]
    (∀ x, names.contains x = true ↔ x ∈ names.toFinset) ∧ names.toFinset.card < 2 ^ 31 - 1 ∧
      (∀ turns, 4 ≤ turns → search none "age" "_" names.contains turns = found "age_3") ∧
      (∀ turns, search (some (2 ^ 31 - 1)) "age" "_" names.contains turns ≠ overflow) ∧
      ∃ n, "age_3" = numbered "age" "_" n ∧
        IsLeast {n | 2 ≤ n ∧ names.contains (numbered "age" "_" n) = false} n ∧ n ≤ 5 := by
  intro names
  have hnames : ∀ x, names.contains x = true ↔ x ∈ names.toFinset := by simp
  have hcard : names.toFinset.card = 4 := by decide
  obtain ⟨name, hfound, -, -, hleast, hcounter⟩ := search_ends "age" "_" hnames
  rw [hcard] at hfound hleast hcounter
  have hname : found name = found "age_3" := (hfound 4 le_rfl).symm.trans (by decide +kernel)
  obtain rfl := Search.found.inj hname
  exact ⟨hnames, by omega, hfound, fun turns => (hcounter (by decide) turns).1,
    hleast (by decide)⟩

end Blueprint
