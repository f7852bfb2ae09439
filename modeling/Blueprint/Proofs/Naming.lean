import Blueprint.Proofs.Naming.Search
import Mathlib.Data.List.Forall2
import Mathlib.Data.List.Nodup

/-!
# Fresh names are fresh

A fresh name is what the search for a free one comes to, so it is none of the taken ones, and its
number is the least that makes it so.

A list of fresh names is pairwise distinct and leaves the taken names alone, so it can be cut
anywhere: the names after the cut are those that the names before it leave free.
-/

namespace Blueprint

variable {base separator : String} {taken : List String}

/-! ## One name -/

/-- The least number of a free substitute exceeds the length of a list of taken names by one at
most. -/
theorem exists_isLeast_of_contains (separator : String) (hbase : taken.contains base = true) :
    ∃ n, IsLeast (freeNumbers base separator taken.contains) n ∧ n ≤ taken.length + 1 := by
  have htaken : ∀ x, taken.contains x = true → x ∈ taken.toFinset := by simp
  obtain ⟨n, hleast, hbound⟩ := exists_isLeast_freeNumbers separator htaken hbase
  exact ⟨n, hleast, hbound.trans (Nat.succ_le_succ taken.toFinset_card_le)⟩

/-- The fresh name is what the search comes to, with any counter whose last number is larger than
the list is long. -/
theorem search_contains (base separator : String) {last : Option Nat}
    (hlast : ∀ l ∈ last, taken.length < l) {turns : Nat} (hturns : taken.length ≤ turns) :
    search last base separator taken.contains turns = .found (freshName base separator taken) := by
  rw [freshName]
  cases hbase : taken.contains base with
  | false => rw [search_of_free hbase, search_of_free hbase, Search.name?, Option.getD_some]
  | true =>
    obtain ⟨n, hleast, hn⟩ := exists_isLeast_of_contains separator hbase
    rw [search_of_isLeast hbase hleast fun l hl => hn.trans (hlast l hl),
      search_of_isLeast hbase hleast (by simp), if_neg (by omega), if_neg (by omega),
      Search.name?, Option.getD_some]

theorem freshName_of_not_mem (h : base ∉ taken) : freshName base separator taken = base := by
  have hfound : search none base separator taken.contains taken.length = _ :=
    search_contains base separator (by simp) le_rfl
  rw [search_of_free (by simpa using h)] at hfound
  exact (Search.found.inj hfound).symm

/-- A wanted name that is taken gets the least number that makes it free. -/
theorem freshName_of_mem (separator : String) (h : base ∈ taken) :
    ∃ n, 2 ≤ n ∧ n ≤ taken.length + 1 ∧
      freshName base separator taken = numbered base separator n ∧
      numbered base separator n ∉ taken ∧
      ∀ k, 2 ≤ k → k < n → numbered base separator k ∈ taken := by
  have hbase : taken.contains base = true := by simpa using h
  obtain ⟨n, hleast, hn⟩ := exists_isLeast_of_contains separator hbase
  have hfound : search none base separator taken.contains taken.length = _ :=
    search_contains base separator (by simp) le_rfl
  rw [search_of_isLeast hbase hleast (by simp), if_neg (by omega)] at hfound
  refine ⟨n, hleast.1.1, hn, (Search.found.inj hfound).symm, by simpa using hleast.1.2, ?_⟩
  exact fun k hk hlt => by simpa using taken_of_lt_isLeast hleast hk hlt

/-- A fresh name is not taken. -/
theorem freshName_not_mem (base separator : String) (taken : List String) :
    freshName base separator taken ∉ taken := by
  by_cases h : base ∈ taken
  · obtain ⟨n, -, -, hname, hfree, -⟩ := freshName_of_mem separator h
    rw [hname]
    exact hfree
  · rw [freshName_of_not_mem h]
    exact h

theorem freshName_eq_base_iff : freshName base separator taken = base ↔ base ∉ taken := by
  refine ⟨fun h => ?_, freshName_of_not_mem⟩
  rw [← h]
  exact freshName_not_mem base separator taken

/-! ## Many names -/

@[simp]
theorem freshNames_nil : freshNames separator taken [] = [] := rfl

@[simp]
theorem length_freshNames (wanted : List String) :
    (freshNames separator taken wanted).length = wanted.length := by
  induction wanted generalizing taken with
  | nil => rfl
  | cons w ws ih => simp [freshNames, ih]

theorem freshNames_append (ws vs : List String) :
    freshNames separator taken (ws ++ vs) =
      freshNames separator taken ws ++
        freshNames separator (taken ++ freshNames separator taken ws) vs := by
  induction ws generalizing taken with
  | nil => simp
  | cons w ws ih => simp [freshNames, ih, List.append_assoc]

theorem not_mem_of_mem_freshNames {wanted : List String} {x : String}
    (hx : x ∈ freshNames separator taken wanted) : x ∉ taken := by
  induction wanted generalizing taken with
  | nil => simp at hx
  | cons w ws ih =>
    rcases List.mem_cons.mp hx with rfl | hx
    · exact freshName_not_mem w separator taken
    · intro hmem
      exact ih hx (List.mem_append_left _ hmem)

/-- Fresh names are pairwise distinct. -/
theorem nodup_freshNames (wanted : List String) :
    (freshNames separator taken wanted).Nodup := by
  induction wanted generalizing taken with
  | nil => exact List.nodup_nil
  | cons w ws ih =>
    refine List.nodup_cons.mpr ⟨?_, ih⟩
    intro hmem
    exact not_mem_of_mem_freshNames hmem (List.mem_append_right _ (List.mem_singleton_self _))

/-! ## Characters of names -/

section Characters

variable {c : Char} (hseparator : c ∉ separator.toList) (hdigit : c.isDigit = false)

include hseparator hdigit

/-- A fresh name has the characters of the wanted one, of separators and of numbers. -/
theorem char_not_mem_freshName (hbase : c ∉ base.toList) :
    c ∉ (freshName base separator taken).toList := by
  by_cases h : base ∈ taken
  · obtain ⟨n, -, -, hname, -⟩ := freshName_of_mem separator h
    have hnumber : c ∉ (toString n).toList := by
      intro hc
      have hmem : c ∈ Nat.toDigits 10 n := by simpa using hc
      exact absurd (Nat.isDigit_of_mem_toDigits (by decide) (by decide) hmem) (by simp [hdigit])
    rw [hname, numbered, String.toList_append, String.toList_append, List.mem_append,
      List.mem_append, not_or, not_or]
    exact ⟨⟨hbase, hseparator⟩, hnumber⟩
  · rwa [freshName_of_not_mem h]

theorem char_not_mem_freshNames {wanted : List String}
    (h : ∀ w ∈ wanted, c ∉ w.toList) :
    ∀ name ∈ freshNames separator taken wanted, c ∉ name.toList := by
  induction wanted generalizing taken with
  | nil => exact fun name hname => absurd hname List.not_mem_nil
  | cons w ws ih =>
    obtain ⟨hw, hws⟩ := List.forall_mem_cons.mp h
    exact List.forall_mem_cons.mpr ⟨char_not_mem_freshName hseparator hdigit hw, ih hws⟩

end Characters

/-! ## Names that are not the wanted ones -/

/-- How many names are not the wanted ones. -/
def differing (wanted names : List String) : Nat := (wanted.zip names).countP fun p => p.1 != p.2

@[simp]
theorem differing_nil : differing [] [] = 0 := rfl

theorem differing_append {ws vs names names' : List String} (h : ws.length = names.length) :
    differing (ws ++ vs) (names ++ names') = differing ws names + differing vs names' := by
  rw [differing, List.zip_append h, List.countP_append, differing, differing]

theorem differing_cons (w : String) (name : String) (ws names : List String) :
    differing (w :: ws) (name :: names) = differing [w] [name] + differing ws names := by
  have hlength : [w].length = [name].length := rfl
  exact differing_append hlength

/-! ## Looking up by a key -/

section Lookup

variable {α κ : Type} [BEq κ] [LawfulBEq κ] {key : α → κ} {as bs : List α}

/-- Where no two members share a key, each one is found under its own. -/
theorem find?_key_eq_some_iff (hnd : (as.map key).Nodup) {k : κ} {a : α} :
    as.find? (key · == k) = some a ↔ a ∈ as ∧ key a = k := by
  constructor
  · intro h
    exact ⟨List.mem_of_find?_eq_some h, by simpa using List.find?_some h⟩
  · rintro ⟨ha, rfl⟩
    have hsome : (as.find? (key · == key a)).isSome := List.find?_isSome.mpr ⟨a, ha, by simp⟩
    obtain ⟨b, hb⟩ := Option.isSome_iff_exists.mp hsome
    have hkey : key b = key a := by simpa using List.find?_some hb
    rw [hb, List.inj_on_of_nodup_map hnd (List.mem_of_find?_eq_some hb) ha hkey]

/-- It is then the only one under it. -/
theorem filter_key_eq (hnd : (as.map key).Nodup) (k : κ) :
    as.filter (key · == k) = (as.find? (key · == k)).toList := by
  induction as with
  | nil => rfl
  | cons a as ih =>
    obtain ⟨hnew, hrest⟩ := List.nodup_cons.mp hnd
    by_cases ha : key a = k
    · have hnone : as.filter (key · == k) = [] := by
        refine List.filter_eq_nil_iff.mpr fun b hb hkey => hnew ?_
        exact List.mem_map.mpr ⟨b, hb, (beq_iff_eq.mp hkey).trans ha.symm⟩
      simp [ha, hnone]
    · simp [ha, ih hrest]

/-- So the order of the members does not matter. -/
theorem find?_key_perm (hnd : (as.map key).Nodup) (h : bs.Perm as) (k : κ) :
    bs.find? (key · == k) = as.find? (key · == k) := by
  have hnd' : (bs.map key).Nodup := (h.map key).nodup_iff.mpr hnd
  refine Option.ext fun a => ?_
  rw [find?_key_eq_some_iff hnd, find?_key_eq_some_iff hnd', h.mem_iff]

end Lookup

/-- Where two lists go together, each member of the second goes with one of the first. -/
theorem exists_left_of_mem {α β : Type} {R : α → β → Prop} {xs : List α} {ys : List β}
    (h : List.Forall₂ R xs ys) {y : β} (hy : y ∈ ys) : ∃ x ∈ xs, R x y := by
  induction h with
  | nil => exact absurd hy List.not_mem_nil
  | cons hxy _ ih =>
    rcases List.mem_cons.mp hy with rfl | hy
    · exact ⟨_, List.mem_cons_self, hxy⟩
    · obtain ⟨x, hx, hR⟩ := ih hy
      exact ⟨x, List.mem_cons_of_mem _ hx, hR⟩

end Blueprint
