import CompileFlags.Disk.Walk
import CompileFlags.Proofs.Disk.LinkFree

set_option autoImplicit false

namespace CompileFlags.Disk

theorem byName_trans {α : Type} (a b c : String × α) (hab : byName a b = true)
    (hbc : byName b c = true) : byName a c = true := by
  simp only [byName, decide_eq_true_eq] at hab hbc ⊢
  exact String.le_trans hab hbc

theorem byName_total {α : Type} (a b : String × α) : (byName a b || byName b a) = true := by
  simpa [byName] using String.le_total a.1 b.1

theorem lt_of_byName {α : Type} {a b : String × α} (h : byName a b = true) (hne : a.1 ≠ b.1) :
    a.1 < b.1 := by
  have hle : a.1 ≤ b.1 := by simpa [byName] using h
  exact Decidable.byContradiction fun hlt => hne (String.le_antisymm hle hlt)

section

variable {entries : List (String × Node)} {rights : Rights} {opens : Place → Bool}

theorem mem_foldersBelow {found : String × List Place} :
    found ∈ foldersBelow opens entries ↔ ∃ n, entries.lookup found.1 = some n ∧
      found.2 = n.folders fun place => opens (found.1 :: place) := by
  induction entries with
  | nil => simp [foldersBelow]
  | cons entry entries ih =>
    obtain ⟨key, n⟩ := entry
    obtain ⟨name, places⟩ := found
    rw [foldersBelow, List.mem_cons, List.mem_filter, ih, List.lookup_cons]
    by_cases hname : name = key
    · subst hname
      simp
    · simp [hname, beq_false_of_ne hname]

theorem foldersBelow_pairwise_ne (opens : Place → Bool) (entries : List (String × Node)) :
    (foldersBelow opens entries).Pairwise fun a b => a.1 ≠ b.1 := by
  induction entries with
  | nil => simp [foldersBelow]
  | cons entry entries ih =>
    obtain ⟨name, n⟩ := entry
    rw [foldersBelow, List.pairwise_cons]
    refine ⟨fun b hb => ?_, ih.filter _⟩
    exact (of_decide_eq_true (List.mem_filter.1 hb).2).symm

theorem mergeSort_foldersBelow_pairwise (opens : Place → Bool) (entries : List (String × Node)) :
    ((foldersBelow opens entries).mergeSort byName).Pairwise fun a b => a.1 < b.1 := by
  have hsorted := List.pairwise_mergeSort byName_trans byName_total (foldersBelow opens entries)
  have hne : ((foldersBelow opens entries).mergeSort byName).Pairwise fun a b => a.1 ≠ b.1 :=
    ((List.mergeSort_perm _ _).pairwise_iff fun h => Ne.symm h).2
      (foldersBelow_pairwise_ne opens entries)
  exact (hsorted.and hne).imp fun ⟨hle, hne⟩ => lt_of_byName hle hne

theorem sizeOf_lt_of_lookup {name : String} {n : Node} (h : entries.lookup name = some n) :
    sizeOf n < sizeOf (Node.folder entries rights) := by
  have hsize := List.sizeOf_lt_of_mem (mem_of_lookup h)
  simp only [Prod.mk.sizeOf_spec] at hsize
  simp only [Node.folder.sizeOf_spec]
  omega

theorem Node.induction_lookup {motive : Node → Prop}
    (other : ∀ n : Node, n.isFolder = false → motive n)
    (folder : ∀ (entries : List (String × Node)) (rights : Rights),
      (∀ name n, entries.lookup name = some n → motive n) → motive (.folder entries rights))
    (n : Node) : motive n := by
  induction hsize : sizeOf n using Nat.strongRecOn generalizing n with
  | ind size ih =>
    subst hsize
    cases n with
    | file | link => exact other _ rfl
    | folder entries rights =>
      exact folder entries rights fun name n h => ih _ (sizeOf_lt_of_lookup h) n rfl

/-- No link leads to the folder, and each folder before it opens. -/
structure Node.IsWalked (opens : Place → Bool) (n : Node) (place : Place) : Prop where
  folder : ∃ entries rights, n.at? place = some (.folder entries rights)
  opened : ∀ front name back, place = front ++ name :: back → opens front = true

theorem isWalked_nil : (Node.folder entries rights).IsWalked opens [] :=
  ⟨⟨entries, rights, rfl⟩, fun _ _ _ h => by simp at h⟩

theorem isWalked_cons {name : String} {rest : Place} :
    (Node.folder entries rights).IsWalked opens (name :: rest) ↔
      opens [] = true ∧ ∃ n, entries.lookup name = some n ∧
        n.IsWalked (fun place => opens (name :: place)) rest := by
  constructor
  · rintro ⟨⟨below, given, hat⟩, hopened⟩
    obtain ⟨n, hn, hrest⟩ := Option.bind_eq_some_iff.1 hat
    exact ⟨hopened [] name rest rfl, n, hn, ⟨below, given, hrest⟩, fun front next back h =>
      hopened (name :: front) next back (by rw [h]; rfl)⟩
  · rintro ⟨hopen, n, hn, ⟨below, given, hat⟩, hopened⟩
    refine ⟨⟨below, given, Option.bind_eq_some_iff.2 ⟨n, hn, hat⟩⟩, fun front next back h => ?_⟩
    cases front with
    | nil => exact hopen
    | cons first front =>
      obtain ⟨rfl, hrest⟩ := List.cons.inj h
      exact hopened front next back hrest

theorem not_isWalked {n : Node} (h : n.isFolder = false) (place : Place) :
    ¬ n.IsWalked opens place := by
  rintro ⟨⟨below, given, hat⟩, -⟩
  cases n with
  | file | link => cases place <;> simp [Node.at?, Node.child?, Node.entries] at hat
  | folder => cases h

theorem folders_of_not_isFolder {n : Node} (h : n.isFolder = false) : n.folders opens = [] := by
  cases n with
  | file | link => simp [Node.folders]
  | folder => cases h

/-- A walk finds the folders that it can come to. -/
theorem mem_folders_iff {n : Node} {place : Place} :
    place ∈ n.folders opens ↔ n.IsWalked opens place := by
  induction n using Node.induction_lookup generalizing opens place with
  | other n hn => simp [folders_of_not_isFolder hn, not_isWalked hn]
  | folder entries rights ih =>
    rw [Node.folders]
    cases place with
    | nil => simp [isWalked_nil]
    | cons name rest =>
      rw [isWalked_cons]
      cases hopen : opens [] with
      | false => simp
      | true =>
        simp only [List.mem_cons, reduceCtorEq, false_or, if_true, List.mem_flatMap,
          List.mem_mergeSort, mem_foldersBelow, List.mem_map, List.cons.injEq, true_and]
        constructor
        · rintro ⟨found, ⟨n, hn, hfound⟩, place, hplace, rfl, rfl⟩
          rw [hfound, ih _ _ hn] at hplace
          exact ⟨n, hn, hplace⟩
        · rintro ⟨n, hn, hwalked⟩
          exact ⟨(name, _), ⟨n, hn, rfl⟩, rest, (ih name n hn).2 hwalked, rfl, rfl⟩

theorem folders_pairwise (opens : Place → Bool) (n : Node) :
    (n.folders opens).Pairwise (· < ·) := by
  induction n using Node.induction_lookup generalizing opens with
  | other n hn => simp [folders_of_not_isFolder hn]
  | folder entries rights ih =>
    rw [Node.folders, List.pairwise_cons]
    constructor
    · intro place hplace
      split at hplace
      · obtain ⟨found, -, hplace⟩ := List.mem_flatMap.1 hplace
        obtain ⟨rest, -, rfl⟩ := List.mem_map.1 hplace
        exact List.nil_lt_cons _ _
      · cases hplace
    · split
      · rw [List.pairwise_flatMap]
        constructor
        · intro found hfound
          obtain ⟨n, hn, hplaces⟩ := mem_foldersBelow.1 (List.mem_mergeSort.1 hfound)
          rw [hplaces, List.pairwise_map]
          exact (ih _ n hn _).imp fun hlt => List.cons_lt_cons_iff.2 (.inr ⟨rfl, hlt⟩)
        · refine (mergeSort_foldersBelow_pairwise opens entries).imp fun {a b} hlt x hx y hy => ?_
          obtain ⟨front, -, rfl⟩ := List.mem_map.1 hx
          obtain ⟨back, -, rfl⟩ := List.mem_map.1 hy
          exact List.cons_lt_cons_iff.2 (.inl hlt)
      · exact List.Pairwise.nil

end

/-- In a list in order, what is found first comes before everything else like it. -/
theorem eq_or_rel_of_find? {α : Type} {R : α → α → Prop} {P : α → Bool} {items : List α} {a b : α}
    (hsorted : items.Pairwise R) (h : items.find? P = some a) (hmem : b ∈ items) (hb : P b = true) :
    a = b ∨ R a b := by
  obtain ⟨-, before, after, rfl, hbefore⟩ := List.find?_eq_some_iff_append.1 h
  rcases List.mem_append.1 hmem with hmem | hmem
  · have hnot := hbefore b hmem
    rw [hb] at hnot
    cases hnot
  · rcases List.mem_cons.1 hmem with rfl | hmem
    · exact .inl rfl
    · exact .inr ((List.pairwise_cons.1 (List.pairwise_append.1 hsorted).2.1).1 b hmem)

end CompileFlags.Disk
