import CompileFlags.Database.Basic
import CompileFlags.Proofs.Path.Evaluation

set_option autoImplicit false

namespace CompileFlags.Path

variable {b p q : Path}

theorem isAbsolute_child_eq (h : p.isEmpty = false) (name : String) :
    (p.child name).isAbsolute = p.isAbsolute := by
  have hchars : p.text.toList ≠ [] := by
    intro hnil
    simp [isEmpty, String.toList_eq_nil_iff.1 hnil] at h
  obtain ⟨c, rest, htext⟩ := List.exists_cons_of_ne_nil hchars
  unfold child
  split <;> simp [isAbsolute, htext]

theorem isAbsolute_join_eq (p : Path) (hq : q.isAbsolute = false) :
    (p.join q).isAbsolute = p.isAbsolute := by
  rw [join, if_neg (by simp [hq])]
  cases hempty : p.isEmpty with
  | false => exact isAbsolute_child_eq hempty q.text
  | true =>
    have htext : p.text = "" := by simpa [isEmpty] using hempty
    have hchild : p.child q.text = q := by simp [child, hempty, htext]
    have hp : p.isAbsolute = false := by simp [isAbsolute, htext]
    rw [hchild, hq, hp]

theorem steps_join (p : Path) (hq : q.isAbsolute = false) :
    (p.join q).steps = p.steps ++ q.steps := by
  rw [join, if_neg (by simp [hq]), steps_child]

theorem join_join_of_isAbsolute (b : Path) (hp : p.isAbsolute = true) (q : Path) :
    b.join (p.join q) = p.join q :=
  join_of_isAbsolute (isAbsolute_join hp q)

theorem steps_join_join (b p : Path) (hq : q.isAbsolute = false) :
    ((b.join p).join q).steps = (b.join (p.join q)).steps := by
  cases hp : p.isAbsolute with
  | true => rw [join_join_of_isAbsolute b hp, join_of_isAbsolute hp]
  | false =>
    have hjoin : (p.join q).isAbsolute = false := by rw [isAbsolute_join_eq p hq, hp]
    rw [steps_join _ hq, steps_join b hp, steps_join b hjoin, steps_join p hq, List.append_assoc]

/-- For what is joined to a path it only counts where the path leads. -/
theorem evaluate_join (h : p.evaluate = b.evaluate) (hq : q.isAbsolute = false) :
    (p.join q).evaluate = (b.join q).evaluate := by
  apply evaluate_congr
  rw [steps_join p hq, steps_join b hq, List.foldl_append, List.foldl_append, foldl_walk_steps,
    foldl_walk_steps, h]

theorem absolutize_eq_ofNames (hb : b.isAbsolute = true) (p : Path) :
    b.absolutize p = ofNames (b.join p).evaluate :=
  normalize_eq_ofNames (isAbsolute_join hb p)

theorem absolutize_normalize_base (hb : b.isAbsolute = true) (q : Path) :
    b.normalize.absolutize q = b.absolutize q := by
  cases hq : q.isAbsolute with
  | true => rw [absolutize_of_isAbsolute hq, absolutize_of_isAbsolute hq]
  | false =>
    have hnormal : b.normalize.isAbsolute = true := (normalize_isCanonical hb).isAbsolute
    rw [absolutize_eq_ofNames hnormal, absolutize_eq_ofNames hb,
      evaluate_join (evaluate_normalize hb) hq]

theorem absolutize_join_join (hb : b.isAbsolute = true) (p q : Path) :
    (b.join p).absolutize q = b.absolutize (p.join q) := by
  cases hq : q.isAbsolute with
  | true => rw [absolutize_of_isAbsolute hq, join_of_isAbsolute hq, absolutize_of_isAbsolute hq]
  | false =>
    have hsteps := steps_join_join b p hq
    rw [absolutize_eq_ofNames (isAbsolute_join hb p), absolutize_eq_ofNames hb,
      evaluate_congr (congrArg (List.foldl (walk true) []) hsteps)]

/-- Reading a path from an absolute base and another from there is reading the two joined, and what
was read from the base is the same read from it again. So the file of an entry is the same whether
its directory is normalized first or not, and its include directories do not move. -/
theorem absolutize_absolutize_join (hb : b.isAbsolute = true) (p q : Path) :
    (b.absolutize p).absolutize q = b.absolutize (p.join q) ∧
    b.absolutize (b.absolutize p) = b.absolutize p ∧
    ∀ e : Database.Entry,
      e.key b = (b.join ⟨e.directory⟩).absolutize ⟨e.file⟩ ∧
      ∀ dir, (e.workDir b).absolutize ((e.workDir b).absolutize dir) =
        (e.workDir b).absolutize dir := by
  have hbase : ∀ p q, (b.absolutize p).absolutize q = (b.join p).absolutize q := fun p q =>
    absolutize_normalize_base (isAbsolute_join hb p) q
  refine ⟨?_, absolutize_absolutize hb p, fun e => ⟨hbase ⟨e.directory⟩ ⟨e.file⟩, fun dir => ?_⟩⟩
  · rw [hbase, absolutize_join_join hb]
  · have hdir : (e.workDir b).isAbsolute = true :=
      (absolutize_isCanonical hb ⟨e.directory⟩).isAbsolute
    exact absolutize_absolutize hdir dir

theorem absolutize_absolutize_join_climbing :
    (Path.mk "/w").isAbsolute = true ∧
      ((Path.mk "/w").absolutize ⟨"a/.././b"⟩).absolutize ⟨"../../../c/"⟩ = ⟨"/c"⟩ := by
  have hbase : (Path.mk "/w").isAbsolute = true := by decide
  refine ⟨hbase, ?_⟩
  rw [(absolutize_absolutize_join hbase ⟨"a/.././b"⟩ ⟨"../../../c/"⟩).1]
  decide

end CompileFlags.Path
