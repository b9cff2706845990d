import CompileFlags.Proofs.Path.Parents

set_option autoImplicit false

/-!
# The normal form, written piece by piece

The stack of steps need not be kept: a path can be written as its steps are read, where a name is
pushed to the text and `..` takes the last piece of it away. What is written is the stack.
-/

namespace CompileFlags.Path

variable {texts : List String} {stack steps : List Step}

/-- What is written after one more step. With nothing to take away, `..` stays at the root and is
pushed elsewhere. -/
def write (out : Path) : Step → Path
  | .name n => out.join ⟨n⟩
  | .up =>
    match out.parent? with
    | some shorter => shorter
    | none => if out.isAbsolute then out else out.join ⟨".."⟩

def written (p : Path) : Path :=
  let start := if p.isAbsolute then empty.join ⟨"/"⟩ else empty
  let out := p.steps.foldl write start
  if out.isEmpty then out.join ⟨"."⟩ else out

def IsWritable (text : String) : Prop :=
  text ≠ "" ∧ text ≠ "." ∧ '/' ∉ text.toList

theorem IsName.isWritable {n : String} (h : IsName n) : IsWritable n :=
  ⟨h.1, h.2.1, h.2.2.2⟩

theorem IsWritable.isAbsolute_eq {text : String} (h : IsWritable text) :
    (Path.mk text).isAbsolute = false := by
  rw [Path.isAbsolute, beq_eq_false_iff_ne]
  exact fun hhead => h.2.2 (List.mem_of_head? hhead)

theorem intercalate_concat (hne : texts ≠ []) (text : String) :
    "/".intercalate (texts ++ [text]) = "/".intercalate texts ++ "/" ++ text := by
  rw [String.intercalate_append_of_ne_nil hne (List.cons_ne_nil text []),
    String.intercalate_singleton]

theorem isAbsolute_intercalate (h : ∀ t ∈ texts, IsWritable t) :
    (Path.mk ("/".intercalate texts)).isAbsolute = false := by
  cases texts with
  | nil => rfl
  | cons first rest =>
    have hfirst := h first List.mem_cons_self
    obtain ⟨c, chars, hchars⟩ :=
      List.exists_cons_of_ne_nil fun hnil => hfirst.1 (String.toList_eq_nil_iff.1 hnil)
    have hc : c ≠ '/' := by
      rintro rfl
      exact hfirst.2.2 (by rw [hchars]; exact List.mem_cons_self)
    cases rest <;> simp [isAbsolute, hchars, hc]

theorem getLast?_intercalate (hne : texts ≠ []) (h : ∀ t ∈ texts, IsWritable t) :
    ∃ c, ("/".intercalate texts).toList.getLast? = some c ∧ c ≠ '/' := by
  obtain ⟨front, last, rfl⟩ := (List.eq_nil_or_concat texts).resolve_left hne
  rw [List.concat_eq_append] at h ⊢
  have hlast := h last (by simp)
  have hchars : last.toList ≠ [] := fun hnil => hlast.1 (String.toList_eq_nil_iff.1 hnil)
  refine ⟨last.toList.getLast hchars, ?_, fun hslash => hlast.2.2 ?_⟩
  · rw [← List.getLast?_eq_some_getLast hchars]
    by_cases hfront : front = []
    · simp [hfront]
    · rw [intercalate_concat hfront, String.toList_append, List.getLast?_append_of_ne_nil _ hchars]
  · rw [← hslash]
    exact List.getLast_mem hchars

theorem isEmpty_intercalate (hne : texts ≠ []) (h : ∀ t ∈ texts, IsWritable t) :
    (Path.mk ("/".intercalate texts)).isEmpty = false := by
  obtain ⟨c, hlast, -⟩ := getLast?_intercalate hne h
  rw [isEmpty, String.isEmpty_eq_false_iff]
  intro hnil
  change "/".intercalate texts = "" at hnil
  rw [hnil] at hlast
  cases hlast

theorem join_intercalate (h : ∀ t ∈ texts, IsWritable t) {text : String} (htext : IsWritable text) :
    (Path.mk ("/".intercalate texts)).join ⟨text⟩ = ⟨"/".intercalate (texts ++ [text])⟩ := by
  rw [join, if_neg (Bool.not_eq_true _ ▸ htext.isAbsolute_eq), child]
  by_cases hne : texts = []
  · subst hne
    rw [if_pos (.inl rfl)]
    simp
  · obtain ⟨c, hlast, hc⟩ := getLast?_intercalate hne h
    have hslash : ("/".intercalate texts).toList.getLast? ≠ some '/' := by
      rw [hlast]
      exact fun heq => hc (Option.some.inj heq)
    have hempty : ¬ (Path.mk ("/".intercalate texts)).isEmpty = true := by
      rw [isEmpty_intercalate hne h]
      exact Bool.false_ne_true
    rw [if_neg (not_or.2 ⟨hempty, hslash⟩), intercalate_concat hne]

theorem trimPieces_concat {front : List String} {last : String} (h : IsWritable last) :
    trimPieces (front ++ [last]) = front ++ [last] := by
  cases front with
  | nil => rfl
  | cons first rest => simp [trimPieces, h.1, h.2.1]

theorem parent?_intercalate (h : ∀ t ∈ texts, IsWritable t) {text : String}
    (htext : IsWritable text) :
    (Path.mk ("/".intercalate (texts ++ [text]))).parent? = some ⟨"/".intercalate texts⟩ := by
  have hall : ∀ t ∈ texts ++ [text], IsWritable t := by
    simpa [or_imp, forall_and] using ⟨h, htext⟩
  have hpieces := pieces_intercalate (by simp) fun t ht => (hall t ht).2.2
  rw [parent?, hpieces, trimPieces_concat htext]
  rcases texts with _ | ⟨first, rest⟩
  · have hrelative : ¬ ((Path.mk ("/".intercalate [text])).isAbsolute = true ∨ text = "") := by
      have habsolute : (Path.mk ("/".intercalate [text])).isAbsolute = false :=
        isAbsolute_intercalate hall
      simp only [habsolute, htext.1, Bool.false_eq_true, or_self, not_false_eq_true]
    exact if_neg hrelative
  · have hkept : trimPieces (first :: (rest ++ [text]).dropLast) = first :: rest := by
      rw [List.dropLast_concat]
      obtain ⟨front, last, hlast⟩ := (List.eq_nil_or_concat (first :: rest)).resolve_left (by simp)
      rw [List.concat_eq_append] at hlast
      rw [hlast]
      exact trimPieces_concat (h last (by simp [hlast]))
    have hfirst : first :: rest ≠ [""] := by
      rintro ⟨⟩
      exact (h "" List.mem_cons_self).1 rfl
    obtain ⟨second, others, hbehind⟩ :=
      List.exists_cons_of_ne_nil (List.append_ne_nil_of_right_ne_nil rest (List.cons_ne_nil text []))
    rw [hbehind] at hkept
    rw [List.cons_append, hbehind]
    dsimp only
    rw [hkept, if_neg hfirst]

def spell (absolute : Bool) (stack : List Step) : Path :=
  let body := "/".intercalate (stack.reverse.map Step.text)
  if absolute then ⟨"/" ++ body⟩ else ⟨body⟩

theorem spell_root (stack : List Step) :
    spell true stack = ofNames (stack.reverse.map Step.text) := rfl

theorem spell_relative (stack : List Step) :
    spell false stack = ⟨"/".intercalate (stack.reverse.map Step.text)⟩ := rfl

/-- A stack that is met when steps are read: of an absolute path it has names alone. -/
structure IsStack (absolute : Bool) (stack : List Step) : Prop where
  isName : ∀ n, .name n ∈ stack → IsName n
  names : absolute = true → .up ∉ stack

theorem isStack_nil (absolute : Bool) : IsStack absolute [] :=
  ⟨by simp, by simp⟩

theorem IsStack.walk {absolute : Bool} (h : IsStack absolute stack) {s : Step}
    (hs : ∀ n, s = .name n → IsName n) : IsStack absolute (walk absolute stack s) := by
  cases s with
  | name n =>
    refine ⟨fun m hm => ?_, fun habsolute hup => ?_⟩
    · rcases List.mem_cons.1 hm with heq | hm
      · exact hs m heq.symm
      · exact h.isName m hm
    · exact h.names habsolute (by simpa [Path.walk] using hup)
  | up =>
    cases stack with
    | nil => cases absolute <;> exact ⟨by simp [Path.walk], by simp [Path.walk]⟩
    | cons top below =>
      exact ⟨fun m hm => h.isName m (List.mem_cons_of_mem top hm),
        fun habsolute hup => h.names habsolute (List.mem_cons_of_mem top hup)⟩

theorem IsStack.isWritable {absolute : Bool} (h : IsStack absolute stack) :
    ∀ t ∈ stack.reverse.map Step.text, IsWritable t := by
  intro t ht
  obtain ⟨s, hs, rfl⟩ := List.mem_map.1 ht
  cases s with
  | name n => exact (h.isName n (List.mem_reverse.1 hs)).isWritable
  | up => exact ⟨by decide, by decide, by decide⟩

theorem IsStack.isName_text (h : IsStack true stack) :
    ∀ t ∈ stack.reverse.map Step.text, IsName t := by
  intro t ht
  obtain ⟨s, hs, rfl⟩ := List.mem_map.1 ht
  cases s with
  | name n => exact h.isName n (List.mem_reverse.1 hs)
  | up => exact absurd (List.mem_reverse.1 hs) (h.names rfl)

theorem write_spell_root (h : IsStack true stack) {s : Step} (hs : ∀ n, s = .name n → IsName n) :
    write (spell true stack) s = spell true (walk true stack s) := by
  have hnames := h.isName_text
  rw [spell_root, spell_root]
  cases s with
  | name n =>
    have hrelative := (hs n rfl).isWritable.isAbsolute_eq
    simp only [write, join, hrelative, Bool.false_eq_true, if_false, child_ofNames hnames, walk,
      List.reverse_cons, List.map_append, List.map_singleton, Step.text]
  | up =>
    cases stack with
    | nil => rfl
    | cons top below =>
      rw [List.reverse_cons, List.map_append, List.map_singleton, List.forall_mem_append,
        List.forall_mem_singleton] at hnames
      simp only [write, List.reverse_cons, List.map_append, List.map_singleton,
        parent?_concat hnames.1 hnames.2, walk]

theorem write_spell_relative (h : IsStack false stack) {s : Step}
    (hs : ∀ n, s = .name n → IsName n) :
    write (spell false stack) s = spell false (walk false stack s) := by
  have htexts := h.isWritable
  rw [spell_relative, spell_relative]
  cases s with
  | name n =>
    simp only [write, join_intercalate htexts (hs n rfl).isWritable, walk, List.reverse_cons,
      List.map_append, List.map_singleton, Step.text]
  | up =>
    cases stack with
    | nil => decide
    | cons top below =>
      rw [List.reverse_cons, List.map_append, List.map_singleton, List.forall_mem_append,
        List.forall_mem_singleton] at htexts
      simp only [write, List.reverse_cons, List.map_append, List.map_singleton,
        parent?_intercalate htexts.1 htexts.2, walk]

theorem foldl_write {absolute : Bool} (h : IsStack absolute stack)
    (hsteps : ∀ n, .name n ∈ steps → IsName n) :
    steps.foldl write (spell absolute stack) = spell absolute (steps.foldl (walk absolute) stack) ∧
      IsStack absolute (steps.foldl (walk absolute) stack) := by
  induction steps generalizing stack with
  | nil => exact ⟨rfl, h⟩
  | cons s steps ih =>
    have hs : ∀ n, s = .name n → IsName n := fun n heq => hsteps n (heq ▸ List.mem_cons_self)
    have hwrite : write (spell absolute stack) s = spell absolute (walk absolute stack s) := by
      cases absolute with
      | true => exact write_spell_root h hs
      | false => exact write_spell_relative h hs
    rw [List.foldl_cons, List.foldl_cons, hwrite]
    exact ih (h.walk hs) fun n hn => hsteps n (List.mem_cons_of_mem s hn)

/-- What is written is the normal form. -/
theorem normalize_eq_written (p : Path) : p.normalize = p.written := by
  have hstart : (if p.isAbsolute then empty.join ⟨"/"⟩ else empty) = spell p.isAbsolute [] := by
    cases p.isAbsolute <;> rfl
  obtain ⟨hout, hstack⟩ :=
    foldl_write (isStack_nil p.isAbsolute) fun n => isName_of_name_mem_steps (p := p)
  rw [written, hstart, hout, normalize, render, fold]
  generalize p.steps.foldl (walk p.isAbsolute) [] = stack at hstack
  cases p.isAbsolute with
  | true =>
    have hfull : ¬ (spell true stack).isEmpty = true := by
      rw [spell_root, isEmpty_of_isAbsolute (isAbsolute_ofNames _)]
      exact Bool.false_ne_true
    exact (if_neg hfull).symm
  | false =>
    cases stack with
    | nil => rfl
    | cons top below =>
      have hfull : ¬ (spell false (top :: below)).isEmpty = true := by
        rw [spell_relative, isEmpty_intercalate (by simp) hstack.isWritable]
        exact Bool.false_ne_true
      have hsteps : ¬ (top :: below).reverse.isEmpty = true := by simp
      exact (if_neg hsteps).trans (if_neg hfull).symm

end CompileFlags.Path
