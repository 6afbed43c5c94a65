import Mathlib.Tactic.SplitIfs
import DnsFilter.Storage.OnDisk
/-!
# What a disk holds after a change

A node that is put at a place is found there, and all other places stay as they are. A place that is
not a directory is on no other path, so paths lead where they led before.
-/
namespace DnsFilter

namespace Disk

theorem lookup_map_replace (l : List (Path × Node)) (p q : Path) (n : Node) :
    (l.map (fun e => if e.1 = p then (p, n) else e)).lookup q =
      if q = p then (l.lookup p).map (fun _ => n) else l.lookup q := by
  induction l with
  | nil => simp
  | cons e l ih =>
    obtain ⟨r, m⟩ := e
    rw [List.map_cons, List.lookup_cons, List.lookup_cons, List.lookup_cons, ih]
    by_cases hr : r = p
    · subst hr
      by_cases hq : q = r
      · simp [hq]
      · simp [hq, beq_eq_false_iff_ne.mpr hq]
    · by_cases hq : q = p
      · subst hq
        simp [hr, beq_eq_false_iff_ne.mpr (Ne.symm hr)]
      · simp [hr, hq]

theorem lookup_put (d : Disk) (p q : Path) (n : Node) :
    (d.put p n).nodes.lookup q = if q = p then some n else d.nodes.lookup q := by
  unfold put
  by_cases hp : (d.nodes.lookup p).isSome = true
  · obtain ⟨m, hm⟩ := Option.isSome_iff_exists.mp hp
    rw [if_pos hp, lookup_map_replace, hm]
    rfl
  · rw [if_neg hp, List.lookup_append]
    by_cases hq : q = p
    · subst hq
      simp [Option.not_isSome_iff_eq_none.mp hp]
    · have hlast : [(p, n)].lookup q = none := by simp [hq]
      rw [hlast, Option.or_none, if_neg hq]

theorem node?_put (d : Disk) {p : Path} (hp : d.isDirectory p = false) (q : Path) (n : Node) :
    (d.put p n).node? q = if q = p then some n else d.node? q := by
  have hroot : ¬(p = [] ∨ p = ["/"]) := by
    intro h
    simp [isDirectory, node?, h] at hp
  unfold node?
  rw [lookup_put]
  by_cases hq : q = p
  · subst hq
    simp [hroot]
  · simp [hq]

theorem enter_put {d : Disk} {p : Path} (hp : d.isDirectory p = false) (n : Node)
    {place q : Path} {name : String} (h : d.enter place name = .ok q) :
    (d.put p n).enter place name = .ok q := by
  have hdir : d.node? place = some .directory := by
    unfold enter at h
    split at h
    · cases h
    · assumption
    · cases h
  have hne : place ≠ p := by
    intro he
    subst he
    simp [isDirectory, hdir] at hp
  unfold enter at h ⊢
  rw [node?_put d hp, if_neg hne]
  exact h

theorem foldlM_enter_put {d : Disk} {p : Path} (hp : d.isDirectory p = false) (n : Node)
    {names : List String} {place q : Path} (h : names.foldlM d.enter place = .ok q) :
    names.foldlM (d.put p n).enter place = .ok q := by
  induction names generalizing place with
  | nil => exact h
  | cons name names ih =>
    rw [List.foldlM_cons] at h ⊢
    cases hname : d.enter place name with
    | error e =>
      rw [hname] at h
      cases h
    | ok next =>
      rw [hname] at h
      rw [enter_put hp n hname]
      exact ih h

theorem locate_put {d : Disk} {p : Path} (hp : d.isDirectory p = false) (n : Node)
    {text : String} {q : Path} (h : d.locate text = .ok q) :
    (d.put p n).locate text = .ok q := by
  unfold locate at h ⊢
  cases hc : checkText text with
  | error e =>
    rw [hc] at h
    cases h
  | ok _ =>
    rw [hc] at h
    exact foldlM_enter_put hp n h

/-- A file is written at the place of its path, which is not a directory. -/
theorem store_eq_ok {d d' : Disk} {text : String} {n : Node} (h : d.store text n = .ok d') :
    ∃ p, d.locate text = .ok p ∧ d.isDirectory p = false ∧ d' = d.put p n := by
  unfold store at h
  cases hp : d.locate text with
  | error e =>
    rw [hp] at h
    cases h
  | ok p =>
    rw [hp] at h
    change (if _ then _ else _) = _ at h
    split_ifs at h with hparent hdir
    cases h
    exact ⟨p, rfl, by simpa using hdir, rfl⟩

/-- Whether a file can be written does not depend on what is written. -/
theorem exists_store {d d' : Disk} {text : String} {n : Node} (h : d.store text n = .ok d')
    (other : Node) : ∃ d'', d.store text other = .ok d'' := by
  unfold store at h ⊢
  cases hp : d.locate text with
  | error e =>
    rw [hp] at h
    cases h
  | ok p =>
    rw [hp] at h
    change (if _ then _ else _) = _ at h
    split_ifs at h with hparent hdir
    refine ⟨d.put p other, ?_⟩
    change (if _ then _ else _) = _
    rw [if_neg hparent, if_neg hdir]

theorem find_of_store {d d' : Disk} {text : String} {n : Node} (h : d.store text n = .ok d') :
    ∃ p, d'.find text = .ok (p, n) := by
  obtain ⟨p, hp, hdir, rfl⟩ := store_eq_ok h
  have hnode : (d.put p n).node? p = some n := by rw [node?_put d hdir, if_pos rfl]
  refine ⟨p, ?_⟩
  unfold find
  rw [locate_put hdir n hp]
  simp only [bind, Except.bind, hnode]

theorem read_of_write {d d' : Disk} {text : String} {content : Bytes}
    (h : d.write text content = .ok d') : d'.read text = .ok content := by
  obtain ⟨p, hp⟩ := find_of_store h
  unfold read
  rw [hp]
  rfl

theorem read_of_append {d d' : Disk} {text : String} {content : Bytes}
    (h : d.append text content = .ok d') :
    ∃ old, (d.read text = .ok old ∨ d.read text = .error .missing ∧ old = []) ∧
      d'.read text = .ok (old ++ content) := by
  unfold append at h
  split at h
  · rename_i old hold
    exact ⟨old, .inl hold, read_of_write h⟩
  · rename_i hmissing
    exact ⟨[], .inr ⟨hmissing, rfl⟩, read_of_write h⟩
  · cases h

/-! ## Fewer nodes -/

theorem find_eq_ok {d : Disk} {text : String} {p : Path} {n : Node} :
    d.find text = .ok (p, n) ↔ d.locate text = .ok p ∧ d.node? p = some n := by
  unfold find
  cases d.locate text with
  | error e => simp [bind, Except.bind]
  | ok q =>
    constructor
    · intro h
      cases hnode : d.node? q with
      | none => simp [bind, Except.bind, hnode] at h
      | some m =>
        simp only [bind, Except.bind, hnode, Except.ok.injEq, Prod.mk.injEq] at h
        obtain ⟨rfl, rfl⟩ := h
        exact ⟨rfl, hnode⟩
    · rintro ⟨hq, hnode⟩
      obtain rfl := Except.ok.inj hq
      simp [bind, Except.bind, hnode]

theorem has_iff {d : Disk} {text : String} :
    d.has text = true ↔ ∃ p n, d.locate text = .ok p ∧ d.node? p = some n := by
  simp only [← find_eq_ok, has]
  cases d.find text with
  | error e => simp [Except.isOk, Except.toBool]
  | ok found => exact iff_of_true rfl ⟨found.1, found.2, rfl⟩

/-- Every node of `d'` is one of `d`. -/
def Within (d' d : Disk) : Prop := ∀ r n, d'.node? r = some n → d.node? r = some n

section
variable {d' d : Disk} (hwithin : Within d' d)
include hwithin

theorem enter_within {place q : Path} {name : String} (h : d'.enter place name = .ok q) :
    d.enter place name = .ok q := by
  unfold enter at h ⊢
  split at h
  · cases h
  · rw [hwithin place .directory ‹_›]
    exact h
  · cases h

theorem foldlM_enter_within {names : List String} {place q : Path}
    (h : names.foldlM d'.enter place = .ok q) : names.foldlM d.enter place = .ok q := by
  induction names generalizing place with
  | nil => exact h
  | cons name names ih =>
    rw [List.foldlM_cons] at h ⊢
    cases hname : d'.enter place name with
    | error e =>
      rw [hname] at h
      cases h
    | ok next =>
      rw [hname] at h
      rw [enter_within hwithin hname]
      exact ih h

theorem locate_within {text : String} {p : Path} (h : d'.locate text = .ok p) :
    d.locate text = .ok p := by
  unfold locate at h ⊢
  cases hcheck : checkText text with
  | error e =>
    rw [hcheck] at h
    cases h
  | ok _ =>
    rw [hcheck] at h
    exact foldlM_enter_within hwithin h

theorem read_within {text : String} {content : Bytes} (h : d'.read text = .ok content) :
    d.read text = .ok content := by
  unfold read at h ⊢
  cases hfind : d'.find text with
  | error e =>
    rw [hfind] at h
    cases h
  | ok found =>
    obtain ⟨hlocate, hnode⟩ := find_eq_ok.mp hfind
    rw [find_eq_ok.mpr ⟨locate_within hwithin hlocate, hwithin _ _ hnode⟩]
    rw [hfind] at h
    exact h

theorem has_within {text : String} (h : d.has text = false) : d'.has text = false := by
  rw [← Bool.not_eq_true] at h ⊢
  intro hthere
  obtain ⟨p, n, hlocate, hnode⟩ := has_iff.mp hthere
  exact h (has_iff.mpr ⟨p, n, locate_within hwithin hlocate, hwithin p n hnode⟩)

end

theorem lookup_without (d : Disk) (q r : Path) :
    (d.without q).nodes.lookup r = if r = q then none else d.nodes.lookup r := by
  unfold without
  generalize d.nodes = nodes
  induction nodes with
  | nil => simp
  | cons e nodes ih =>
    obtain ⟨s, n⟩ := e
    by_cases hs : s = q
    · rw [List.filter_cons_of_neg (by simpa using hs), ih, List.lookup_cons]
      by_cases hr : r = q
      · simp [hr]
      · simp [hr, beq_eq_false_iff_ne.mpr (hs ▸ hr)]
    · rw [List.filter_cons_of_pos (by simpa using hs), List.lookup_cons, List.lookup_cons, ih]
      by_cases hr : r = q
      · simp [hr, beq_eq_false_iff_ne.mpr (Ne.symm hs)]
      · simp [hr]

theorem without_within (d : Disk) (q : Path) : Within (d.without q) d := by
  intro r n h
  unfold node? at h ⊢
  rw [lookup_without] at h
  split_ifs at h ⊢ with hroot hq
  · exact h
  · exact h

theorem removeFile_eq_ok {d d' : Disk} {text : String} (h : d.removeFile text = .ok d') :
    ∃ p n, d.find text = .ok (p, n) ∧ n ≠ .directory ∧ d' = d.without p := by
  unfold removeFile at h
  cases hfind : d.find text with
  | error e =>
    rw [hfind] at h
    cases h
  | ok found =>
    rw [hfind] at h
    change (if _ then _ else _) = _ at h
    split_ifs at h with hdir
    cases h
    exact ⟨found.1, found.2, rfl, hdir, rfl⟩

/-- A path that leads to nothing leads to nothing after a file is removed. -/
theorem has_of_removeFile {d d' : Disk} {text : String} (h : d.removeFile text = .ok d')
    {other : String} (hother : d.has other = false) : d'.has other = false := by
  obtain ⟨p, n, -, -, rfl⟩ := removeFile_eq_ok h
  exact has_within (without_within d p) hother

theorem not_has_of_removeFile {d d' : Disk} {text : String} (h : d.removeFile text = .ok d') :
    d'.has text = false := by
  obtain ⟨p, n, hfind, hfile, rfl⟩ := removeFile_eq_ok h
  obtain ⟨hlocate, hnode⟩ := find_eq_ok.mp hfind
  rw [← Bool.not_eq_true]
  intro hthere
  obtain ⟨q, m, hlocate', hnode'⟩ := has_iff.mp hthere
  have hsame : p = q :=
    Except.ok.inj (hlocate.symm.trans (locate_within (without_within d p) hlocate'))
  subst hsame
  have hroot : ¬(p = [] ∨ p = ["/"]) := by
    intro hroot
    rw [node?, if_pos hroot] at hnode
    exact hfile (Option.some.inj hnode).symm
  rw [node?, if_neg hroot, lookup_without, if_pos rfl] at hnode'
  cases hnode'

end Disk

namespace OnDisk

theorem perform_bind {α β : Type} (work : OnDisk α) (rest : α → OnDisk β) (d : Disk) :
    (work >>= rest).perform d =
      match work.perform d with
      | (.ok a, d) => (rest a).perform d
      | (.error e, d) => (.error e, d) := by
  unfold perform
  rw [ExceptT.run_bind, StateT.run_bind]
  rcases (StateT.run work.run d) with ⟨_ | _, _⟩ <;> rfl

theorem perform_change (f : Disk → Except FileError Disk) (d : Disk) :
    (change f).perform d =
      match f d with
      | .ok d => (.ok (), d)
      | .error e => (.error e, d) := by
  have hget : (get : OnDisk Disk).perform d = (.ok d, d) := rfl
  rw [change, perform_bind, hget]
  cases hf : f d <;> simp only [hf] <;> rfl

theorem perform_has (path : String) (d : Disk) : (has path).perform d = (.ok (d.has path), d) := rfl

theorem perform_look {α : Type} (f : Disk → Except FileError α) (d : Disk) :
    (look f).perform d =
      match f d with
      | .ok a => (.ok a, d)
      | .error e => (.error e, d) := by
  have hget : (get : OnDisk Disk).perform d = (.ok d, d) := rfl
  rw [look, perform_bind, hget]
  cases hf : f d <;> simp only [hf] <;> rfl

end OnDisk
end DnsFilter
