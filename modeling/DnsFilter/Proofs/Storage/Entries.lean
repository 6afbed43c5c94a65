import Mathlib.Data.List.Nodup
import DnsFilter.Proofs.Storage.Directory
/-!
# Files of a directory

The names in a directory, what stands under each, and what making, removing and renaming a file in
it changes. Where the names that a change touches are not those of directories, the way to the
directory stays as it was.
-/
namespace DnsFilter

def Node.content? : Node → Option Bytes
  | .directory => none
  | .plain content => some content
  | .packed content => some content

namespace Disk

/-! ## What stands under a name -/

def entry (d : Disk) (p : Path) (name : String) : Option Node := d.nodes.lookup (p ++ [name])

def childName (p : Path) (e : Path × Node) : Option String :=
  match e.1.getLast? with
  | some name => if e.1.dropLast = p then some name else none
  | none => none

def children (d : Disk) (p : Path) : List String := d.nodes.filterMap (childName p)

theorem childName_eq_some {p : Path} {e : Path × Node} {name : String} :
    childName p e = some name ↔ e.1 = p ++ [name] := by
  obtain ⟨q, n⟩ := e
  unfold childName
  rcases List.eq_nil_or_concat q with rfl | ⟨front, last, rfl⟩
  · simp
  · simp [and_comm]

theorem childName_below (p : Path) (name : String) (rest : Path) (n : Node) :
    childName p (p ++ [name] ++ rest, n) = if rest = [] then some name else none := by
  split_ifs with hrest
  · rw [hrest, List.append_nil]
    exact childName_eq_some.mpr rfl
  · refine Option.eq_none_iff_forall_ne_some.mpr fun other hother => hrest ?_
    have hlen := congrArg List.length (childName_eq_some.mp hother)
    simpa using hlen

theorem mem_children {d : Disk} {p : Path} {name : String} :
    name ∈ d.children p ↔ (d.entry p name).isSome = true := by
  simp only [children, List.mem_filterMap, childName_eq_some, entry, List.lookup_isSome_iff,
    beq_iff_eq]
  exact ⟨fun ⟨e, he, hp⟩ => ⟨e, he, hp.symm⟩, fun ⟨e, he, hp⟩ => ⟨e, he, hp.symm⟩⟩

theorem node?_entry (d : Disk) (p : Path) {name : String} (hname : '/' ∉ name.toList) :
    d.node? (p ++ [name]) = d.entry p name := by
  have hroot : ¬(p ++ [name] = [] ∨ p ++ [name] = ["/"]) := by
    rintro (hnil | hslash)
    · simp at hnil
    · obtain rfl : name = "/" := by
        have hlast := congrArg List.getLast? hslash
        simpa using hlast
      exact hname (by decide)
  rw [node?, if_neg hroot, entry]

theorem isAt_of_list {d : Disk} {dir : String} {names : List String} (h : d.list dir = .ok names) :
    ∃ p, d.IsAt dir p ∧ d.children p = names := by
  unfold list at h
  cases hfind : d.find dir with
  | error e =>
    rw [hfind] at h
    cases h
  | ok found =>
    obtain ⟨p, n⟩ := found
    rw [hfind] at h
    simp only [bind, Except.bind] at h
    split_ifs at h with hn
    obtain rfl := hn
    obtain ⟨hlocate, hnode⟩ := find_eq_ok.mp hfind
    exact ⟨p, ⟨hlocate, node?_eq_directory.mp hnode⟩, Except.ok.inj h⟩

section
variable {d : Disk} {dir : String} {p : Path} (h : d.IsAt dir p)
include h

theorem list_eq_children : d.list dir = .ok (d.children p) := by
  have hfind : d.find dir = .ok (p, .directory) := by
    simp [find, h.locate, node?_eq_directory.mpr h.directory, bind, Except.bind]
  unfold list
  rw [hfind]
  rfl

variable {name : String} (hname : IsPlainName name) (hfits : Fits dir name)
include hname hfits

theorem find_join :
    d.find (join dir name) =
      match d.entry p name with
      | some n => .ok (p ++ [name], n)
      | none => .error .missing := by
  unfold find
  rw [locate_fits h hname hfits, ← node?_entry d p hname.no_slash]
  rfl

theorem has_join : d.has (join dir name) = (d.entry p name).isSome := by
  rw [has, find_join h hname hfits]
  cases d.entry p name <;> rfl

end

section
variable {d : Disk} {dir : String} {p : Path} (h : d.IsAt dir p) {name : String}
  (hname : IsPlainName name)
include h hname

/-- Whether a path leads to a file, if it can be followed where there is one. -/
theorem has_join_of_fits (hfits : (d.entry p name).isSome = true → Fits dir name) :
    d.has (join dir name) = (d.entry p name).isSome := by
  by_cases hlong : Fits dir name
  · exact has_join h hname hlong
  · obtain ⟨e, -, he⟩ := locate_not_fits h hname hlong
    have hnone : (d.entry p name).isSome = false := by
      rw [← Bool.not_eq_true]
      exact fun hsome => hlong (hfits hsome)
    rw [hnone, has, find, he]
    rfl

theorem entry_of_find {q : Path} {n : Node} (hfind : d.find (join dir name) = .ok (q, n)) :
    Fits dir name ∧ d.entry p name = some n := by
  by_cases hfits : Fits dir name
  · rw [find_join h hname hfits] at hfind
    cases hentry : d.entry p name with
    | none =>
      rw [hentry] at hfind
      cases hfind
    | some m =>
      rw [hentry] at hfind
      obtain ⟨-, rfl⟩ := Prod.mk.inj (Except.ok.inj hfind)
      exact ⟨hfits, rfl⟩
  · obtain ⟨e, -, he⟩ := locate_not_fits h hname hfits
    rw [find, he] at hfind
    cases hfind

theorem entry_of_missing (hfind : d.find (join dir name) = .error .missing) :
    Fits dir name ∧ d.entry p name = none := by
  by_cases hfits : Fits dir name
  · rw [find_join h hname hfits] at hfind
    cases hentry : d.entry p name with
    | none => exact ⟨hfits, rfl⟩
    | some m =>
      rw [hentry] at hfind
      cases hfind
  · obtain ⟨e, hother, he⟩ := locate_not_fits h hname hfits
    rw [find, he] at hfind
    exact absurd (Except.error.inj hfind) hother

end

/-! ## Changes inside a directory -/

/-- Nothing changed but at some names in the directory at `p`, and below them. -/
def SameBut (p : Path) (touched : List String) (d d' : Disk) : Prop :=
  ∀ r, (∀ name ∈ touched, ¬p ++ [name] <+: r) → d'.node? r = d.node? r

theorem not_prefix_self (p : Path) (name : String) : ¬p ++ [name] <+: p := by
  intro h
  have hlen := h.length_le
  rw [List.length_append, List.length_singleton] at hlen
  omega

/-- No way leads on from a place without a directory. -/
theorem foldlM_enter_file {d : Disk} {names : List String} {place q : Path}
    (hplace : d.isDirectory place = false) (hq : d.isDirectory q = true) :
    names.foldlM d.enter place ≠ .ok q := by
  intro hwalk
  cases names with
  | nil =>
    obtain rfl := Except.ok.inj hwalk
    exact absurd (hplace.symm.trans hq) (by decide)
  | cons name names =>
    obtain ⟨next, hstep, -⟩ := foldlM_enter_append [name] hwalk
    have hstep : d.enter place name = .ok next := by simpa using hstep
    exact absurd (hplace.symm.trans (enter_cases hstep).1) (by decide)

section
variable {p : Path} {touched : List String} {d d' : Disk} (hsame : SameBut p touched d d')
  (hfiles : ∀ name ∈ touched, d.isDirectory (p ++ [name]) = false)
include hsame hfiles

/-- A way that ends at a directory does not lead through files. -/
theorem foldlM_enter_same {names : List String} {place q : Path}
    (hplace : ∀ name ∈ touched, ¬p ++ [name] <+: place)
    (hwalk : names.foldlM d.enter place = .ok q) (hq : d.isDirectory q = true) :
    names.foldlM d'.enter place = .ok q := by
  induction names generalizing place with
  | nil => exact hwalk
  | cons step names ih =>
    obtain ⟨next, hstep, hrest⟩ := foldlM_enter_append [step] hwalk
    have hstep : d.enter place step = .ok next := by simpa using hstep
    have hstep' : d'.enter place step = .ok next := by
      unfold enter at hstep ⊢
      rwa [hsame place hplace]
    have hnext : ∀ name ∈ touched, ¬p ++ [name] <+: next := by
      intro name hname hbelow
      obtain ⟨-, rfl | rfl | rfl⟩ := enter_cases hstep
      · exact hplace name hname hbelow
      · exact hplace name hname (hbelow.trans (List.dropLast_prefix _))
      · rcases List.prefix_concat_iff.mp hbelow with hfile | hshorter
        · exact absurd hrest (foldlM_enter_file (hfile ▸ hfiles name hname) hq)
        · exact hplace name hname hshorter
    rw [List.foldlM_cons, hstep']
    exact ih hnext hrest

theorem IsAt.of_sameBut {dir : String} (h : d.IsAt dir p) : d'.IsAt dir p := by
  have hp : d'.node? p = d.node? p := hsame p fun name _ => not_prefix_self p name
  constructor
  · obtain ⟨hcheck, hwalk⟩ := checkText_of_locate h.locate
    have hempty : ∀ name ∈ touched, ¬p ++ [name] <+: [] := by simp
    rw [Disk.locate, hcheck]
    exact foldlM_enter_same hsame hfiles hempty hwalk h.directory
  · rw [isDirectory, hp]
    exact h.directory

end

/-- The same where no name that is touched is that of a directory. -/
theorem IsAt.of_sameFiles {p : Path} {touched : List String} {d d' : Disk} {dir : String}
    (h : d.IsAt dir p) (hsame : SameBut p touched d d')
    (hfiles : ∀ name ∈ touched, '/' ∉ name.toList ∧ d.entry p name ≠ some .directory) :
    d'.IsAt dir p := by
  refine h.of_sameBut hsame fun name hname => ?_
  obtain ⟨hslash, hfile⟩ := hfiles name hname
  rw [isDirectory, node?_entry d p hslash]
  simpa using hfile

theorem concat_inj {p : Path} {a b : String} (h : p ++ [a] = p ++ [b]) : a = b := by
  simpa using h

theorem eq_of_concat_isPrefix {p : Path} {a b : String} (h : p ++ [a] <+: p ++ [b]) : a = b :=
  concat_inj (h.eq_of_length (by simp))

/-! ### Putting a file -/

section
variable (d : Disk) (p : Path) (name : String) (n : Node)

theorem entry_put (other : String) :
    (d.put (p ++ [name]) n).entry p other = if other = name then some n else d.entry p other := by
  rw [entry, lookup_put]
  by_cases hname : other = name
  · rw [if_pos hname, if_pos (by rw [hname])]
  · rw [if_neg hname, if_neg fun h => hname (concat_inj h)]
    rfl

theorem sameBut_put : SameBut p [name] d (d.put (p ++ [name]) n) := by
  intro r hr
  have hne : r ≠ p ++ [name] := by
    rintro rfl
    exact hr name List.mem_cons_self List.prefix_rfl
  rw [node?, node?, lookup_put, if_neg hne]

theorem put_put (q : Path) (m : Node) : (d.put q m).put q n = d.put q n := by
  have hthere : ((d.put q m).nodes.lookup q).isSome = true := by simp [lookup_put]
  by_cases hq : (d.nodes.lookup q).isSome = true
  · have hput (n : Node) : d.put q n =
        ⟨d.nodes.map fun e => if e.1 = q then (q, n) else e⟩ := by rw [put, if_pos hq]
    rw [put, if_pos hthere, hput, hput, List.map_map]
    congr 1
    refine List.map_congr_left fun e _ => ?_
    by_cases he : e.1 = q <;> simp [he]
  · have hput (n : Node) : d.put q n = ⟨d.nodes ++ [(q, n)]⟩ := by rw [put, if_neg hq]
    have hkeep : d.nodes.map (fun e => if e.1 = q then (q, n) else e) = d.nodes := by
      refine (List.map_congr_left fun e he => ?_).trans (List.map_id d.nodes)
      have hne : e.1 ≠ q := by
        rintro rfl
        exact hq (List.lookup_isSome_iff.mpr ⟨e, he, by simp⟩)
      rw [if_neg hne]
      rfl
    rw [put, if_pos hthere, hput, hput, List.map_append, hkeep]
    simp

theorem childName_replace (e : Path × Node) :
    childName p (if e.1 = p ++ [name] then (p ++ [name], n) else e) = childName p e := by
  split_ifs with he
  · have hboth (m : Node) : childName p (p ++ [name], m) = some name := childName_eq_some.mpr rfl
    rw [hboth, ← hboth e.2, ← he]
  · rfl

theorem children_put_of_entry (hthere : (d.entry p name).isSome = true) :
    (d.put (p ++ [name]) n).children p = d.children p := by
  have hsame : childName p ∘ (fun e => if e.1 = p ++ [name] then (p ++ [name], n) else e) =
      childName p := funext fun e => childName_replace p name n e
  rw [entry] at hthere
  rw [children, put, if_pos hthere, List.filterMap_map, hsame, children]

theorem nodup_children_put (h : (d.children p).Nodup) :
    ((d.put (p ++ [name]) n).children p).Nodup := by
  by_cases hthere : (d.entry p name).isSome = true
  · rw [children_put_of_entry d p name n hthere]
    exact h
  · have hnew : name ∉ d.children p := fun hmem => hthere (mem_children.mp hmem)
    have hlast : childName p (p ++ [name], n) = some name := childName_eq_some.mpr rfl
    rw [entry] at hthere
    rw [children, put, if_neg hthere, List.filterMap_append, List.filterMap_cons, hlast, List.filterMap_nil]
    exact List.Nodup.append h (List.nodup_singleton name) (List.disjoint_singleton.mpr hnew)

end

/-! ### Removing a file -/

section
variable (d : Disk) (p : Path) (name : String)

theorem entry_without (other : String) :
    (d.without (p ++ [name])).entry p other = if other = name then none else d.entry p other := by
  rw [entry, lookup_without]
  by_cases hname : other = name
  · rw [if_pos hname, if_pos (by rw [hname])]
  · rw [if_neg hname, if_neg fun h => hname (concat_inj h)]
    rfl

theorem sameBut_without : SameBut p [name] d (d.without (p ++ [name])) := by
  intro r hr
  have hne : r ≠ p ++ [name] := by
    rintro rfl
    exact hr name List.mem_cons_self List.prefix_rfl
  rw [node?, node?, lookup_without, if_neg hne]

theorem nodup_children_without (q : Path) (h : (d.children p).Nodup) :
    ((d.without q).children p).Nodup :=
  h.sublist (List.Sublist.filterMap _ List.filter_sublist)

end

/-! ### Renaming a file -/

section
variable (d : Disk) {p : Path} {a b : String} (hab : a ≠ b)

def moved (source target : Path) (e : Path × Node) : Path × Node :=
  if source.isPrefixOf e.1 then (target ++ e.1.drop source.length, e.2) else e

theorem lookup_map_moved {source target r : Path} (hsource : ¬source <+: r)
    (htarget : ¬target <+: r) (nodes : List (Path × Node)) :
    (nodes.map (moved source target)).lookup r = nodes.lookup r := by
  induction nodes with
  | nil => rfl
  | cons e nodes ih =>
    obtain ⟨q, n⟩ := e
    rw [List.map_cons, moved]
    split_ifs with hbelow
    · have hq : r ≠ q := by
        rintro rfl
        exact hsource (List.isPrefixOf_iff_prefix.mp hbelow)
      have hmoved : r ≠ target ++ q.drop source.length := by
        rintro rfl
        exact htarget (List.prefix_append _ _)
      simp only [List.lookup_cons, beq_eq_false_iff_ne.mpr hq, beq_eq_false_iff_ne.mpr hmoved, ih]
    · rw [List.lookup_cons, List.lookup_cons, ih]

theorem moved_eq_target {e : Path × Node} (hb : e.1 ≠ p ++ [b]) :
    (moved (p ++ [a]) (p ++ [b]) e).1 = p ++ [b] ↔ e.1 = p ++ [a] := by
  obtain ⟨q, n⟩ := e
  unfold moved
  split_ifs with hbelow
  · obtain ⟨rest, rfl⟩ := List.isPrefixOf_iff_prefix.mp hbelow
    simp
  · constructor
    · intro h
      exact absurd h hb
    · rintro rfl
      exact absurd (List.isPrefixOf_iff_prefix.mpr List.prefix_rfl) hbelow

theorem moved_snd (source target : Path) (e : Path × Node) : (moved source target e).2 = e.2 := by
  unfold moved
  split_ifs <;> rfl

theorem moveTree_nodes (source target : Path) :
    (d.moveTree source target).nodes = d.nodes.map (moved source target) := rfl

theorem sameBut_moveTree : SameBut p [a, b] d (d.moveTree (p ++ [a]) (p ++ [b])) := by
  intro r hr
  rw [node?, node?, moveTree_nodes,
    lookup_map_moved (hr a List.mem_cons_self) (hr b (by simp))]

include hab

theorem moved_ne_source (e : Path × Node) : (moved (p ++ [a]) (p ++ [b]) e).1 ≠ p ++ [a] := by
  obtain ⟨q, n⟩ := e
  unfold moved
  split_ifs with hbelow
  · intro h
    have hpre : p ++ [b] <+: p ++ [a] := ⟨_, h⟩
    exact hab (eq_of_concat_isPrefix hpre).symm
  · rintro rfl
    exact hbelow (List.isPrefixOf_iff_prefix.mpr List.prefix_rfl)

variable (hb : d.entry p b = none)
include hb

omit hab in
theorem ne_of_entry_none {e : Path × Node} (he : e ∈ d.nodes) : e.1 ≠ p ++ [b] := by
  intro h
  have hsome : (d.nodes.lookup (p ++ [b])).isSome = true :=
    List.lookup_isSome_iff.mpr ⟨e, he, by simp [h]⟩
  rw [entry] at hb
  simp [hb] at hsome

theorem entry_moveTree (other : String) :
    (d.moveTree (p ++ [a]) (p ++ [b])).entry p other =
      if other = b then d.entry p a else if other = a then none else d.entry p other := by
  have hkeys := fun e => ne_of_entry_none d hb (e := e)
  unfold entry
  rw [moveTree_nodes]
  split_ifs with htarget hsource
  · subst htarget
    generalize d.nodes = nodes at hkeys
    induction nodes with
    | nil => rfl
    | cons e nodes ih =>
      obtain ⟨hne, hrest⟩ := List.forall_mem_cons.mp hkeys
      have hmoved : (moved (p ++ [a]) (p ++ [other]) e).1 = p ++ [other] ↔ e.1 = p ++ [a] :=
        moved_eq_target hne
      have hvalue := moved_snd (p ++ [a]) (p ++ [other]) e
      rw [List.map_cons]
      generalize moved (p ++ [a]) (p ++ [other]) e = e' at hmoved hvalue
      obtain ⟨q, n⟩ := e
      obtain ⟨q', n'⟩ := e'
      simp only at hmoved hvalue
      rw [List.lookup_cons, List.lookup_cons, hvalue, ih hrest]
      by_cases hq : q = p ++ [a]
      · simp [hq, hmoved.mpr hq]
      · simp only [beq_eq_false_iff_ne.mpr (Ne.symm hq),
          beq_eq_false_iff_ne.mpr (Ne.symm fun h => hq (hmoved.mp h))]
  · subst hsource
    rw [List.lookup_eq_none_iff]
    rintro e he
    obtain ⟨e, -, rfl⟩ := List.mem_map.mp he
    simpa using (moved_ne_source hab e).symm
  · exact lookup_map_moved (fun h => hsource (eq_of_concat_isPrefix h).symm)
      (fun h => htarget (eq_of_concat_isPrefix h).symm) d.nodes

theorem nodup_children_moveTree (h : (d.children p).Nodup) :
    ((d.moveTree (p ++ [a]) (p ++ [b])).children p).Nodup := by
  have hnew : b ∉ d.children p := by simp [mem_children, hb]
  have hchild : ∀ e ∈ d.nodes, childName p (moved (p ++ [a]) (p ++ [b]) e) =
      (childName p e).map fun name => if name = a then b else name := by
    rintro ⟨q, n⟩ -
    unfold moved
    split_ifs with hbelow
    · obtain ⟨rest, rfl⟩ := List.isPrefixOf_iff_prefix.mp hbelow
      rw [List.drop_left, childName_below, childName_below]
      split_ifs <;> simp
    · cases hname : childName p (q, n) with
      | none => rfl
      | some name =>
        have hne : name ≠ a := by
          rintro rfl
          rw [childName_eq_some.mp hname] at hbelow
          exact hbelow (List.isPrefixOf_iff_prefix.mpr List.prefix_rfl)
        simp [hne]
  have hall : (d.moveTree (p ++ [a]) (p ++ [b])).children p =
      (d.children p).map fun name => if name = a then b else name := by
    unfold children
    rw [moveTree_nodes, List.filterMap_map, List.map_filterMap]
    exact List.filterMap_congr hchild
  rw [hall]
  refine List.Nodup.map_on ?_ h
  intro x hx y hy hxy
  split_ifs at hxy with hxa hya hya
  · rw [hxa, hya]
  · exact absurd (hxy ▸ hy) hnew
  · exact absurd (hxy ▸ hx) hnew
  · exact hxy

end

/-! ## Operations on the files of a directory -/

section
variable {d : Disk} {dir : String} {p : Path} (h : d.IsAt dir p) {name : String}
  (hname : IsPlainName name) (hfits : Fits dir name)
include h hname hfits

theorem store_join (hfile : d.entry p name ≠ some .directory) (n : Node) :
    d.store (join dir name) n = .ok (d.put (p ++ [name]) n) := by
  have hnot : d.isDirectory (p ++ [name]) = false := by
    rw [isDirectory, node?_entry d p hname.no_slash]
    simpa using hfile
  simp [store, locate_fits h hname hfits, h.directory, hnot, bind, Except.bind]

theorem read_join :
    d.read (join dir name) =
      match d.entry p name with
      | some .directory => .error .isDirectory
      | some (.plain content) => .ok content
      | some (.packed content) => .ok content
      | none => .error .missing := by
  rw [read, find_join h hname hfits]
  cases d.entry p name with
  | none => rfl
  | some n => cases n <;> rfl

theorem removeFile_join {n : Node} (hentry : d.entry p name = some n) (hn : n ≠ .directory) :
    d.removeFile (join dir name) = .ok (d.without (p ++ [name])) := by
  rw [removeFile, find_join h hname hfits, hentry]
  simp [bind, Except.bind, hn]

theorem rename_join {n : Node} (hentry : d.entry p name = some n) {other : String}
    (hother : IsPlainName other) (hotherFits : Fits dir other) (hne : name ≠ other)
    (hnone : d.entry p other = none) :
    d.rename (join dir name) (join dir other) =
      .ok (d.moveTree (p ++ [name]) (p ++ [other])) := by
  have hplaces : ¬p ++ [name] = p ++ [other] := fun heq => hne (concat_inj heq)
  have hfree : d.node? (p ++ [other]) = none := by rw [node?_entry d p hother.no_slash, hnone]
  rw [rename, find_join h hname hfits, hentry, locate_fits h hother hotherFits]
  simp only [bind, Except.bind, List.dropLast_concat, h.directory, hfree]
  simp [hplaces]

end

section
variable {d : Disk} {dir : String} {p : Path} (h : d.IsAt dir p) {source target : String}
  (hsource : IsPlainName source) (htarget : IsPlainName target)
include h hsource htarget

/-- The packed file is made empty, and then holds the content of the other one. -/
theorem pack_join (hsourceFits : Fits dir source) (htargetFits : Fits dir target) {n : Node}
    (hentry : d.entry p source = some n) {content : Bytes} (hcontent : n.content? = some content)
    (hfile : d.entry p target ≠ some .directory) :
    (OnDisk.pack (join dir source) (join dir target)).perform d =
      (.ok (), d.put (p ++ [target]) (.packed content)) := by
  have hfind : d.find (join dir source) = .ok (p ++ [source], n) := by
    rw [find_join h hsource hsourceFits, hentry]
  have hmade : (d.put (p ++ [target]) (.packed [])).IsAt dir p :=
    h.of_sameFiles (sameBut_put d p target _) (by simpa using ⟨htarget.no_slash, hfile⟩)
  have hsecond : (d.put (p ++ [target]) (.packed [])).store (join dir target) (.packed content) =
      .ok (d.put (p ++ [target]) (.packed content)) := by
    rw [store_join hmade htarget htargetFits (by simp [entry_put]), put_put]
  rw [OnDisk.pack, OnDisk.perform_bind, OnDisk.perform_look, hfind]
  simp only
  rw [OnDisk.perform_bind, OnDisk.perform_change, store_join h htarget htargetFits hfile]
  cases n with
  | directory => cases hcontent
  | plain old =>
    obtain rfl := Option.some.inj hcontent
    simp only
    rw [OnDisk.perform_change, hsecond]
  | packed old =>
    obtain rfl := Option.some.inj hcontent
    simp only
    rw [OnDisk.perform_change, hsecond]

/-- Where the path of the packed file is too long, nothing is done. -/
theorem pack_join_fails (hsourceFits : Fits dir source) (htargetLong : ¬Fits dir target)
    {n : Node} (hentry : d.entry p source = some n) :
    ∃ e, (OnDisk.pack (join dir source) (join dir target)).perform d = (.error e, d) := by
  obtain ⟨e, -, he⟩ := locate_not_fits h htarget htargetLong
  have hstore : d.store (join dir target) (.packed []) = .error e := by
    rw [store, he]
    rfl
  refine ⟨e, ?_⟩
  rw [OnDisk.pack, OnDisk.perform_bind, OnDisk.perform_look,
    find_join h hsource hsourceFits, hentry]
  simp only
  rw [OnDisk.perform_bind, OnDisk.perform_change, hstore]

theorem rename_join_fails (hsourceFits : Fits dir source) (htargetLong : ¬Fits dir target)
    {n : Node} (hentry : d.entry p source = some n) :
    ∃ e, d.rename (join dir source) (join dir target) = .error e := by
  obtain ⟨e, -, he⟩ := locate_not_fits h htarget htargetLong
  refine ⟨e, ?_⟩
  rw [rename, find_join h hsource hsourceFits, hentry, he]
  rfl

end

end Disk
end DnsFilter
