import DnsFilter.Proofs.Log.Retiring
/-!
# The files of a log as they stand

What stands under the names of a log in its directory, with the archives in the order in which they
are listed, and what a rotation makes of it.
-/
namespace DnsFilter

theorem lookup_eq_some_iff_mem {α : Type} {l : List (String × α)} (h : (l.map (·.1)).Nodup)
    {name : String} {a : α} : l.lookup name = some a ↔ (name, a) ∈ l := by
  induction l with
  | nil => simp
  | cons e l ih =>
    obtain ⟨other, b⟩ := e
    rw [List.map_cons, List.nodup_cons] at h
    rw [List.lookup_cons, List.mem_cons]
    by_cases heq : name = other
    · subst heq
      have hnot : (name, a) ∉ l := fun hmem => h.1 (List.mem_map_of_mem (f := (·.1)) hmem)
      simp [hnot, eq_comm]
    · simp [beq_eq_false_iff_ne.mpr heq, heq, ih h.2]

theorem lookup_of_notMem {α : Type} {l : List (String × α)} {name : String}
    (h : name ∉ l.map (·.1)) : l.lookup name = none := by
  rw [List.lookup_eq_none_iff]
  intro e he
  have hne : name ≠ e.1 := by
    rintro rfl
    exact h (List.mem_map_of_mem he)
  simpa using hne

theorem lookup_perm {α : Type} {l l' : List (String × α)} (hperm : l.Perm l')
    (h : (l.map (·.1)).Nodup) (name : String) : l.lookup name = l'.lookup name := by
  ext a
  rw [lookup_eq_some_iff_mem h, lookup_eq_some_iff_mem ((hperm.map (·.1)).nodup_iff.mp h),
    hperm.mem_iff]

theorem lookup_concat {α : Type} {l : List (String × α)} {name : String}
    (h : name ∉ l.map (·.1)) (a : α) (other : String) :
    (l ++ [(name, a)]).lookup other = if other = name then some a else l.lookup other := by
  rw [List.lookup_append]
  by_cases hsame : other = name
  · rw [if_pos hsame, hsame, lookup_of_notMem h]
    simp
  · simp [hsame, List.lookup_cons, beq_eq_false_iff_ne.mpr hsame]

theorem lookup_map_snd {α β : Type} (g : α → β) (l : List (String × α)) (name : String) :
    (l.map fun a => (a.1, g a.2)).lookup name = (l.lookup name).map g := by
  induction l with
  | nil => rfl
  | cons a l ih =>
    rw [List.map_cons, List.lookup_cons, List.lookup_cons, ih]
    cases name == a.1 <;> rfl

/-- What is left of a table without its first rows. -/
theorem lookup_drop {α : Type} {removed kept : List (String × α)}
    (h : ((removed ++ kept).map (·.1)).Nodup) (name : String) :
    kept.lookup name =
      if name ∈ removed.map (·.1) then none else (removed ++ kept).lookup name := by
  rw [List.map_append, List.nodup_append] at h
  split_ifs with hname
  · exact lookup_of_notMem fun hkept => h.2.2 name hname name hkept rfl
  · rw [List.lookup_append, lookup_of_notMem hname, Option.none_or]

/-- The files of a log, the archives with their names and the oldest one first. -/
structure LogNodes where
  archives : List (String × Node) := []
  predecessor : Option Node := none
  active : Option Node := none
  deriving DecidableEq, Repr

namespace LogNodes

def names (y : LogNodes) : List String := y.archives.map (·.1)

def made (y : LogNodes) (now : Timestamp) : List (String × Node) :=
  (y.predecessor.bind Node.content?).toList.map fun content =>
    (LogName.nextArchive now y.names, .packed content)

end LogNodes

namespace LogFiles

structure Has (f : LogFiles) (p : Path) (d : Disk) (y : LogNodes) : Prop
    extends f.HasFiles p d where
  nodup : (d.children p).Nodup
  archives : ∀ name, LogName.isArchive name.toList = true →
    d.entry p name = y.archives.lookup name
  ascending : LogName.IsAscending y.names
  named : ∀ name ∈ y.names, LogName.isArchive name.toList = true ∧ Disk.IsPlainName name ∧
    Disk.Fits f.dir name
  predecessor : d.entry p LogName.predecessor = y.predecessor
  active : d.entry p LogName.active = y.active

theorem archives_of_isAt {f : LogFiles} {p : Path} {d : Disk} (h : d.IsAt f.dir p) :
    f.archives d = .ok (LogName.archives (d.children p)) := by
  rw [LogFiles.archives, Disk.list_eq_children h]
  rfl

theorem isAt_of_archives {f : LogFiles} {d : Disk} {names : List String}
    (h : f.archives d = .ok names) :
    ∃ p, d.IsAt f.dir p ∧ names = LogName.archives (d.children p) := by
  unfold archives at h
  cases hlist : d.list f.dir with
  | error e =>
    rw [hlist] at h
    cases h
  | ok listed =>
    rw [hlist] at h
    obtain ⟨p, hplace, rfl⟩ := Disk.isAt_of_list hlist
    exact ⟨p, hplace, (Except.ok.inj h).symm⟩

namespace Has

variable {f : LogFiles} {p : Path} {d : Disk} {y : LogNodes} (h : f.Has p d y)
include h

theorem mem_names_iff {name : String} (hname : LogName.isArchive name.toList = true) :
    name ∈ d.children p ↔ name ∈ y.names := by
  rw [Disk.mem_children, h.archives name hname, List.lookup_isSome_iff]
  simp [LogNodes.names]

theorem archives_eq : f.archives d = .ok y.names := by
  rw [archives_of_isAt h.place]
  have hlist := LogName.archives_eq h.nodup h.ascending (fun name hname => (h.named name hname).1)
    fun name hname => h.mem_names_iff hname
  exact congrArg Except.ok hlist

theorem current_changed {d' : Disk} (hfiles : f.HasFiles p d') (hnodup : (d'.children p).Nodup)
    (hothers : ∀ name, LogName.isArchive name.toList = true → d'.entry p name = d.entry p name) :
    f.Has p d' { y with
      predecessor := d'.entry p LogName.predecessor, active := d'.entry p LogName.active } where
  toHasFiles := hfiles
  nodup := hnodup
  archives name hname := (hothers name hname).trans (h.archives name hname)
  ascending := h.ascending
  named := h.named
  predecessor := rfl
  active := rfl

/-! ## Steps of a rotation -/

theorem put_archive {name : String} {content : Bytes} {all : List (String × Node)}
    (hall : all.Perm (y.archives ++ [(name, .packed content)]))
    (hascending : LogName.IsAscending (all.map (·.1)))
    (hname : LogName.isArchive name.toList = true) (hplain : Disk.IsPlainName name)
    (hfits : Disk.Fits f.dir name) :
    f.Has p (d.put (p ++ [name]) (.packed content)) { y with archives := all } where
  toHasFiles := h.toHasFiles.put_archive hname hplain content
  nodup := Disk.nodup_children_put d p _ _ h.nodup
  archives other hother := by
    have hkeys : (y.archives ++ [(name, Node.packed content)]).map (·.1) |>.Nodup :=
      (hall.map (·.1)).nodup_iff.mp hascending.nodup
    have hnew : name ∉ y.archives.map (·.1) := by
      rw [List.map_append, List.nodup_append] at hkeys
      exact fun hmem => hkeys.2.2 name hmem name (by simp) rfl
    rw [Disk.entry_put, h.archives other hother, lookup_perm hall hascending.nodup,
      lookup_concat hnew]
  ascending := hascending
  named other hother := by
    have hmem := (hall.map (·.1)).mem_iff.mp hother
    rw [List.map_append, List.mem_append] at hmem
    rcases hmem with hold | hnew
    · exact h.named other hold
    · obtain rfl := List.mem_singleton.mp hnew
      exact ⟨hname, hplain, hfits⟩
  predecessor := by
    rw [Disk.entry_put, if_neg (ne_of_isArchive hname).2.symm]
    exact h.predecessor
  active := by
    rw [Disk.entry_put, if_neg (ne_of_isArchive hname).1.symm]
    exact h.active

theorem remove_predecessor :
    f.Has p (d.without (p ++ [LogName.predecessor])) { y with predecessor := none } := by
  have hchanged := h.current_changed
    (h.toHasFiles.remove (.inr (.inl rfl)) LogName.isPlainName_predecessor)
    (Disk.nodup_children_without d p _ h.nodup) fun name hname => by
      rw [Disk.entry_without, if_neg (ne_of_isArchive hname).2]
  rwa [Disk.entry_without, if_pos rfl, Disk.entry_without, if_neg active_ne_predecessor,
    h.active] at hchanged

theorem retire (hnone : y.predecessor = none) (hfits : Disk.Fits f.dir LogName.predecessor) :
    f.Has p (retired p d) { y with predecessor := y.active, active := none } := by
  have hfree : d.entry p LogName.predecessor = none := h.predecessor.trans hnone
  have hchanged := h.current_changed (h.toHasFiles.retire hfree hfits)
    (Disk.nodup_children_moveTree d active_ne_predecessor hfree h.nodup) fun name hname => by
      rw [retired, Disk.entry_moveTree d active_ne_predecessor hfree,
        if_neg (ne_of_isArchive hname).2, if_neg (ne_of_isArchive hname).1]
  rwa [retired, Disk.entry_moveTree d active_ne_predecessor hfree, if_pos rfl, h.active,
    Disk.entry_moveTree d active_ne_predecessor hfree, if_neg active_ne_predecessor,
    if_pos rfl] at hchanged

theorem archive {now : Timestamp} {all : List (String × Node)}
    (hall : all.Perm (y.archives ++ y.made now))
    (hascending : LogName.IsAscending (all.map (·.1)))
    (hplain : Disk.IsPlainName (LogName.nextArchive now y.names))
    (hfits : y.predecessor.isSome = true → Disk.Fits f.dir (LogName.nextArchive now y.names)) :
    f.Has p (archivedAs p d (LogName.nextArchive now y.names))
      { y with archives := all, predecessor := none } := by
  rw [archivedAs, h.predecessor]
  unfold LogNodes.made at hall
  cases hpredecessor : y.predecessor with
  | none =>
    rw [hpredecessor, Option.bind_none, Option.toList_none, List.map_nil, List.append_nil] at hall
    exact { h with
      archives := fun name hname =>
        (h.archives name hname).trans (lookup_perm hall hascending.nodup name).symm
      ascending := hascending
      named := fun name hname => h.named name ((hall.map (·.1)).mem_iff.mp hname)
      predecessor := h.predecessor.trans hpredecessor }
  | some n =>
    obtain ⟨content, hcontent⟩ :=
      h.content_of_entry (.inr (.inl rfl)) (h.predecessor.trans hpredecessor)
    simp only [hpredecessor, Option.bind_some, hcontent, Option.toList_some, List.map_cons,
      List.map_nil] at hall ⊢
    exact (h.put_archive hall hascending (LogName.isArchive_nextArchive now y.names) hplain
      (hfits (by rw [hpredecessor]; rfl))).remove_predecessor

/-! ## Pruning -/

/-- A pruning removes the oldest archives and nothing else. -/
theorem prune (maxArchives : Nat) :
    ∃ d', (f.prune maxArchives).perform d = (.ok (), d') ∧
      f.Has p d' { y with archives := y.archives.drop (y.archives.length - maxArchives) } ∧
      Disk.SameBut p y.names d d' := by
  have hsplit : y.archives.take (y.archives.length - maxArchives) ++
      y.archives.drop (y.archives.length - maxArchives) = y.archives := List.take_append_drop _ _
  have hremoved : y.names.take (y.names.length - maxArchives) =
      (y.archives.take (y.archives.length - maxArchives)).map (·.1) := by
    rw [LogNodes.names, List.length_map, List.map_take]
  generalize y.archives.take (y.archives.length - maxArchives) = removed at hsplit hremoved
  generalize y.archives.drop (y.archives.length - maxArchives) = kept at hsplit
  have hnames : y.names = removed.map (·.1) ++ kept.map (·.1) := by
    rw [LogNodes.names, ← hsplit, List.map_append]
  have hnodup := h.ascending.nodup
  have hascending := h.ascending
  rw [hnames] at hnodup hascending
  obtain ⟨d', hperform, hfiles, hsame, hentries, hchildren⟩ :=
    h.toHasFiles.removals_perform (List.nodup_append.mp hnodup).1 fun name hname => by
      have hmem : name ∈ y.names := hnames ▸ List.mem_append_left _ hname
      obtain ⟨harchive, hplain, hfits⟩ := h.named name hmem
      exact ⟨harchive, hplain, hfits, Disk.mem_children.mp ((h.mem_names_iff harchive).mpr hmem)⟩
  have hstays {name : String} (hname : ¬LogName.isArchive name.toList = true) :
      d'.entry p name = d.entry p name := by
    rw [hentries, if_neg fun hmem => hname ?_]
    exact (h.named name (hnames ▸ List.mem_append_left _ hmem)).1
  refine ⟨d', ?_, ?_, fun r hr => hsame r fun name hname => hr name ?_⟩
  · rw [prune_perform, h.archives_eq]
    simp only
    rw [hremoved, hperform]
  · exact {
      toHasFiles := hfiles
      nodup := hchildren h.nodup
      archives := fun name hname => by
        rw [hentries, h.archives name hname, ← hsplit]
        exact (lookup_drop (by rwa [List.map_append]) name).symm
      ascending := (List.pairwise_append.mp hascending).2.1
      named := fun name hname => h.named name (hnames ▸ List.mem_append_right _ hname)
      predecessor := (hstays (by decide)).trans h.predecessor
      active := (hstays (by decide)).trans h.active }
  · exact hnames ▸ List.mem_append_left _ hname

end Has

/-! ## Rotations -/

/-- Nothing changed but the files of a log in the directory at `p`. -/
def SameElsewhere (p : Path) (d d' : Disk) : Prop :=
  ∀ r, (∀ name, LogName.IsLogFile name → ¬p ++ [name] <+: r) → d'.node? r = d.node? r

section
variable {p : Path} {d d' d'' : Disk}

theorem sameElsewhere_of_sameBut {touched : List String} (h : Disk.SameBut p touched d d')
    (hlog : ∀ name ∈ touched, LogName.IsLogFile name) : SameElsewhere p d d' :=
  fun r hr => h r fun name hname => hr name (hlog name hname)

theorem SameElsewhere.trans (h : SameElsewhere p d d') (h' : SameElsewhere p d' d'') :
    SameElsewhere p d d'' := fun r hr => (h' r hr).trans (h r hr)

theorem sameElsewhere_archivedAs {name : String} (hname : LogName.isArchive name.toList = true) :
    SameElsewhere p d (archivedAs p d name) := by
  unfold archivedAs
  cases (d.entry p LogName.predecessor).bind Node.content? with
  | none => exact fun _ _ => rfl
  | some content =>
    exact (sameElsewhere_of_sameBut (Disk.sameBut_put d p name _)
        (by simpa using .inr (.inr hname))).trans
      (sameElsewhere_of_sameBut (Disk.sameBut_without _ p _) (by simpa using .inr (.inl rfl)))

theorem sameElsewhere_retired : SameElsewhere p d (retired p d) := by
  refine sameElsewhere_of_sameBut (Disk.sameBut_moveTree d) ?_
  simpa using ⟨.inl rfl, .inr (.inl rfl)⟩

end

/-- A rotation archives the predecessor, puts the active file in its place and keeps the newest
archives. Nothing else changes, and nothing at all where one of the two paths that it writes to is too
long. -/
theorem Has.rotate {f : LogFiles} {p : Path} {d : Disk} {y : LogNodes} (h : f.Has p d y)
    (hactive : y.active.isSome = true) {now : Timestamp}
    (hplain : Disk.IsPlainName (LogName.nextArchive now y.names)) {all : List (String × Node)}
    (hall : all.Perm (y.archives ++ y.made now))
    (hascending : LogName.IsAscending (all.map (·.1))) (maxArchives : Nat) :
    (∃ e, (f.rotate .released maxArchives now).perform d = (.error e, d) ∧
        (¬Disk.Fits f.dir LogName.predecessor ∨
          y.predecessor.isSome = true ∧ ¬Disk.Fits f.dir (LogName.nextArchive now y.names))) ∨
      ∃ d', (f.rotate .released maxArchives now).perform d = (.ok (), d') ∧
        f.Has p d' ⟨all.drop (all.length - maxArchives), y.active, none⟩ ∧
        SameElsewhere p d d' ∧
        (y.predecessor.isSome = true → Disk.Fits f.dir (LogName.nextArchive now y.names)) := by
  obtain ⟨n, hn⟩ := Option.isSome_iff_exists.mp hactive
  have hname := LogName.isArchive_nextArchive now y.names
  rcases h.toHasFiles.rotate_perform (h.active.trans hn) h.archives_eq hplain maxArchives with
    hfails | ⟨hperform, hfits, harchiveFits⟩
  · rw [h.predecessor] at hfails
    exact .inl hfails
  · rw [h.predecessor] at harchiveFits
    obtain ⟨d', hprune, hhas, hsame⟩ :=
      ((h.archive hall hascending hplain harchiveFits).retire rfl hfits).prune maxArchives
    refine .inr ⟨d', hperform.trans hprune, hhas, ?_, harchiveFits⟩
    refine ((sameElsewhere_archivedAs hname).trans sameElsewhere_retired).trans
      (sameElsewhere_of_sameBut hsame fun name hmem => .inr (.inr ?_))
    have hmem : name ∈ (y.archives ++ y.made now).map (·.1) := (hall.map (·.1)).mem_iff.mp hmem
    rw [List.map_append, List.mem_append] at hmem
    rcases hmem with hold | hnew
    · exact (h.named name hold).1
    · obtain ⟨_, hmade, rfl⟩ := List.mem_map.mp hnew
      obtain ⟨content, -, rfl⟩ := List.mem_map.mp hmade
      exact hname

end LogFiles
end DnsFilter
