import DnsFilter.Log.Writer
import DnsFilter.Proofs.Log.Nodes
/-!
# The folder of a log

What the files of a log hold, with the archives in the order in which they are listed, and what
appending to the active file makes of it.
-/
namespace DnsFilter

def LogWriter.bytesOf (entries : List LogEntry) : Bytes := Utf8.encode (linesOf entries)

/-- What the files of a log hold. The archives stand under their names, the oldest first. -/
structure LogFolder where
  archives : List (String × Bytes) := []
  predecessor : Option Bytes := none
  active : Option Bytes := none
  deriving DecidableEq, Repr

namespace LogFolder

def names (x : LogFolder) : List String := x.archives.map (·.1)

def append (x : LogFolder) (content : Bytes) : LogFolder :=
  { x with active := some (x.active.getD [] ++ content) }

def shift (x : LogFolder) (maxArchives : Nat) (all : List (String × Bytes)) : LogFolder where
  archives := all.drop (all.length - maxArchives)
  predecessor := x.active
  active := none

def nodes (x : LogFolder) : LogNodes where
  archives := x.archives.map fun a => (a.1, .packed a.2)
  predecessor := x.predecessor.map .plain
  active := x.active.map .plain

@[simp] theorem names_nodes (x : LogFolder) : x.nodes.names = x.names := by
  simp [LogNodes.names, nodes, names]

end LogFolder

namespace LogFiles

structure HoldsCurrent (f : LogFiles) (p : Path) (d : Disk) (x : LogFolder) : Prop where
  place : d.IsAt f.dir p
  active : d.entry p LogName.active = x.active.map .plain
  predecessor : d.entry p LogName.predecessor = x.predecessor.map .plain
  archive_files : ∀ name, LogName.isArchive name.toList = true → d.entry p name ≠ some .directory
  active_fits : x.active.isSome = true → Disk.Fits f.dir LogName.active
  predecessor_fits : x.predecessor.isSome = true → Disk.Fits f.dir LogName.predecessor

structure Holds (f : LogFiles) (p : Path) (d : Disk) (x : LogFolder) : Prop
    extends HoldsCurrent f p d x where
  nodup : (d.children p).Nodup
  archives : ∀ name, LogName.isArchive name.toList = true →
    d.entry p name = (x.archives.lookup name).map .packed
  ascending : LogName.IsAscending x.names
  named : ∀ name ∈ x.names, LogName.isArchive name.toList = true ∧ Disk.IsPlainName name ∧
    Disk.Fits f.dir name

section
variable {f : LogFiles} {p : Path} {d : Disk} {x : LogFolder}

theorem HasFiles.holdsCurrent (h : f.HasFiles p d)
    (hactive : d.entry p LogName.active = x.active.map .plain)
    (hpredecessor : d.entry p LogName.predecessor = x.predecessor.map .plain) :
    f.HoldsCurrent p d x where
  place := h.place
  active := hactive
  predecessor := hpredecessor
  archive_files name hname := h.files name (.inr (.inr hname))
  active_fits hsome := h.active_fits (by rwa [hactive, Option.isSome_map])
  predecessor_fits hsome := h.predecessor_fits (by rwa [hpredecessor, Option.isSome_map])

namespace HoldsCurrent

variable (h : f.HoldsCurrent p d x)
include h

theorem active_file : d.entry p LogName.active ≠ some .directory := by
  rw [h.active]
  cases x.active <;> simp

theorem predecessor_file : d.entry p LogName.predecessor ≠ some .directory := by
  rw [h.predecessor]
  cases x.predecessor <;> simp

theorem hasFiles : f.HasFiles p d where
  place := h.place
  files := by
    rintro name (rfl | rfl | hname)
    · exact h.active_file
    · exact h.predecessor_file
    · exact h.archive_files name hname
  active_fits hthere := h.active_fits (by rwa [h.active, Option.isSome_map] at hthere)
  predecessor_fits hthere :=
    h.predecessor_fits (by rwa [h.predecessor, Option.isSome_map] at hthere)

theorem has_active : d.has f.active = x.active.isSome := by
  rw [h.hasFiles.has_active, h.active, Option.isSome_map]

theorem has_predecessor : d.has f.predecessor = x.predecessor.isSome := by
  rw [h.hasFiles.has_predecessor, h.predecessor, Option.isSome_map]

theorem put_active (hfits : Disk.Fits f.dir LogName.active) (content : Bytes) :
    f.HoldsCurrent p (d.put (p ++ [LogName.active]) (.plain content))
      { x with active := some content } where
  place := h.place.of_sameFiles (Disk.sameBut_put d p _ _)
    (by simpa using ⟨LogName.isPlainName_active.no_slash, h.active_file⟩)
  active := by simp [Disk.entry_put]
  predecessor := by
    rw [Disk.entry_put, if_neg active_ne_predecessor.symm]
    exact h.predecessor
  archive_files name hname := by
    rw [Disk.entry_put, if_neg (ne_of_isArchive hname).1]
    exact h.archive_files name hname
  active_fits _ := hfits
  predecessor_fits := h.predecessor_fits

end HoldsCurrent

theorem holds_iff : f.Holds p d x ↔ f.Has p d x.nodes := by
  have hlookup (name : String) : x.nodes.archives.lookup name =
      (x.archives.lookup name).map .packed := lookup_map_snd _ _ _
  constructor
  · exact fun h => {
      toHasFiles := h.hasFiles
      nodup := h.nodup
      archives := fun name hname => (h.archives name hname).trans (hlookup name).symm
      ascending := by rw [x.names_nodes]; exact h.ascending
      named := by rw [x.names_nodes]; exact h.named
      predecessor := h.predecessor
      active := h.active }
  · exact fun h => {
      toHoldsCurrent := h.holdsCurrent h.active h.predecessor
      nodup := h.nodup
      archives := fun name hname => (h.archives name hname).trans (hlookup name)
      ascending := by rw [← x.names_nodes]; exact h.ascending
      named := by rw [← x.names_nodes]; exact h.named }

namespace Holds

variable (h : f.Holds p d x)
include h

theorem archives_eq : f.archives d = .ok x.names := by
  rw [(holds_iff.mp h).archives_eq, x.names_nodes]

theorem current_changed {d' : Disk} {y : LogFolder} (hcurrent : f.HoldsCurrent p d' y)
    (hsame : y.archives = x.archives) (hnodup : (d'.children p).Nodup)
    (hothers : ∀ name, name ≠ LogName.active → name ≠ LogName.predecessor →
      d'.entry p name = d.entry p name) : f.Holds p d' y := by
  have hnames : y.names = x.names := by rw [LogFolder.names, LogFolder.names, hsame]
  refine ⟨hcurrent, hnodup, fun name hname => ?_, hnames ▸ h.ascending, hnames ▸ h.named⟩
  obtain ⟨hactive, hpredecessor⟩ := ne_of_isArchive hname
  rw [hothers name hactive hpredecessor, hsame]
  exact h.archives name hname

theorem put_active (hfits : Disk.Fits f.dir LogName.active) (content : Bytes) :
    f.Holds p (d.put (p ++ [LogName.active]) (.plain content))
      { x with active := some content } := by
  apply h.current_changed (h.toHoldsCurrent.put_active hfits content) rfl
    (Disk.nodup_children_put d p _ _ h.nodup)
  intro name hne _
  rw [Disk.entry_put, if_neg hne]

theorem append (hfits : Disk.Fits f.dir LogName.active) (content : Bytes) :
    ∃ d', d.append f.active content = .ok d' ∧ f.Holds p d' (x.append content) := by
  have hname := LogName.isPlainName_active
  have hread := Disk.read_join h.place hname hfits
  have hwrite (old : Bytes) := Disk.store_join h.place hname hfits h.active_file (.plain old)
  rw [h.active] at hread
  refine ⟨_, ?_, h.put_active hfits (x.active.getD [] ++ content)⟩
  unfold Disk.append LogFiles.active pathOf
  rw [hread]
  cases x.active with
  | none => exact hwrite _
  | some old => exact hwrite _

theorem append_fails (hlong : ¬Disk.Fits f.dir LogName.active) (content : Bytes) :
    ∃ e, d.append f.active content = .error e := by
  obtain ⟨e, hmissing, he⟩ := Disk.locate_not_fits h.place LogName.isPlainName_active hlong
  have hread : d.read f.active = .error e := by
    rw [Disk.read, Disk.find, LogFiles.active, pathOf, he]
    rfl
  refine ⟨e, ?_⟩
  unfold Disk.append
  rw [hread]
  cases e <;> first | rfl | exact absurd rfl hmissing

end Holds

end

/-! ## Directories that are made when they are needed -/

/-- The directory of the files is there and empty, or will be as soon as it is made. -/
structure StartsEmpty (f : LogFiles) (d : Disk) : Prop where
  made : ((OnDisk.makeDirectories f.dir).perform d).1 = .ok ()
  empty : ((OnDisk.makeDirectories f.dir).perform d).2.list f.dir = .ok []

/-- The files hold these contents, in a directory that may still have to be made. -/
def Stores (f : LogFiles) (d : Disk) (x : LogFolder) : Prop :=
  (∃ p, f.Holds p d x) ∨ f.StartsEmpty d ∧ x = {}

/-- The uncompressed archives in the order in which they are listed, the predecessor and the active
file are read as these contents. -/
structure Reads (f : LogFiles) (d : Disk) (archives : List Bytes)
    (predecessor active : Option Bytes) : Prop where
  archives : ((f.archives d).toOption.getD []).map (fun name =>
    (d.read (f.pathOf name)).toOption) = archives.map some
  predecessor : (d.read f.predecessor).toOption = predecessor
  active : (d.read f.active).toOption = active

/-- The uncompressed archives in the order in which they are listed, then the predecessor, then the
active file. What cannot be read is left out. -/
def content (f : LogFiles) (d : Disk) : Bytes :=
  ((f.archives d).toOption.getD []).flatMap (fun name =>
      (d.read (f.pathOf name)).toOption.getD []) ++
    (d.read f.predecessor).toOption.getD [] ++ (d.read f.active).toOption.getD []

section
variable {f : LogFiles} {d : Disk} {x : LogFolder}

theorem holds_of_list (h : d.list f.dir = .ok []) : ∃ p, f.Holds p d {} := by
  obtain ⟨p, hplace, hchildren⟩ := Disk.isAt_of_list h
  have hnone (name : String) : d.entry p name = none := by
    have hnot : name ∉ d.children p := by simp [hchildren]
    rwa [Disk.mem_children, Bool.not_eq_true, Option.isSome_eq_false_iff, Option.isNone_iff_eq_none]
      at hnot
  refine ⟨p, ⟨hplace, hnone _, hnone _, fun name _ => ?_, ?_, ?_⟩, ?_, fun name _ => hnone name,
    List.Pairwise.nil, ?_⟩
  · simp [hnone]
  · simp
  · simp
  · simp [hchildren]
  · simp [LogFolder.names]

namespace StartsEmpty

variable (h : f.StartsEmpty d)
include h

theorem perform_eq :
    ∃ p d', (OnDisk.makeDirectories f.dir).perform d = (.ok (), d') ∧ f.Holds p d' {} := by
  obtain ⟨p, hholds⟩ := holds_of_list h.empty
  exact ⟨p, _, Prod.ext h.made rfl, hholds⟩

theorem not_has {name : String} (hname : name = LogName.active ∨ name = LogName.predecessor) :
    d.has (f.pathOf name) = false := by
  obtain ⟨p, d', hmake, hholds⟩ := h.perform_eq
  have hwithin := OnDisk.makeDirectories_within f.dir d
  rw [hmake] at hwithin
  apply Disk.has_within hwithin
  rcases hname with rfl | rfl
  · exact hholds.has_active
  · exact hholds.has_predecessor

theorem archives_eq : (f.archives d).toOption.getD [] = [] := by
  unfold archives
  cases hlist : d.list f.dir with
  | error e => rfl
  | ok names =>
    obtain ⟨p, hplace, -⟩ := Disk.isAt_of_list hlist
    have hempty := h.empty
    rw [OnDisk.makeDirectories_isAt hplace, hlist] at hempty
    obtain rfl := Except.ok.inj hempty
    simp [Except.map, Except.toOption, LogName.archives]

end StartsEmpty

theorem read_of_not_has {text : String} (h : d.has text = false) :
    (d.read text).toOption = none := by
  unfold Disk.has at h
  unfold Disk.read
  cases hfind : d.find text with
  | error e => rfl
  | ok found =>
    rw [hfind] at h
    cases h

theorem Reads.content_eq {archives : List Bytes} {predecessor active : Option Bytes}
    (h : f.Reads d archives predecessor active) :
    f.content d = archives.flatten ++ predecessor.getD [] ++ active.getD [] := by
  have harchives := congrArg (List.flatMap (·.getD [])) h.archives
  rw [List.flatMap_map, List.flatMap_map] at harchives
  rw [content, h.predecessor, h.active, harchives, List.flatMap_def]
  simp

theorem Holds.reads {p : Path} (h : f.Holds p d x) :
    f.Reads d (x.archives.map (·.2)) x.predecessor x.active := by
  have hcurrent (name : String) (hname : Disk.IsPlainName name) (content : Option Bytes)
      (hentry : d.entry p name = content.map .plain)
      (hfits : content.isSome = true → Disk.Fits f.dir name) :
      (d.read (f.pathOf name)).toOption = content := by
    cases content with
    | none =>
      exact read_of_not_has
        ((Disk.has_join_of_fits h.place hname (by simp [hentry])).trans (by simp [hentry]))
    | some content =>
      have hread := Disk.read_join h.place hname (hfits rfl)
      rw [hentry] at hread
      rw [pathOf, hread]
      rfl
  have harchive : ∀ e ∈ x.archives, (d.read (f.pathOf e.1)).toOption = some e.2 := by
    rintro ⟨name, content⟩ he
    obtain ⟨hname, hplain, hfits⟩ := h.named name (List.mem_map_of_mem (f := (·.1)) he)
    have hread := Disk.read_join h.place hplain hfits
    rw [h.archives name hname, (lookup_eq_some_iff_mem h.ascending.nodup).mpr he] at hread
    rw [pathOf, hread]
    rfl
  constructor
  · rw [h.archives_eq]
    change x.names.map _ = _
    rw [LogFolder.names, List.map_map, List.map_map]
    exact List.map_congr_left harchive
  · exact hcurrent _ LogName.isPlainName_predecessor _ h.predecessor h.predecessor_fits
  · exact hcurrent _ LogName.isPlainName_active _ h.active h.active_fits

namespace Stores

variable (h : f.Stores d x)
include h

theorem reads : f.Reads d (x.archives.map (·.2)) x.predecessor x.active := by
  rcases h with ⟨p, hholds⟩ | ⟨hempty, rfl⟩
  · exact hholds.reads
  · constructor
    · rw [hempty.archives_eq]
      rfl
    · exact read_of_not_has (hempty.not_has (.inr rfl))
    · exact read_of_not_has (hempty.not_has (.inl rfl))

theorem has_active : d.has f.active = x.active.isSome := by
  rcases h with ⟨p, hholds⟩ | ⟨hempty, rfl⟩
  · exact hholds.has_active
  · exact hempty.not_has (.inl rfl)

theorem holds (hactive : x.active.isSome = true) : ∃ p, f.Holds p d x := by
  rcases h with hholds | ⟨-, rfl⟩
  · exact hholds
  · cases hactive

/-- Lines are appended behind what is there, or not at all where the path of the active file is too
long. -/
theorem appendLines (entries : List LogEntry) :
    ∃ d', ((LogWriter.appendLines f entries).perform d = (.ok (), d') ∧
        ∃ p, f.Holds p d' (x.append (LogWriter.bytesOf entries))) ∨
      ∃ e, (LogWriter.appendLines f entries).perform d = (.error e, d') ∧ f.Stores d' x ∧
        ¬Disk.Fits f.dir LogName.active := by
  have hmake : ∃ p d', (OnDisk.makeDirectories f.dir).perform d = (.ok (), d') ∧
      f.Holds p d' x := by
    rcases h with ⟨p, hholds⟩ | ⟨hempty, rfl⟩
    · exact ⟨p, d, OnDisk.makeDirectories_isAt hholds.place, hholds⟩
    · exact hempty.perform_eq
  obtain ⟨p, d₁, hmake, hholds⟩ := hmake
  unfold LogWriter.appendLines
  rw [OnDisk.perform_bind, hmake]
  simp only
  rw [OnDisk.perform_change]
  by_cases hfits : Disk.Fits f.dir LogName.active
  · obtain ⟨d', happend, hholds'⟩ :=
      hholds.append hfits (LogWriter.bytesOf entries)
    rw [LogWriter.bytesOf] at happend
    rw [happend]
    exact ⟨d', .inl ⟨rfl, p, hholds'⟩⟩
  · obtain ⟨e, happend⟩ := hholds.append_fails hfits (LogWriter.bytesOf entries)
    rw [LogWriter.bytesOf] at happend
    rw [happend]
    exact ⟨d₁, .inr ⟨e, rfl, .inl ⟨p, hholds⟩, hfits⟩⟩

end Stores

end

end LogFiles
end DnsFilter
