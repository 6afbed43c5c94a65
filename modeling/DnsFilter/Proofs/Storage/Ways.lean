import DnsFilter.Proofs.Storage.Copies
/-!
# Where paths lead

A path that can be followed leads to one place, whatever is on the disk. It can still be followed
after a change that takes no directory away, and a change at another place does not show under it.
-/
namespace DnsFilter.Disk

/-! ## One place for each path -/

theorem enter_congr {d d' : Disk} {place : Path} (h : d.isDirectory place = true)
    (h' : d'.isDirectory place = true) (name : String) :
    d'.enter place name = d.enter place name := by
  rw [enter, enter, node?_eq_directory.mpr h, node?_eq_directory.mpr h']

theorem enter_unique {d d' : Disk} {place p q : Path} {name : String}
    (hp : d.enter place name = .ok p) (hq : d'.enter place name = .ok q) : p = q := by
  rw [enter_congr (enter_cases hp).1 (enter_cases hq).1, hp] at hq
  exact Except.ok.inj hq

theorem foldlM_enter_unique {d d' : Disk} {names : List String} {place p q : Path}
    (hp : names.foldlM d.enter place = .ok p) (hq : names.foldlM d'.enter place = .ok q) :
    p = q := by
  induction names generalizing place with
  | nil => exact (Except.ok.inj hp).symm.trans (Except.ok.inj hq)
  | cons name names ih =>
    obtain ⟨next, hfirst, hrest⟩ := foldlM_enter_append [name] hp
    obtain ⟨next', hfirst', hrest'⟩ := foldlM_enter_append [name] hq
    have hstep : d.enter place name = .ok next := by simpa using hfirst
    have hstep' : d'.enter place name = .ok next' := by simpa using hfirst'
    obtain rfl := enter_unique hstep hstep'
    exact ih hrest hrest'

theorem locate_unique {d d' : Disk} {text : String} {p q : Path} (hp : d.locate text = .ok p)
    (hq : d'.locate text = .ok q) : p = q :=
  foldlM_enter_unique (checkText_of_locate hp).2 (checkText_of_locate hq).2

theorem has_of_find {d : Disk} {text : String} {found : Path × Node} (h : d.find text = .ok found) :
    d.has text = true := by
  rw [has, h]
  rfl

theorem exists_find_of_has {d : Disk} {text : String} (h : d.has text = true) :
    ∃ r n, d.find text = .ok (r, n) := by
  obtain ⟨r, n, hlocate, hnode⟩ := has_iff.mp h
  exact ⟨r, n, find_eq_ok.mpr ⟨hlocate, hnode⟩⟩

theorem exists_find_of_read {d : Disk} {text : String} {content : Bytes}
    (h : d.read text = .ok content) : ∃ r n, d.find text = .ok (r, n) := by
  unfold read at h
  cases hfind : d.find text with
  | error e =>
    rw [hfind] at h
    cases h
  | ok found => exact ⟨found.1, found.2, rfl⟩

theorem read_of_find_eq {d d' : Disk} {text : String} (h : d'.find text = d.find text) :
    d'.read text = d.read text := by rw [read, read, h]

theorem find_of_hasDirectory {d : Disk} {text : String} (h : d.hasDirectory text = true) :
    ∃ p, d.find text = .ok (p, .directory) := by
  unfold hasDirectory at h
  split at h
  · exact ⟨_, ‹_›⟩
  · cases h

/-! ## Directories that stay -/

def KeepsDirectories (d d' : Disk) : Prop :=
  ∀ r, d.isDirectory r = true → d'.isDirectory r = true

theorem locate_of_keepsDirectories {d d' : Disk} (hkeeps : KeepsDirectories d d') {text : String}
    {p : Path} (h : d.locate text = .ok p) : d'.locate text = .ok p := by
  have hwalk {names : List String} {place : Path} (h : names.foldlM d.enter place = .ok p) :
      names.foldlM d'.enter place = .ok p := by
    induction names generalizing place with
    | nil => exact h
    | cons name names ih =>
      obtain ⟨next, hfirst, hrest⟩ := foldlM_enter_append [name] h
      have hstep : d.enter place name = .ok next := by simpa using hfirst
      have hdirectory := (enter_cases hstep).1
      rw [List.foldlM_cons, enter_congr hdirectory (hkeeps place hdirectory), hstep]
      exact ih hrest
  obtain ⟨hcheck, hnames⟩ := checkText_of_locate h
  rw [locate, hcheck]
  exact hwalk hnames

theorem IsAt.of_keepsDirectories {d d' : Disk} (hkeeps : KeepsDirectories d d') {dir : String}
    {p : Path} (h : d.IsAt dir p) : d'.IsAt dir p :=
  ⟨locate_of_keepsDirectories hkeeps h.locate, hkeeps p h.directory⟩

section
variable {d : Disk} {q : Path} (hq : d.isDirectory q = false)
include hq

theorem keepsDirectories_put (n : Node) : KeepsDirectories d (d.put q n) := by
  intro r hr
  have hne : r ≠ q := by
    rintro rfl
    exact absurd (hr.symm.trans hq) (by decide)
  rwa [isDirectory, node?_put d hq, if_neg hne]

theorem node?_without (r : Path) : (d.without q).node? r = if r = q then none else d.node? r := by
  have hroot : ¬(q = [] ∨ q = ["/"]) := by
    intro hroot
    simp [isDirectory, node?, hroot] at hq
  rw [node?, node?, lookup_without]
  by_cases hr : r = q
  · rw [hr, if_neg hroot]
    simp
  · simp [hr]

theorem keepsDirectories_without : KeepsDirectories d (d.without q) := by
  intro r hr
  have hne : r ≠ q := by
    rintro rfl
    exact absurd (hr.symm.trans hq) (by decide)
  rwa [isDirectory, node?_without hq, if_neg hne]

variable {text : String} {r : Path} {n : Node} (hfind : d.find text = .ok (r, n)) (hne : r ≠ q)
include hfind hne

theorem find_put (m : Node) : (d.put q m).find text = .ok (r, n) := by
  obtain ⟨hlocate, hnode⟩ := find_eq_ok.mp hfind
  refine find_eq_ok.mpr ⟨locate_of_keepsDirectories (keepsDirectories_put hq m) hlocate, ?_⟩
  rw [node?_put d hq, if_neg hne, hnode]

theorem find_without : (d.without q).find text = .ok (r, n) := by
  obtain ⟨hlocate, hnode⟩ := find_eq_ok.mp hfind
  refine find_eq_ok.mpr ⟨locate_of_keepsDirectories (keepsDirectories_without hq) hlocate, ?_⟩
  rw [node?_without hq, if_neg hne, hnode]

end

/-- Where the same nodes stand at all places, paths lead to the same. -/
theorem find_congr {d d' : Disk} (hsame : ∀ r, d'.node? r = d.node? r) (text : String) :
    d'.find text = d.find text := by
  have henter : d'.enter = d.enter := by
    funext place name
    rw [enter, enter, hsame]
  have hlocate : d'.locate text = d.locate text := by rw [locate, locate, henter]
  rw [find, find, hlocate]
  simp only [hsame]

/-! ## The last name of a path -/

theorem enter_eq_concat {d : Disk} {place q : Path} {name : String}
    (hname : name ≠ "" ∧ name ≠ "." ∧ name ≠ "..") (h : d.enter place name = .ok q) :
    d.isDirectory place = true ∧ q = place ++ [name] ∧ name.utf8ByteSize ≤ nameLimit := by
  obtain ⟨hdirectory, -⟩ := enter_cases h
  obtain ⟨hempty, hdot, hdots⟩ := hname
  simp only [enter, node?_eq_directory.mpr hdirectory, hempty, hdot, hdots, decide_false,
    Bool.or_self, Bool.false_eq_true, if_false] at h
  split_ifs at h with hlong
  exact ⟨hdirectory, (Except.ok.inj h).symm, Nat.le_of_not_lt hlong⟩

theorem not_special_of_length {name : String} (h : 2 < name.toList.length) :
    name ≠ "" ∧ name ≠ "." ∧ name ≠ ".." := by
  refine ⟨?_, ?_, ?_⟩ <;>
  · rintro rfl
    exact absurd h (by decide)

theorem enter_of_foldlM {d : Disk} {place q : Path} {name : String}
    (h : [name].foldlM d.enter place = .ok q) : d.enter place name = .ok q := by simpa using h

theorem rooted_single {name : String} (h : name ≠ "") : rooted [name] = [name] := by
  unfold rooted
  split
  case h_1 heq => exact absurd (List.cons.inj heq).1 h
  case h_2 => rfl

/-- Letters at the end of a path, with no slash among them, belong to its last name. -/
theorem names_last {text : String} {ending : List Char} (hslash : '/' ∉ ending)
    (hne : ending ≠ []) (hend : ending <:+ text.toList) :
    ∃ front last, names text = front ++ [last] ∧ ending <:+ last.toList := by
  obtain ⟨start, hstart⟩ := hend
  rw [names_eq, ← hstart]
  by_cases hmem : '/' ∈ start
  · obtain ⟨back, front, hrev, hback⟩ :=
      List.eq_append_cons_of_mem (List.mem_reverse.mpr hmem)
    have hsplit : start ++ ending = front.reverse ++ '/' :: (back.reverse ++ ending) := by
      rw [← List.reverse_reverse start, hrev]
      simp
    have hlast : '/' ∉ back.reverse ++ ending := by simp [hback, hslash]
    refine ⟨rooted ((front.reverse.splitOn '/').map String.ofList),
      String.ofList (back.reverse ++ ending), ?_, ?_⟩
    · rw [hsplit, splitOn_slash, splitOn_of_notMem hlast, List.map_append,
        rooted_append (map_splitOn_ne_nil front.reverse)]
      rfl
    · rw [String.toList_ofList]
      exact List.suffix_append _ _
  · have hlast : '/' ∉ start ++ ending := by simp [hmem, hslash]
    have hthere : String.ofList (start ++ ending) ≠ "" := by
      intro hempty
      have hnil := congrArg String.toList hempty
      simp [hne] at hnil
    refine ⟨[], String.ofList (start ++ ending), ?_, ?_⟩
    · rw [splitOn_of_notMem hlast]
      exact rooted_single hthere
    · rw [String.toList_ofList]
      exact List.suffix_append _ _

theorem last_of_locate {d : Disk} {text : String} {q : Path} {ending : List Char}
    (hslash : '/' ∉ ending) (hlong : 2 < ending.length) (hend : ending <:+ text.toList)
    (h : d.locate text = .ok q) : ∃ p last, q = p ++ [last] ∧ ending <:+ last.toList := by
  have hne : ending ≠ [] := by
    rintro rfl
    exact absurd hlong (by decide)
  obtain ⟨front, last, hnames, hlast⟩ := names_last hslash hne hend
  have hwalk := (checkText_of_locate h).2
  rw [hnames] at hwalk
  obtain ⟨p, -, hstep⟩ := foldlM_enter_append front hwalk
  have hspecial := not_special_of_length (Nat.lt_of_lt_of_le hlong hlast.length_le)
  obtain ⟨-, rfl, -⟩ := enter_eq_concat hspecial (enter_of_foldlM hstep)
  exact ⟨p, last, rfl, hlast⟩

theorem isFolder_of_locate {d : Disk} {dir name : String} {q : Path} (hslash : '/' ∉ name.toList)
    (hspecial : name ≠ "" ∧ name ≠ "." ∧ name ≠ "..") (h : d.locate (join dir name) = .ok q) :
    ∃ p, d.IsFolder dir p ∧ q = p ++ [name] ∧ IsPlainName name := by
  obtain ⟨hcheck, hwalk⟩ := checkText_of_locate h
  obtain ⟨hnull, -, hfits⟩ := checkText_eq_ok.mp hcheck
  by_cases hdir : dir = ""
  · have hjoin : join dir name = name := by simp [join, hdir]
    have hnames : names name = [name] := by
      rw [names_eq, splitOn_of_notMem hslash, List.map_singleton, String.ofList_toList,
        rooted_single hspecial.1]
    rw [hjoin] at hnull
    rw [hjoin, hnames] at hwalk
    obtain ⟨-, rfl, hshort⟩ := enter_eq_concat hspecial (enter_of_foldlM hwalk)
    exact ⟨[], .inl ⟨hdir, rfl⟩, rfl, hslash, hnull, hspecial, hshort⟩
  · obtain ⟨front, hjoin, hfront⟩ := names_join hdir hslash
    rw [hjoin] at hwalk
    obtain ⟨p, hp, hstep⟩ := foldlM_enter_append front hwalk
    obtain ⟨hdirectory, rfl, hshort⟩ := enter_eq_concat hspecial (enter_of_foldlM hstep)
    have hnulls : '\x00' ∉ dir.toList ∧ '\x00' ∉ name.toList := by
      rw [join] at hnull
      split_ifs at hnull <;> simp_all
    have hdirFits : dir.utf8ByteSize < textLimit :=
      Nat.lt_of_le_of_lt (Nat.le_trans (Nat.le_add_right _ _) (utf8ByteSize_join dir name).1) hfits
    refine ⟨p, .inr ⟨?_, hdirectory⟩, rfl, hslash, hnulls.2, hspecial, hshort⟩
    rw [locate, checkText_eq_ok.mpr ⟨hnulls.1, hdir, hdirFits⟩]
    change (names dir).foldlM d.enter [] = _
    rcases hfront with hsame | hblank
    · rw [hsame, hp]
    · rw [hblank, List.foldlM_append, hp]
      exact foldlM_enter_blanks hdirectory (by simp)

theorem IsFolder.unique {d d' : Disk} {dir : String} {p q : Path} (hp : d.IsFolder dir p)
    (hq : d'.IsFolder dir q) : p = q := by
  rcases hp with ⟨rfl, rfl⟩ | hp
  · rcases hq with ⟨-, rfl⟩ | hq
    · rfl
    · exact absurd rfl hq.dir_ne_empty
  · rcases hq with ⟨rfl, -⟩ | hq
    · exact absurd rfl hp.dir_ne_empty
    · exact locate_unique hp.locate hq.locate

theorem IsFolder.isDirectory {d : Disk} {dir : String} {p : Path} (h : d.IsFolder dir p) :
    d.isDirectory p = true := by
  rcases h with ⟨-, rfl⟩ | h
  · rfl
  · exact h.directory

theorem isFolder_of_find {d : Disk} {dir name : String} (hname : IsPlainName name) {q : Path}
    {n : Node} (h : d.find (join dir name) = .ok (q, n)) :
    ∃ p, d.IsFolder dir p ∧ q = p ++ [name] ∧ d.entry p name = some n := by
  obtain ⟨hlocate, hnode⟩ := find_eq_ok.mp h
  obtain ⟨p, hp, rfl, -⟩ := isFolder_of_locate hname.no_slash hname.not_special hlocate
  rw [node?_entry d p hname.no_slash] at hnode
  exact ⟨p, hp, rfl, hnode⟩

/-! ## What is written, removed and renamed -/

/-- A file is written once more where it was written. -/
theorem store_again {d made : Disk} {text : String} {n : Node} {q : Path}
    (h : d.store text n = .ok made) (hlocate : d.locate text = .ok q) (hn : n ≠ .directory)
    (m : Node) : made.store text m = .ok (d.put q m) := by
  obtain ⟨q', hq', hfile, rfl⟩ := store_eq_ok h
  obtain rfl := locate_unique hlocate hq'
  have hparent : d.isDirectory q.dropLast = true := by
    rw [store, hlocate] at h
    change (if _ then _ else _) = _ at h
    by_contra hnot
    rw [if_pos (by simpa using hnot)] at h
    cases h
  have hfile' : (d.put q n).isDirectory q = false := by
    rw [isDirectory, node?_put d hfile, if_pos rfl]
    simpa using hn
  rw [store, locate_put hfile n hlocate]
  change (if _ then _ else if _ then _ else _) = _
  rw [keepsDirectories_put hfile n _ hparent, hfile', put_put]
  rfl

theorem removeFile_of_find {d : Disk} {text : String} {p : Path} {n : Node}
    (hfind : d.find text = .ok (p, n)) (hn : n ≠ .directory) :
    d.removeFile text = .ok (d.without p) := by
  rw [removeFile, hfind]
  exact if_neg hn

theorem isDirectory_of_find {d : Disk} {text : String} {p : Path} {n : Node}
    (hfind : d.find text = .ok (p, n)) (hn : n ≠ .directory) : d.isDirectory p = false := by
  rw [isDirectory, (find_eq_ok.mp hfind).2]
  simpa using hn

theorem find_of_removeFile {d d' : Disk} {text other : String} {r : Path} {n : Node}
    (h : d.removeFile text = .ok d') (hfind : d.find other = .ok (r, n))
    (hne : d.locate text ≠ .ok r) : d'.find other = .ok (r, n) := by
  obtain ⟨p, m, hthere, hfile, rfl⟩ := removeFile_eq_ok h
  refine find_without (isDirectory_of_find hthere hfile) hfind ?_
  rintro rfl
  exact hne (find_eq_ok.mp hthere).1

theorem rename_moves {d d' : Disk} {source target : String} (h : d.rename source target = .ok d') :
    ∃ a n b, d.find source = .ok (a, n) ∧ d.locate target = .ok b ∧
      (a = b ∨ ∃ e : Disk, d' = e.moveTree a b) := by
  unfold rename at h
  cases hsource : d.find source with
  | error e =>
    rw [hsource] at h
    cases h
  | ok found =>
    obtain ⟨a, n⟩ := found
    rw [hsource] at h
    cases htarget : d.locate target with
    | error e =>
      rw [htarget] at h
      cases h
    | ok b =>
      rw [htarget] at h
      refine ⟨a, n, b, rfl, rfl, ?_⟩
      change (if _ then _ else if _ then _ else _) = _ at h
      by_cases hparent : (!d.isDirectory b.dropLast) = true
      · rw [if_pos hparent] at h
        cases h
      by_cases hsame : a = b
      · exact .inl hsame
      · rw [if_neg hparent, if_neg hsame] at h
        right
        split at h
        · exact ⟨d, (Except.ok.inj h).symm⟩
        · split_ifs at h
          exact ⟨d.without b, (Except.ok.inj h).symm⟩
        · cases h
        · cases h
        · exact ⟨d.without b, (Except.ok.inj h).symm⟩

theorem rename_of_free {d : Disk} {source target : String} {a b : Path} {n : Node}
    (hsource : d.find source = .ok (a, n)) (htarget : d.locate target = .ok b)
    (hparent : d.isDirectory b.dropLast = true) (hfree : d.node? b = none) :
    d.rename source target = .ok (d.moveTree a b) := by
  have hne : a ≠ b := by
    rintro rfl
    rw [(find_eq_ok.mp hsource).2] at hfree
    cases hfree
  rw [rename, hsource, htarget]
  change (if _ then _ else if _ then _ else _) = _
  rw [if_neg (by simp [hparent]), if_neg hne, hfree]

theorem not_has_of_rename {d d' : Disk} {dir name other : String} (hname : IsPlainName name)
    (hother : IsPlainName other) (hne : name ≠ other)
    (h : d.rename (join dir name) (join dir other) = .ok d') : d'.has (join dir name) = false := by
  obtain ⟨a, n, b, hsource, htarget, hmoved⟩ := rename_moves h
  obtain ⟨p, hp, rfl, -⟩ := isFolder_of_find hname hsource
  obtain rfl := hp.eq_of_locate hother htarget
  rcases hmoved with hsame | ⟨e, rfl⟩
  · exact absurd (concat_inj hsame) hne
  rw [← Bool.not_eq_true]
  intro hthere
  obtain ⟨q, m, hlocate, hnode⟩ := has_iff.mp hthere
  obtain rfl := locate_unique (find_eq_ok.mp hsource).1 hlocate
  rw [node?_entry _ p hname.no_slash, entry, moveTree_nodes] at hnode
  have hgone : (e.nodes.map (moved (p ++ [name]) (p ++ [other]))).lookup (p ++ [name]) = none := by
    rw [List.lookup_eq_none_iff]
    intro e' he'
    obtain ⟨e', -, rfl⟩ := List.mem_map.mp he'
    simpa using (moved_ne_source hne e').symm
  rw [hgone] at hnode
  cases hnode

end DnsFilter.Disk

namespace DnsFilter.OnDisk

/-- A file is packed into another one, which is made before it is known whether the first can be
read. A directory is not read, and leaves an empty packed file. -/
theorem pack_perform {d : Disk} {source : String} {r : Path} {n : Node}
    (hsource : d.find source = .ok (r, n)) (target : String) :
    (∃ e, (pack source target).perform d = (.error e, d) ∧
        ∀ made, d.store target (.packed []) ≠ .ok made) ∨
      ∃ q, d.locate target = .ok q ∧ d.isDirectory q = false ∧
        d.store target (.packed []) = .ok (d.put q (.packed [])) ∧
        (pack source target).perform d = match n.content? with
          | none => (.error .isDirectory, d.put q (.packed []))
          | some content => (.ok (), d.put q (.packed content)) := by
  rw [pack, perform_bind, perform_look, hsource]
  simp only
  rw [perform_bind, perform_change]
  cases hstore : d.store target (.packed []) with
  | error e => exact .inl ⟨e, rfl, by simp⟩
  | ok made =>
    obtain ⟨q, hq, hfile, rfl⟩ := Disk.store_eq_ok hstore
    refine .inr ⟨q, hq, hfile, rfl, ?_⟩
    have hagain (content : Bytes) : (d.put q (.packed [])).store target (.packed content) =
        .ok (d.put q (.packed content)) := Disk.store_again hstore hq (by simp) (.packed content)
    cases n with
    | directory => rfl
    | plain content =>
      simp only [Node.content?]
      rw [perform_change, hagain]
    | packed content =>
      simp only [Node.content?]
      rw [perform_change, hagain]

end DnsFilter.OnDisk
