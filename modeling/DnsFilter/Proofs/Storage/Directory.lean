import DnsFilter.Proofs.Storage.Changes
/-!
# The place of a directory

Where the path of a directory leads, and where the paths into it lead. A directory that is there is
not made again.
-/
namespace DnsFilter.Disk

/-! ## Names -/

/-- A name that stands for itself in a path. -/
structure IsPlainName (name : String) : Prop where
  no_slash : '/' ∉ name.toList
  no_null : '\x00' ∉ name.toList
  not_special : name ≠ "" ∧ name ≠ "." ∧ name ≠ ".."
  short : name.utf8ByteSize ≤ nameLimit

instance (name : String) : Decidable (IsPlainName name) :=
  decidable_of_iff ('/' ∉ name.toList ∧ '\x00' ∉ name.toList ∧
      (name ≠ "" ∧ name ≠ "." ∧ name ≠ "..") ∧ name.utf8ByteSize ≤ nameLimit)
    ⟨fun ⟨hslash, hnull, hspecial, hshort⟩ => ⟨hslash, hnull, hspecial, hshort⟩,
      fun ⟨hslash, hnull, hspecial, hshort⟩ => ⟨hslash, hnull, hspecial, hshort⟩⟩

theorem utf8ByteSize_ascii {s : List Char} (h : ∀ c ∈ s, c.val ≤ 127) :
    (String.ofList s).utf8ByteSize = s.length := by
  induction s with
  | nil => rfl
  | cons c s ih =>
    obtain ⟨hc, hs⟩ := List.forall_mem_cons.mp h
    rw [String.ofList_cons, String.utf8ByteSize_append, String.utf8ByteSize_singleton, ih hs,
      Char.utf8Size_eq_one_iff.mpr hc, List.length_cons, Nat.add_comm]

/-- A name of more than two characters is no special one. -/
theorem isPlainName_of_ascii {name : List Char} (hslash : '/' ∉ name) (hnull : '\x00' ∉ name)
    (hascii : ∀ c ∈ name, c.val ≤ 127) (hlong : 2 < name.length)
    (hshort : name.length ≤ nameLimit) : IsPlainName (String.ofList name) := by
  have hne (special : String) (hspecial : special.toList.length ≤ 2) :
      String.ofList name ≠ special := by
    rintro rfl
    rw [String.toList_ofList] at hspecial
    omega
  constructor
  · rwa [String.toList_ofList]
  · rwa [String.toList_ofList]
  · exact ⟨hne _ (by decide), hne _ (by decide), hne _ (by decide)⟩
  · rw [utf8ByteSize_ascii hascii]
    exact hshort

/-- The text of a path in a directory is short enough to be followed. -/
def Fits (dir name : String) : Prop := (join dir name).utf8ByteSize < textLimit

theorem utf8ByteSize_join (dir name : String) :
    dir.utf8ByteSize + name.utf8ByteSize ≤ (join dir name).utf8ByteSize ∧
      (join dir name).utf8ByteSize ≤ dir.utf8ByteSize + 1 + name.utf8ByteSize := by
  have hslash : "/".utf8ByteSize = 1 := rfl
  unfold join
  split_ifs
  · rw [String.utf8ByteSize_append]
    omega
  · rw [String.utf8ByteSize_append, String.utf8ByteSize_append]
    omega

theorem fits_of_short {dir name : String} (hname : IsPlainName name)
    (hdir : dir.utf8ByteSize + 1 + nameLimit < textLimit) : Fits dir name := by
  have hshort := hname.short
  have hsize := (utf8ByteSize_join dir name).2
  unfold Fits
  omega

def rooted : List String → List String
  | "" :: rest => "/" :: rest
  | parts => parts

theorem names_eq (text : String) :
    names text = rooted ((text.toList.splitOn '/').map String.ofList) := by
  unfold names rooted
  generalize (text.toList.splitOn '/').map String.ofList = parts
  split
  case h_1 => rfl
  case h_2 hne => simp only

theorem rooted_append {front : List String} (h : front ≠ []) (back : List String) :
    rooted (front ++ back) = rooted front ++ back := by
  cases front with
  | nil => exact absurd rfl h
  | cons first rest =>
    rw [List.cons_append]
    unfold rooted
    split
    case h_1 heq =>
      obtain ⟨rfl, rfl⟩ := List.cons.inj heq
      rfl
    case h_2 hne =>
      split
      case h_1 rest' heq =>
        obtain ⟨rfl, rfl⟩ := List.cons.inj heq
        exact absurd rfl (hne _)
      case h_2 => rfl

theorem splitOn_slash (front back : List Char) :
    (front ++ '/' :: back).splitOn '/' = front.splitOn '/' ++ back.splitOn '/' :=
  List.splitOnP_append_cons front back (by decide)

theorem splitOn_of_notMem {s : List Char} (h : '/' ∉ s) : s.splitOn '/' = [s] := by
  have hsplit := @List.splitOn_intercalate _ [s] _ _ '/' (by simpa using h) (by simp)
  simpa using hsplit

theorem map_splitOn_ne_nil (s : List Char) : (s.splitOn '/').map String.ofList ≠ [] := by
  simp [List.splitOn, List.splitOnP_ne_nil]

theorem endsWith_slash {s : String} : s.endsWith "/" = true ↔ ['/'] <:+ s.toList := by
  rw [String.endsWith_eq_endsWith_toSlice, String.Slice.endsWith_string_iff, String.copy_toSlice]
  rfl

/-- The names on the way into a directory are those on the way to it, but for a slash at the end. -/
theorem names_join {dir name : String} (hdir : dir ≠ "") (hname : '/' ∉ name.toList) :
    ∃ front, names (join dir name) = front ++ [name] ∧
      (names dir = front ∨ names dir = front ++ [""]) := by
  have hlast : (name.toList.splitOn '/').map String.ofList = [name] := by
    rw [splitOn_of_notMem hname]
    simp
  by_cases hslash : dir.endsWith "/" = true
  · obtain ⟨front, hfront⟩ := endsWith_slash.mp hslash
    have hdirList : dir.toList = front ++ '/' :: [] := hfront.symm
    have hjoin : (join dir name).toList = front ++ '/' :: name.toList := by
      simp [join, hslash, hdirList]
    refine ⟨rooted ((front.splitOn '/').map String.ofList), ?_, .inr ?_⟩
    · rw [names_eq, hjoin, splitOn_slash, List.map_append, hlast,
        rooted_append (map_splitOn_ne_nil front)]
    · rw [names_eq, hdirList, splitOn_slash, List.map_append,
        rooted_append (map_splitOn_ne_nil front)]
      simp
  · have hjoin : (join dir name).toList = dir.toList ++ '/' :: name.toList := by
      simp [join, hslash, hdir]
    refine ⟨names dir, ?_, .inl rfl⟩
    rw [names_eq, names_eq, hjoin, splitOn_slash, List.map_append, hlast,
      rooted_append (map_splitOn_ne_nil dir.toList)]

/-! ## The place of a directory -/

structure IsAt (d : Disk) (dir : String) (p : Path) : Prop where
  locate : d.locate dir = .ok p
  directory : d.isDirectory p = true

theorem node?_eq_directory {d : Disk} {p : Path} :
    d.node? p = some .directory ↔ d.isDirectory p = true := by
  simp [isDirectory]

theorem enter_cases {d : Disk} {place next : Path} {name : String}
    (h : d.enter place name = .ok next) :
    d.isDirectory place = true ∧
      (next = place ∨ next = place.dropLast ∨ next = place ++ [name]) := by
  unfold enter at h
  split at h
  · cases h
  · refine ⟨node?_eq_directory.mp ‹_›, ?_⟩
    split_ifs at h
    · exact .inl (Except.ok.inj h).symm
    · exact .inr (.inl (Except.ok.inj h).symm)
    · exact .inr (.inr (Except.ok.inj h).symm)
  · cases h

theorem enter_blank {d : Disk} {place q : Path} (h : d.enter place "" = .ok q) : q = place := by
  unfold enter at h
  split at h
  · cases h
  · simpa using h.symm
  · cases h

theorem foldlM_enter_append {d : Disk} (front : List String) {back : List String} {place q : Path}
    (h : (front ++ back).foldlM d.enter place = .ok q) :
    ∃ middle, front.foldlM d.enter place = .ok middle ∧ back.foldlM d.enter middle = .ok q := by
  rw [List.foldlM_append] at h
  cases hfront : front.foldlM d.enter place with
  | error e =>
    rw [hfront] at h
    cases h
  | ok middle =>
    rw [hfront] at h
    exact ⟨middle, rfl, h⟩

theorem foldlM_enter_blank {d : Disk} {blanks : List String} (hblanks : ∀ s ∈ blanks, s = "")
    {place q : Path} (h : blanks.foldlM d.enter place = .ok q) : q = place := by
  induction blanks generalizing place with
  | nil => exact (Except.ok.inj h).symm
  | cons s blanks ih =>
    obtain ⟨rfl, hrest⟩ := List.forall_mem_cons.mp hblanks
    obtain ⟨middle, hfirst, hmore⟩ := foldlM_enter_append [""] h
    have hblank : d.enter place "" = .ok middle := by simpa using hfirst
    rw [ih hrest hmore, enter_blank hblank]

theorem checkText_of_locate {d : Disk} {text : String} {p : Path} (h : d.locate text = .ok p) :
    checkText text = .ok () ∧ (names text).foldlM d.enter [] = .ok p := by
  unfold locate at h
  cases hcheck : checkText text with
  | error e =>
    rw [hcheck] at h
    cases h
  | ok _ =>
    rw [hcheck] at h
    exact ⟨rfl, h⟩

theorem checkText_eq_ok {text : String} :
    checkText text = .ok () ↔
      '\x00' ∉ text.toList ∧ text ≠ "" ∧ text.utf8ByteSize < textLimit := by
  unfold checkText
  split_ifs with hnull hempty hlong
  · simp_all
  · simp_all
  · simp_all
  · simp_all

theorem enter_plain {d : Disk} {p : Path} {name : String} (hp : d.isDirectory p = true)
    (hname : IsPlainName name) : d.enter p name = .ok (p ++ [name]) := by
  obtain ⟨hne, hdot, hdots⟩ := hname.not_special
  have hshort : ¬nameLimit < name.utf8ByteSize := Nat.not_lt.mpr hname.short
  simp [enter, node?_eq_directory.mpr hp, hne, hdot, hdots, hshort]

section
variable {d : Disk} {dir : String} {p : Path} (h : d.IsAt dir p) {name : String}
  (hname : IsPlainName name)
include h

theorem IsAt.dir_ne_empty : dir ≠ "" :=
  (checkText_eq_ok.mp (checkText_of_locate h.locate).1).2.1

include hname

theorem locate_join :
    d.locate (join dir name) = (checkText (join dir name)).map fun _ => p ++ [name] := by
  obtain ⟨hcheck, hwalk⟩ := checkText_of_locate h.locate
  obtain ⟨front, hjoin, hfront⟩ := names_join h.dir_ne_empty hname.no_slash
  have hfold : front.foldlM d.enter [] = .ok p := by
    rcases hfront with hsame | hslash
    · rwa [hsame] at hwalk
    · rw [hslash] at hwalk
      obtain ⟨middle, hfirst, hlast⟩ := foldlM_enter_append _ hwalk
      rw [foldlM_enter_blank (by simp) hlast]
      exact hfirst
  have hall : (names (join dir name)).foldlM d.enter [] = .ok (p ++ [name]) := by
    rw [hjoin, List.foldlM_append, hfold]
    change [name].foldlM d.enter p = _
    rw [List.foldlM_cons, enter_plain h.directory hname]
    rfl
  unfold locate
  cases checkText (join dir name) with
  | error e => rfl
  | ok _ => exact hall

theorem locate_fits (hfits : Fits dir name) : d.locate (join dir name) = .ok (p ++ [name]) := by
  have hcheck : checkText (join dir name) = .ok () := by
    obtain ⟨hnull, hne, -⟩ := checkText_eq_ok.mp (checkText_of_locate h.locate).1
    refine checkText_eq_ok.mpr ⟨?_, ?_, hfits⟩
    · unfold join
      split_ifs <;> simp [hnull, hname.no_null]
    · unfold join
      split_ifs <;> simp [hne]
  rw [locate_join h hname, hcheck]
  rfl

theorem locate_not_fits (hlong : ¬Fits dir name) :
    ∃ e, e ≠ .missing ∧ d.locate (join dir name) = .error e := by
  rw [locate_join h hname]
  unfold checkText
  split_ifs with hnull hempty
  · exact ⟨_, by simp, rfl⟩
  · obtain ⟨-, hne, -⟩ := checkText_eq_ok.mp (checkText_of_locate h.locate).1
    have hjoin : join dir name ≠ "" := by
      unfold join
      split_ifs <;> simp [hne]
    exact absurd hempty hjoin
  · exact ⟨_, by simp, rfl⟩
  · exact absurd (Nat.lt_of_not_le ‹_›) hlong

end

/-! ## Making a directory that is there -/

theorem names_trimmed (text : String) :
    names text = ((names text).reverse.dropWhile (· = "")).reverse ++
      ((names text).reverse.takeWhile (· = "")).reverse := by
  rw [← List.reverse_append, List.takeWhile_append_dropWhile, List.reverse_reverse]

theorem blanks_of_names (text : String) :
    ∀ s ∈ ((names text).reverse.takeWhile (· = "")).reverse, s = "" := by
  intro s hs
  have htrue := List.all_eq_true.mp (List.all_takeWhile (p := (· = "")) (l := (names text).reverse))
  simpa using htrue s (List.mem_reverse.mp hs)

theorem trimmed_walk {d : Disk} {text : String} {p : Path}
    (h : (names text).foldlM d.enter [] = .ok p) :
    ((names text).reverse.dropWhile (· = "")).reverse.foldlM d.enter [] = .ok p := by
  rw [names_trimmed text] at h
  obtain ⟨middle, hfirst, hblank⟩ := foldlM_enter_append _ h
  rw [foldlM_enter_blank (blanks_of_names text) hblank]
  exact hfirst

theorem makeDirectory_isAt {d : Disk} {dir : String} {p : Path} (h : d.IsAt dir p) :
    d.makeDirectory dir = .error .occupied := by
  obtain ⟨hcheck, hwalk⟩ := checkText_of_locate h.locate
  unfold makeDirectory
  rw [hcheck]
  change ((names dir).reverse.dropWhile (· = "")).reverse.foldlM d.enter [] >>= _ = _
  rw [trimmed_walk hwalk]
  simp [bind, Except.bind, node?_eq_directory.mpr h.directory]

theorem makeDirectory_eq_ok {d d' : Disk} {dir : String} (h : d.makeDirectory dir = .ok d') :
    ∃ p, checkText dir = .ok () ∧
      ((names dir).reverse.dropWhile (· = "")).reverse.foldlM d.enter [] = .ok p ∧
      d.node? p = none ∧ d' = d.put p .directory := by
  unfold makeDirectory at h
  cases hcheck : checkText dir with
  | error e =>
    rw [hcheck] at h
    cases h
  | ok _ =>
    rw [hcheck] at h
    simp only [bind, Except.bind] at h
    split at h
    · cases h
    · rename_i p hwalk
      cases hnode : d.node? p with
      | some n =>
        rw [hnode] at h
        cases h
      | none =>
        rw [hnode] at h
        exact ⟨p, rfl, hwalk, hnode, (Except.ok.inj h).symm⟩

theorem not_isDirectory_of_none {d : Disk} {p : Path} (h : d.node? p = none) :
    d.isDirectory p = false := by simp [isDirectory, h]

theorem within_of_makeDirectory {d d' : Disk} {dir : String} (h : d.makeDirectory dir = .ok d') :
    Within d d' := by
  obtain ⟨p, -, -, hnode, rfl⟩ := makeDirectory_eq_ok h
  intro r n hr
  have hne : r ≠ p := by
    rintro rfl
    exact absurd (hnode.symm.trans hr) (by simp)
  rw [node?_put d (not_isDirectory_of_none hnode), if_neg hne, hr]

theorem foldlM_enter_blanks {d : Disk} {p : Path} (hp : d.isDirectory p = true)
    {blanks : List String} (hblanks : ∀ s ∈ blanks, s = "") :
    blanks.foldlM d.enter p = .ok p := by
  induction blanks with
  | nil => rfl
  | cons s blanks ih =>
    obtain ⟨rfl, hrest⟩ := List.forall_mem_cons.mp hblanks
    have hstay : d.enter p "" = .ok p := by simp [enter, node?_eq_directory.mpr hp]
    rw [List.foldlM_cons, hstay]
    exact ih hrest

theorem isAt_of_makeDirectory {d d' : Disk} {dir : String} (h : d.makeDirectory dir = .ok d') :
    ∃ p, d'.IsAt dir p := by
  obtain ⟨p, hcheck, hwalk, hnode, rfl⟩ := makeDirectory_eq_ok h
  have hnot := not_isDirectory_of_none hnode
  have hthere : (d.put p .directory).isDirectory p = true := by
    rw [isDirectory, node?_put d hnot, if_pos rfl]
    rfl
  refine ⟨p, ?_, hthere⟩
  rw [locate, hcheck]
  change (names dir).foldlM (d.put p .directory).enter [] = _
  rw [names_trimmed dir, List.foldlM_append, foldlM_enter_put hnot _ hwalk]
  exact foldlM_enter_blanks hthere (blanks_of_names dir)

theorem isAt_of_hasDirectory {d : Disk} {dir : String} (h : d.hasDirectory dir = true) :
    ∃ p, d.IsAt dir p := by
  unfold hasDirectory find at h
  cases hlocate : d.locate dir with
  | error e =>
    rw [hlocate] at h
    cases h
  | ok p =>
    refine ⟨p, hlocate, ?_⟩
    rw [hlocate] at h
    simp only [bind, Except.bind] at h
    cases hnode : d.node? p with
    | none =>
      rw [hnode] at h
      cases h
    | some n =>
      rw [hnode] at h
      cases n <;> cases h
      exact node?_eq_directory.mp hnode

theorem hasDirectory_isAt {d : Disk} {dir : String} {p : Path} (h : d.IsAt dir p) :
    d.hasDirectory dir = true := by
  simp [hasDirectory, find, h.locate, node?_eq_directory.mpr h.directory, bind, Except.bind]

end DnsFilter.Disk

namespace DnsFilter.OnDisk

theorem perform_tryCatch {α : Type} (work : OnDisk α) (handler : FileError → OnDisk α) (d : Disk) :
    (tryCatch work handler).perform d =
      match work.perform d with
      | (.ok a, d) => (.ok a, d)
      | (.error e, d) => (handler e).perform d := by
  unfold perform
  rw [ExceptT.run_tryCatch, StateT.run_bind]
  rcases (StateT.run work.run d) with ⟨_ | _, _⟩ <;> rfl

theorem perform_ensureDirectory (path : String) (d : Disk) :
    (ensureDirectory path).perform d =
      match d.makeDirectory path with
      | .ok d' => (.ok (), d')
      | .error .occupied => (if d.hasDirectory path then .ok () else .error .occupied, d)
      | .error e => (.error e, d) := by
  have hget : (get : OnDisk Disk).perform d = (.ok d, d) := rfl
  rw [ensureDirectory, perform_bind, hget]
  cases hmake : d.makeDirectory path with
  | ok d' =>
    simp only [hmake]
    rfl
  | error e =>
    simp only [hmake]
    cases e
    case occupied =>
      simp only
      rw [perform_bind, hget]
      cases hthere : d.hasDirectory path <;> simp only [hthere] <;> rfl
    all_goals rfl

theorem makeDirectories_isAt {d : Disk} {dir : String} {p : Path} (h : d.IsAt dir p) :
    (makeDirectories dir).perform d = (.ok (), d) := by
  have hensure : (ensureDirectory dir).perform d = (.ok (), d) := by
    rw [perform_ensureDirectory, Disk.makeDirectory_isAt h]
    simp [Disk.hasDirectory_isAt h]
  rw [makeDirectories, if_neg h.dir_ne_empty, makeChain, perform_tryCatch, hensure]

/-- A directory is there once it is made with those above it. -/
theorem isAt_of_ensureDirectory {dir : String} {d d' : Disk}
    (h : (ensureDirectory dir).perform d = (.ok (), d')) : ∃ p, d'.IsAt dir p := by
  rw [perform_ensureDirectory] at h
  cases hmake : d.makeDirectory dir with
  | ok made =>
    rw [hmake] at h
    obtain ⟨-, rfl⟩ := Prod.mk.inj h
    exact Disk.isAt_of_makeDirectory hmake
  | error e =>
    rw [hmake] at h
    cases e
    case occupied =>
      obtain ⟨hthere, rfl⟩ := Prod.mk.inj h
      cases hhas : d.hasDirectory dir with
      | true => exact Disk.isAt_of_hasDirectory hhas
      | false => simp [hhas] at hthere
    all_goals cases (Prod.mk.inj h).1

theorem isAt_of_makeDirectories {dir : String} (hne : dir ≠ "") {d d' : Disk}
    (h : (makeDirectories dir).perform d = (.ok (), d')) : ∃ p, d'.IsAt dir p := by
  rw [makeDirectories, if_neg hne, makeChain, perform_tryCatch] at h
  rcases hfirst : (ensureDirectory dir).perform d with ⟨e | _, d₁⟩
  · rw [hfirst] at h
    cases e
    case missing =>
      simp only [perform_bind] at h
      rcases hchain : (makeChain (Disk.above dir)).perform d₁ with ⟨_ | _, d₂⟩
      · rw [hchain] at h
        cases (Prod.mk.inj h).1
      · rw [hchain] at h
        exact isAt_of_ensureDirectory h
    all_goals cases (Prod.mk.inj h).1
  · rw [hfirst] at h
    obtain ⟨-, rfl⟩ := Prod.mk.inj h
    exact isAt_of_ensureDirectory hfirst

theorem ensureDirectory_within (path : String) (d : Disk) :
    Disk.Within d ((ensureDirectory path).perform d).2 := by
  rw [perform_ensureDirectory]
  cases hmake : d.makeDirectory path with
  | ok d' => exact Disk.within_of_makeDirectory hmake
  | error e => cases e <;> exact fun _ _ hnode => hnode

theorem makeChain_within (paths : List String) (d : Disk) :
    Disk.Within d ((makeChain paths).perform d).2 := by
  induction paths generalizing d with
  | nil => exact fun _ _ hnode => hnode
  | cons path above ih =>
    have hfirst := ensureDirectory_within path d
    rw [makeChain, perform_tryCatch]
    rcases hensure : (ensureDirectory path).perform d with ⟨e | _, d₁⟩
    · rw [hensure] at hfirst
      cases e
      case missing =>
        simp only
        rw [perform_bind]
        have habove := ih d₁
        rcases hchain : (makeChain above).perform d₁ with ⟨_ | _, d₂⟩
        · rw [hchain] at habove
          exact fun r n hnode => habove r n (hfirst r n hnode)
        · rw [hchain] at habove
          exact fun r n hnode =>
            ensureDirectory_within path d₂ r n (habove r n (hfirst r n hnode))
      all_goals exact hfirst
    · rw [hensure] at hfirst
      exact hfirst

theorem makeDirectories_within (path : String) (d : Disk) :
    Disk.Within d ((makeDirectories path).perform d).2 := by
  unfold makeDirectories
  split_ifs
  · exact fun _ _ hnode => hnode
  · exact makeChain_within _ d

end DnsFilter.OnDisk
