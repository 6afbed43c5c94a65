import DnsFilter.Proofs.Storage.Directory
/-!
# Spellings of a directory

Two texts with the same parts name one directory: paths into it lead to one place, whichever of the
two they begin with.
-/
namespace DnsFilter.Disk

/-! ## Names that stay in place -/

def steps (names : List String) : List String := names.filter (fun n => n ≠ "" && n ≠ ".")

theorem parts_eq {text first : String} {rest : List String} (htext : text ≠ "")
    (hnames : names text = first :: rest) : parts text = first :: steps rest := by
  rw [parts, if_neg htext, hnames]
  rfl

/-- No way leads on from a place that is not a directory, by whatever name. -/
theorem enter_fails {d : Disk} {place : Path} (h : d.isDirectory place = false) :
    ∃ e, ∀ name, d.enter place name = .error e := by
  unfold enter
  cases hnode : d.node? place with
  | none => exact ⟨.missing, fun _ => rfl⟩
  | some n =>
    cases n with
    | directory => simp [isDirectory, hnode] at h
    | plain content => exact ⟨.notDirectory, fun _ => rfl⟩
    | packed content => exact ⟨.notDirectory, fun _ => rfl⟩

theorem enter_stays {d : Disk} {place : Path} (h : d.isDirectory place = true) {name : String}
    (hname : name = "" ∨ name = ".") : d.enter place name = .ok place := by
  rcases hname with rfl | rfl <;> simp [enter, node?_eq_directory.mpr h]

/-- Names that stay in place make no difference to a way that goes on behind them. -/
theorem foldlM_enter_steps (d : Disk) (names : List String) {back : List String}
    (hback : back ≠ []) (place : Path) :
    (names ++ back).foldlM d.enter place = (steps names ++ back).foldlM d.enter place := by
  induction names generalizing place with
  | nil => rfl
  | cons name names ih =>
    by_cases hstay : name = "" ∨ name = "."
    · have hsteps : steps (name :: names) = steps names := by
        rcases hstay with rfl | rfl <;> rfl
      rw [hsteps, List.cons_append, List.foldlM_cons]
      cases hplace : d.isDirectory place with
      | true =>
        rw [enter_stays hplace hstay]
        exact ih place
      | false =>
        -- the next name fails as this one does
        obtain ⟨e, hfails⟩ := enter_fails hplace
        obtain ⟨next, more, hnext⟩ :=
          List.exists_cons_of_ne_nil (List.append_ne_nil_of_right_ne_nil (steps names) hback)
        rw [hnext, List.foldlM_cons, hfails, hfails]
        rfl
    · have hsteps : steps (name :: names) = name :: steps names := by
        rw [not_or] at hstay
        simp [steps, hstay]
      rw [hsteps, List.cons_append, List.cons_append, List.foldlM_cons, List.foldlM_cons]
      congr 1
      funext next
      exact ih next

/-! ## Paths into a directory -/

theorem names_ne_nil (text : String) : names text ≠ [] := by
  rw [names_eq]
  unfold rooted
  split
  · simp
  · exact map_splitOn_ne_nil text.toList

theorem head_names_ne (text : String) : ∀ rest, names text ≠ "" :: rest := by
  intro rest
  rw [names_eq]
  unfold rooted
  split
  · simp
  · rename_i hne
    exact fun h => hne rest h

theorem parts_eq_nil {text : String} : parts text = [] ↔ text = "" := by
  constructor
  · intro h
    refine Decidable.byContradiction fun hne => ?_
    obtain ⟨first, rest, hnames⟩ := List.exists_cons_of_ne_nil (names_ne_nil text)
    rw [parts_eq hne hnames] at h
    cases h
  · rintro rfl
    rfl

section
variable {name : String} (hname : '/' ∉ name.toList)
include hname

theorem names_join_parts {dir : String} (hdir : dir ≠ "") :
    ∃ first rest, names (join dir name) = first :: (rest ++ [name]) ∧
      parts dir = first :: steps rest := by
  obtain ⟨front, hjoin, hfront⟩ := names_join hdir hname
  cases front with
  | nil =>
    rcases hfront with hnil | hblank
    · exact absurd hnil (names_ne_nil dir)
    · exact absurd hblank (head_names_ne dir [])
  | cons first rest =>
    refine ⟨first, rest, hjoin, ?_⟩
    rcases hfront with hsame | hslash
    · exact parts_eq hdir hsame
    · rw [parts_eq hdir hslash]
      simp [steps]

variable {dir other : String} (hparts : parts dir = parts other)
include hparts

theorem walk_join_congr (d : Disk) :
    (names (join dir name)).foldlM d.enter [] = (names (join other name)).foldlM d.enter [] := by
  by_cases hdir : dir = ""
  · have hother : other = "" := parts_eq_nil.mp (hparts ▸ parts_eq_nil.mpr hdir)
    rw [hdir, hother]
  · have hother : other ≠ "" := fun h => hdir (parts_eq_nil.mp (hparts ▸ parts_eq_nil.mpr h))
    obtain ⟨first, rest, hnames, hfirst⟩ := names_join_parts hname hdir
    obtain ⟨first', rest', hnames', hfirst'⟩ := names_join_parts hname hother
    obtain ⟨rfl, hsteps⟩ := List.cons.inj (hfirst ▸ hfirst' ▸ hparts)
    rw [hnames, hnames', List.foldlM_cons, List.foldlM_cons]
    congr 1
    funext place
    rw [foldlM_enter_steps d rest (by simp), foldlM_enter_steps d rest' (by simp), hsteps]

/-- A path that can be followed leads nowhere if it does so in another spelling. -/
theorem has_join_congr {d : Disk} (hcheck : checkText (join dir name) = .ok ())
    (h : d.has (join dir name) = false) : d.has (join other name) = false := by
  rw [← Bool.not_eq_true] at h ⊢
  intro hthere
  refine h ?_
  unfold has find locate at hthere ⊢
  cases hother : checkText (join other name) with
  | error e =>
    rw [hother] at hthere
    cases hthere
  | ok _ =>
    rw [hother] at hthere
    rw [hcheck, walk_join_congr hname hparts]
    exact hthere

end

theorem names_dot (text : String) : names (text ++ "/.") = names text ++ ["."] := by
  have htext : (text ++ "/.").toList = text.toList ++ '/' :: ['.'] := by simp
  rw [names_eq, names_eq, htext, splitOn_slash, List.map_append,
    rooted_append (map_splitOn_ne_nil text.toList)]
  rfl

/-- A dot behind the path of a directory leads to the same place, if it is not too long. -/
theorem IsAt.dot {d : Disk} {dir : String} {p : Path} (h : d.IsAt dir p)
    (hshort : (dir ++ "/.").utf8ByteSize < textLimit) : d.IsAt (dir ++ "/.") p where
  locate := by
    obtain ⟨hcheck, hwalk⟩ := checkText_of_locate h.locate
    obtain ⟨hnull, hne, -⟩ := checkText_eq_ok.mp hcheck
    have hdotted : checkText (dir ++ "/.") = .ok () :=
      checkText_eq_ok.mpr ⟨by simp [hnull], by simp, hshort⟩
    have hstays : d.enter p "." = .ok p := enter_stays h.directory (.inr rfl)
    rw [Disk.locate, hdotted]
    change (names (dir ++ "/.")).foldlM d.enter [] = _
    have hlast : ["."].foldlM d.enter p = .ok p := by
      rw [List.foldlM_cons, hstays]
      rfl
    rw [names_dot, List.foldlM_append, hwalk]
    exact hlast
  directory := h.directory

def dotted (dir : String) : Nat → String
  | 0 => dir
  | n + 1 => dotted dir n ++ "/."

theorem utf8ByteSize_dotted (dir : String) (n : Nat) :
    (dotted dir n).utf8ByteSize = dir.utf8ByteSize + 2 * n := by
  induction n with
  | zero => rfl
  | succ n ih =>
    have hdot : "/.".utf8ByteSize = 2 := rfl
    rw [dotted, String.utf8ByteSize_append, ih, hdot]
    omega

theorem IsAt.dotted {d : Disk} {dir : String} {p : Path} (h : d.IsAt dir p) {n : Nat}
    (hshort : dir.utf8ByteSize + 2 * n < textLimit) : d.IsAt (dotted dir n) p := by
  induction n with
  | zero => exact h
  | succ n ih =>
    refine (ih (by omega)).dot ?_
    rw [← Disk.dotted, utf8ByteSize_dotted]
    exact hshort

theorem checkText_of_find {d : Disk} {text : String} (htext : text ≠ "")
    (h : (∃ found, d.find text = .ok found) ∨ d.find text = .error .missing) :
    checkText text = .ok () := by
  cases hcheck : checkText text with
  | ok _ => rfl
  | error e =>
    have hfind : d.find text = .error e := by
      unfold find locate
      rw [hcheck]
      rfl
    rw [hfind] at h
    rcases h with ⟨found, hfound⟩ | hmissing
    · cases hfound
    · cases hmissing
      unfold checkText at hcheck
      split_ifs at hcheck <;> cases hcheck

end DnsFilter.Disk
