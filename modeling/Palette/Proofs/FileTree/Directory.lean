import Palette.Proofs.FileTree.Growth

/-!
# Making directories

Making a directory and those above it adds directories to the files and nothing else, however it
ends (`FileSystem.growsTo_makeDirectories`).  It adds no more than it has to: if the path is a
directory in any growth of the files, then it can be made, and the result still grows to that
(`FileSystem.exists_makeUpTo`).

So whether a directory can be made, and a file in it be written, does not depend on directories
that were made before (`FileSystem.GrowsTo.exists_makeDirectories`,
`FileSystem.GrowsTo.exists_append`).  Only the current directory has to be there from the start,
since a relative path that is followed from nowhere cannot be made.
-/

namespace Palette

/-- The path above is no longer, but for the dot that stands for no parts at all. -/
theorem Path.utf8ByteSize_text_parent_le {path : Path} {limit : Nat} (hlimit : 0 < limit)
    (hpath : path.text.utf8ByteSize ≤ limit) : path.parent.text.utf8ByteSize ≤ limit := by
  obtain ⟨root, parts⟩ := path
  rcases List.eq_nil_or_concat parts with rfl | ⟨front, last, rfl⟩
  · exact hpath
  · rw [List.concat_eq_append] at hpath ⊢
    have htext : (Path.mk root (front ++ [last])).text =
        root.text ++ String.intercalate "/" (front ++ [last]) :=
      if_neg fun hnone => List.append_ne_nil_of_right_ne_nil _ (by simp) hnone.2
    rw [htext] at hpath
    rw [parent, List.dropLast_concat, text]
    split
    · exact hlimit
    · cases front with
      | nil =>
          simp only [String.utf8ByteSize_append, String.intercalate_nil] at hpath ⊢
          exact Nat.le_trans (Nat.le_add_right _ _) hpath
      | cons first rest =>
          rw [String.intercalate_append_of_ne_nil (by simp) (by simp)] at hpath
          simp only [String.utf8ByteSize_append] at hpath ⊢
          omega

theorem Path.parent_of_no_parts {path : Path} (hparts : path.parts = []) : path.parent = path := by
  rw [parent, hparts, List.dropLast_nil, ← hparts]

namespace FileSystem

open FileNode

/-- The files become the other ones by directories that are made. -/
structure GrowsTo (files grown : FileSystem) : Prop where
  current : grown.current = files.current
  top : files.top.GrowsTo grown.top

/-- The current directory is given from the top of the tree, and is a directory there. -/
structure HasCurrent (files : FileSystem) : Prop where
  absolute : files.current.isAbsolute = true
  present : files.isDirectory files.current = true

variable {files grown made : FileSystem} {path : Path}

theorem GrowsTo.refl (files : FileSystem) : files.GrowsTo files :=
  ⟨rfl, .refl _⟩

theorem GrowsTo.trans {first second third : FileSystem} (hfirst : first.GrowsTo second)
    (hsecond : second.GrowsTo third) : first.GrowsTo third :=
  ⟨hsecond.current.trans hfirst.current, hfirst.top.trans hsecond.top⟩

theorem GrowsTo.find (hgrows : files.GrowsTo grown) (path : Path) :
    FollowsAlike (files.find path) (grown.find path) := by
  unfold FileSystem.find partsOf
  rw [hgrows.current]
  split
  · exact .fails _
  · exact hgrows.top.follow .nil _

theorem isDirectory_iff :
    files.isDirectory path = true ↔ ∃ entries, files.find path = .ok (.directory entries) := by
  unfold isDirectory
  rcases files.find path with fault | content | entries <;> simp

/-- A path that is not too long is followed from the top of the tree. -/
theorem find_eq_iff {outcome : Except PathFault FileNode} (hlong : outcome ≠ .error .nameTooLong) :
    files.find path = outcome ↔
      path.text.utf8ByteSize ≤ pathLimit ∧
        follow [] files.top (files.partsOf path) = outcome := by
  unfold find
  split
  · rename_i hsize
    simp [Nat.not_le.2 hsize, hlong.symm]
  · rename_i hsize
    simp [Nat.not_lt.1 hsize]

theorem find_eq_ok_iff {node : FileNode} :
    files.find path = .ok node ↔
      path.text.utf8ByteSize ≤ pathLimit ∧
        follow [] files.top (files.partsOf path) = .ok node :=
  find_eq_iff nofun

theorem find_eq_missing_iff :
    files.find path = .error .missing ↔
      path.text.utf8ByteSize ≤ pathLimit ∧
        follow [] files.top (files.partsOf path) = .error .missing :=
  find_eq_iff nofun

theorem isDirectory_iff_follow :
    files.isDirectory path = true ↔ path.text.utf8ByteSize ≤ pathLimit ∧
      ∃ entries, follow [] files.top (files.partsOf path) = .ok (.directory entries) := by
  simp only [isDirectory_iff, find_eq_ok_iff, exists_and_left]

/-- A directory stays one. -/
theorem GrowsTo.isDirectory (hgrows : files.GrowsTo grown)
    (hdirectory : files.isDirectory path = true) : grown.isDirectory path = true := by
  obtain ⟨entries, hfind⟩ := isDirectory_iff.1 hdirectory
  have halike := hgrows.find path
  rw [hfind] at halike
  generalize hgrown : grown.find path = outcome at halike
  cases halike with
  | found hnode =>
      cases hnode with
      | directory => exact isDirectory_iff.2 ⟨_, hgrown⟩

/-- Where there is a directory in the end, there is one now, or nothing. -/
theorem GrowsTo.find_of_isDirectory (hgrows : files.GrowsTo grown)
    (hdirectory : grown.isDirectory path = true) :
    files.isDirectory path = true ∨ files.find path = .error .missing := by
  obtain ⟨entries, hfind⟩ := isDirectory_iff.1 hdirectory
  have halike := hgrows.find path
  rw [hfind] at halike
  generalize hfirst : files.find path = outcome at halike
  cases halike with
  | found hnode =>
      cases hnode with
      | directory => exact Or.inl (isDirectory_iff.2 ⟨_, hfirst⟩)
  | missing => exact Or.inr rfl

/-- The parts of a path are those of the path above and its last one. -/
theorem partsOf_eq_append (files : FileSystem) (hparts : path.parts ≠ []) :
    ∃ last, files.partsOf path = files.partsOf path.parent ++ [last] := by
  obtain ⟨root, parts⟩ := path
  obtain ⟨front, last, rfl⟩ := (List.eq_nil_or_concat parts).resolve_left hparts
  refine ⟨last, ?_⟩
  simp only [partsOf, Path.parent, Path.join, Path.isAbsolute, List.concat_eq_append,
    List.dropLast_concat]
  split
  · rfl
  · rw [List.append_assoc]

/-- Above a directory there is a directory. -/
theorem isDirectory_parent (hdirectory : files.isDirectory path = true) :
    files.isDirectory path.parent = true := by
  by_cases hparts : path.parts = []
  · rwa [Path.parent_of_no_parts hparts]
  · obtain ⟨hsize, entries, hfollow⟩ := isDirectory_iff_follow.1 hdirectory
    obtain ⟨last, hsplit⟩ := files.partsOf_eq_append hparts
    rw [hsplit] at hfollow
    exact isDirectory_iff_follow.2 ⟨Path.utf8ByteSize_text_parent_le (by decide) hsize,
      exists_directory_of_follow_append hfollow⟩

/-- A path without parts leads to a directory. -/
theorem HasCurrent.isDirectory_of_no_parts (hcurrent : files.HasCurrent)
    (hparts : path.parts = []) : files.isDirectory path = true := by
  obtain ⟨-, entries, hfollow⟩ := isDirectory_iff_follow.1 hcurrent.present
  rw [partsOf, Path.join_of_absolute _ hcurrent.absolute] at hfollow
  obtain ⟨root, _⟩ := path
  obtain rfl : _ = [] := hparts
  have hshort : (Path.mk root []).text.utf8ByteSize ≤ pathLimit := by
    cases root <;> decide
  refine isDirectory_iff_follow.2 ⟨hshort, ?_⟩
  by_cases hrelative : root = .relative
  · subst hrelative
    rw [partsOf, Path.join_of_relative _ rfl, List.append_nil]
    exact ⟨entries, hfollow⟩
  · rw [partsOf, Path.join_of_absolute _ (by simpa [Path.isAbsolute] using hrelative)]
    -- the top is a directory, since the current directory is found below it
    cases htop : files.top with
    | file content access =>
        rw [htop] at hfollow
        cases hparts : files.current.parts <;> rw [hparts] at hfollow <;> cases hfollow
    | directory below => exact ⟨below, rfl⟩

theorem HasCurrent.mono (hcurrent : files.HasCurrent) (hgrows : files.GrowsTo grown) :
    grown.HasCurrent := by
  obtain ⟨habsolute, hpresent⟩ := hcurrent
  rw [← hgrows.current] at habsolute hpresent
  exact ⟨habsolute, hgrows.isDirectory hpresent⟩

/-! ## Making a directory -/

theorem partsOf_put (files : FileSystem) (path other : Path) (node : FileNode) :
    (files.put path node).partsOf other = files.partsOf other := rfl

/-- Nothing is at the path, in a directory that is there. -/
structure IsFree (files : FileSystem) (path : Path) : Prop where
  missing : files.find path = .error .missing
  inDirectory : files.isDirectory path.parent = true

/-- A free path is a new name in the directory above it. -/
theorem IsFree.exists_last (hfree : files.IsFree path) :
    ∃ last above entries, files.partsOf path = files.partsOf path.parent ++ [last] ∧
      last ≠ ".." ∧ last.utf8ByteSize ≤ nameLimit ∧
      LeadsTo files.top (Path.settle (files.partsOf path.parent)).reverse above
        (.directory entries) ∧
      follow above (.directory entries) [last] = .error .missing := by
  obtain ⟨-, entries, hparent⟩ := isDirectory_iff_follow.1 hfree.inDirectory
  obtain ⟨above, hleads, hsame⟩ := exists_leadsTo hparent
  have hmissing := (find_eq_missing_iff.1 hfree.missing).2
  have hparts : path.parts ≠ [] := by
    intro hnone
    rw [Path.parent_of_no_parts hnone, hmissing] at hparent
    cases hparent
  obtain ⟨last, hsplit⟩ := files.partsOf_eq_append hparts
  rw [hsplit, hsame] at hmissing
  have hlast : last ≠ ".." := by
    rintro rfl
    cases above <;> cases hmissing
  obtain ⟨_, -, hsize, -⟩ := (follow_cons_eq_missing_iff hlast).1 hmissing
  exact ⟨last, above, entries, hsplit, hlast, hsize, hleads, hmissing⟩

/-- Its settled parts are names that are not too long. -/
theorem IsFree.settle_fits (hfree : files.IsFree path) :
    ∀ part ∈ Path.settle (files.partsOf path), part ≠ ".." ∧ part.utf8ByteSize ≤ nameLimit := by
  obtain ⟨last, _, _, hsplit, hlast, hsize, hleads, -⟩ := hfree.exists_last
  rw [hsplit, Path.settle_concat_of_ne_dots hlast]
  intro part hpart
  rcases List.mem_append.1 hpart with hfront | hend
  · exact hleads.names_fit part (List.mem_reverse.2 hfront)
  · obtain rfl := List.mem_singleton.1 hend
    exact ⟨hlast, hsize⟩

theorem IsFree.vacant (hfree : files.IsFree path) :
    Vacant files.top (Path.settle (files.partsOf path)) := by
  refine @vacant_of_missing [] _ _ (fun part hpart => (hfree.settle_fits part hpart).1) ?_
  obtain ⟨last, _, _, hsplit, hlast, -, hleads, hmissing⟩ := hfree.exists_last
  rw [hsplit, Path.settle_concat_of_ne_dots hlast, ← hmissing, ← hleads.follow_append,
    List.reverse_reverse]

theorem IsFree.growsTo_put (hfree : files.IsFree path) :
    files.GrowsTo (files.put path (.directory [])) :=
  ⟨rfl, FileNode.growsTo_put hfree.vacant⟩

/-- A directory that is made is there. -/
theorem IsFree.isDirectory_put (hfree : files.IsFree path) :
    (files.put path (.directory [])).isDirectory path = true := by
  obtain ⟨last, _, _, hsplit, hlast, -⟩ := hfree.exists_last
  obtain ⟨-, _, hparent⟩ :=
    isDirectory_iff_follow.1 (hfree.growsTo_put.isDirectory hfree.inDirectory)
  have hput : follow [] (files.put path (.directory [])).top
      (Path.settle (files.partsOf path)) = .ok (.directory []) :=
    follow_put hfree.vacant hfree.settle_fits
  -- the directory above is still there, so the path leads to where its settled parts lead to
  have hfollow := follow_settle_append hparent [last]
  rw [partsOf_put, ← hsplit, ← Path.settle_concat_of_ne_dots hlast, ← hsplit, hput] at hfollow
  exact isDirectory_iff_follow.2
    ⟨(find_eq_missing_iff.1 hfree.missing).1, [], hfollow.symm⟩

/-- Making a directory goes no farther than any growth that has it. -/
theorem IsFree.put_growsTo (hfree : files.IsFree path) (hgrows : files.GrowsTo grown)
    (hdirectory : grown.isDirectory path = true) :
    (files.put path (.directory [])).GrowsTo grown := by
  obtain ⟨-, entries, hthere⟩ := isDirectory_iff_follow.1 hdirectory
  have hfollow := follow_settle_append hthere []
  rw [List.append_nil, List.append_nil, hthere, partsOf, hgrows.current] at hfollow
  exact ⟨hgrows.current, FileNode.put_growsTo hfree.vacant hgrows.top
    (fun part hpart => (hfree.settle_fits part hpart).1) hfollow⟩

theorem makeDirectory_of_isFree (hfree : files.IsFree path) :
    files.makeDirectory path = .ok (files.put path (.directory [])) := by
  rw [makeDirectory, hfree.missing]
  exact if_pos hfree.inDirectory

theorem makeDirectory_eq_ok_iff :
    files.makeDirectory path = .ok made ↔
      files.IsFree path ∧ made = files.put path (.directory []) := by
  constructor
  · intro hmade
    have hfree : files.IsFree path := by
      unfold makeDirectory at hmade
      split at hmade
      · cases hmade
      · rename_i hmissing
        split at hmade
        · rename_i hparent
          exact ⟨hmissing, hparent⟩
        · cases hmade
      · cases hmade
    rw [makeDirectory_of_isFree hfree] at hmade
    exact ⟨hfree, (Except.ok.inj hmade).symm⟩
  · rintro ⟨hfree, rfl⟩
    exact makeDirectory_of_isFree hfree

theorem makeDirectory_of_isDirectory (hdirectory : files.isDirectory path = true) :
    files.makeDirectory path = .error .exists := by
  obtain ⟨entries, hfind⟩ := isDirectory_iff.1 hdirectory
  rw [makeDirectory, hfind]

theorem makeDirectory_of_missing (hmissing : files.find path = .error .missing)
    (hparent : ¬ files.isDirectory path.parent = true) :
    files.makeDirectory path = .error .missing := by
  rw [makeDirectory, hmissing]
  exact if_neg hparent

/-! ## Making directories -/

/-- However it ends, nothing but directories is added. -/
theorem growsTo_makeUpTo (count : Nat) (files : FileSystem) (path : Path) :
    files.GrowsTo (makeUpTo count files path).1 := by
  induction count generalizing path with
  | zero => exact .refl files
  | succ count ih =>
      rw [makeUpTo]
      split
      · rename_i hmade
        obtain ⟨hfree, rfl⟩ := makeDirectory_eq_ok_iff.1 hmade
        exact hfree.growsTo_put
      · have hparent := ih path.parent
        split
        · rename_i hresult
          rwa [hresult] at hparent
        · rename_i hresult
          rw [hresult] at hparent
          split
          · rename_i hmade
            obtain ⟨hfree, rfl⟩ := makeDirectory_eq_ok_iff.1 hmade
            exact hparent.trans hfree.growsTo_put
          · exact hparent
      · exact .refl files

/-- If it succeeds, the directory is there. -/
theorem isDirectory_of_makeUpTo {count : Nat} (hmade : makeUpTo count files path = (made, none)) :
    made.isDirectory path = true := by
  cases count with
  | zero => cases hmade
  | succ count =>
      rw [makeUpTo] at hmade
      split at hmade
      · rename_i hfirst
        cases hmade
        obtain ⟨hfree, rfl⟩ := makeDirectory_eq_ok_iff.1 hfirst
        exact hfree.isDirectory_put
      · split at hmade
        · cases hmade
        · split at hmade
          · rename_i hsecond
            cases hmade
            obtain ⟨hfree, rfl⟩ := makeDirectory_eq_ok_iff.1 hsecond
            exact hfree.isDirectory_put
          · obtain ⟨rfl, hthere⟩ := Prod.mk.inj hmade
            simpa using hthere
      · obtain ⟨rfl, hthere⟩ := Prod.mk.inj hmade
        simpa using hthere

/-- A directory can be made here if it is there in any growth of these files, and making it goes
no farther than that. -/
theorem exists_makeUpTo (hcurrent : files.HasCurrent) (hgrows : files.GrowsTo grown)
    {count : Nat} (hcount : path.parts.length < count)
    (hdirectory : grown.isDirectory path = true) :
    ∃ made, makeUpTo count files path = (made, none) ∧ made.GrowsTo grown := by
  induction count generalizing path with
  | zero => exact absurd hcount (Nat.not_lt_zero _)
  | succ count ih =>
      rw [makeUpTo]
      rcases hgrows.find_of_isDirectory hdirectory with hthere | hmissing
      · rw [makeDirectory_of_isDirectory hthere]
        exact ⟨files, by simp [hthere], hgrows⟩
      by_cases hparent : files.isDirectory path.parent = true
      · have hfree : files.IsFree path := ⟨hmissing, hparent⟩
        rw [makeDirectory_of_isFree hfree]
        exact ⟨_, rfl, hfree.put_growsTo hgrows hdirectory⟩
      have hparts : path.parts ≠ [] := by
        intro hnone
        rw [Path.parent_of_no_parts hnone] at hparent
        exact hparent (hcurrent.isDirectory_of_no_parts hnone)
      have hlength : path.parent.parts.length < count := by
        have hpositive := List.length_pos_iff.2 hparts
        rw [Path.parent, List.length_dropLast]
        omega
      obtain ⟨made, hmade, hbetween⟩ := ih hlength (isDirectory_parent hdirectory)
      rw [makeDirectory_of_missing hmissing hparent, hmade]
      -- the directories above are made, and the path itself is tried once more
      rcases hbetween.find_of_isDirectory hdirectory with hthere | hstill
      · simp only [makeDirectory_of_isDirectory hthere]
        exact ⟨made, by simp [hthere], hbetween⟩
      · have hfree : made.IsFree path := ⟨hstill, isDirectory_of_makeUpTo hmade⟩
        simp only [makeDirectory_of_isFree hfree]
        exact ⟨_, rfl, hfree.put_growsTo hbetween hdirectory⟩

/-- Making directories adds nothing but directories. -/
theorem growsTo_makeDirectories (files : FileSystem) (path : Path) :
    files.GrowsTo (files.makeDirectories path).1 :=
  growsTo_makeUpTo _ files path

theorem isDirectory_of_makeDirectories (hmade : files.makeDirectories path = (made, none)) :
    made.isDirectory path = true :=
  isDirectory_of_makeUpTo hmade

/-- Directories that can be made once others have been made can be made without those, and nothing
is made then that would not be there otherwise. -/
theorem GrowsTo.exists_makeDirectories (hgrows : files.GrowsTo grown)
    (hcurrent : files.HasCurrent) (hmade : grown.makeDirectories path = (made, none)) :
    ∃ less, files.makeDirectories path = (less, none) ∧ less.GrowsTo made := by
  have hmore := grown.growsTo_makeDirectories path
  rw [hmade] at hmore
  exact exists_makeUpTo hcurrent (hgrows.trans hmore) (Nat.lt_succ_self _)
    (isDirectory_of_makeDirectories hmade)

/-! ## Adding to a file -/

theorem partsOf_of_absolute (habsolute : path.isAbsolute = true) :
    files.partsOf path = path.parts := by
  rw [partsOf, Path.join_of_absolute _ habsolute]

/-- What a path means, from the top of the tree, is a directory if the path leads to one. -/
theorem isDirectory_resolve (hcurrent : files.current.isAbsolute = true)
    (hshort : (Path.resolve files.current path).text.utf8ByteSize ≤ pathLimit)
    (hdirectory : files.isDirectory path = true) :
    files.isDirectory (Path.resolve files.current path) = true := by
  obtain ⟨-, entries, hfollow⟩ := isDirectory_iff_follow.1 hdirectory
  have hsettled := follow_settle_append hfollow []
  rw [List.append_nil, List.append_nil, hfollow] at hsettled
  refine isDirectory_iff_follow.2 ⟨hshort, entries, ?_⟩
  rw [partsOf_of_absolute (Path.isAbsolute_resolve hcurrent path)]
  exact hsettled

/-- A file that can be written in a directory can be written there without the directories that
were made before. -/
theorem GrowsTo.exists_append (hgrows : files.GrowsTo grown) (hcurrent : files.HasCurrent)
    {directory : Path} {name : String} (hname : name ≠ "..")
    (hdirectory : files.isDirectory directory = true) {content : List UInt8}
    (happend : grown.append
      (Path.resolve grown.current (directory.join ⟨.relative, [name]⟩)) content = .ok made) :
    ∃ less, files.append
      (Path.resolve files.current (directory.join ⟨.relative, [name]⟩)) content = .ok less := by
  rw [hgrows.current] at happend
  have habsolute := Path.isAbsolute_resolve hcurrent.absolute (directory.join ⟨.relative, [name]⟩)
  have hparent : (Path.resolve files.current (directory.join ⟨.relative, [name]⟩)).parent =
      Path.resolve files.current directory := by
    rw [Path.resolve_join_name hname, Path.parent, List.dropLast_concat]
  have hdown : IsDownward
      (Path.resolve files.current (directory.join ⟨.relative, [name]⟩)).parts :=
    fun part hpart => Path.ne_dots_of_mem_settle hpart
  generalize Path.resolve files.current (directory.join ⟨.relative, [name]⟩) = path at *
  rw [append] at happend ⊢
  have halike := hgrows.find path
  split at happend
  · rename_i written access hfile
    obtain ⟨hshort, hfollow⟩ := find_eq_ok_iff.1 hfile
    rw [partsOf_of_absolute habsolute] at hfollow
    have hthere : files.find path = .ok (.file written access) := by
      refine find_eq_ok_iff.2 ⟨hshort, ?_⟩
      rw [partsOf_of_absolute habsolute]
      exact hgrows.top.follow_eq_file hdown hfollow
    have hopens : access ≠ .denied := by
      rintro rfl
      cases happend
    rw [hthere]
    exact ⟨_, if_neg hopens⟩
  · cases happend
  · rename_i hgrownMissing
    have hmissing : files.find path = .error .missing := by
      rw [hgrownMissing] at halike
      generalize files.find path = outcome at halike
      cases halike <;> rfl
    have hshort := Path.utf8ByteSize_text_parent_le (by decide) (find_eq_missing_iff.1 hmissing).1
    rw [hparent] at hshort
    rw [hmissing, hparent]
    exact ⟨_, if_pos (isDirectory_resolve hcurrent.absolute hshort hdirectory)⟩
  · cases happend

end FileSystem

end Palette
