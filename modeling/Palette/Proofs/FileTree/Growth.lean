import Mathlib.Data.List.Basic
import Palette.FileTree
import Palette.Proofs.Path

/-!
# Trees that grow by directories

`FileNode.GrowsTo` says of a node and of what becomes of it that directories are added and nothing
else is changed.  A path that leads somewhere leads to what has become of it, and a path that fails
goes on to fail alike, unless something was missing (`FileNode.GrowsTo.follow`).

A directory that is put where nothing is makes the tree grow (`FileNode.growsTo_put`), and the
tree grows no farther by it than to any tree that has the directory (`FileNode.put_growsTo`).

A directory is put at the place that the text of a path means, where every two dots have taken
away the part before them.  Following the path goes through all of its parts instead.  Where this
succeeds, both come to the same place (`FileNode.follow_settle_append`), since following keeps the
directories above it as a stack.
-/

namespace Palette

namespace FileNode

/-! ## Growing by directories -/

/-- What has a name among entries, where an empty directory stands for nothing. -/
def childOrEmpty (entries : List (String × FileNode)) (name : String) : FileNode :=
  match entry? entries name with
  | some child => child
  | none => .directory []

section

variable {entries : List (String × FileNode)} {name : String} {child : FileNode}

theorem childOrEmpty_of_some (hentry : entry? entries name = some child) :
    childOrEmpty entries name = child := by
  rw [childOrEmpty, hentry]

theorem childOrEmpty_of_none (hnone : entry? entries name = none) :
    childOrEmpty entries name = .directory [] := by
  rw [childOrEmpty, hnone]

end

/-- The node becomes the other one by directories that are made in it.  A new entry grows out of
an empty directory. -/
inductive GrowsTo : FileNode → FileNode → Prop
  | file (content : List UInt8) (access : Access) :
      GrowsTo (.file content access) (.file content access)
  | directory {entries grown : List (String × FileNode)}
      (hkept : ∀ name, entry? grown name = none → entry? entries name = none)
      (hbelow : ∀ name child, entry? grown name = some child →
        GrowsTo (childOrEmpty entries name) child) :
      GrowsTo (.directory entries) (.directory grown)

theorem sizeOf_child_lt {entries : List (String × FileNode)} {name : String}
    {child : FileNode} (hentry : entry? entries name = some child) :
    sizeOf child < sizeOf (FileNode.directory entries) := by
  obtain ⟨entry, hfind, rfl⟩ := Option.map_eq_some_iff.1 hentry
  have hlist := List.sizeOf_lt_of_mem (List.mem_of_find?_eq_some hfind)
  obtain ⟨first, second⟩ := entry
  simp only [Prod.mk.sizeOf_spec, FileNode.directory.sizeOf_spec] at hlist ⊢
  omega

theorem GrowsTo.refl : ∀ node : FileNode, GrowsTo node node
  | .file content access => .file content access
  | .directory entries => .directory (fun _ hnone => hnone) fun name child hchild => by
      rw [childOrEmpty_of_some hchild]
      exact GrowsTo.refl child
termination_by node => sizeOf node
decreasing_by exact sizeOf_child_lt hchild

theorem GrowsTo.trans {first second third : FileNode} (hfirst : GrowsTo first second)
    (hsecond : GrowsTo second third) : GrowsTo first third := by
  induction hfirst generalizing third with
  | file content access => exact hsecond
  | @directory entries grown hkept hbelow ih =>
      cases hsecond with
      | @directory _ last hkeptLast hbelowLast =>
          refine .directory (fun name hnone => hkept name (hkeptLast name hnone)) ?_
          intro name child hchild
          have hgrows := hbelowLast name child hchild
          cases hbetween : entry? grown name with
          | some between =>
              rw [childOrEmpty_of_some hbetween] at hgrows
              exact ih name between hbetween hgrows
          | none =>
              -- a name that is new to the second directory is new to the first one as well
              rw [childOrEmpty_of_none hbetween] at hgrows
              rwa [childOrEmpty_of_none (hkept name hbetween)]

/-- How following a path ends before and after a node has grown. -/
inductive FollowsAlike : Except PathFault FileNode → Except PathFault FileNode → Prop
  | found {node grown : FileNode} (hgrows : GrowsTo node grown) :
      FollowsAlike (.ok node) (.ok grown)
  /-- What was missing may be there now. -/
  | missing (outcome : Except PathFault FileNode) : FollowsAlike (.error .missing) outcome
  | fails (fault : PathFault) : FollowsAlike (.error fault) (.error fault)

theorem GrowsTo.follow {above grownAbove : List FileNode} {node grown : FileNode}
    (habove : List.Forall₂ GrowsTo above grownAbove) (hgrows : GrowsTo node grown)
    (parts : List String) :
    FollowsAlike (follow above node parts) (follow grownAbove grown parts) := by
  induction parts generalizing above grownAbove node grown with
  | nil => exact .found hgrows
  | cons part rest ih =>
      cases id hgrows with
      | file content access => exact .fails _
      | @directory entries grown hkept hbelow =>
          simp only [FileNode.follow]
          split
          · cases habove with
            | nil => exact ih .nil hgrows
            | cons hparent hothers => exact ih hothers hparent
          split
          · exact .fails _
          cases hentry : entry? entries part with
          | none => exact .missing _
          | some child =>
              cases hgrown : entry? grown part with
              | none =>
                  rw [hkept part hgrown] at hentry
                  cases hentry
              | some grownChild =>
                  have hchild := hbelow part grownChild hgrown
                  rw [childOrEmpty_of_some hentry] at hchild
                  exact ih (.cons hgrows habove) hchild

/-! ## Going down -/

/-- Parts without two dots among them, which only go down. -/
def IsDownward (parts : List String) : Prop :=
  ∀ part ∈ parts, part ≠ ".."

theorem isDownward_cons {part : String} {rest : List String} :
    IsDownward (part :: rest) ↔ part ≠ ".." ∧ IsDownward rest :=
  List.forall_mem_cons

section

variable {above : List FileNode} {node found : FileNode} {part : String} {rest : List String}

theorem follow_cons_of_entry {entries : List (String × FileNode)} {child : FileNode}
    (hpart : part ≠ "..") (hsize : part.utf8ByteSize ≤ nameLimit)
    (hentry : entry? entries part = some child) :
    follow above (.directory entries) (part :: rest) =
      follow (.directory entries :: above) child rest := by
  simp [follow, hpart, Nat.not_lt.2 hsize, hentry]

theorem follow_cons_eq_ok_iff (hpart : part ≠ "..") :
    follow above node (part :: rest) = .ok found ↔
      ∃ entries child, node = .directory entries ∧ part.utf8ByteSize ≤ nameLimit ∧
        entry? entries part = some child ∧
        follow (.directory entries :: above) child rest = .ok found := by
  cases node with
  | file content access => simp [follow]
  | directory entries =>
      simp only [follow, if_neg hpart]
      by_cases hsize : nameLimit < part.utf8ByteSize
      · simp [hsize, Nat.not_le.2 hsize]
      · cases hentry : entry? entries part <;> simp [hsize, hentry, Nat.not_lt.1 hsize]

theorem follow_cons_eq_missing_iff (hpart : part ≠ "..") :
    follow above node (part :: rest) = .error .missing ↔
      ∃ entries, node = .directory entries ∧ part.utf8ByteSize ≤ nameLimit ∧
        ∀ child, entry? entries part = some child →
          follow (.directory entries :: above) child rest = .error .missing := by
  cases node with
  | file content access => simp [follow]
  | directory entries =>
      simp only [follow, if_neg hpart]
      by_cases hsize : nameLimit < part.utf8ByteSize
      · simp [hsize, Nat.not_le.2 hsize]
      · cases hentry : entry? entries part <;> simp [hsize, hentry, Nat.not_lt.1 hsize]

/-- An empty directory has nothing below it. -/
theorem eq_of_follow_empty {parts : List String} (hdown : IsDownward parts)
    (hfound : follow above (.directory []) parts = .ok found) : found = .directory [] := by
  cases parts with
  | nil => exact (Except.ok.inj hfound).symm
  | cons part rest =>
      obtain ⟨entries, child, hnode, -, hentry, -⟩ :=
        (follow_cons_eq_ok_iff (isDownward_cons.1 hdown).1).1 hfound
      cases hnode
      cases hentry

end

/-- A file that is found on the way down was there before. -/
theorem GrowsTo.follow_eq_file {above grownAbove : List FileNode} {node grown : FileNode}
    {parts : List String} {content : List UInt8} {access : Access} (hgrows : GrowsTo node grown)
    (hdown : IsDownward parts)
    (hfile : FileNode.follow grownAbove grown parts = .ok (.file content access)) :
    FileNode.follow above node parts = .ok (.file content access) := by
  induction parts generalizing above grownAbove node grown with
  | nil =>
      cases hfile
      cases hgrows
      rfl
  | cons part rest ih =>
      rw [isDownward_cons] at hdown
      obtain ⟨grownEntries, grownChild, rfl, hsize, hgrown, hrest⟩ :=
        (follow_cons_eq_ok_iff hdown.1).1 hfile
      cases id hgrows with
      | @directory entries _ _ hbelow =>
          have hchild := @ih (.directory entries :: above) _ _ _
            (hbelow part grownChild hgrown) hdown.2 hrest
          cases hentry : entry? entries part with
          | some child =>
              rw [childOrEmpty_of_some hentry] at hchild
              exact (follow_cons_eq_ok_iff hdown.1).2 ⟨_, _, rfl, hsize, hentry, hchild⟩
          | none =>
              rw [childOrEmpty_of_none hentry] at hchild
              cases eq_of_follow_empty hdown.2 hchild

/-! ## Putting a directory -/

/-- No file is on the way, and nothing is there but perhaps an empty directory. -/
def Vacant (node : FileNode) : List String → Prop
  | [] => node = .directory []
  | part :: rest => ∃ entries, node = .directory entries ∧
      Vacant (childOrEmpty entries part) rest

theorem vacant_empty (parts : List String) : Vacant (.directory []) parts := by
  induction parts with
  | nil => rfl
  | cons part rest ih => exact ⟨[], rfl, ih⟩

theorem vacant_of_missing {above : List FileNode} {node : FileNode} {parts : List String}
    (hdown : IsDownward parts) (hmissing : follow above node parts = .error .missing) :
    Vacant node parts := by
  induction parts generalizing above node with
  | nil => cases hmissing
  | cons part rest ih =>
      rw [isDownward_cons] at hdown
      obtain ⟨entries, rfl, -, hrest⟩ := (follow_cons_eq_missing_iff hdown.1).1 hmissing
      refine ⟨entries, rfl, ?_⟩
      cases hentry : entry? entries part with
      | none =>
          rw [childOrEmpty_of_none hentry]
          exact vacant_empty rest
      | some child =>
          rw [childOrEmpty_of_some hentry]
          exact ih hdown.2 (hrest child hentry)

theorem entry?_cons (first : String × FileNode) (rest : List (String × FileNode)) (name : String) :
    entry? (first :: rest) name = if first.1 = name then some first.2 else entry? rest name := by
  unfold entry?
  rw [List.find?_cons]
  by_cases hname : first.1 = name
  · simp [hname]
  · rw [if_neg hname, beq_false_of_ne hname]

theorem entry?_append_of_none {entries : List (String × FileNode)} {part : String}
    (hnone : entry? entries part = none) (new : FileNode) (name : String) :
    entry? (entries ++ [(part, new)]) name =
      if name = part then some new else entry? entries name := by
  induction entries with
  | nil =>
      rw [List.nil_append, entry?_cons]
      simp only [eq_comm]
  | cons first rest ih =>
      rw [entry?_cons] at hnone
      split at hnone
      · cases hnone
      · rename_i hpart
        rw [List.cons_append, entry?_cons, entry?_cons, ih hnone]
        by_cases hname : name = part
        · rw [hname, if_neg hpart]
          simp
        · simp [hname]

theorem entry?_replace {entries : List (String × FileNode)} {name : String}
    {found : Option FileNode} (hfound : entry? entries name = found) (part : String)
    (new : FileNode) :
    entry? (entries.map fun entry => if entry.1 = part then (part, new) else entry) name =
      found.map fun child => if name = part then new else child := by
  subst hfound
  induction entries with
  | nil => rfl
  | cons first rest ih =>
      rw [List.map_cons, entry?_cons, entry?_cons, ih]
      by_cases hpart : first.1 = part
      · rw [if_pos hpart, hpart]
        by_cases hname : part = name
        · simp [hname]
        · simp [hname]
      · rw [if_neg hpart]
        by_cases hname : first.1 = name
        · simp [hname, hname ▸ hpart]
        · simp [hname]

/-- Putting a node below a directory changes one entry. -/
theorem exists_put_cons (new : FileNode) (part : String) (rest : List String)
    (entries : List (String × FileNode)) :
    ∃ changed, put new (part :: rest) (.directory entries) = .directory changed ∧
      ∀ name, entry? changed name =
        if name = part then some (put new rest (childOrEmpty entries part))
        else entry? entries name := by
  cases hentry : entry? entries part with
  | none =>
      refine ⟨entries ++ [(part, put new rest (.directory []))], ?_, fun name => ?_⟩
      · rw [put, hentry]
      · rw [entry?_append_of_none hentry, childOrEmpty_of_none hentry]
  | some child =>
      refine ⟨_, by rw [put, hentry], fun name => ?_⟩
      rw [entry?_replace rfl, childOrEmpty_of_some hentry]
      by_cases hname : name = part
      · rw [hname, hentry]
        simp
      · simp [hname]

/-- A directory that is put where nothing is makes the tree grow. -/
theorem growsTo_put {node : FileNode} {parts : List String} (hvacant : Vacant node parts) :
    GrowsTo node (put (.directory []) parts node) := by
  induction parts generalizing node with
  | nil =>
      obtain rfl : node = .directory [] := hvacant
      exact .refl _
  | cons part rest ih =>
      obtain ⟨entries, rfl, hrest⟩ := hvacant
      obtain ⟨changed, hput, hentry⟩ := exists_put_cons (.directory []) part rest entries
      rw [hput]
      refine .directory (fun name hnone => ?_) (fun name child hchild => ?_)
      · rw [hentry] at hnone
        split at hnone
        · cases hnone
        · exact hnone
      · rw [hentry] at hchild
        split at hchild
        · rename_i hname
          cases hchild
          rw [hname]
          exact ih hrest
        · rw [childOrEmpty_of_some hchild]
          exact .refl _

/-- It grows no farther than to a tree that has the directory. -/
theorem put_growsTo {grownAbove : List FileNode} {node grown : FileNode} {parts : List String}
    {below : List (String × FileNode)} (hvacant : Vacant node parts) (hgrows : GrowsTo node grown)
    (hdown : IsDownward parts) (hthere : follow grownAbove grown parts = .ok (.directory below)) :
    GrowsTo (put (.directory []) parts node) grown := by
  induction parts generalizing grownAbove node grown with
  | nil =>
      obtain rfl : node = .directory [] := hvacant
      exact hgrows
  | cons part rest ih =>
      rw [isDownward_cons] at hdown
      obtain ⟨entries, rfl, hrest⟩ := hvacant
      obtain ⟨grownEntries, grownChild, rfl, -, hgrown, hchild⟩ :=
        (follow_cons_eq_ok_iff hdown.1).1 hthere
      obtain ⟨changed, hput, hentry⟩ := exists_put_cons (.directory []) part rest entries
      rw [hput]
      cases hgrows with
      | directory hkept hbelow =>
          refine .directory (fun name hnone => ?_) (fun name child hfound => ?_)
          · have hname : name ≠ part := by
              rintro rfl
              rw [hgrown] at hnone
              cases hnone
            rw [hentry, if_neg hname]
            exact hkept name hnone
          · by_cases hname : name = part
            · subst hname
              rw [hgrown] at hfound
              cases hfound
              rw [childOrEmpty_of_some ((hentry name).trans (if_pos rfl))]
              exact ih hrest (hbelow name grownChild hgrown) hdown.2 hchild
            · have hsame : childOrEmpty changed name = childOrEmpty entries name := by
                rw [childOrEmpty, hentry, if_neg hname]
                rfl
              rw [hsame]
              exact hbelow name child hfound

/-- The directory is found where it was put. -/
theorem follow_put {above : List FileNode} {node : FileNode} {parts : List String}
    (hvacant : Vacant node parts)
    (hparts : ∀ part ∈ parts, part ≠ ".." ∧ part.utf8ByteSize ≤ nameLimit) :
    follow above (put (.directory []) parts node) parts = .ok (.directory []) := by
  induction parts generalizing above node with
  | nil => rfl
  | cons part rest ih =>
      rw [List.forall_mem_cons] at hparts
      obtain ⟨⟨hpart, hsize⟩, hothers⟩ := hparts
      obtain ⟨entries, rfl, hrest⟩ := hvacant
      obtain ⟨changed, hput, hentry⟩ := exists_put_cons (.directory []) part rest entries
      rw [hput]
      refine (follow_cons_eq_ok_iff hpart).2 ⟨changed, _, rfl, hsize, ?_, ih hrest hothers⟩
      rw [hentry, if_pos rfl]

/-! ## Two dots -/

/-- The node that a stack of names leads to, the nearest first, with the directories above it. -/
inductive LeadsTo (top : FileNode) : List String → List FileNode → FileNode → Prop
  | top : LeadsTo top [] [] top
  | child {names : List String} {above : List FileNode} {entries : List (String × FileNode)}
      {part : String} {node : FileNode} (hparent : LeadsTo top names above (.directory entries))
      (hpart : part ≠ "..") (hsize : part.utf8ByteSize ≤ nameLimit)
      (hentry : entry? entries part = some node) :
      LeadsTo top (part :: names) (.directory entries :: above) node

namespace LeadsTo

variable {top node found : FileNode} {names : List String} {above : List FileNode}

/-- The names lead down to the node. -/
theorem follow_append (hleads : LeadsTo top names above node) (rest : List String) :
    follow [] top (names.reverse ++ rest) = follow above node rest := by
  induction hleads generalizing rest with
  | top => rfl
  | @child names above entries part node _ hpart hsize hentry ih =>
      rw [List.reverse_cons, List.append_assoc, List.singleton_append, ih,
        follow_cons_of_entry hpart hsize hentry]

theorem names_fit (hleads : LeadsTo top names above node) :
    ∀ part ∈ names, part ≠ ".." ∧ part.utf8ByteSize ≤ nameLimit := by
  induction hleads with
  | top => simp
  | child _ hpart hsize _ ih => exact List.forall_mem_cons.2 ⟨⟨hpart, hsize⟩, ih⟩

/-- Where parts can be followed, the stack of names becomes what settling makes of it. -/
theorem exists_of_follow (hleads : LeadsTo top names above node) {parts : List String}
    (hfound : follow above node parts = .ok found) :
    ∃ foundAbove, LeadsTo top (parts.foldl Path.settlePart names) foundAbove found ∧
      ∀ rest, follow above node (parts ++ rest) = follow foundAbove found rest := by
  induction parts generalizing names above node with
  | nil =>
      cases hfound
      exact ⟨above, hleads, fun rest => rfl⟩
  | cons part parts ih =>
      by_cases hdots : part = ".."
      · subst hdots
        rw [List.foldl_cons, Path.settlePart_dots]
        cases node with
        | file content access => cases hfound
        | directory entries =>
            -- they take the nearest name off the stack, or stay at the top
            cases hleads with
            | top => exact ih .top hfound
            | child hparent => exact ih hparent hfound
      · obtain ⟨entries, child, rfl, hsize, hentry, hrest⟩ :=
          (follow_cons_eq_ok_iff hdots).1 hfound
        obtain ⟨foundAbove, hfoundLeads, hsame⟩ :=
          ih (.child hleads hdots hsize hentry) hrest
        rw [List.foldl_cons, Path.settlePart, if_neg hdots]
        refine ⟨foundAbove, hfoundLeads, fun rest => ?_⟩
        rw [← hsame, List.cons_append, follow_cons_of_entry hdots hsize hentry]

end LeadsTo

theorem exists_leadsTo {top found : FileNode} {parts : List String}
    (hfound : follow [] top parts = .ok found) :
    ∃ above, LeadsTo top (Path.settle parts).reverse above found ∧
      ∀ rest, follow [] top (parts ++ rest) = follow above found rest := by
  obtain ⟨above, hleads, hsame⟩ := LeadsTo.top.exists_of_follow hfound
  refine ⟨above, ?_, hsame⟩
  rwa [Path.settle, List.reverse_reverse]

/-- Where parts can be followed, they may be settled. -/
theorem follow_settle_append {top found : FileNode} {parts : List String}
    (hfound : follow [] top parts = .ok found) (rest : List String) :
    follow [] top (Path.settle parts ++ rest) = follow [] top (parts ++ rest) := by
  obtain ⟨above, hleads, hsame⟩ := exists_leadsTo hfound
  rw [hsame, ← hleads.follow_append, List.reverse_reverse]

/-- What is above the end of a path is a directory. -/
theorem exists_directory_of_follow_append {above : List FileNode} {node found : FileNode}
    {parts : List String} {last : String}
    (hfound : follow above node (parts ++ [last]) = .ok found) :
    ∃ entries, follow above node parts = .ok (.directory entries) := by
  induction parts generalizing above node with
  | nil =>
      cases node with
      | file content access => cases hfound
      | directory entries => exact ⟨entries, rfl⟩
  | cons part rest ih =>
      by_cases hdots : part = ".."
      · subst hdots
        cases node with
        | file content access => cases hfound
        | directory entries =>
            cases above with
            | nil => exact ih hfound
            | cons parent others => exact ih hfound
      · rw [List.cons_append] at hfound
        obtain ⟨entries, child, rfl, hsize, hentry, hrest⟩ :=
          (follow_cons_eq_ok_iff hdots).1 hfound
        rw [follow_cons_of_entry hdots hsize hentry]
        exact ih hrest

end FileNode

end Palette
