import Marginalia.Proofs.Disk.Directories
import Marginalia.Proofs.Disk.FileTree

/-!
# `Marginalia.Proofs.Disk.Components`: a tree is a lawful disk

Where a path leads to something, every path around it leads to a directory
(`isDirectory_of_mem_enclosing`): it has the same components up to some
point, and components are as good as parts to follow a path by
(`walk_components`). The other laws of `LawfulDisk` are what is known of
single changes, so `FileTree` has an instance of it, whatever room there is.

A name that is joined to a path is in the directory that the path stands
for (`find_join`).
-/

set_option autoImplicit false

namespace Marginalia.FileTree

variable {tree later : FileTree} {path around : Path} {place next : Location} {node : Node}
  {parts : List Text}

/-! ### Paths that are short enough -/

theorem size_cons (c : Char) (text : Text) :
    Utf8.size (c :: text) = c.utf8Size + Utf8.size text := by
  have hsize : ∀ (text : Text) (n : Nat),
      text.foldl (fun n c => n + c.utf8Size) n = n + Utf8.size text := by
    intro text
    induction text with
    | nil => exact fun n => rfl
    | cons c text ih =>
      intro n
      rw [List.foldl_cons, Utf8.size, List.foldl_cons, ih, ih (0 + c.utf8Size)]
      omega
  rw [Utf8.size, List.foldl_cons, hsize, Nat.zero_add]

/-- Fewer characters take fewer bytes. -/
theorem size_le_of_sublist {text whole : Text} (h : text.Sublist whole) :
    Utf8.size text ≤ Utf8.size whole := by
  induction h with
  | slnil => exact Nat.le_refl _
  | cons c _ ih =>
    rw [size_cons]
    omega
  | cons_cons c _ ih =>
    rw [size_cons, size_cons]
    omega

theorem check_eq_ok_iff :
    check path = .ok () ↔ path.text.any (·.toNat = 0) = false ∧ path.text ≠ []
      ∧ Utf8.size path.text ≤ longestPath := by
  rw [check]
  split
  · rename_i hnull
    rw [hnull]
    simp
  · rename_i hnull
    split
    · rename_i hnil
      simp [hnil]
    · rename_i hnil
      split
      · rename_i hlong
        simp [Nat.not_le.mpr hlong]
      · rename_i hlong
        exact iff_of_true rfl ⟨Bool.eq_false_iff.mpr hnull, hnil, Nat.le_of_not_lt hlong⟩

/-- A path that takes some characters of another one can be followed if
the other can. -/
theorem check_of_sublist (h : check path = .ok ()) (hne : around.text ≠ [])
    (hsub : around.text.Sublist path.text) : check around = .ok () := by
  obtain ⟨hnull, -, hsize⟩ := check_eq_ok_iff.mp h
  refine check_eq_ok_iff.mpr ⟨?_, hne, Nat.le_trans (size_le_of_sublist hsub) hsize⟩
  rw [List.any_eq_false] at hnull ⊢
  exact fun c hc => hnull c (hsub.subset hc)

/-! ### Following a path by its components -/

/-- Parts that are no components lead nowhere else. -/
theorem walk_filterMap (h : tree.walk place parts = .ok next) :
    tree.walk place ((parts.filterMap Path.component?).map Path.Component.text) = .ok next := by
  induction parts generalizing place with
  | nil => exact h
  | cons part parts ih =>
    obtain ⟨between, hstep, hrest⟩ := walk_cons_eq_ok_iff.mp h
    cases hcomponent : Path.component? part with
    | some component =>
      rw [List.filterMap_cons_some hcomponent, List.map_cons, Path.text_of_component? hcomponent]
      exact walk_cons_eq_ok_iff.mpr ⟨between, hstep, ih hrest⟩
    | none =>
      -- Such a part is empty or a dot, and is looked for where it stands.
      have hstay : between = place := by
        obtain ⟨-, hentered⟩ := enter_eq_ok_iff.mp (step_eq_ok_iff.mp hstep).1
        rcases entered_cases hentered with ⟨-, hbetween⟩ | ⟨hup, -⟩ | ⟨hname, -⟩
        · exact hbetween
        · rw [hup] at hcomponent
          cases hcomponent
        · rw [Path.component?_of_isName hname] at hcomponent
          cases hcomponent
      rw [List.filterMap_cons_none hcomponent]
      exact ih (hstay ▸ hrest)

/-- A path leads where its components lead. -/
theorem walk_components (h : tree.find path = .ok place) :
    tree.walk (tree.start path) (path.components.map Path.Component.text) = .ok place := by
  obtain ⟨-, hwalk⟩ := find_eq_ok_iff.mp h
  have hfirst : ∀ first parts, Text.splitOn '/' path.text = first :: parts →
      tree.walk (tree.start path)
        (first :: (parts.filterMap Path.component?).map Path.Component.text) = .ok place := by
    intro first parts hparts
    rw [hparts] at hwalk
    obtain ⟨between, hstep, hrest⟩ := walk_cons_eq_ok_iff.mp hwalk
    exact walk_cons_eq_ok_iff.mpr ⟨between, hstep, walk_filterMap hrest⟩
  rcases Path.components_cases path with
    ⟨-, parts, hparts, hcomponents⟩ | ⟨-, parts, hparts, hcomponents⟩ | ⟨-, hcomponents⟩
  · rw [hcomponents]
    exact hfirst _ parts hparts
  · rw [hcomponents]
    exact hfirst _ parts hparts
  · rw [hcomponents]
    exact walk_filterMap hwalk

/-- Where a path leads to something, every path around it leads to a
directory. -/
theorem isDirectory_of_mem_enclosing (h : tree.find path = .ok place)
    (haround : around ∈ path.enclosing) : tree.isDirectory around = true := by
  obtain ⟨front, back, hsplit, hfront, hback, rfl⟩ := Path.mem_enclosing haround
  obtain ⟨hcheck, -⟩ := find_eq_ok_iff.mp h
  have hwalk := walk_components h
  rw [hsplit, List.map_append] at hwalk
  obtain ⟨between, hbetween, hrest⟩ := walk_append_eq_ok_iff.mp hwalk
  -- Something comes behind, so what is reached so far is a directory.
  have hdirectory : tree.at? between = some .directory := by
    obtain ⟨component, rest, rfl⟩ := List.exists_cons_of_ne_nil hback
    obtain ⟨_, hstep, -⟩ := walk_cons_eq_ok_iff.mp hrest
    exact (enter_eq_ok_iff.mp (step_eq_ok_iff.mp hstep).1).1
  by_cases hroot : front = [.root]
  · subst hroot
    exact isDirectory_iff.mpr ⟨[], rfl, at?_nil tree⟩
  · have hparts := Path.splitOn_ofComponents hsplit hfront hroot
    have hne := Path.text_ofComponents_ne_nil hsplit hfront
    -- Its parts are the components that have been followed.
    refine isDirectory_iff.mpr ⟨between, find_eq_ok_iff.mpr ⟨?_, ?_⟩, hdirectory⟩
    · exact check_of_sublist hcheck hne (Path.text_ofComponents_sublist hsplit)
    · rw [hparts, start, Path.isAbsolute_ofComponents hsplit hfront]
      exact hbetween

/-! ### The laws -/

instance : DiskView FileTree where
  Place := Location
  find? tree path := (tree.find path).toOption
  at? := FileTree.at?

theorem find?_eq_some_iff :
    DiskView.find? tree path = some place ↔ tree.find path = .ok place := by
  show (tree.find path).toOption = some place ↔ _
  cases tree.find path with
  | ok found => simp [Except.toOption]
  | error reason => simp [Except.toOption]

theorem holds_iff {content : Bytes} :
    Disk.Holds tree path content ↔ tree.read path = .ok content := by
  rw [read_eq_ok_iff]
  exact exists_congr fun place => and_congr_left' find?_eq_some_iff

/-- A node that is put at the place that a path names is one that the path
leads to, however much room is left. -/
theorem puts_put (room : Option Nat) (htarget : tree.target path = .ok place)
    (hfree : tree.at? place ≠ some .directory)
    (h : node = .directory ∨ path.text.getLast? ≠ some '/') :
    Disk.Puts (σ := FileTree) place path node tree { tree.put place node with room := room } where
  find := by
    have hextends := extends_put node hfree
    have hat := at?_put_self tree node (ne_nil_of_at? hfree)
    refine find?_eq_some_iff.mpr (find_of_target (hextends.target htarget) ?_)
    have hsome : ((tree.put place node).at? place).isSome := by rw [hat]; rfl
    rcases h with rfl | hlast
    · exact .inl hat
    · exact .inr ⟨hlast, hsome⟩
  free := hfree
  there := at?_put_self tree node (ne_nil_of_at? hfree)
  others _ hne := at?_put_of_ne tree node hne
  keeps.find hfind := by
    have hfound := find?_eq_some_iff.mp hfind
    exact find?_eq_some_iff.mpr ((extends_put node hfree).find hfound)

/-- What becomes of a directory that is asked for, as the laws have it. -/
theorem puts_makeDirectory (tree : FileTree) (path : Path) :
    (∃ reason, tree.changed (tree.makeDirectory path) = (.error reason, tree))
      ∨ ∃ place later, tree.at? place = none
        ∧ Disk.Puts (σ := FileTree) place path .directory tree later
        ∧ tree.changed (tree.makeDirectory path) = (.ok (), later) := by
  cases hmade : tree.makeDirectory path with
  | error reason => exact .inl ⟨reason, rfl⟩
  | ok later =>
    obtain ⟨place, htarget, hnone, rfl⟩ := makeDirectory_eq_ok_iff.mp hmade
    have hputs := puts_put tree.room htarget (ne_directory_of_none hnone) (.inl rfl)
    exact .inr ⟨place, _, hnone, hputs, rfl⟩

/-- What becomes of a write, as the laws have it. -/
theorem puts_write (tree : FileTree) (path : Path) (content : Bytes) :
    (∃ reason, tree.write path content = (.error reason, tree))
      ∨ ∃ place kept, Disk.Puts (σ := FileTree) place path (.file kept) tree
            (tree.write path content).2
        ∧ ((tree.write path content).1 = .ok () → kept = content) := by
  rcases write_cases tree path content with
    hrefused | ⟨place, kept, room, hopened, hwrite, hkept⟩
  · exact .inl hrefused
  · obtain ⟨htarget, hlast, hfree⟩ := opened_eq_ok_iff.mp hopened
    refine .inr ⟨place, kept, ?_, hkept⟩
    rw [hwrite]
    exact puts_put room htarget hfree (.inr hlast)

instance : LawfulDisk FileTree where
  state_read _ _ := rfl
  state_isFile _ _ := rfl
  state_isDirectory _ _ := rfl
  holds_of_read h := holds_iff.mpr h
  isDirectory_of_true h := by
    obtain ⟨place, hfind, hat⟩ := isDirectory_iff.mp h
    exact ⟨place, find?_eq_some_iff.mpr hfind, hat⟩
  makeDirectory_ok {tree later path} h := by
    have hmade : tree.changed (tree.makeDirectory path) = (.ok (), later) := h
    rcases puts_makeDirectory tree path with ⟨reason, hrefused⟩ | ⟨place, made, hnone, hputs, hdone⟩
    · cases hrefused.symm.trans hmade
    · cases hdone.symm.trans hmade
      exact ⟨place, hnone, hputs⟩
  makeDirectory_error {tree later path reason} h := by
    have hmade : tree.changed (tree.makeDirectory path) = (.error reason, later) := h
    rcases puts_makeDirectory tree path with ⟨found, hrefused⟩ | ⟨place, made, -, -, hdone⟩
    · cases hrefused.symm.trans hmade
      exact .refl tree
    · cases hdone.symm.trans hmade
  write_ok {tree later path content} h := by
    have hwritten : tree.write path content = (.ok (), later) := h
    rcases puts_write tree path content with ⟨reason, hrefused⟩ | ⟨place, kept, hputs, hkept⟩
    · cases hrefused.symm.trans hwritten
    · rw [hwritten] at hputs hkept
      rw [hkept rfl] at hputs
      exact ⟨place, hputs⟩
  write_error {tree later path content reason} h := by
    have hwritten : tree.write path content = (.error reason, later) := h
    rcases puts_write tree path content with ⟨found, hrefused⟩ | ⟨place, kept, hputs, -⟩
    · cases hrefused.symm.trans hwritten
      exact .inl (.refl tree)
    · rw [hwritten] at hputs
      exact .inr ⟨place, kept, hputs⟩
  enclosing hfind haround := by
    obtain ⟨place, hfound, hat⟩ := isDirectory_iff.mp
      (isDirectory_of_mem_enclosing (find?_eq_some_iff.mp hfind) haround)
    exact ⟨place, find?_eq_some_iff.mpr hfound, hat⟩

/-- Trees stay well-formed. -/
theorem stable_wellFormed : Disk.Stable WellFormed where
  makeDirectory {tree} path h := by
    show (tree.changed (tree.makeDirectory path)).2.WellFormed
    cases hmade : tree.makeDirectory path with
    | ok later => exact h.makeDirectory hmade
    | error reason => exact h
  write {tree} path content h := h.write path content

/-! ### Names in a directory -/

/-- The directory that a path stands for when a name is joined to it. The
empty path stands for the one in which paths start. -/
def base (tree : FileTree) (path : Path) : Except OsError Location :=
  if path.text = [] then .ok tree.here else tree.find path

/-- A path that leads somewhere and ends in a name leads into the directory
that the parts before lead to. -/
theorem find_of_splitOn {before : List Text} {name : Text} (hname : Path.IsName name)
    (hparts : Text.splitOn '/' path.text = before ++ [name]) (h : tree.find path = .ok place) :
    ∃ inside, tree.walk (tree.start path) before = .ok inside
      ∧ tree.at? inside = some .directory ∧ place = name :: inside := by
  obtain ⟨-, hwalk⟩ := find_eq_ok_iff.mp h
  rw [hparts] at hwalk
  obtain ⟨inside, hinside, hlast⟩ := walk_append_eq_ok_iff.mp hwalk
  obtain ⟨found, hstep, hfound⟩ := walk_cons_eq_ok_iff.mp hlast
  cases hfound
  obtain ⟨henter, -⟩ := step_eq_ok_iff.mp hstep
  exact ⟨inside, hinside, (enter_eq_ok_iff.mp henter).1, enter_of_name hname henter⟩

/-- Behind a slash, a name is the last part. -/
theorem splitOn_append_name {front name : Text} (hslash : '/' ∉ name) :
    Text.splitOn '/' (front ++ '/' :: name) = Text.splitOn '/' front ++ [name] := by
  rw [Text.splitOn_append_cons, Text.splitOn_of_not_mem hslash]

/-- What is joined to a path with some text starts where that path
starts. -/
theorem start_append {front rest : Text} (hne : front ≠ []) :
    tree.start ⟨front ++ rest⟩ = tree.start ⟨front⟩ := by
  obtain ⟨c, front, rfl⟩ := List.exists_cons_of_ne_nil hne
  have hfirst : Path.isAbsolute ⟨c :: front ++ rest⟩ = Path.isAbsolute ⟨c :: front⟩ := by
    unfold Path.isAbsolute Text.begins
    by_cases hc : '/' = c
    · subst hc
      simp [Text.after?]
    · simp [Text.after?, hc]
  unfold start
  rw [hfirst]

/-- What a name leads to that is joined to a path is in the directory that
the path stands for. -/
theorem find_join {output : Path} {name : Text} (hname : Path.IsName name)
    (hslash : '/' ∉ name) (h : tree.find (output.join ⟨name⟩) = .ok place) :
    ∃ inside, tree.base output = .ok inside ∧ place = name :: inside := by
  have hcheck := (find_eq_ok_iff.mp h).1
  rcases Path.join_cases output hslash with
    ⟨hnil, hjoin⟩ | ⟨front, hfront, hjoin⟩ | ⟨hne, hjoin⟩ <;> rw [hjoin] at h hcheck
  · -- The name alone is looked for where paths start.
    have hparts : Text.splitOn '/' name = [] ++ [name] := Text.splitOn_of_not_mem hslash
    obtain ⟨inside, hwalk, -, rfl⟩ := find_of_splitOn hname hparts h
    have hrelative : Path.isAbsolute ⟨name⟩ = false := by
      cases habsolute : Path.isAbsolute ⟨name⟩ with
      | false => rfl
      | true =>
        obtain ⟨rest, rfl⟩ : ∃ rest, name = '/' :: rest := Text.begins_iff.mp habsolute
        exact absurd List.mem_cons_self hslash
    have hinside : tree.here = inside := by
      have hstart : tree.start ⟨name⟩ = inside := Except.ok.inj hwalk
      rwa [start, hrelative] at hstart
    exact ⟨inside, by rw [base, if_pos hnil, hinside], rfl⟩
  · -- The path ends in a slash, so its last part is empty and leads nowhere else.
    obtain ⟨inside, hwalk, hdirectory, rfl⟩ :=
      find_of_splitOn hname (splitOn_append_name hslash) h
    have hne : output.text ≠ [] := by simp [hfront]
    have hassoc : front ++ '/' :: name = output.text ++ name := by simp [hfront]
    rw [hassoc] at hcheck hwalk
    have houtput : check output = .ok () :=
      check_of_sublist hcheck hne (List.sublist_append_left _ _)
    have hparts : Text.splitOn '/' output.text = Text.splitOn '/' front ++ [[]] := by
      rw [hfront]
      exact Text.splitOn_append_cons '/' front []
    refine ⟨inside, ?_, rfl⟩
    rw [start_append hne] at hwalk
    rw [base, if_neg hne]
    refine find_eq_ok_iff.mpr ⟨houtput, ?_⟩
    rw [hparts]
    exact walk_append_eq_ok_iff.mpr ⟨inside, hwalk, walk_replicate_nil hdirectory 1⟩
  · obtain ⟨inside, hwalk, -, rfl⟩ := find_of_splitOn hname (splitOn_append_name hslash) h
    have houtput : check output = .ok () :=
      check_of_sublist hcheck hne (List.sublist_append_left _ _)
    refine ⟨inside, ?_, rfl⟩
    rw [start_append hne] at hwalk
    rw [base, if_neg hne]
    exact find_eq_ok_iff.mpr ⟨houtput, hwalk⟩

end Marginalia.FileTree
