import Marginalia.Disk.FileTree
import Marginalia.Proofs.Path

/-!
# `Marginalia.Proofs.Disk.FileTree`: what a change does to a tree

A tree only ever grows: what is there stays there, and a directory stays
a directory (`Extends`). A path that was followed once is therefore
followed to the same place afterwards (`Extends.find`,
`Extends.target`).

* `write_cases` and `makeDirectory_eq_ok_iff` say once what a change does;
  everything else about changes is read off them.
* `find_of_target`: the place that a path names is the one it leads to as
  soon as something is there.
* `WellFormed` trees have a directory around everything, and changes keep
  them so. In such a tree only a path that ends in a name can be read
  (`exists_fileName_of_read`).
-/

set_option autoImplicit false

namespace Marginalia.FileTree

variable {tree later : FileTree} {path : Path} {place next : Location} {node : Node}
  {part : Text} {parts : List Text}

/-- A computation in two parts goes through if both do. -/
theorem bind_eq_ok_iff {ε α β : Type} {first : Except ε α} {rest : α → Except ε β} {b : β} :
    (first >>= rest) = .ok b ↔ ∃ a, first = .ok a ∧ rest a = .ok b := by
  cases first with
  | error e => exact iff_of_false (by rintro ⟨⟩) (by rintro ⟨_, ⟨⟩, -⟩)
  | ok a =>
    constructor
    · exact fun h => ⟨a, rfl, h⟩
    · rintro ⟨_, ⟨⟩, h⟩
      exact h

/-! ### What is at a place -/

@[simp] theorem at?_nil (tree : FileTree) : tree.at? [] = some .directory :=
  if_pos rfl

theorem at?_of_ne (h : place ≠ []) : tree.at? place = tree.entries.lookup place :=
  if_neg h

/-- Entries at other places do not count. -/
theorem lookup_filter_ne (entries : List (Location × Node)) (h : next ≠ place) :
    (entries.filter (·.1 ≠ place)).lookup next = entries.lookup next := by
  induction entries with
  | nil => rfl
  | cons entry entries ih =>
    obtain ⟨where_, there⟩ := entry
    -- An entry that is filtered out is at `place`, where the search does not stop.
    by_cases hw : where_ = place
    · have hne : (next == where_) = false := by simpa [hw] using h
      rw [List.filter_cons_of_neg (by simpa using hw), ih, List.lookup_cons, hne]
    · rw [List.filter_cons_of_pos (by simpa using hw), List.lookup_cons, List.lookup_cons, ih]

theorem at?_put_self (tree : FileTree) (node : Node) (h : place ≠ []) :
    (tree.put place node).at? place = some node := by
  rw [at?_of_ne h]
  exact List.lookup_cons_self

theorem at?_put_of_ne (tree : FileTree) (node : Node) (h : next ≠ place) :
    (tree.put place node).at? next = tree.at? next := by
  by_cases hnil : next = []
  · rw [hnil, at?_nil, at?_nil]
  · have hne : (next == place) = false := by simpa using h
    rw [at?_of_ne hnil, at?_of_ne hnil, put, List.lookup_cons, hne]
    exact lookup_filter_ne tree.entries h

/-- Only the root is a directory whatever happens. -/
theorem ne_nil_of_at? (h : tree.at? place ≠ some .directory) : place ≠ [] := by
  rintro rfl
  exact h (at?_nil tree)

/-- Where nothing is, no directory is. -/
theorem ne_directory_of_none (h : tree.at? place = none) : tree.at? place ≠ some .directory := by
  rw [h]
  rintro ⟨⟩

/-! ### Following a path -/

/-- The place that one part of a path names, seen from a directory. -/
def entered (place : Location) (part : Text) : Except OsError Location :=
  if part = [] || part = "." then .ok place
  else if part = ".." then .ok place.tail
  else if longestName < Utf8.size part then .error .nameTooLong
  else .ok (part :: place)

/-- A part is looked for in a directory, and the rest of the tree does
not matter. -/
theorem enter_eq_ok_iff :
    tree.enter place part = .ok next
      ↔ tree.at? place = some .directory ∧ entered place part = .ok next := by
  rw [enter]
  cases hat : tree.at? place with
  | none => simp
  | some node => cases node <;> simp [entered]

/-- The places that a part can name. -/
theorem entered_cases (h : entered place part = .ok next) :
    ((part = [] ∨ part = ".") ∧ next = place) ∨ (part = ".." ∧ next = place.tail)
      ∨ (Path.IsName part ∧ next = part :: place) := by
  rw [entered] at h
  split at h
  · rename_i hstay
    simp only [Bool.or_eq_true, decide_eq_true_eq] at hstay
    cases h
    exact .inl ⟨hstay, rfl⟩
  · rename_i hstay
    simp only [Bool.or_eq_true, decide_eq_true_eq, not_or] at hstay
    split at h
    · rename_i hup
      cases h
      exact .inr (.inl ⟨hup, rfl⟩)
    · rename_i hup
      split at h
      · cases h
      · cases h
        exact .inr (.inr ⟨⟨hstay.1, hstay.2, hup⟩, rfl⟩)

theorem step_eq_ok_iff :
    tree.step place part = .ok next
      ↔ tree.enter place part = .ok next ∧ (tree.at? next).isSome := by
  rw [step, bind_eq_ok_iff]
  constructor
  · rintro ⟨found, hfound, h⟩
    split at h
    · cases h
      exact ⟨hfound, ‹_›⟩
    · cases h
  · rintro ⟨hfound, hsome⟩
    exact ⟨next, hfound, if_pos hsome⟩

/-- The place that is reached from a directory part by part. -/
def walk (tree : FileTree) (place : Location) (parts : List Text) : Except OsError Location :=
  parts.foldlM tree.step place

theorem walk_cons_eq_ok_iff :
    tree.walk place (part :: parts) = .ok next
      ↔ ∃ between, tree.step place part = .ok between ∧ tree.walk between parts = .ok next :=
  bind_eq_ok_iff

theorem walk_append_eq_ok_iff {front back : List Text} :
    tree.walk place (front ++ back) = .ok next
      ↔ ∃ between, tree.walk place front = .ok between ∧ tree.walk between back = .ok next := by
  rw [walk, List.foldlM_append]
  exact bind_eq_ok_iff

theorem find_eq_ok_iff :
    tree.find path = .ok place
      ↔ check path = .ok ()
        ∧ tree.walk (tree.start path) (Text.splitOn '/' path.text) = .ok place := by
  rw [find, bind_eq_ok_iff]
  constructor
  · rintro ⟨_, hcheck, h⟩
    exact ⟨hcheck, h⟩
  · rintro ⟨hcheck, h⟩
    exact ⟨(), hcheck, h⟩

/-- A path of slashes alone leads to the root; every other one to what
its last part names in the directory that the parts before lead to. -/
theorem target_eq_ok_iff :
    tree.target path = .ok place
      ↔ check path = .ok () ∧
        ((partsOf path = [] ∧ place = []) ∨
          ∃ before last inside, partsOf path = before ++ [last]
            ∧ tree.walk (tree.start path) before = .ok inside
            ∧ tree.enter inside last = .ok place) := by
  rw [target, bind_eq_ok_iff]
  constructor
  · rintro ⟨_, hcheck, h⟩
    refine ⟨hcheck, ?_⟩
    split at h
    · rename_i hparts
      cases h
      exact .inl ⟨List.reverse_eq_nil_iff.mp hparts, rfl⟩
    · rename_i last before hparts
      obtain ⟨inside, hinside, henter⟩ := bind_eq_ok_iff.mp h
      refine .inr ⟨before.reverse, last, inside, ?_, hinside, henter⟩
      rw [← List.reverse_reverse (partsOf path), hparts, List.reverse_cons]
  · rintro ⟨hcheck, ⟨hparts, rfl⟩ | ⟨before, last, inside, hparts, hinside, henter⟩⟩
    · exact ⟨(), hcheck, by rw [hparts]; rfl⟩
    · refine ⟨(), hcheck, ?_⟩
      rw [hparts, List.reverse_append, List.reverse_singleton, List.singleton_append]
      refine bind_eq_ok_iff.mpr ⟨inside, ?_, henter⟩
      rw [List.reverse_reverse]
      exact hinside

/-! ### Slashes at the end of a path -/

/-- The parts of a path are those that count and empty ones. -/
theorem splitOn_eq_partsOf (path : Path) :
    ∃ n, Text.splitOn '/' path.text = partsOf path ++ List.replicate n [] := by
  let reversed := (Text.splitOn '/' path.text).reverse
  have hempty : ∀ part ∈ reversed.takeWhile (· = []), part = [] :=
    fun part hpart => of_decide_eq_true (List.all_eq_true.mp List.all_takeWhile part hpart)
  refine ⟨(reversed.takeWhile (· = [])).length, ?_⟩
  rw [partsOf, ← List.reverse_replicate, ← List.eq_replicate_of_mem hempty, ← List.reverse_append,
    List.takeWhile_append_dropWhile, List.reverse_reverse]

/-- A text whose last part is empty is empty or ends in a mark. -/
theorem getLast?_of_splitOn_append_nil {mark : Char} {text : Text}
    (h : Text.splitOn mark text = parts ++ [[]]) : text = [] ∨ text.getLast? = some mark := by
  have htext := Text.joinWith_splitOn mark text
  rw [h] at htext
  cases parts with
  | nil => exact .inl htext.symm
  | cons first rest =>
    right
    rw [← htext]
    simp [Text.joinWith]

/-- All parts count where no slash stands at the end. -/
theorem partsOf_eq_splitOn (hne : path.text ≠ []) (hlast : path.text.getLast? ≠ some '/') :
    partsOf path = Text.splitOn '/' path.text := by
  obtain ⟨n, hsplit⟩ := splitOn_eq_partsOf path
  cases n with
  | zero => rw [hsplit, List.replicate_zero, List.append_nil]
  | succ n =>
    rw [List.replicate_succ', ← List.append_assoc] at hsplit
    rcases getLast?_of_splitOn_append_nil hsplit with h | h
    · exact absurd h hne
    · exact absurd h hlast

/-- Only an absolute path has nothing but empty parts. -/
theorem isAbsolute_of_partsOf_eq_nil (hne : path.text ≠ []) (h : partsOf path = []) :
    path.isAbsolute = true := by
  obtain ⟨n, hsplit⟩ := splitOn_eq_partsOf path
  rw [h, List.nil_append] at hsplit
  obtain ⟨c, rest, htext⟩ := List.exists_cons_of_ne_nil hne
  obtain ⟨first, others, hfirst⟩ := Text.exists_splitOn_eq_cons '/' rest
  have hslash : c = '/' := Decidable.byContradiction fun hc => by
    rw [htext, Text.splitOn_cons, hfirst, Text.consCut_of_ne hc] at hsplit
    have hmem : c :: first ∈ List.replicate n ([] : Text) := hsplit ▸ List.mem_cons_self
    exact absurd (List.eq_of_mem_replicate hmem) (List.cons_ne_nil c first)
  rw [Path.isAbsolute, htext, hslash]
  rfl

/-- A path that is followed at all has some text. -/
theorem text_ne_nil_of_check (h : check path = .ok ()) : path.text ≠ [] := by
  intro hnil
  rw [check, hnil] at h
  cases h

/-- Empty parts lead nowhere else. -/
theorem walk_replicate_nil (h : tree.at? place = some .directory) (n : Nat) :
    tree.walk place (List.replicate n []) = .ok place := by
  induction n with
  | zero => rfl
  | succ n ih =>
    refine walk_cons_eq_ok_iff.mpr ⟨place, ?_, ih⟩
    exact step_eq_ok_iff.mpr ⟨enter_eq_ok_iff.mpr ⟨h, rfl⟩, by rw [h]; rfl⟩

/-! ### Growing -/

/-- Everything that is there stays there, and directories stay
directories. -/
structure Extends (tree later : FileTree) : Prop where
  here : later.here = tree.here
  present : ∀ {place}, (tree.at? place).isSome → (later.at? place).isSome
  directory : ∀ {place}, tree.at? place = some .directory → later.at? place = some .directory

theorem Extends.refl (tree : FileTree) : tree.Extends tree :=
  ⟨rfl, id, id⟩

theorem Extends.trans {last : FileTree} (h : tree.Extends later) (h' : later.Extends last) :
    tree.Extends last :=
  ⟨h'.here.trans h.here, fun hp => h'.present (h.present hp),
    fun hd => h'.directory (h.directory hd)⟩

theorem Extends.start (h : tree.Extends later) (path : Path) :
    later.start path = tree.start path := by
  rw [FileTree.start, FileTree.start, h.here]

theorem Extends.enter (h : tree.Extends later) (hnext : tree.enter place part = .ok next) :
    later.enter place part = .ok next := by
  obtain ⟨hdirectory, hentered⟩ := enter_eq_ok_iff.mp hnext
  exact enter_eq_ok_iff.mpr ⟨h.directory hdirectory, hentered⟩

theorem Extends.walk (h : tree.Extends later) (hwalk : tree.walk place parts = .ok next) :
    later.walk place parts = .ok next := by
  induction parts generalizing place with
  | nil => exact hwalk
  | cons part parts ih =>
    obtain ⟨between, hstep, hrest⟩ := walk_cons_eq_ok_iff.mp hwalk
    obtain ⟨henter, hsome⟩ := step_eq_ok_iff.mp hstep
    exact walk_cons_eq_ok_iff.mpr
      ⟨between, step_eq_ok_iff.mpr ⟨h.enter henter, h.present hsome⟩, ih hrest⟩

/-- A path is followed to the same thing later. -/
theorem Extends.find (h : tree.Extends later) (hfind : tree.find path = .ok place) :
    later.find path = .ok place := by
  obtain ⟨hcheck, hwalk⟩ := find_eq_ok_iff.mp hfind
  exact find_eq_ok_iff.mpr ⟨hcheck, by rw [h.start]; exact h.walk hwalk⟩

/-- A path names the same place later. -/
theorem Extends.target (h : tree.Extends later) (htarget : tree.target path = .ok place) :
    later.target path = .ok place := by
  obtain ⟨hcheck, hplace⟩ := target_eq_ok_iff.mp htarget
  refine target_eq_ok_iff.mpr ⟨hcheck, ?_⟩
  rcases hplace with hroot | ⟨before, last, inside, hparts, hinside, henter⟩
  · exact .inl hroot
  · exact .inr ⟨before, last, inside, hparts, by rw [h.start]; exact h.walk hinside,
      h.enter henter⟩

/-- What is put where no directory was leaves everything there. -/
theorem extends_put (node : Node) (h : tree.at? place ≠ some .directory) :
    tree.Extends (tree.put place node) where
  here := rfl
  present {other} hsome := by
    by_cases heq : other = place
    · rw [heq, at?_put_self tree node (ne_nil_of_at? h)]
      rfl
    · rw [at?_put_of_ne tree node heq]
      exact hsome
  directory {other} hdirectory := by
    have hne : other ≠ place := fun heq => h (heq ▸ hdirectory)
    rw [at?_put_of_ne tree node hne]
    exact hdirectory

/-- The place that a path names is the one it leads to, once a directory
is there, or a file if the path has no slash at its end. -/
theorem find_of_target (htarget : tree.target path = .ok place)
    (h : tree.at? place = some .directory
      ∨ path.text.getLast? ≠ some '/' ∧ (tree.at? place).isSome) :
    tree.find path = .ok place := by
  obtain ⟨hcheck, hplace⟩ := target_eq_ok_iff.mp htarget
  have hne := text_ne_nil_of_check hcheck
  have hsome : (tree.at? place).isSome := by
    rcases h with h | ⟨-, h⟩
    · rw [h]; rfl
    · exact h
  obtain ⟨n, hsplit⟩ := splitOn_eq_partsOf path
  -- The parts that count lead to the place; the empty ones stay there.
  have hcount : tree.walk (tree.start path) (partsOf path) = .ok place := by
    rcases hplace with ⟨hparts, rfl⟩ | ⟨before, last, inside, hparts, hinside, henter⟩
    · rw [hparts, start, isAbsolute_of_partsOf_eq_nil hne hparts]
      rfl
    · rw [hparts]
      exact walk_append_eq_ok_iff.mpr ⟨inside, hinside,
        walk_cons_eq_ok_iff.mpr ⟨place, step_eq_ok_iff.mpr ⟨henter, hsome⟩, rfl⟩⟩
  refine find_eq_ok_iff.mpr ⟨hcheck, ?_⟩
  rcases h with hdirectory | ⟨hlast, -⟩
  · rw [hsplit]
    exact walk_append_eq_ok_iff.mpr ⟨place, hcount, walk_replicate_nil hdirectory n⟩
  · rw [← partsOf_eq_splitOn hne hlast]
    exact hcount

/-! ### Reading -/

theorem read_eq_ok_iff {content : Bytes} :
    tree.read path = .ok content
      ↔ ∃ place, tree.find path = .ok place ∧ tree.at? place = some (.file content) := by
  rw [read, bind_eq_ok_iff]
  refine exists_congr fun place => and_congr_right fun _ => ?_
  cases tree.at? place with
  | none => exact iff_of_false (by rintro ⟨⟩) (by rintro ⟨⟩)
  | some node =>
    cases node with
    | directory => exact iff_of_false (by rintro ⟨⟩) (by rintro ⟨⟩)
    | file found =>
      constructor
      · rintro ⟨⟩
        rfl
      · rintro ⟨⟩
        rfl

theorem isDirectory_iff :
    tree.isDirectory path = true
      ↔ ∃ place, tree.find path = .ok place ∧ tree.at? place = some .directory := by
  rw [isDirectory, decide_eq_true_iff, get?]
  cases tree.find path with
  | error reason => exact iff_of_false (by rintro ⟨⟩) (by rintro ⟨_, ⟨⟩, -⟩)
  | ok found =>
    constructor
    · exact fun h => ⟨found, rfl, h⟩
    · rintro ⟨_, ⟨⟩, h⟩
      exact h

/-! ### Writing -/

/-- A file is opened at the place that its path names, unless that is a
directory. -/
theorem opened_eq_ok_iff :
    tree.opened path = .ok place
      ↔ tree.target path = .ok place ∧ path.text.getLast? ≠ some '/'
        ∧ tree.at? place ≠ some .directory := by
  rw [opened, bind_eq_ok_iff]
  constructor
  · rintro ⟨found, htarget, h⟩
    split at h
    · cases h
    · rename_i hplace
      simp only [Bool.or_eq_true, decide_eq_true_eq, not_or] at hplace
      cases h
      exact ⟨htarget, hplace⟩
  · rintro ⟨htarget, hlast, hdirectory⟩
    refine ⟨place, htarget, ?_⟩
    rw [if_neg (by simp [hlast, hdirectory])]
    rfl

/-- What is put twice at a place is there as it was put last. -/
theorem put_put (tree : FileTree) (place : Location) (first node : Node) :
    (tree.put place first).put place node = tree.put place node := by
  simp [put, List.filter_filter]

/-- A write is refused and changes nothing, or it puts a file where it was
opened. Where the write succeeds, that is the content. -/
theorem write_cases (tree : FileTree) (path : Path) (content : Bytes) :
    (∃ reason, tree.write path content = (.error reason, tree))
      ∨ ∃ place kept room, tree.opened path = .ok place
        ∧ (tree.write path content).2 = { tree.put place (.file kept) with room := room }
        ∧ ((tree.write path content).1 = .ok () → kept = content) := by
  cases hopened : tree.opened path with
  | error reason => exact .inl ⟨reason, by rw [write, hopened]⟩
  | ok place =>
    right
    simp only [write, hopened]
    -- The file is empty in between, and what is left is put over it.
    have hfilled : ∀ kept, (tree.truncate place).put place (.file kept)
        = { tree.put place (.file kept) with room := (tree.truncate place).room } := by
      intro kept
      show ({ (tree.put place (.file [])).put place (.file kept) with
        room := (tree.truncate place).room } : FileTree) = _
      rw [put_put]
    rw [fill]
    split
    · exact ⟨place, content, _, rfl, hfilled content, fun _ => rfl⟩
    · rename_i room hroom
      refine ⟨place, content.take room, _, rfl, by rw [hfilled], fun hok => ?_⟩
      dsimp only at hok
      split at hok
      · rename_i hfits
        exact List.take_of_length_le (List.drop_eq_nil_iff.mp hfits)
      · cases hok

/-! ### Making directories -/

theorem makeDirectory_eq_ok_iff :
    tree.makeDirectory path = .ok later
      ↔ ∃ place, tree.target path = .ok place ∧ tree.at? place = none
        ∧ later = tree.put place .directory := by
  rw [makeDirectory, bind_eq_ok_iff]
  refine exists_congr fun place => and_congr_right fun _ => ?_
  constructor
  · intro h
    split at h
    · cases h
    · rename_i hplace
      cases h
      exact ⟨Option.not_isSome_iff_eq_none.mp hplace, rfl⟩
  · rintro ⟨hnone, rfl⟩
    rw [hnone]
    rfl

/-! ### Well-formed trees -/

/-- Everything is in a directory. -/
def WellFormed (tree : FileTree) : Prop :=
  ∀ name place, (tree.at? (name :: place)).isSome → tree.at? place = some .directory

/-- The directories around the entries of a tree are all that matters. -/
theorem wellFormed_iff :
    tree.WellFormed ↔ ∀ entry ∈ tree.entries, tree.at? entry.1.tail = some .directory := by
  constructor
  · rintro h ⟨place, node⟩ hmem
    cases place with
    | nil => exact at?_nil tree
    | cons name outer =>
      refine h name outer ?_
      -- The look-up may find an earlier entry for the place, but it finds one.
      rw [at?_of_ne (List.cons_ne_nil name outer), Option.isSome_iff_ne_none, Ne,
        List.lookup_eq_none_iff]
      intro hnone
      exact absurd (hnone _ hmem) (by simp)
  · intro h name outer hsome
    rw [at?_of_ne (List.cons_ne_nil name outer)] at hsome
    obtain ⟨node, hnode⟩ := Option.isSome_iff_exists.mp hsome
    obtain ⟨before, behind, hentries, -⟩ := List.lookup_eq_some_iff.mp hnode
    refine h (name :: outer, node) ?_
    rw [hentries]
    exact List.mem_append_right _ List.mem_cons_self

instance : Decidable tree.WellFormed :=
  decidable_of_iff _ wellFormed_iff.symm

/-- The directory around a directory is there. -/
theorem WellFormed.tail (h : tree.WellFormed) (hplace : tree.at? place = some .directory) :
    tree.at? place.tail = some .directory := by
  cases place with
  | nil => exact at?_nil tree
  | cons name place => exact h name place (by rw [hplace]; rfl)

/-- A part that is a name leads into the directory it is looked for in. -/
theorem enter_of_name (hname : Path.IsName part) (h : tree.enter place part = .ok next) :
    next = part :: place := by
  obtain ⟨-, hentered⟩ := enter_eq_ok_iff.mp h
  rcases entered_cases hentered with ⟨hstay | hstay, -⟩ | ⟨hup, -⟩ | ⟨-, hnext⟩
  · exact absurd hstay hname.1
  · exact absurd hstay hname.2.1
  · exact absurd hup hname.2.2
  · exact hnext

/-- What a path names and is no directory is in one. -/
theorem WellFormed.target (h : tree.WellFormed) (htarget : tree.target path = .ok place)
    (hplace : tree.at? place ≠ some .directory) : tree.at? place.tail = some .directory := by
  obtain ⟨-, ⟨-, rfl⟩ | ⟨before, last, inside, -, -, henter⟩⟩ := target_eq_ok_iff.mp htarget
  · exact absurd (at?_nil tree) hplace
  · obtain ⟨hinside, hentered⟩ := enter_eq_ok_iff.mp henter
    -- Parts that stay or lead up name directories, so the last part is a name.
    rcases entered_cases hentered with ⟨-, rfl⟩ | ⟨-, rfl⟩ | ⟨-, rfl⟩
    · exact absurd hinside hplace
    · exact absurd (h.tail hinside) hplace
    · exact hinside

/-- Nothing is in a place where no directory was, so anything may be put
there. -/
theorem WellFormed.put (h : tree.WellFormed) (node : Node)
    (hplace : tree.at? place ≠ some .directory)
    (houter : tree.at? place.tail = some .directory) : (tree.put place node).WellFormed := by
  intro name outer hsome
  have hextends := extends_put node hplace
  by_cases heq : name :: outer = place
  · rw [← heq] at houter
    exact hextends.directory houter
  · rw [at?_put_of_ne tree node heq] at hsome
    exact hextends.directory (h name outer hsome)

theorem WellFormed.write (h : tree.WellFormed) (path : Path) (content : Bytes) :
    (tree.write path content).2.WellFormed := by
  rcases write_cases tree path content with
    ⟨reason, hwrite⟩ | ⟨place, kept, room, hopened, hwrite, -⟩
  · rw [hwrite]
    exact h
  · obtain ⟨htarget, -, hplace⟩ := opened_eq_ok_iff.mp hopened
    rw [hwrite]
    exact h.put _ hplace (h.target htarget hplace)

theorem WellFormed.makeDirectory (h : tree.WellFormed)
    (hmake : tree.makeDirectory path = .ok later) : later.WellFormed := by
  obtain ⟨place, htarget, hnone, rfl⟩ := makeDirectory_eq_ok_iff.mp hmake
  have hplace := ne_directory_of_none hnone
  exact h.put _ hplace (h.target htarget hplace)

/-- A path that does not end in a name leads to a directory. -/
theorem WellFormed.walk_of_no_name (h : tree.WellFormed) (hne : parts ≠ [])
    (hparts : ∀ name, (parts.filterMap Path.component?).getLast? ≠ some (.normal name))
    (hwalk : tree.walk place parts = .ok next) : tree.at? next = some .directory := by
  -- Only the last part decides, wherever the ones before lead.
  obtain ⟨before, last, rfl⟩ : ∃ before last, parts = before ++ [last] :=
    ⟨_, _, (List.dropLast_concat_getLast hne).symm⟩
  obtain ⟨inside, -, hlast⟩ := walk_append_eq_ok_iff.mp hwalk
  obtain ⟨found, hstep, hfound⟩ := walk_cons_eq_ok_iff.mp hlast
  cases hfound
  obtain ⟨hinside, hentered⟩ := enter_eq_ok_iff.mp (step_eq_ok_iff.mp hstep).1
  rcases entered_cases hentered with ⟨-, rfl⟩ | ⟨-, rfl⟩ | ⟨hname, -⟩
  · exact hinside
  · exact h.tail hinside
  · refine absurd ?_ (hparts last)
    rw [List.filterMap_append, List.filterMap_cons_some (Path.component?_of_isName hname),
      List.filterMap_nil, List.getLast?_concat]

/-- Only a path that ends in a name can be read. -/
theorem exists_fileName_of_read {content : Bytes} (h : tree.WellFormed)
    (hread : tree.read path = .ok content) : ∃ name, path.fileName? = some name := by
  obtain ⟨place, hfind, hat⟩ := read_eq_ok_iff.mp hread
  cases hname : path.fileName? with
  | some name => exact ⟨name, rfl⟩
  | none =>
    have hdirectory : tree.at? place = some .directory := by
      refine h.walk_of_no_name (Text.splitOn_ne_nil '/' path.text) ?_ (find_eq_ok_iff.mp hfind).2
      intro name hlast
      rw [Path.fileName?, Path.components, List.getLast?_append, hlast] at hname
      cases hname
    rw [hdirectory] at hat
    cases hat

end Marginalia.FileTree
