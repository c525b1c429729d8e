import Marginalia.Language.Registry
import Marginalia.Proofs.Path
import Marginalia.Proofs.Table
import Marginalia.Proofs.Text.ByteOrder

/-!
# `Marginalia.Proofs.Language.Registry`: which languages can be reached

A registry comes about by registering one profile after the other
(`Built`). Three operations deal with extensions, each in its own way: one
dot in front is taken off when a profile is registered and again when one
is looked up, and a file name is cut at its last dot.

`Built.records` says what they work on. The keys are in order, and under
each is the profile of the last call for it (`latest?`). `reached_of_built`
says what this comes to for an extension that is listed (`Reached`). It is
found with a dot in front, and without one unless it begins with a dot
itself. A file name with this extension leads to its profile if the
extension has no dot in it. Otherwise only the text behind the last dot
counts, as `dotted_not_reached` shows.
-/

set_option autoImplicit false

namespace Marginalia

/-! ### File names with a dot -/

namespace Text

/-- A text is cut at its last mark. -/
theorem cutLast?_append_cons {mark : Char} {last : Text} (h : mark ∉ last) (front : Text) :
    cutLast? mark (front ++ mark :: last) = some (front, last) := by
  have hkept : ∀ c ∈ last.reverse, (c != mark) = true := by
    intro c hc
    rw [bne_iff_ne]
    rintro rfl
    exact h (List.mem_reverse.mp hc)
  have hreverse : (front ++ mark :: last).reverse = last.reverse ++ mark :: front.reverse := by
    simp
  have hmark : ¬(mark != mark) = true := by simp
  rw [cutLast?, hreverse, List.takeWhile_append_of_pos hkept, List.dropWhile_append_of_pos hkept,
    List.takeWhile_cons_of_neg (p := (· != mark)) hmark,
    List.dropWhile_cons_of_neg (p := (· != mark)) hmark]
  simp

end Text

namespace Path

variable {path : Path} {name front last : Text}

/-- A path has this file name, or is nothing but the file name. -/
def Names (path : Path) (name : Text) : Prop :=
  path.fileName? = some name ∨ path = ⟨name⟩

/-- The extension of a file name is what is behind its last dot. -/
theorem extension_of_fileName? (h : path.fileName? = some (front ++ '.' :: last))
    (hlast : '.' ∉ last) : path.extension = last := by
  rw [extension, h, Option.getD_some, Text.cutLast?_append_cons hlast]

/-- A text without slashes is a file name, unless it means a directory. -/
theorem fileName?_of_not_mem (h : '/' ∉ name) (hname : IsName name) :
    fileName? ⟨name⟩ = some name := by
  have hparts : Text.splitOn '/' name = [name] := Text.splitOn_of_not_mem h
  have hlast : (components ⟨name⟩).getLast? = some (.normal name) := by
    rw [components, hparts, List.filterMap_cons_some (component?_of_isName hname),
      List.filterMap_nil, List.getLast?_append]
    rfl
  rw [fileName?, hlast]

/-- So its extension is what is behind its last dot too. A text that means
a directory has nothing there. -/
theorem extension_of_not_mem (h : '/' ∉ front ++ '.' :: last) (hlast : '.' ∉ last) :
    extension ⟨front ++ '.' :: last⟩ = last := by
  have hcut := Text.cutLast?_append_cons hlast front
  rcases component?_cases (front ++ '.' :: last) with ⟨hnil | hdot, -⟩ | ⟨hup, -⟩ | ⟨hname, -⟩
  · exact absurd hnil (by simp)
  -- The last dot of a directory is its last character.
  · rw [hdot] at hcut ⊢
    exact congrArg Prod.snd (Option.some.inj hcut)
  · rw [hup] at hcut ⊢
    exact congrArg Prod.snd (Option.some.inj hcut)
  · exact extension_of_fileName? (fileName?_of_not_mem h hname) hlast

theorem Names.extension_eq (h : path.Names (front ++ '.' :: last))
    (hslash : '/' ∉ front ++ '.' :: last) (hlast : '.' ∉ last) : path.extension = last := by
  rcases h with hname | rfl
  · exact extension_of_fileName? hname hlast
  · exact extension_of_not_mem hslash hlast

end Path

namespace Language.Registry

/-! ### What has been registered -/

/-- A call with this extension is for `e`: it is `e` with a dot in front,
or `e` itself where that does not begin with one. -/
def IsFor (extension e : Text) : Prop :=
  extension = '.' :: e ∨ (extension = e ∧ e.head? ≠ some '.')

instance (extension e : Text) : Decidable (IsFor extension e) :=
  inferInstanceAs (Decidable (_ ∨ _))

/-- The profile of the last call for `e`. -/
def latest? (history : List (Text × Profile)) (e : Text) : Option Profile :=
  (history.reverse.find? fun call => IsFor call.1 e).map (·.2)

/-- The calls for the languages that are known from the start. -/
def builtinCalls [Patterns] : List (Text × Profile) :=
  builtinDeclarations.filterMap fun (extension, d) =>
    (Profile.ofDeclaration d).toOption.map (extension, ·)

/-- A registry that has come about by calls with extensions without
slashes, the first of them first. It begins with no language, or with
those that are known from the start. -/
inductive Built [Patterns] : (history : List (Text × Profile)) → Registry → Prop
  | empty : Built [] .empty
  | builtin : Built builtinCalls .builtin
  | register {history : List (Text × Profile)} {registry : Registry}
      (built : Built history registry) (extension : Text) (profile : Profile)
      (slashless : '/' ∉ extension) :
      Built (history ++ [(extension, profile)]) (registry.register extension profile)

variable {history : List (Text × Profile)} {registry : Registry} {extension e : Text}
  {profile : Profile} {path : Path}

/-- A call is for one extension, its key. -/
theorem isFor_iff : IsFor extension e ↔ key extension = e := by
  unfold IsFor key Text.dropLead
  cases extension with
  | nil =>
    show _ ↔ [] = e
    constructor
    · rintro (hdot | ⟨rfl, -⟩)
      · cases hdot
      · rfl
    · rintro rfl
      exact .inr ⟨rfl, by simp⟩
  | cons c rest =>
    by_cases hc : c = '.'
    · subst hc
      show _ ↔ rest = e
      constructor
      · rintro (hdot | ⟨rfl, hhead⟩)
        · exact (List.cons.inj hdot).2
        · exact absurd rfl hhead
      · rintro rfl
        exact .inl rfl
    · have hkept : (Text.after? "." (c :: rest)).getD (c :: rest) = c :: rest := by
        rw [show ("." : Text) = ['.'] from rfl, Text.after?, if_neg (Ne.symm hc),
          Option.getD_none]
      rw [hkept]
      constructor
      · rintro (hdot | ⟨heq, -⟩)
        · exact absurd (List.cons.inj hdot).1 hc
        · exact heq
      · rintro rfl
        exact .inr ⟨rfl, by simpa using hc⟩

/-- The last call comes first. -/
theorem latest?_concat (history : List (Text × Profile)) (extension : Text) (profile : Profile)
    (e : Text) :
    latest? (history ++ [(extension, profile)]) e
      = if IsFor extension e then some profile else latest? history e := by
  rw [latest?, List.reverse_append, List.reverse_singleton, List.singleton_append,
    List.find?_cons]
  by_cases h : IsFor extension e
  · rw [if_pos h, decide_eq_true h]
    rfl
  · rw [if_neg h, decide_eq_false h]
    rfl

/-- Later calls come before earlier ones. -/
theorem latest?_append (history later : List (Text × Profile)) (e : Text) :
    latest? (history ++ later) e = (latest? later e).or (latest? history e) := by
  rw [latest?, List.reverse_append, List.find?_append, Option.map_or]
  rfl

/-- A call for `e` is the last one, or there is a later one. -/
theorem latest?_ne_none {call : Text × Profile} (hcall : call ∈ history) (hfor : IsFor call.1 e) :
    latest? history e ≠ none := by
  intro hnone
  have hfind := List.find?_eq_none.mp (Option.map_eq_none_iff.mp hnone) call
    (List.mem_reverse.mpr hcall)
  exact hfind (decide_eq_true hfor)

/-- No call behind the last one for `e` is for `e`. -/
theorem exists_split_of_latest? (h : latest? history e = some profile) :
    ∃ front extension back, history = front ++ (extension, profile) :: back ∧
      IsFor extension e ∧ ∀ call ∈ back, ¬IsFor call.1 e := by
  obtain ⟨⟨extension, found⟩, hfind, rfl⟩ := Option.map_eq_some_iff.mp h
  obtain ⟨hfor, later, earlier, hhistory, hlater⟩ := List.find?_eq_some_iff_append.mp hfind
  refine ⟨earlier.reverse, extension, later.reverse, ?_, of_decide_eq_true hfor, ?_⟩
  · rw [← List.reverse_reverse history, hhistory]
    simp
  · intro call hcall
    simpa using hlater call (List.mem_reverse.mp hcall)

/-- Some call is the last one for `e`. -/
theorem exists_call_of_latest? (h : latest? history e = some profile) :
    ∃ call ∈ history, IsFor call.1 e := by
  obtain ⟨call, hcall, -⟩ := Option.map_eq_some_iff.mp h
  have hfor := List.find?_some hcall
  exact ⟨call, List.mem_reverse.mp (List.mem_of_find?_eq_some hcall), of_decide_eq_true hfor⟩

/-- A registry and the calls for it belong together:

- `sorted`: its keys are in order;
- `get?_eq`: under a key is the profile of the last call for it. -/
structure Records (history : List (Text × Profile)) (registry : Registry) : Prop where
  sorted : registry.profiles.Sorted
  get?_eq : ∀ e, registry.profiles.get? e = latest? history e

/-- One call more. -/
theorem Records.register (h : Records history registry) (extension : Text) (profile : Profile) :
    Records (history ++ [(extension, profile)]) (registry.register extension profile) where
  sorted := h.sorted.insert (key extension) profile
  get?_eq e := by
    rw [latest?_concat, Registry.register]
    -- A call is for its key and for nothing else.
    by_cases hkey : key extension = e
    · rw [if_pos (isFor_iff.mpr hkey), ← hkey]
      exact Table.get?_insert_self _ _ _
    · rw [if_neg (fun hfor => hkey (isFor_iff.mp hfor))]
      exact (Table.get?_insert_of_ne _ _ hkey).trans (h.get?_eq e)

/-- Declared languages are registered where they are acceptable. -/
theorem Records.declare [Patterns] (h : Records history registry)
    (declarations : List (Text × Declaration)) :
    Records (history ++ declarations.filterMap fun (extension, d) =>
        (Profile.ofDeclaration d).toOption.map (extension, ·))
      (declarations.foldl
        (fun registry (extension, d) => (registry.declare extension d).toOption.getD registry)
        registry) := by
  induction declarations generalizing history registry with
  | nil =>
    rw [List.filterMap_nil, List.append_nil]
    exact h
  | cons declaration declarations ih =>
    obtain ⟨extension, d⟩ := declaration
    rw [List.foldl_cons]
    simp only [Registry.declare]
    cases hprofile : Profile.ofDeclaration d with
    | error reason =>
      rw [List.filterMap_cons_none (by rw [hprofile]; rfl)]
      exact ih h
    | ok profile =>
      rw [List.filterMap_cons_some (by rw [hprofile]; rfl), ← List.singleton_append,
        ← List.append_assoc]
      exact ih (h.register extension profile)

theorem records_empty : Records [] .empty where
  sorted := Table.sorted_empty
  get?_eq _ := rfl

/-- Every registry belongs together with its calls. -/
theorem Built.records [Patterns] (h : Built history registry) : Records history registry := by
  induction h with
  | empty => exact records_empty
  | builtin => exact records_empty.declare builtinDeclarations
  | register _ extension profile _ ih => exact ih.register extension profile

/-- No call has a slash. -/
theorem Built.slashless [Patterns] (h : Built history registry) :
    ∀ call ∈ history, '/' ∉ call.1 := by
  induction h with
  | empty => exact fun call hcall => absurd hcall List.not_mem_nil
  | builtin =>
    intro call hcall
    obtain ⟨⟨extension, d⟩, hmem, hcall⟩ := List.mem_filterMap.mp hcall
    obtain ⟨profile, -, rfl⟩ := Option.map_eq_some_iff.mp hcall
    have hnone : ∀ entry ∈ builtinDeclarations, '/' ∉ entry.1 := by decide +kernel
    exact hnone _ hmem
  | register _ extension profile hslash ih =>
    intro call hcall
    rcases List.mem_append.mp hcall with hcall | hcall
    · exact ih call hcall
    · rw [List.mem_singleton.mp hcall]
      exact hslash

/-! ### What can be reached -/

/-- An extension that is listed is reached:

- `latest`: there is a last call for it;
- `dotted`: its profile is found under the extension with a dot;
- `plain`: it is found under the extension itself, unless that begins with
  a dot;
- `resolved`: it is found for every file with this extension, if the
  extension has no dot in it;
- `cut`: if it has one, the file is taken for one with the extension that
  is behind the last dot. -/
structure Reached (history : List (Text × Profile)) (registry : Registry) (e : Text)
    (profile : Profile) : Prop where
  latest : latest? history e = some profile
  dotted : registry.get? ('.' :: e) = some profile
  plain : e.head? ≠ some '.' → registry.get? e = some profile
  resolved : '.' ∉ e → ∀ path name, '/' ∉ name → path.Names (name ++ '.' :: e) →
    registry.resolve path = .ok profile
  cut : ∀ inner last, e = inner ++ '.' :: last → '.' ∉ last →
    ∀ path name, '/' ∉ name → path.Names (name ++ '.' :: e) →
      registry.resolve path
        = match latest? history last with
          | some found => .ok found
          | none => .error (.unsupported last path.text)

/-- A look-up finds the profile of the last call for its key. -/
theorem Records.get?_of_isFor (h : Records history registry) (hfor : IsFor extension e) :
    registry.get? extension = latest? history e := by
  rw [get?, isFor_iff.mp hfor, h.get?_eq]

/-- A file goes by what is behind the last dot of its name. -/
theorem Records.resolve_eq (h : Records history registry) {front last : Text}
    (hnames : path.Names (front ++ '.' :: last)) (hslash : '/' ∉ front ++ '.' :: last)
    (hlast : '.' ∉ last) :
    registry.resolve path
      = match latest? history last with
        | some found => .ok found
        | none => .error (.unsupported last path.text) := by
  have hhead : last.head? ≠ some '.' := fun hhead => hlast (List.mem_of_mem_head? hhead)
  have hget : registry.get? last = latest? history last := h.get?_of_isFor (.inr ⟨rfl, hhead⟩)
  cases hlatest : latest? history last with
  | none => simp only [resolve, hnames.extension_eq hslash hlast, hget, hlatest]
  | some found => simp only [resolve, hnames.extension_eq hslash hlast, hget, hlatest]

/-- What is listed has been registered. -/
theorem Records.exists_latest? (h : Records history registry) (he : e ∈ registry.extensions) :
    ∃ profile, latest? history e = some profile := by
  rw [← h.get?_eq e]
  exact Option.isSome_iff_exists.mp (Table.mem_keys_iff.mp he)

/-- **Registered languages are reached.** The extensions of a registry are
listed in the order of their bytes, and counted. None begins with a dot,
unless one was registered with two. Each is reached, with the profile that
was last registered for it. -/
theorem reached_of_built [Patterns] (h : Built history registry) :
    (registry.extensions.map Utf8.encode).Pairwise (· < ·) ∧
    registry.extensions.length = registry.size ∧
    (∀ e, '.' :: e ∈ registry.extensions → ∃ call ∈ history, call.1 = '.' :: '.' :: e) ∧
    ∀ e ∈ registry.extensions, ∃ profile, Reached history registry e profile := by
  have hrecords := h.records
  refine ⟨?_, List.length_map _, ?_, ?_⟩
  · exact List.Pairwise.map Utf8.encode (fun _ _ => Utf8.encode_lt_encode) hrecords.sorted
  · intro e he
    obtain ⟨profile, hlatest⟩ := hrecords.exists_latest? he
    obtain ⟨call, hcall, hfor⟩ := exists_call_of_latest? hlatest
    rcases hfor with hdots | ⟨-, hhead⟩
    · exact ⟨call, hcall, hdots⟩
    · exact absurd rfl hhead
  · intro e he
    obtain ⟨profile, hlatest⟩ := hrecords.exists_latest? he
    have hslash : '/' ∉ e := by
      obtain ⟨call, hcall, hfor⟩ := exists_call_of_latest? hlatest
      intro hmem
      rcases hfor with hdot | ⟨hself, -⟩
      · exact h.slashless call hcall (hdot ▸ List.mem_cons_of_mem '.' hmem)
      · exact h.slashless call hcall (hself ▸ hmem)
    -- So the whole file name is one part of a path, and its last dot cuts it.
    have hname : ∀ name : Text, '/' ∉ name → '/' ∉ name ++ '.' :: e := by
      intro name hname hmem
      rcases List.mem_append.mp hmem with hmem | hmem
      · exact hname hmem
      · rcases List.mem_cons.mp hmem with hdot | hmem
        · exact absurd hdot (by decide)
        · exact hslash hmem
    refine ⟨profile, hlatest, ?_, ?_, ?_, ?_⟩
    · rw [hrecords.get?_of_isFor (.inl rfl), hlatest]
    · intro hhead
      rw [hrecords.get?_of_isFor (.inr ⟨rfl, hhead⟩), hlatest]
    · intro hdot path name hslashless hnames
      rw [hrecords.resolve_eq hnames (hname name hslashless) hdot, hlatest]
    · intro inner last heq hlast path name hslashless hnames
      have hcut : name ++ '.' :: e = (name ++ '.' :: inner) ++ '.' :: last := by
        rw [heq, List.append_assoc, List.cons_append]
      have hwhole := hname name hslashless
      rw [hcut] at hnames hwhole
      exact hrecords.resolve_eq hnames hwhole hlast

/-- A language with `%` comments. -/
def texLanguage : Profile :=
  ⟨"tex", ["%"], by decide, by decide, by decide⟩

/-- A language with `;` comments. -/
def lispLanguage : Profile :=
  ⟨"lisp", [";"], by decide, by decide, by decide⟩

/-- Calls that replace a known language and add one for archives. -/
def replacingCalls : List (Text × Profile) :=
  builtinCalls ++ [((".py" : Text), texLanguage)] ++ [(("tar.gz" : Text), lispLanguage)]

/-- The registry that these calls make. -/
def replaced : Registry :=
  (builtin.register ".py" texLanguage).register "tar.gz" lispLanguage

theorem reached_of_built_replaced :
    Built replacingCalls replaced ∧
    "py".toList ∈ replaced.extensions ∧
    Reached replacingCalls replaced "py" texLanguage := by
  have hbuilt : Built replacingCalls replaced :=
    .register (.register .builtin ".py" texLanguage (by decide)) "tar.gz" lispLanguage (by decide)
  have hlisted : "py".toList ∈ replaced.extensions := by decide +kernel
  have hlatest : latest? replacingCalls "py" = some texLanguage := by decide +kernel
  obtain ⟨-, -, -, hreached⟩ := reached_of_built hbuilt
  obtain ⟨profile, h⟩ := hreached "py" hlisted
  have heq : profile = texLanguage := Option.some.inj (h.latest.symm.trans hlatest)
  exact ⟨hbuilt, hlisted, heq ▸ h⟩

/-- Two calls with dots. -/
def dottedCalls : List (Text × Profile) :=
  [("tar.gz", texLanguage), ("..x", lispLanguage)]

/-- The registry that these calls make. -/
def dotted : Registry :=
  (empty.register "tar.gz" texLanguage).register "..x" lispLanguage

/-- An extension with a dot in it is listed, but no file is found to have
it. One with two dots in front is listed with one dot, which a look-up
takes off. -/
theorem dotted_not_reached :
    Built dottedCalls dotted ∧
    dotted.extensions.map String.ofList = [".x", "tar.gz"] ∧
    dotted.get? ".x" = none ∧
    dotted.resolve ⟨"a.tar.gz"⟩ = .error (.unsupported "gz" "a.tar.gz") := by
  have hbuilt : Built dottedCalls dotted :=
    .register (.register .empty "tar.gz" texLanguage (by decide)) "..x" lispLanguage (by decide)
  have hcut : Path.extension ⟨"a.tar.gz"⟩ = "gz" := by decide +kernel
  have hnone : dotted.get? "gz" = none := by decide +kernel
  refine ⟨hbuilt, by decide +kernel, by decide +kernel, ?_⟩
  rw [resolve, hcut, hnone]

end Language.Registry

end Marginalia
