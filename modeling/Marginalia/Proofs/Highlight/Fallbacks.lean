import Marginalia.Proofs.Documenter.Publish

/-!
# `Marginalia.Proofs.Highlight.Fallbacks`: a chain is a search from left to right

A highlighter with a fallback may be the fallback of another one, or have
one of its own in front. However it is grouped, it comes down to its
leaves from left to right.

`Decides` says which leaf a chain takes its result from. All leaves in
front of it are unavailable, and it is available itself unless it is the
last. The chain has its result, and asks it and those in front of it, each
once, in order.

`exists_decides` finds such a leaf for every chain, by induction on the
chain. `Decides.unique` says that the leaves alone determine it, so
grouping them otherwise changes nothing (`run_leaves`). What is noted on
the way does depend on the grouping: a chain within a chain notes a
success a second time.
-/

set_option autoImplicit false

namespace Marginalia.Highlight

/-- A highlighter without a fallback. -/
inductive Leaf
  | command (tool : Text) (limit : Duration)
  | service (url : Text) (limit : Duration)
  | given (name label : Text) (answer : (lexer code : Text) → Except Error Text)

namespace Leaf

/-- A leaf as a highlighter. -/
def highlighter : Leaf → Highlighter
  | command tool limit => .command tool limit
  | service url limit => .service url limit
  | given name label answer => .given name label answer

/-- The name of a leaf. -/
def name (leaf : Leaf) : Text :=
  leaf.highlighter.name

/-- What a leaf makes of some code. -/
def result (outside : Outside) (lexer code : Text) (leaf : Leaf) : Except Error Text :=
  (leaf.highlighter.run outside lexer code).result

/-- A leaf cannot be used on some code. -/
def Unavailable (outside : Outside) (lexer code : Text) (leaf : Leaf) : Prop :=
  ∃ tool, leaf.result outside lexer code = .error (.unavailable tool)

/-- How a leaf is asked for the markup of some code. -/
def call (lexer code : Text) : Leaf → Event
  | command tool limit => .ran ⟨tool, ["-l", lexer, "-f", "html"], code, limit⟩
  | service url limit => .posted ⟨url, lexer, code, limit⟩
  | given _ label _ => .asked label lexer code

end Leaf

/-- The leaves of a chain, from left to right. -/
def Highlighter.leaves : Highlighter → List Leaf
  | .command tool limit => [.command tool limit]
  | .service url limit => [.service url limit]
  | .given name label answer => [.given name label answer]
  | .withFallback primary fallback => primary.leaves ++ fallback.leaves

/-- A leaf decides what a chain makes of some code:

- `leaves`: it is a leaf of the chain, with those in front of it and those
  behind;
- `unavailable`: none in front of it can be used;
- `last`: it can be used itself, unless it is the last;
- `result`: the chain has its result;
- `calls`: the chain asks those in front of it and then the leaf, each
  once and for this code. -/
structure Decides (outside : Outside) (lexer code : Text) (chain : Highlighter)
    (front : List Leaf) (leaf : Leaf) (behind : List Leaf) : Prop where
  leaves : chain.leaves = front ++ leaf :: behind
  unavailable : ∀ earlier ∈ front, earlier.Unavailable outside lexer code
  last : leaf.Unavailable outside lexer code → behind = []
  result : (chain.run outside lexer code).result = leaf.result outside lexer code
  calls : requests (chain.run outside lexer code).events
    = (front ++ [leaf]).map (Leaf.call lexer code)

variable {outside : Outside} {lexer code : Text} {chain primary fallback : Highlighter}
  {leaf leaf' : Leaf} {front front' behind behind' : List Leaf}

/-! ### A single leaf -/

/-- A leaf is asked once. -/
theorem requests_run_leaf (outside : Outside) (lexer code : Text) (leaf : Leaf) :
    requests (leaf.highlighter.run outside lexer code).events = [leaf.call lexer code] := by
  cases leaf with
  | command tool limit =>
    -- All that is noted behind the run is noted in records.
    have hrecords : ∀ records : List Log.Record, requests (records.map .logged) = [] := by
      intro records
      induction records with
      | nil => rfl
      | cons record records ih => exact ih
    exact congrArg (List.cons _) (hrecords _)
  | service url limit => rfl
  | given name label answer => rfl

theorem leaves_leaf (leaf : Leaf) : leaf.highlighter.leaves = [leaf] := by
  cases leaf with
  | command tool limit => rfl
  | service url limit => rfl
  | given name label answer => rfl

/-- A leaf decides for itself. -/
theorem decides_leaf (outside : Outside) (lexer code : Text) (leaf : Leaf) :
    Decides outside lexer code leaf.highlighter [] leaf [] where
  leaves := leaves_leaf leaf
  unavailable _ h := absurd h List.not_mem_nil
  last _ := rfl
  result := rfl
  calls := requests_run_leaf outside lexer code leaf

/-! ### A chain of two -/

/-- Where the first is unavailable the chain goes on with the fallback. -/
theorem run_withFallback_of_unavailable (fallback : Highlighter) {tool : Text}
    (h : (primary.run outside lexer code).result = .error (.unavailable tool)) :
    ((Highlighter.withFallback primary fallback).run outside lexer code).result
        = (fallback.run outside lexer code).result ∧
      requests ((Highlighter.withFallback primary fallback).run outside lexer code).events
        = requests (primary.run outside lexer code).events
          ++ requests (fallback.run outside lexer code).events := by
  rw [Highlighter.run]
  simp only [h]
  refine ⟨rfl, ?_⟩
  rw [Traced.after, requests_append, requests_append_logged]

/-- Any other result of the first is that of the chain, and nothing else
is asked. -/
theorem run_withFallback_of_available (fallback : Highlighter)
    (h : ∀ tool, (primary.run outside lexer code).result ≠ .error (.unavailable tool)) :
    ((Highlighter.withFallback primary fallback).run outside lexer code).result
        = (primary.run outside lexer code).result ∧
      requests ((Highlighter.withFallback primary fallback).run outside lexer code).events
        = requests (primary.run outside lexer code).events := by
  rw [Highlighter.run]
  split
  · rename_i tool htool
    exact absurd htool (h tool)
  · rename_i e _ he
    exact ⟨he.symm, rfl⟩
  · rename_i markup hmarkup
    exact ⟨hmarkup.symm, requests_append_logged _ _⟩

/-- A leaf that decides for the first and can be used decides for the
chain. -/
theorem Decides.of_available (h : Decides outside lexer code primary front leaf behind)
    (havailable : ¬leaf.Unavailable outside lexer code) (fallback : Highlighter) :
    Decides outside lexer code (.withFallback primary fallback) front leaf
      (behind ++ fallback.leaves) := by
  have hresult : ∀ tool, (primary.run outside lexer code).result ≠ .error (.unavailable tool) := by
    intro tool htool
    exact havailable ⟨tool, h.result.symm.trans htool⟩
  obtain ⟨hsame, hcalls⟩ := run_withFallback_of_available fallback hresult
  refine ⟨?_, h.unavailable, fun hun => absurd hun havailable, hsame.trans h.result,
    hcalls.trans h.calls⟩
  rw [Highlighter.leaves, h.leaves, List.append_assoc, List.cons_append]

/-- Where it cannot be used it is the last leaf of the first, and a leaf
that decides for the fallback decides for the chain. -/
theorem Decides.of_unavailable (h : Decides outside lexer code primary front leaf behind)
    (hunavailable : leaf.Unavailable outside lexer code)
    (h' : Decides outside lexer code fallback front' leaf' behind') :
    Decides outside lexer code (.withFallback primary fallback) (front ++ leaf :: front') leaf'
      behind' := by
  obtain ⟨tool, htool⟩ := hunavailable
  obtain ⟨hsame, hcalls⟩ :=
    run_withFallback_of_unavailable fallback (h.result.trans htool)
  refine ⟨?_, ?_, h'.last, hsame.trans h'.result, ?_⟩
  · rw [Highlighter.leaves, h.leaves, h.last ⟨tool, htool⟩, h'.leaves, List.append_assoc,
      List.append_assoc]
    rfl
  · intro earlier hearlier
    rcases List.mem_append.mp hearlier with hfront | hearlier
    · exact h.unavailable earlier hfront
    · rcases List.mem_cons.mp hearlier with rfl | hfront'
      · exact ⟨tool, htool⟩
      · exact h'.unavailable earlier hfront'
  · rw [hcalls, h.calls, h'.calls, ← List.map_append]
    simp only [List.append_assoc, List.cons_append, List.nil_append]

/-! ### Chains of any shape -/

/-- In every chain some leaf decides. -/
theorem exists_decides (outside : Outside) (lexer code : Text) (chain : Highlighter) :
    ∃ front leaf behind, Decides outside lexer code chain front leaf behind := by
  induction chain with
  | command tool limit => exact ⟨_, _, _, decides_leaf outside lexer code (.command tool limit)⟩
  | service url limit => exact ⟨_, _, _, decides_leaf outside lexer code (.service url limit)⟩
  | given name label answer =>
    exact ⟨_, _, _, decides_leaf outside lexer code (.given name label answer)⟩
  | withFallback primary fallback ihPrimary ihFallback =>
    obtain ⟨front, leaf, behind, h⟩ := ihPrimary
    by_cases hunavailable : leaf.Unavailable outside lexer code
    · obtain ⟨front', leaf', behind', h'⟩ := ihFallback
      exact ⟨_, _, _, h.of_unavailable hunavailable h'⟩
    · exact ⟨_, _, _, h.of_available hunavailable fallback⟩

/-- Of two leaves in a row only one decides: the later one would have the
earlier in front of it, and then that is the last. -/
theorem eq_of_decides_prefix (hlast : leaf.Unavailable outside lexer code → behind = [])
    (hfront : ∀ earlier ∈ front', earlier.Unavailable outside lexer code)
    (h : leaf :: behind = front' ++ leaf' :: behind') : front' = [] ∧ leaf' = leaf := by
  cases front' with
  | nil => exact ⟨rfl, (List.cons.inj h).1.symm⟩
  | cons first rest =>
    obtain ⟨rfl, hbehind⟩ := List.cons.inj h
    rw [hlast (hfront leaf List.mem_cons_self)] at hbehind
    simp at hbehind

/-- The leaves of a chain determine the one that decides. -/
theorem Decides.unique {other : Highlighter}
    (h : Decides outside lexer code chain front leaf behind)
    (h' : Decides outside lexer code other front' leaf' behind')
    (hleaves : other.leaves = chain.leaves) : front' = front ∧ leaf' = leaf := by
  rw [h.leaves, h'.leaves] at hleaves
  rcases List.append_eq_append_iff.mp hleaves with ⟨more, hmore, hrest⟩ | ⟨more, hmore, hrest⟩
  · have hunavailable : ∀ earlier ∈ more, earlier.Unavailable outside lexer code := by
      intro earlier hearlier
      exact h.unavailable earlier (hmore ▸ List.mem_append_right _ hearlier)
    obtain ⟨rfl, hleaf⟩ := eq_of_decides_prefix h'.last hunavailable hrest
    exact ⟨by rw [hmore, List.append_nil], hleaf.symm⟩
  · have hunavailable : ∀ earlier ∈ more, earlier.Unavailable outside lexer code := by
      intro earlier hearlier
      exact h'.unavailable earlier (hmore ▸ List.mem_append_right _ hearlier)
    obtain ⟨rfl, hleaf⟩ := eq_of_decides_prefix h.last hunavailable hrest
    exact ⟨by rw [hmore, List.append_nil], hleaf⟩

/-- A chain has the name of its first leaf. -/
theorem head?_leaves (chain : Highlighter) :
    (chain.leaves.head?).map Leaf.name = some chain.name := by
  induction chain with
  | command tool limit => rfl
  | service url limit => rfl
  | given name label answer => rfl
  | withFallback primary fallback ihPrimary _ =>
    obtain ⟨first, hfirst, hname⟩ := Option.map_eq_some_iff.mp ihPrimary
    rw [Highlighter.leaves, List.head?_append, hfirst]
    exact congrArg some hname

/-- **A chain of highlighters searches its leaves from left to right.**
One of them decides, and the chain asks no leaf behind it. Its name is
that of the first leaf. A chain with the same leaves in the same order,
however they are grouped, has the same result, asks the same and is
called the same. -/
theorem run_leaves (outside : Outside) (lexer code : Text) (chain : Highlighter) :
    (∃ front leaf behind, Decides outside lexer code chain front leaf behind) ∧
    (chain.leaves.head?).map Leaf.name = some chain.name ∧
    ∀ other : Highlighter, other.leaves = chain.leaves →
      (other.run outside lexer code).result = (chain.run outside lexer code).result ∧
      requests (other.run outside lexer code).events
        = requests (chain.run outside lexer code).events ∧
      other.name = chain.name := by
  obtain ⟨front, leaf, behind, h⟩ := exists_decides outside lexer code chain
  refine ⟨⟨front, leaf, behind, h⟩, head?_leaves chain, ?_⟩
  intro other hleaves
  obtain ⟨front', leaf', behind', h'⟩ := exists_decides outside lexer code other
  obtain ⟨rfl, rfl⟩ := h.unique h' hleaves
  refine ⟨by rw [h.result, h'.result], by rw [h.calls, h'.calls], ?_⟩
  have hname := head?_leaves other
  rw [hleaves, head?_leaves chain, Option.some_inj] at hname
  exact hname.symm

/-- Where no command is installed, a command with a fallback, both in
front of a service. -/
def groupedLeft : Highlighter :=
  .withFallback (.withFallback (.command "pygmentize" (.ofSeconds 30))
    (.given "plain" "plain" fun _ code => .ok code)) (.service "http://localhost/" (.ofSeconds 30))

/-- The same command, with a fallback that has the service as its own. -/
def groupedRight : Highlighter :=
  .withFallback (.command "pygmentize" (.ofSeconds 30)) (.withFallback
    (.given "plain" "plain" fun _ code => .ok code) (.service "http://localhost/" (.ofSeconds 30)))

/-- The second leaf decides on either side, and the service is not
asked. -/
theorem run_leaves_grouped :
    groupedRight.leaves = groupedLeft.leaves ∧
    (groupedRight.run .none "python" "x = 1").result = .ok "x = 1" ∧
    requests (groupedRight.run .none "python" "x = 1").events
      = [.ran ⟨"pygmentize", ["-l", "python", "-f", "html"], "x = 1", .ofSeconds 30⟩,
        .asked "plain" "python" "x = 1"] := by
  obtain ⟨-, -, hregroup⟩ := run_leaves .none "python" "x = 1" groupedLeft
  obtain ⟨hresult, hcalls, -⟩ := hregroup groupedRight rfl
  exact ⟨rfl, hresult.trans rfl, hcalls.trans rfl⟩

end Marginalia.Highlight
