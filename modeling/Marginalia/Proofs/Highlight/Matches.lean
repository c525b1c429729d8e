import Marginalia.Proofs.Highlight.Divider
import Marginalia.Proofs.Highlight.Fragments

/-!
# `Marginalia.Proofs.Highlight.Matches`: the dividers of any markup

`Proofs.Highlight.Divider` follows the walk of `cut` through markup that
is made of lines. This file says what the walk finds in markup of any
shape, without the walk:

* `IsDivider`: the texts that separate fragments.
* `FirstDivider`: the first of them in a text. None begins further left,
  and none that begins there is longer.
* `Dividers`: all of them, from left to right. Behind one, the next is
  looked for in the rest.

`dividers_iff` states that `cut` finds exactly these. A sentinel is then
never overlooked, and the line feeds in front of it are never left
behind; both are read off `FirstDivider`.

`fragments_lossless` is about the fragments of the sections. They are the
markup without its dividers, and nothing else is taken away but a blank
rest behind the last divider. The number of fragments decides between
success and a mismatch, and the mismatch tells this number.
-/

set_option autoImplicit false

namespace Marginalia.Highlight

open Marginalia.Language (Profile)

/-! ### Dividers as texts -/

/-- A divider: line feeds, a sentinel as markup, and at most one line
feed. -/
def IsDivider (profile : Profile) (text : Text) : Prop :=
  ∃ feeds : Nat, ∃ markup ∈ sentinelMarkups profile, ∃ feed ∈ ([[], ['\n']] : List Text),
    text = List.replicate feeds '\n' ++ (markup ++ feed)

/-- The first divider of a text:

- `splits`: it stands between `fragment` and `rest`;
- `leftmost`: no divider begins before it;
- `longest`: no divider that begins with it is longer. -/
structure FirstDivider (profile : Profile) (text fragment divider rest : Text) : Prop where
  splits : text = fragment ++ (divider ++ rest)
  isDivider : IsDivider profile divider
  leftmost : ∀ before other behind, IsDivider profile other →
    text = before ++ (other ++ behind) → fragment.length ≤ before.length
  longest : ∀ other behind, IsDivider profile other →
    text = fragment ++ (other ++ behind) → other.length ≤ divider.length

/-- The dividers of a text from left to right, each with the fragment in
front of it, and the text behind the last. -/
inductive Dividers (profile : Profile) :
    (text : Text) → (pairs : List (Text × Text)) → (tail : Text) → Prop
  | done {tail : Text} (none : ∀ divider, IsDivider profile divider → ¬ divider <:+: tail) :
      Dividers profile tail [] tail
  | next {text fragment divider rest tail : Text} {pairs : List (Text × Text)}
      (first : FirstDivider profile text fragment divider rest)
      (later : Dividers profile rest pairs tail) :
      Dividers profile text ((fragment, divider) :: pairs) tail

variable {profile : Profile}

/-- A sentinel is a divider by itself. -/
theorem isDivider_sentinelMarkup {markup : Text} (h : markup ∈ sentinelMarkups profile) :
    IsDivider profile markup :=
  ⟨0, markup, h, [], by simp, by simp⟩

/-- A divider may have another line feed in front. -/
theorem IsDivider.cons {text : Text} (h : IsDivider profile text) :
    IsDivider profile ('\n' :: text) := by
  obtain ⟨feeds, markup, hmarkup, feed, hfeed, rfl⟩ := h
  exact ⟨feeds + 1, markup, hmarkup, feed, hfeed, rfl⟩

/-- The markup of a sentinel begins with a tag. -/
theorem exists_sentinelMarkup_eq_cons {markup : Text} (h : markup ∈ sentinelMarkups profile) :
    ∃ text, markup = '<' :: text := by
  rcases List.mem_pair.mp h with rfl | rfl <;> exact ⟨_, rfl⟩

/-- No divider is empty. -/
theorem IsDivider.ne_nil {text : Text} (h : IsDivider profile text) : text ≠ [] := by
  obtain ⟨feeds, markup, hmarkup, feed, -, rfl⟩ := h
  obtain ⟨text, rfl⟩ := exists_sentinelMarkup_eq_cons hmarkup
  simp

/-! ### There is only one way to find them -/

section
variable {text fragment fragment' divider divider' rest rest' tail tail' : Text}
  {pairs pairs' : List (Text × Text)}

/-- A text has only one first divider. -/
theorem FirstDivider.unique (h : FirstDivider profile text fragment divider rest)
    (h' : FirstDivider profile text fragment' divider' rest') :
    fragment' = fragment ∧ divider' = divider ∧ rest' = rest := by
  have hbegin : fragment.length = fragment'.length :=
    Nat.le_antisymm (h.leftmost _ _ _ h'.isDivider h'.splits)
      (h'.leftmost _ _ _ h.isDivider h.splits)
  obtain ⟨rfl, hbehind⟩ := List.append_inj (h.splits.symm.trans h'.splits) hbegin
  have hlength : divider.length = divider'.length :=
    Nat.le_antisymm (h'.longest _ _ h.isDivider h.splits)
      (h.longest _ _ h'.isDivider h'.splits)
  obtain ⟨rfl, rfl⟩ := List.append_inj hbehind hlength
  exact ⟨rfl, rfl, rfl⟩

/-- A text with a first divider is not without dividers. -/
theorem FirstDivider.infix (h : FirstDivider profile text fragment divider rest) :
    divider <:+: text :=
  ⟨fragment, rest, by rw [h.splits, List.append_assoc]⟩

/-- The dividers of a text are determined by it. -/
theorem Dividers.unique (h : Dividers profile text pairs tail)
    (h' : Dividers profile text pairs' tail') : pairs' = pairs ∧ tail' = tail := by
  induction h generalizing pairs' tail' with
  | done hnone =>
    cases h' with
    | done _ => exact ⟨rfl, rfl⟩
    | next first' _ => exact absurd first'.infix (hnone _ first'.isDivider)
  | next first _ ih =>
    cases h' with
    | done hnone => exact absurd first.infix (hnone _ first.isDivider)
    | next first' later' =>
      obtain ⟨rfl, rfl, rfl⟩ := first.unique first'
      obtain ⟨rfl, rfl⟩ := ih later'
      exact ⟨rfl, rfl⟩

/-! ### What they leave between them -/

/-- Fragments and dividers written one after the other. -/
def join (pairs : List (Text × Text)) (tail : Text) : Text :=
  pairs.flatMap (fun (fragment, divider) => fragment ++ divider) ++ tail

/-- Fragments and dividers are all of the text. -/
theorem Dividers.join_eq (h : Dividers profile text pairs tail) : join pairs tail = text := by
  induction h with
  | done _ => rfl
  | next first _ ih =>
    rw [first.splits, ← ih]
    simp [join]

/-- No sentinel is left in front of the first divider: it would be a
divider further left. -/
theorem FirstDivider.not_infix (h : FirstDivider profile text fragment divider rest)
    {markup : Text} (hmarkup : markup ∈ sentinelMarkups profile) : ¬ markup <:+: fragment := by
  rintro ⟨before, behind, rfl⟩
  have hbegin := h.leftmost before markup (behind ++ (divider ++ rest))
    (isDivider_sentinelMarkup hmarkup) (by rw [h.splits]; simp)
  have hne := List.length_pos_of_ne_nil (isDivider_sentinelMarkup hmarkup).ne_nil
  simp only [List.length_append] at hbegin
  omega

/-- No line feed is left in front of the first divider: it would belong
to it. -/
theorem FirstDivider.getLast?_ne (h : FirstDivider profile text fragment divider rest) :
    fragment.getLast? ≠ some '\n' := by
  intro hlast
  obtain ⟨before, rfl⟩ := List.getLast?_eq_some_iff.mp hlast
  have hbegin := h.leftmost before ('\n' :: divider) rest h.isDivider.cons
    (by rw [h.splits]; simp)
  simp only [List.length_append, List.length_singleton] at hbegin
  omega

/-- No fragment has a sentinel in it. -/
theorem Dividers.not_infix (h : Dividers profile text pairs tail) {fragment markup : Text}
    (hfragment : fragment ∈ pairs.map (·.1) ++ [tail])
    (hmarkup : markup ∈ sentinelMarkups profile) : ¬ markup <:+: fragment := by
  induction h with
  | done hnone =>
    rw [List.mem_singleton.mp hfragment]
    exact hnone markup (isDivider_sentinelMarkup hmarkup)
  | next first _ ih =>
    rcases List.mem_cons.mp hfragment with rfl | hlater
    · exact first.not_infix hmarkup
    · exact ih hlater

/-- No fragment in front of a divider ends with a line feed. -/
theorem Dividers.getLast?_ne (h : Dividers profile text pairs tail) {fragment : Text}
    (hfragment : fragment ∈ pairs.map (·.1)) : fragment.getLast? ≠ some '\n' := by
  induction h with
  | done _ => cases hfragment
  | next first _ ih =>
    rcases List.mem_cons.mp hfragment with rfl | hlater
    · exact first.getLast?_ne
    · exact ih hlater

end

/-! ### The walk finds them -/

/-- No sentinel begins in `front`, when `text` stands behind it. -/
def Clear (profile : Profile) (front text : Text) : Prop :=
  ∀ markup ∈ sentinelMarkups profile, ∀ before behind,
    front ++ text = before ++ (markup ++ behind) → front.length ≤ before.length

/-- Where no divider is recognized, none begins. -/
theorem Clear.step {front tail : Text} {c : Char} (h : Clear profile front (c :: tail))
    (hnone : divider? (sentinelSpans profile) (c :: tail) = none) :
    Clear profile (front ++ [c]) tail := by
  intro markup hmarkup before behind heq
  rw [List.append_assoc, List.singleton_append] at heq
  have hle := h markup hmarkup before behind heq
  rw [List.length_append, List.length_singleton]
  by_contra hlt
  have hhere : front.length = before.length := by omega
  -- Such a sentinel would begin with the character just passed, and be recognized there.
  obtain ⟨-, htail⟩ := List.append_inj heq hhere
  rw [htail, divider?_sentinelMarkup hmarkup] at hnone
  cases hnone

/-- A text that the walk has come through has no divider in it. -/
theorem Clear.not_infix {front divider : Text} (h : Clear profile front [])
    (hdivider : IsDivider profile divider) : ¬ divider <:+: front := by
  rintro ⟨before, behind, rfl⟩
  obtain ⟨feeds, markup, hmarkup, feed, -, rfl⟩ := hdivider
  have hbegin := h markup hmarkup (before ++ List.replicate feeds '\n') (feed ++ behind) (by simp)
  have hne := List.length_pos_of_ne_nil (isDivider_sentinelMarkup hmarkup).ne_nil
  simp only [List.length_append, List.length_replicate] at hbegin
  omega

/-- What is recognized is a sentinel as markup with the line feed behind
it. -/
theorem exists_of_divider? {text found rest : Text}
    (h : divider? (sentinelSpans profile) text = some (found, rest)) :
    ∃ markup ∈ sentinelMarkups profile, ∃ behind, text = markup ++ behind
      ∧ found = markup ++ (cutLineFeed behind).1 ∧ rest = (cutLineFeed behind).2 := by
  unfold divider? at h
  split at h
  · obtain ⟨span, hspan, hmap⟩ := List.exists_of_findSome?_eq_some h
    obtain ⟨behind, hbehind, hpair⟩ := Option.map_eq_some_iff.mp hmap
    obtain ⟨rfl, rfl⟩ := Prod.mk.inj hpair
    have hmarkup : '<' :: span ∈ sentinelMarkups profile := by
      rw [sentinelMarkups_eq]
      exact List.mem_map_of_mem hspan
    exact ⟨_, hmarkup, behind, by rw [Text.after?_eq_some_iff.mp hbehind]; rfl, rfl, rfl⟩
  · cases h

/-- The line feeds at the end of what the walk has passed go to the
divider. -/
theorem exists_closeFragment (seen span : Text) :
    ∃ fragment feeds, closeFragment seen span = (fragment, List.replicate feeds '\n' ++ span)
      ∧ seen.reverse = fragment ++ List.replicate feeds '\n'
      ∧ fragment.getLast? ≠ some '\n' := by
  have hfeeds : (seen.takeWhile (· = '\n')).reverse
      = List.replicate (seen.takeWhile (· = '\n')).length '\n' := by
    rw [List.reverse_eq_iff, List.reverse_replicate, List.eq_replicate_iff]
    exact ⟨rfl, fun c hc => by simpa using List.mem_takeWhile_imp hc⟩
  refine ⟨(seen.dropWhile (· = '\n')).reverse, (seen.takeWhile (· = '\n')).length, ?_, ?_, ?_⟩
  · rw [closeFragment, hfeeds]
  · rw [← hfeeds, ← List.reverse_append, List.takeWhile_append_dropWhile]
  · rw [List.getLast?_reverse]
    intro hhead
    have hnot := List.head?_dropWhile_not (fun c : Char => decide (c = '\n')) seen
    rw [hhead] at hnot
    simp at hnot

/-- A line feed in front is one that is cut off. -/
theorem length_le_cutLineFeed {feed : Text} (h : feed ∈ ([[], ['\n']] : List Text))
    (behind : Text) : feed.length ≤ (cutLineFeed (feed ++ behind)).1.length := by
  rcases List.mem_pair.mp h with rfl | rfl
  · exact Nat.zero_le _
  · exact Nat.le_refl _

/-- Line feeds in front of something else are counted in one way. -/
theorem replicate_append_inj {m n : Nat} {front back : Text}
    (hfront : front.head? ≠ some '\n') (hback : back.head? ≠ some '\n')
    (h : List.replicate m '\n' ++ front = List.replicate n '\n' ++ back) :
    m = n ∧ front = back := by
  induction m generalizing n with
  | zero =>
    cases n with
    | zero => exact ⟨rfl, h⟩
    | succ n =>
      rw [List.replicate_zero, List.nil_append] at h
      exact absurd (by rw [h]; rfl) hfront
  | succ m ih =>
    cases n with
    | zero =>
      rw [List.replicate_zero, List.nil_append] at h
      exact absurd (by rw [← h]; rfl) hback
    | succ n =>
      obtain ⟨rfl, heq⟩ := ih (List.cons.inj h).2
      exact ⟨rfl, heq⟩

/-- The first sentinel that the walk meets is in the first divider. -/
theorem firstDivider_of_clear {fragment markup behind : Text} {feeds : Nat}
    (hclear : Clear profile (fragment ++ List.replicate feeds '\n') (markup ++ behind))
    (hlast : fragment.getLast? ≠ some '\n') (hmarkup : markup ∈ sentinelMarkups profile) :
    FirstDivider profile (fragment ++ List.replicate feeds '\n' ++ (markup ++ behind)) fragment
      (List.replicate feeds '\n' ++ (markup ++ (cutLineFeed behind).1))
      (cutLineFeed behind).2 := by
  have hhead : ∀ span ∈ sentinelMarkups profile, ∀ text,
      (span ++ text).head? ≠ some '\n' := by
    intro span hspan text
    obtain ⟨rest, rfl⟩ := exists_sentinelMarkup_eq_cons hspan
    simp
  refine ⟨?splits, ?isDivider, ?leftmost, ?longest⟩
  case splits =>
    simp only [List.append_assoc, cutLineFeed_append]
  case isDivider =>
    refine ⟨feeds, markup, hmarkup, (cutLineFeed behind).1, ?_, rfl⟩
    unfold cutLineFeed
    split <;> simp
  case leftmost =>
    rintro before other rest ⟨feeds', markup', hmarkup', feed', -, rfl⟩ heq
    -- The sentinel of the other divider does not begin before this one.
    have hsentinel := hclear markup' hmarkup' (before ++ List.replicate feeds' '\n')
      (feed' ++ rest) (by rw [heq]; simp)
    simp only [List.length_append, List.length_replicate] at hsentinel
    by_contra hlt
    -- So its line feeds would reach over the end of the fragment, which is none.
    have hend : (fragment ++ List.replicate feeds '\n' ++ (markup ++ behind))[fragment.length - 1]?
        = some '\n' := by
      rw [heq, List.getElem?_append_right (by omega), List.append_assoc,
        List.getElem?_append_left (by rw [List.length_replicate]; omega),
        List.getElem?_replicate, if_pos (by omega)]
    rw [List.append_assoc, List.getElem?_append_left (by omega), ← List.getLast?_eq_getElem?]
      at hend
    exact hlast hend
  case longest =>
    rintro other rest ⟨feeds', markup', hmarkup', feed', hfeed', rfl⟩ heq
    rw [List.append_assoc, List.append_right_inj, List.append_assoc, List.append_assoc] at heq
    obtain ⟨rfl, hsame⟩ := replicate_append_inj (hhead _ hmarkup _) (hhead _ hmarkup' _) heq
    -- At the same place the same sentinel is recognized, with the line feed behind it.
    have hfound := divider?_sentinelMarkup hmarkup behind
    rw [hsame, divider?_sentinelMarkup hmarkup' (feed' ++ rest), Option.some.injEq,
      Prod.mk.injEq] at hfound
    have hlonger := length_le_cutLineFeed hfeed' rest
    rw [← hfound.1]
    simp only [List.length_append]
    omega

/-- The walk from where no sentinel has begun finds the dividers. The
induction is that of the walk; `done` stays in front throughout. -/
theorem exists_dividers_cutOnto (done : List (Text × Text)) (seen text : Text)
    (h : Clear profile seen.reverse text) :
    ∃ pairs tail, cutOnto (sentinelSpans profile) done seen text = (done.reverse ++ pairs, tail)
      ∧ Dividers profile (seen.reverse ++ text) pairs tail := by
  fun_induction cutOnto (sentinelSpans profile) done seen text with
  | case1 done seen =>
    refine ⟨[], seen.reverse, by rw [List.append_nil], ?_⟩
    rw [List.append_nil]
    exact .done fun divider hdivider => h.not_infix hdivider
  | case2 done seen c tail hnone ih =>
    have hstep := h.step hnone
    rw [← List.reverse_cons] at hstep
    obtain ⟨pairs, rest, hcut, hdividers⟩ := ih hstep
    refine ⟨pairs, rest, hcut, ?_⟩
    rwa [List.reverse_cons, List.append_assoc] at hdividers
  | case3 done seen c tail found rest hsome _ ih =>
    obtain ⟨pairs, tail', hcut, hdividers⟩ := ih (fun _ _ _ _ _ => Nat.zero_le _)
    obtain ⟨markup, hmarkup, behind, htext, rfl, rfl⟩ := exists_of_divider? hsome
    obtain ⟨fragment, feeds, hclose, hseen, hlast⟩ :=
      exists_closeFragment seen (markup ++ (cutLineFeed behind).1)
    rw [hseen, htext] at h
    refine ⟨closeFragment seen (markup ++ (cutLineFeed behind).1) :: pairs, tail', ?_, ?_⟩
    · rw [hcut, List.reverse_cons, List.append_assoc, List.singleton_append]
    · rw [hclose, hseen, htext]
      exact .next (firstDivider_of_clear h hlast hmarkup) hdividers

/-- **Cutting finds the dividers**: from left to right, each as far left
and as long as it can be. -/
theorem dividers_iff {text tail : Text} {pairs : List (Text × Text)} :
    Dividers profile text pairs tail ↔ cut profile text = (pairs, tail) := by
  obtain ⟨pairs', tail', hcut, hdividers⟩ :=
    exists_dividers_cutOnto [] [] text (fun _ _ _ _ _ => Nat.zero_le _)
  have hfound : cut profile text = (pairs', tail') := hcut
  rw [hfound]
  constructor
  · intro h
    obtain ⟨rfl, rfl⟩ := h.unique hdividers
    rfl
  · intro h
    obtain ⟨rfl, rfl⟩ := Prod.mk.inj h
    exact hdividers

/-! ### The fragments of the sections -/

/-- Fragments and dividers in turn, with a fragment first. -/
def interleave : (fragments dividers : List Text) → Text
  | fragment :: fragments, divider :: dividers =>
    fragment ++ divider ++ interleave fragments dividers
  | fragments, [] => fragments.flatten
  | [], dividers => dividers.flatten

/-- Fragments that were cut out of `body` at its dividers, where `rest`
is what stood behind the last:

- `kept`: they are all there is in `body` besides the dividers, or they
  lack a blank rest;
- `noSentinel`: no sentinel is left in one of them;
- `noLineFeed`: no line feed is left in front of a divider. -/
structure CutFrom (profile : Profile) (body : Text) (dividers : List Text) (rest : Text)
    (found : List Text) : Prop where
  kept : (found.length = dividers.length + 1 ∧ interleave found dividers = body) ∨
    (found.length = dividers.length ∧ rest.allBlank = true ∧
      interleave found dividers ++ rest = body)
  noSentinel : ∀ fragment ∈ found, ∀ markup ∈ sentinelMarkups profile, ¬ markup <:+: fragment
  noLineFeed : ∀ fragment ∈ found.take dividers.length, fragment.getLast? ≠ some '\n'

variable {markup tail : Text} {pairs : List (Text × Text)}

/-- As many fragments as dividers, and the rest. -/
theorem interleave_append (pairs : List (Text × Text)) (tail : Text) :
    interleave (pairs.map (·.1)) (pairs.map (·.2)) ++ tail = join pairs tail := by
  induction pairs with
  | nil => simp [interleave, join]
  | cons pair pairs ih =>
    have hjoin : join (pair :: pairs) tail = pair.1 ++ pair.2 ++ join pairs tail := by
      simp [join]
    rw [hjoin, ← ih, List.map_cons, List.map_cons, interleave, List.append_assoc]

/-- One fragment more than dividers. -/
theorem interleave_concat (pairs : List (Text × Text)) (tail : Text) :
    interleave (pairs.map (·.1) ++ [tail]) (pairs.map (·.2)) = join pairs tail := by
  induction pairs with
  | nil => simp [interleave, join]
  | cons pair pairs ih =>
    have hjoin : join (pair :: pairs) tail = pair.1 ++ pair.2 ++ join pairs tail := by
      simp [join]
    rw [hjoin, ← ih, List.map_cons, List.map_cons, List.cons_append, interleave]

/-- The fragments of `n` sections, in terms of the dividers. -/
theorem fragments_eq (h : Dividers profile (unwrap markup) pairs tail) (n : Nat) :
    fragments profile markup n
      = if n = pairs.length + 1 then .ok (pairs.map (·.1) ++ [tail])
        else if n = pairs.length ∧ tail.allBlank = true then .ok (pairs.map (·.1))
        else .error (.mismatch n (pairs.length + 1)) := by
  have hparts : parts profile (unwrap markup) = pairs.map (·.1) ++ [tail] := by
    rw [parts, dividers_iff.mp h]
  split
  · rename_i hopen
    exact fragments_of_open hparts (by rw [List.length_map, hopen])
  · rename_i hopen
    split
    · rename_i hclosed
      exact fragments_of_closed hparts (by rw [List.length_map, hclosed.1]) hclosed.2
    · rename_i hclosed
      by_cases hcount : n = pairs.length
      · -- The number fits, but there is something in the rest.
        have hblank : tail.allBlank = false := by simpa [hcount] using hclosed
        simp [fragments, dropBlankRest, hparts, hcount, hblank]
      · have hmismatch := fragments_of_ne hparts (by rw [List.length_map]; exact Ne.symm hcount)
          (by rw [List.length_map]; exact Ne.symm hopen)
        rwa [List.length_map] at hmismatch

/-- Fragments that are all there is. -/
theorem cutFrom_concat {body : Text} (h : Dividers profile body pairs tail) :
    CutFrom profile body (pairs.map (·.2)) tail (pairs.map (·.1) ++ [tail]) where
  kept := Or.inl ⟨by simp, by rw [interleave_concat, h.join_eq]⟩
  noSentinel _ hfragment _ hmarkup := h.not_infix hfragment hmarkup
  noLineFeed fragment hfragment := by
    rw [List.take_append_of_le_length (by simp), List.take_of_length_le (by simp)] at hfragment
    exact h.getLast?_ne hfragment

/-- Fragments that lack a blank rest. -/
theorem cutFrom_of_allBlank {body : Text} (h : Dividers profile body pairs tail)
    (hblank : tail.allBlank = true) :
    CutFrom profile body (pairs.map (·.2)) tail (pairs.map (·.1)) where
  kept := Or.inr ⟨by simp, hblank, by rw [interleave_append, h.join_eq]⟩
  noSentinel _ hfragment _ hmarkup := h.not_infix (List.mem_append_left _ hfragment) hmarkup
  noLineFeed _ hfragment := h.getLast?_ne (List.mem_of_mem_take hfragment)

/-- **No markup is lost, and the count is exact.** The markup inside the
wrapper has its dividers, `m` of them.

- If there are fragments, there is one for each of the `n` sections. In
  turn with the dividers they are the markup again, up to a blank rest
  behind the last divider. No sentinel is left in them, and no line feed
  in front of a divider.
- If there are none, the mismatch tells `n` and `m + 1`. These differ,
  and it is not so that `m = n` with a blank rest. -/
theorem fragments_lossless (profile : Profile) (markup : Text) (n : Nat) :
    ∃ pairs tail, Dividers profile (unwrap markup) pairs tail ∧
      (∀ pairs' tail', Dividers profile (unwrap markup) pairs' tail' →
        pairs' = pairs ∧ tail' = tail) ∧
      match fragments profile markup n with
      | .ok found => found.length = n ∧
          CutFrom profile (unwrap markup) (pairs.map (·.2)) tail found
      | .error error => error = .mismatch n (pairs.length + 1) ∧ n ≠ pairs.length + 1 ∧
          ¬(pairs.length = n ∧ tail.allBlank = true) := by
  obtain ⟨pairs, tail, hdividers⟩ :
      ∃ pairs tail, Dividers profile (unwrap markup) pairs tail :=
    ⟨_, _, dividers_iff.mpr rfl⟩
  refine ⟨pairs, tail, hdividers, fun _ _ h => hdividers.unique h, ?_⟩
  rw [fragments_eq hdividers]
  split
  · rename_i found hfound
    split at hfound
    · rename_i hopen
      cases hfound
      exact ⟨by simp [hopen], cutFrom_concat hdividers⟩
    · split at hfound
      · rename_i hclosed
        cases hfound
        exact ⟨by simp [hclosed.1], cutFrom_of_allBlank hdividers hclosed.2⟩
      · cases hfound
  · rename_i error herror
    split at herror
    · cases herror
    · rename_i hopen
      split at herror
      · cases herror
      · rename_i hclosed
        cases herror
        exact ⟨rfl, hopen, fun h => hclosed ⟨h.1.symm, h.2⟩⟩

-- Of three line feeds between two sentinels one goes to the first; the third sentinel has no span.
example :
    let span : Text := "<span class=\"c1\">#DIVIDER</span>"
    let pairs : List (Text × Text) := [("a", "\n\n" ++ span ++ ['\n']), ("", "\n\n" ++ span)]
    cut ⟨"python", ["#"], by decide, by decide, by decide⟩
        ("a\n\n" ++ span ++ "\n\n\n" ++ span ++ "#DIVIDER\n")
      = (pairs, ("#DIVIDER\n" : Text)) := by
  decide +kernel

end Marginalia.Highlight
