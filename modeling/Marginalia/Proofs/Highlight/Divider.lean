import Marginalia.Highlight.Divider
import Marginalia.Proofs.Text.Escape
import Marginalia.Proofs.Text.Lines
import Marginalia.Proofs.Text.Prefix
import Mathlib.Data.List.DropRight

/-!
# `Marginalia.Proofs.Highlight.Divider`: cutting markup line by line

`cut` walks over the markup with two accumulators. This file turns that
walk into equations for the fragments alone, and then into one equation
for markup that is made of lines:

* `partsAfter_of_divider?` and `partsAfter_of_not_divider?`: one step of
  the walk, as an equation for the fragments.
* `divider?_sentinelMarkup`: a divider is recognized where a sentinel
  stands as markup.
* `divider?_eq_none`: and nowhere else.
* `parts_groups`: markup that consists of groups of plain lines, each
  group followed by a line that is a sentinel, falls into the groups.
  Each fragment is the text of its group without the line feeds at its
  end; the lines behind the last sentinel stay as they are.

A line is plain when no sentinel stands in it as markup. The spans have
no line feed in them as long as the comment symbol has none
(`not_mem_sentinelMarkup`), so a span lies within one line. That is what
lets the walk be followed line by line.
-/

set_option autoImplicit false

namespace Marginalia.Highlight

open Marginalia.Language (Profile)

/-! ### The sentinel as markup -/

/-- The sentinel as a highlighter writes it: escaped, in a span of the
class `kind`. -/
def sentinelMarkup (profile : Profile) (kind : Text) : Text :=
  '<' :: ("span class=\"" ++ kind ++ "\">" ++ Text.escape profile.sentinel ++ "</span>")

/-- The ways in which a sentinel comes back as a comment. -/
def sentinelMarkups (profile : Profile) : List Text :=
  [sentinelMarkup profile "c1", sentinelMarkup profile "c"]

/-- Escaping leaves the marker behind the comment symbol as it is. -/
theorem escape_sentinel (profile : Profile) :
    Text.escape profile.sentinel = Text.escape profile.firstSymbol ++ Profile.marker := by
  rw [Profile.sentinel, Text.escape, List.flatMap_append]
  rfl

/-- The markup of a sentinel is one of the spans that are looked for,
with the `<` in front that these leave out. -/
theorem sentinelMarkups_eq (profile : Profile) :
    sentinelMarkups profile = (sentinelSpans profile).map ('<' :: ·) := by
  simp [sentinelMarkups, sentinelMarkup, sentinelSpans, escape_sentinel]

/-- The sentinel is on one line when the comment symbol is. -/
theorem not_mem_sentinel {profile : Profile} (h : '\n' ∉ profile.firstSymbol) :
    '\n' ∉ profile.sentinel := by
  have hmarker : '\n' ∉ Profile.marker := by decide
  simp [Profile.sentinel, h, hmarker]

/-- A sentinel is no empty line. -/
theorem sentinel_ne_nil (profile : Profile) : profile.sentinel ≠ [] := by
  have hmarker : Profile.marker ≠ [] := by decide
  rw [Profile.sentinel]
  exact List.append_ne_nil_of_right_ne_nil _ hmarker

/-- The markup of a sentinel is on one line when the comment symbol
is. -/
theorem not_mem_sentinelMarkup {profile : Profile} (h : '\n' ∉ profile.firstSymbol)
    {markup : Text} (hmarkup : markup ∈ sentinelMarkups profile) : '\n' ∉ markup := by
  have hescape := Text.lineFeed_not_mem_escape (not_mem_sentinel h)
  rcases List.mem_pair.mp hmarkup with rfl | rfl <;> simp [sentinelMarkup, hescape]

/-! ### Where a divider is recognized -/

/-- Where a sentinel stands as markup, it is recognized with the line feed
behind it. -/
theorem divider?_sentinelMarkup {profile : Profile} {markup : Text}
    (h : markup ∈ sentinelMarkups profile) (rest : Text) :
    divider? (sentinelSpans profile) (markup ++ rest)
      = some (markup ++ (cutLineFeed rest).1, (cutLineFeed rest).2) := by
  rw [sentinelMarkups_eq] at h
  -- The two spans differ in their class, so the second is only tried where it stands.
  rcases List.mem_pair.mp h with rfl | rfl
  · simp only [List.cons_append, divider?, sentinelSpans, List.findSome?_cons, Text.after?_append]
    rfl
  · have hclass : ∀ comment : Text, Text.after? ("span class=\"c1\">" ++ comment)
        ("span class=\"c\">" ++ comment ++ rest) = none := fun _ => rfl
    simp only [List.cons_append, divider?, sentinelSpans, List.findSome?_cons, hclass,
      Text.after?_append]
    rfl

/-- Where no sentinel stands as markup, none is recognized. -/
theorem divider?_eq_none {profile : Profile} {text : Text}
    (h : ∀ markup ∈ sentinelMarkups profile, ¬ markup <+: text) :
    divider? (sentinelSpans profile) text = none := by
  unfold divider?
  split
  · rename_i text
    rw [List.findSome?_eq_none_iff]
    intro span hspan
    rw [Option.map_eq_none_iff, Option.eq_none_iff_forall_not_mem]
    intro rest hrest
    have hmem : '<' :: span ∈ sentinelMarkups profile := by
      rw [sentinelMarkups_eq]
      exact List.mem_map_of_mem hspan
    exact h _ hmem ⟨rest, by rw [Text.after?_eq_some_iff.mp hrest, List.cons_append]⟩
  · rfl

/-! ### The fragments of the walk -/

/-- Where no divider stands, the walk goes on by one character. -/
theorem cutOnto_of_not_divider? {spans : List Text} {c : Char} {tail : Text}
    (h : divider? spans (c :: tail) = none) (done : List (Text × Text)) (seen : Text) :
    cutOnto spans done seen (c :: tail) = cutOnto spans done (c :: seen) tail := by
  rw [cutOnto]
  split
  · rfl
  · rename_i hsome
    rw [h] at hsome
    cases hsome

/-- A divider closes the fragment in front of it. -/
theorem cutOnto_of_divider? {spans : List Text} {text found rest : Text}
    (h : divider? spans text = some (found, rest)) (done : List (Text × Text)) (seen : Text) :
    cutOnto spans done seen text = cutOnto spans (closeFragment seen found :: done) [] rest := by
  cases text with
  | nil => cases h
  | cons c tail =>
    rw [cutOnto]
    split
    · rename_i hnone
      rw [h] at hnone
      cases hnone
    · rename_i hsome
      rw [h] at hsome
      cases hsome
      rfl

/-- What was cut off before the walk began stays in front. -/
theorem cutOnto_append (spans : List Text) (done earlier : List (Text × Text))
    (seen text : Text) :
    cutOnto spans (done ++ earlier) seen text
      = (earlier.reverse ++ (cutOnto spans done seen text).1,
        (cutOnto spans done seen text).2) := by
  fun_induction cutOnto spans done seen text with
  | case1 done seen => simp [cutOnto]
  | case2 done seen c tail hnone ih => rw [cutOnto_of_not_divider? hnone, ih]
  | case3 done seen c tail found rest hsome _ ih =>
    rw [cutOnto_of_divider? hsome, ← List.cons_append, ih]

/-- The fragments of `front ++ text`, where `front` holds no divider and
none begins in it. -/
def partsAfter (profile : Profile) (front text : Text) : List Text :=
  let (pairs, tail) := cutOnto (sentinelSpans profile) [] front.reverse text
  pairs.map (·.1) ++ [tail]

/-- The fragments of a text are those of the walk from its beginning. -/
theorem parts_eq_partsAfter (profile : Profile) (text : Text) :
    parts profile text = partsAfter profile [] text :=
  rfl

/-- Where nothing follows, what stands in front is the only fragment. -/
theorem partsAfter_nil (profile : Profile) (front : Text) :
    partsAfter profile front [] = [front] := by
  simp [partsAfter, cutOnto]

/-- Where no divider stands, the walk goes on by one character. -/
theorem partsAfter_of_not_divider? {profile : Profile} {c : Char} {tail : Text}
    (h : divider? (sentinelSpans profile) (c :: tail) = none) (front : Text) :
    partsAfter profile front (c :: tail) = partsAfter profile (front ++ [c]) tail := by
  simp only [partsAfter, cutOnto_of_not_divider? h, List.reverse_append, List.reverse_singleton,
    List.singleton_append]

/-- A divider closes the fragment in front of it, whose last line feeds it
takes along. -/
theorem partsAfter_of_divider? {profile : Profile} {text found rest : Text}
    (h : divider? (sentinelSpans profile) text = some (found, rest)) (front : Text) :
    partsAfter profile front text
      = front.rdropWhile (· = '\n') :: partsAfter profile [] rest := by
  have hwalk :=
    cutOnto_append (sentinelSpans profile) [] [closeFragment front.reverse found] [] rest
  simp only [partsAfter, cutOnto_of_divider? h, List.reverse_nil]
  rw [List.nil_append] at hwalk
  rw [hwalk]
  rfl

/-! ### Lines -/

/-- A text without a line feed in which no sentinel stands as markup. -/
structure PlainLine (profile : Profile) (line : Text) : Prop where
  oneLine : '\n' ∉ line
  noSentinel : ∀ markup ∈ sentinelMarkups profile, ¬ markup <:+: line

/-- A span that begins in a line ends in it, when the line ends there or
a line feed follows. -/
theorem prefix_of_prefix_append {markup text rest : Text} (hmarkup : '\n' ∉ markup)
    (hrest : rest = [] ∨ ∃ behind, rest = '\n' :: behind) (h : markup <+: text ++ rest) :
    markup <+: text := by
  rcases Text.prefix_append_or h with hin | ⟨spill, rfl, hspill⟩
  · exact hin
  · cases spill with
    | nil => simp
    | cons c spill =>
      rcases hrest with rfl | ⟨behind, rfl⟩
      · cases List.prefix_nil.mp hspill
      · obtain ⟨rfl, -⟩ := List.cons_prefix_cons.mp hspill
        exact absurd (by simp) hmarkup

/-- The walk goes over a plain line without a cut. -/
theorem partsAfter_plainLine {profile : Profile} (hsymbol : '\n' ∉ profile.firstSymbol)
    {line rest : Text} (hline : PlainLine profile line)
    (hrest : rest = [] ∨ ∃ behind, rest = '\n' :: behind) (front : Text) :
    partsAfter profile front (line ++ rest) = partsAfter profile (front ++ line) rest := by
  obtain ⟨-, hnone⟩ := hline
  induction line generalizing front with
  | nil => rw [List.nil_append, List.append_nil]
  | cons c line ih =>
    have hhere : divider? (sentinelSpans profile) (c :: (line ++ rest)) = none := by
      apply divider?_eq_none
      intro markup hmarkup hprefix
      -- A span that begins here cannot reach over the line feed, so it lies in the line.
      have hin : markup <+: c :: line :=
        prefix_of_prefix_append (not_mem_sentinelMarkup hsymbol hmarkup) hrest hprefix
      exact hnone markup hmarkup hin.isInfix
    have hlater : ∀ markup ∈ sentinelMarkups profile, ¬ markup <:+: line :=
      fun markup hmarkup hin => hnone markup hmarkup (List.infix_cons hin)
    rw [List.cons_append, partsAfter_of_not_divider? hhere, ih _ hlater, List.append_assoc]
    rfl

/-- The walk goes over plain lines without a cut. -/
theorem partsAfter_unlines {profile : Profile} (hsymbol : '\n' ∉ profile.firstSymbol)
    {lines : List Text} (hlines : ∀ line ∈ lines, PlainLine profile line) (front rest : Text) :
    partsAfter profile front (Text.unlines lines ++ rest)
      = partsAfter profile (front ++ Text.unlines lines) rest := by
  induction lines generalizing front with
  | nil => simp [Text.unlines]
  | cons line lines ih =>
    have hcons : Text.unlines (line :: lines) = line ++ '\n' :: Text.unlines lines := by
      simp [Text.unlines]
    -- No span begins with a line feed.
    have hfeed : divider? (sentinelSpans profile) ('\n' :: (Text.unlines lines ++ rest)) = none :=
      rfl
    rw [hcons, List.append_assoc, List.cons_append,
      partsAfter_plainLine hsymbol (hlines line List.mem_cons_self) (Or.inr ⟨_, rfl⟩),
      partsAfter_of_not_divider? hfeed, ih (fun l hl => hlines l (List.mem_cons_of_mem _ hl))]
    simp

/-- A sentinel on a line of its own closes the fragment in front of it,
and the line feed behind it is gone. -/
theorem partsAfter_sentinelMarkup {profile : Profile} {markup : Text}
    (h : markup ∈ sentinelMarkups profile) (front rest : Text) :
    partsAfter profile front (markup ++ '\n' :: rest)
      = front.rdropWhile (· = '\n') :: partsAfter profile [] rest :=
  partsAfter_of_divider? (divider?_sentinelMarkup h ('\n' :: rest)) front

/-- Lines with a sentinel behind them, as markup. -/
structure Group where
  lines : List Text
  markup : Text

/-- The text of a group, with the line feed that ends its last line. -/
def Group.text (group : Group) : Text :=
  Text.unlines group.lines ++ group.markup ++ ['\n']

/-- The fragment that a group leaves. -/
def Group.fragment (group : Group) : Text :=
  (Text.joinWith ['\n'] group.lines).rdropWhile (· = '\n')

/-- The line feeds at the end of a group's lines do not count. -/
theorem Group.rdropWhile_unlines (group : Group) :
    (Text.unlines group.lines).rdropWhile (· = '\n') = group.fragment := by
  rcases hlines : group.lines with _ | ⟨line, lines⟩
  · simp [Group.fragment, hlines, Text.unlines, Text.joinWith]
  · rw [Text.unlines_eq_joinWith _ (List.cons_ne_nil _ _),
      List.rdropWhile_concat_pos _ _ _ (by simp), Group.fragment, hlines]

/-- A group whose lines are plain and whose markup is a sentinel. -/
structure Group.WellFormed (profile : Profile) (group : Group) : Prop where
  plain : ∀ line ∈ group.lines, PlainLine profile line
  closed : group.markup ∈ sentinelMarkups profile

/-- Groups of plain lines, each closed by a sentinel, fall apart into
their fragments; the lines behind the last sentinel stay as they are. -/
theorem parts_groups {profile : Profile} (hsymbol : '\n' ∉ profile.firstSymbol)
    {groups : List Group} (hgroups : ∀ group ∈ groups, group.WellFormed profile)
    {rest : List Text} (hrest : ∀ line ∈ rest, PlainLine profile line) :
    parts profile (groups.flatMap Group.text ++ Text.unlines rest)
      = groups.map Group.fragment ++ [Text.unlines rest] := by
  rw [parts_eq_partsAfter]
  induction groups with
  | nil =>
    have hwalk := partsAfter_unlines hsymbol hrest [] []
    rwa [List.append_nil, List.nil_append, partsAfter_nil] at hwalk
  | cons group groups ih =>
    obtain ⟨hplain, hclosed⟩ := hgroups group List.mem_cons_self
    -- The walk passes the lines of the first group, is cut at its sentinel, and begins anew.
    have htext : (group :: groups).flatMap Group.text ++ Text.unlines rest
        = Text.unlines group.lines ++ (group.markup
          ++ '\n' :: (groups.flatMap Group.text ++ Text.unlines rest)) := by
      simp [Group.text]
    rw [htext, partsAfter_unlines hsymbol hplain, List.nil_append,
      partsAfter_sentinelMarkup hclosed, group.rdropWhile_unlines,
      ih (fun g hg => hgroups g (List.mem_cons_of_mem _ hg))]
    rfl

end Marginalia.Highlight
