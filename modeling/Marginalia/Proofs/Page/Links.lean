import Marginalia.Page.Basic
import Marginalia.Proofs.Text.Escape
import Marginalia.Proofs.Text.Lines

/-!
# `Marginalia.Proofs.Page.Links`: the links of a page

A reader of a page takes it for a row of tags: what stands behind each `<`
up to the next one. The jump menu is what lies between the element with its
name and the next element that ends, and its links are the attribute values
of the anchors there. `links` reads a page this way and knows nothing of
how pages are laid out.

`links_render` says what it finds: one link for each source, in order. The
title, the names and the style sheet cannot get in its way, since no tag
begins in them.
-/

set_option autoImplicit false

namespace Marginalia.Page

open Text (escape escapeQuoted splitOn)

/-! ### Reading a page -/

/-- The tags of a page, each with the text behind it. What comes first is
no tag. -/
def tags (page : Text) : List Text :=
  splitOn '<' page

theorem tags_append_cons (front behind : Text) :
    tags (front ++ '<' :: behind) = tags front ++ tags behind :=
  Text.splitOn_append_cons '<' front behind

/-- A tag ends where the next one begins. -/
theorem tags_cons {tag : Text} (h : '<' ∉ tag) (behind : Text) :
    tags (tag ++ '<' :: behind) = tag :: tags behind := by
  rw [tags_append_cons, tags, Text.splitOn_of_not_mem h]
  rfl

/-- The tag that begins the list of links. -/
def menuTag : Text := "div id=\"jump_page\">"

/-- The tags of the list of links. -/
def menu (page : Text) : List Text :=
  ((tags page).dropWhile fun tag => !Text.begins menuTag tag).tail.takeWhile
    fun tag => !Text.begins "/div>" tag

/-- Where an anchor leads, as it is written. -/
def href? (tag : Text) : Option Text :=
  (Text.after? "a class=\"source\" href=\"" tag).map (·.takeWhile (· ≠ '"'))

/-- Where the links of a page lead, as it is written. -/
def links (page : Text) : List Text :=
  (menu page).filterMap href?

/-! ### The list of links -/

/-- The anchor of a source, without its `<`. -/
def anchor (name : Text) : Text :=
  "a class=\"source\" href=\"".toList ++ escapeQuoted name ++ ".html\">".toList ++ escape name

theorem lt_not_mem_anchor (name : Text) : '<' ∉ anchor name := by
  unfold anchor
  simp only [List.mem_append, not_or]
  exact ⟨⟨⟨by decide, Text.lt_not_mem_escapeQuoted name⟩, by decide⟩, Text.lt_not_mem_escape name⟩

/-- An anchor leads to the page of its source. -/
theorem href?_anchor (name : Text) : href? (anchor name) = some (escapeQuoted name ++ ".html") := by
  have hvalue : ∀ c ∈ escapeQuoted name ++ (".html" : Text), decide (c ≠ '"') = true := by
    intro c hc
    rw [decide_eq_true_iff]
    rintro rfl
    rcases List.mem_append.mp hc with hc | hc
    · exact Text.quote_not_mem_escapeQuoted name hc
    · exact absurd hc (by decide)
  have hanchor : anchor name = ("a class=\"source\" href=\"" : Text)
      ++ ((escapeQuoted name ++ (".html" : Text)) ++ '"' :: '>' :: escape name) := by
    unfold anchor
    simp only [List.append_assoc]
    rfl
  rw [href?, hanchor, Text.after?_append, Option.map_some, List.takeWhile_append_of_pos hvalue]
  simp

theorem jumpLink_eq (name : Text) :
    jumpLink name = ("        " : Text) ++ '<' :: (anchor name ++ '<' :: ("/a>\n" : Text)) := by
  unfold jumpLink line anchor
  simp only [List.append_assoc]
  rfl

/-- An anchor, or the tag that ends one. -/
def IsLinkTag (tag : Text) : Prop :=
  (∃ name, tag = anchor name) ∨ ∃ blanks, tag = "/a>\n".toList ++ blanks

/-- The tags of some links, with a text in front and another tag behind
them: the anchors, and the tags that end them. -/
theorem tags_links {front : Text} (hfront : '<' ∉ front) (sources : List Text) (behind : Text) :
    ∃ blanks found,
      tags (front ++ (sources.flatMap jumpLink ++ (("      " : Text) ++ '<' :: behind)))
          = (front ++ blanks) :: (found ++ tags behind)
        ∧ (∀ tag ∈ found, IsLinkTag tag)
        ∧ found.filterMap href? = sources.map fun name => escapeQuoted name ++ ".html" := by
  induction sources generalizing front with
  | nil =>
    refine ⟨"      ", [], ?_, fun tag htag => absurd htag List.not_mem_nil, rfl⟩
    have hblank : '<' ∉ front ++ ("      " : Text) := by
      rw [List.mem_append, not_or]
      exact ⟨hfront, by decide⟩
    rw [List.flatMap_nil, List.nil_append, ← List.append_assoc, tags_cons hblank]
    rfl
  | cons name sources ih =>
    -- What is left behind the anchor is the end of it and the other links.
    obtain ⟨blanks, found, htags, hfound, hlinks⟩ := @ih "/a>\n" (by decide)
    refine ⟨"        ", anchor name :: (("/a>\n" : Text) ++ blanks) :: found, ?_, ?_, ?_⟩
    · have hblank : '<' ∉ front ++ ("        " : Text) := by
        rw [List.mem_append, not_or]
        exact ⟨hfront, by decide⟩
      have hsplit : front ++ ((name :: sources).flatMap jumpLink
            ++ (("      " : Text) ++ '<' :: behind))
          = (front ++ ("        " : Text)) ++ '<' :: (anchor name ++ '<' :: (("/a>\n" : Text)
              ++ (sources.flatMap jumpLink ++ (("      " : Text) ++ '<' :: behind)))) := by
        rw [List.flatMap_cons, jumpLink_eq]
        simp only [List.append_assoc, List.cons_append]
      rw [hsplit, tags_cons hblank, tags_cons (lt_not_mem_anchor name), htags]
      rfl
    · intro tag htag
      rcases List.mem_cons.mp htag with rfl | htag
      · exact .inl ⟨name, rfl⟩
      rcases List.mem_cons.mp htag with rfl | htag
      · exact .inr ⟨blanks, rfl⟩
      · exact hfound tag htag
    · rw [List.filterMap_cons_some (href?_anchor name), List.filterMap_cons_none rfl, hlinks,
        List.map_cons]

/-! ### The style sheet -/

/-- A literal has no characters but those it is written with. -/
theorem not_mem_toList {s : String} {c : Char} {written : List Char}
    (hs : s = String.ofList written) (h : c ∉ written) : c ∉ s.toList := by
  subst hs
  rw [String.toList_ofList]
  exact h

/-- What is joined has no characters but those of the parts and of what
stands between them. -/
theorem not_mem_joinWith {c : Char} {between : Text} {parts : List Text} (hbetween : c ∉ between)
    (hparts : ∀ part ∈ parts, c ∉ part) : c ∉ Text.joinWith between parts := by
  cases parts with
  | nil => exact List.not_mem_nil
  | cons first rest =>
    rw [Text.joinWith, List.mem_append, List.mem_flatMap]
    rintro (hfirst | ⟨part, hpart, hc⟩)
    · exact hparts first List.mem_cons_self hfirst
    · rcases List.mem_append.mp hc with hc | hc
      · exact hbetween hc
      · exact hparts part (List.mem_cons_of_mem first hpart) hc

/-- No tag begins in a rule of the style sheet. -/
def StyleRule.Plain (rule : StyleRule) : Prop :=
  '<' ∉ rule.selector ∧ ∀ declaration ∈ rule.declarations, '<' ∉ declaration

theorem plain_layoutRules : ∀ rule ∈ layoutRules, rule.Plain := by
  simp only [StyleRule.Plain, layoutRules, List.forall_mem_cons, List.not_mem_nil,
    false_imp_iff, implies_true, and_true]
  and_intros
  all_goals exact not_mem_toList rfl (by decide)

theorem plain_colourRules : ∀ rule ∈ colourRules, rule.Plain := by
  simp only [StyleRule.Plain, colourRules, List.forall_mem_cons, List.not_mem_nil,
    false_imp_iff, implies_true, and_true]
  and_intros
  all_goals exact not_mem_toList rfl (by decide)

theorem StyleRule.Plain.onLines {rule : StyleRule} (h : rule.Plain) : '<' ∉ rule.onLines := by
  simp only [StyleRule.onLines, List.mem_append, List.mem_flatMap, not_or, not_exists, not_and]
  refine ⟨⟨⟨h.1, by decide⟩, fun declaration hmem => ?_⟩, by decide⟩
  exact ⟨⟨by decide, h.2 declaration hmem⟩, by decide⟩

theorem StyleRule.Plain.onOneLine {rule : StyleRule} (h : rule.Plain) :
    '<' ∉ rule.onOneLine := by
  simp only [StyleRule.onOneLine, List.mem_append, not_or]
  exact ⟨⟨⟨h.1, by decide⟩, not_mem_joinWith (by decide) h.2⟩, by decide⟩

theorem lt_not_mem_stylesheet : '<' ∉ stylesheet := by
  have hlayout : ∀ part ∈ layoutRules.map StyleRule.onLines, '<' ∉ part := by
    intro part hpart
    obtain ⟨rule, hrule, rfl⟩ := List.mem_map.mp hpart
    exact (plain_layoutRules rule hrule).onLines
  have hcolour : ∀ part ∈ colourRules.map StyleRule.onOneLine, '<' ∉ part := by
    intro part hpart
    obtain ⟨rule, hrule, rfl⟩ := List.mem_map.mp hpart
    exact (plain_colourRules rule hrule).onOneLine
  simp only [stylesheet, List.mem_append, List.mem_cons, not_or]
  exact ⟨⟨⟨⟨by decide, not_mem_joinWith (by decide) hlayout⟩, by decide⟩,
    not_mem_joinWith (by decide) hcolour⟩, by decide, List.not_mem_nil⟩

/-! ### The page around it -/

/-- A page up to its title. -/
def beforeTitle : Text :=
  line "<!DOCTYPE html>"
    ++ line "<html lang=\"en\">"
    ++ line "<head>"
    ++ line "  <meta charset=\"UTF-8\">"
    ++ line "  <meta name=\"viewport\" content=\"width=device-width, initial-scale=1.0\">"
    ++ "  ".toList

/-- The tag of the title. -/
def titleTag (title : Text) : Text :=
  "title>".toList ++ escape title

/-- The line with the title is cut around its tag. -/
theorem line_title (title : Text) :
    line ("  <title>".toList ++ escape title ++ "</title>".toList)
      = "  ".toList ++ '<' :: (titleTag title ++ '<' :: "/title>\n".toList) := by
  unfold line titleTag
  simp only [List.append_assoc]
  rfl

/-- The tag of the style sheet. -/
def styleTag : Text :=
  "style>\n".toList ++ line stylesheet

/-- A page between its style sheet and its links. -/
def beforeMenu : Text :=
  "/style>\n".toList
    ++ line "</head>"
    ++ line "<body>"
    ++ line "<div id=\"container\">"
    ++ line "  <div id=\"background\"></div>"
    ++ line "  <div id=\"jump_to\">"
    ++ line "    Jump To &hellip;"
    ++ line "    <div id=\"jump_wrapper\">"
    ++ "      ".toList

/-- A page behind its links. -/
def afterMenu (title : Text) (rows : List Row) : Text :=
  ['\n']
    ++ line "    </div>"
    ++ line "  </div>"
    ++ line "  <table cellpadding=\"0\" cellspacing=\"0\">"
    ++ line "    <thead>"
    ++ line "      <tr>"
    ++ line ("        <th class=\"docs\"><h1>".toList ++ escape title ++ "</h1></th>".toList)
    ++ line "        <th class=\"code\"></th>"
    ++ line "      </tr>"
    ++ line "    </thead>"
    ++ line "    <tbody>"
    ++ rows.flatMap Row.render
    ++ tail

/-- A page with links is cut around its title, its style sheet and its
links. -/
theorem render_eq (title : Text) {sources : List Text} (hseveral : 1 < sources.length)
    (rows : List Row) :
    render title sources rows
      = beforeTitle ++ '<' :: (titleTag title ++ '<' :: ("/title>\n".toList ++ '<' :: (styleTag
        ++ '<' :: (beforeMenu ++ '<' :: ((menuTag ++ ['\n']) ++ (sources.flatMap jumpLink
          ++ ("      ".toList ++ '<' :: ("/div>".toList ++ afterMenu title rows)))))))) := by
  have hstyle : line "<style>" = '<' :: "style>\n".toList := rfl
  have hunstyle : line "</style>" = '<' :: "/style>\n".toList := rfl
  have hopen : line "      <div id=\"jump_page\">"
      = "      ".toList ++ '<' :: (menuTag ++ ['\n']) := rfl
  have hclose : line "      </div>" = "      ".toList ++ '<' :: ("/div>".toList ++ ['\n']) := rfl
  unfold render head lead jumpMenu beforeTitle beforeMenu afterMenu styleTag
  rw [if_pos hseveral, line_title, hstyle, hunstyle, hopen, hclose]
  simp only [List.append_assoc, List.cons_append]

/-- The list of links ends before the next tag behind it. -/
theorem exists_tags_behind (behind : Text) :
    ∃ rest tags', tags ("/div>".toList ++ behind) = ("/div>".toList ++ rest) :: tags' := by
  obtain ⟨rest, tags', htags⟩ := Text.exists_splitOn_eq_cons '<' behind
  exact ⟨rest, tags', Text.splitOn_append_of_not_mem (by decide) htags⟩

/-- The tags in front of the links. -/
def tagsBefore (title : Text) : List Text :=
  tags beforeTitle ++ [titleTag title, "/title>\n".toList, styleTag] ++ tags beforeMenu

theorem lt_not_mem_titleTag (title : Text) : '<' ∉ titleTag title := by
  intro h
  rcases List.mem_append.mp h with h | h
  · exact absurd h (by decide)
  · exact Text.lt_not_mem_escape title h

theorem lt_not_mem_styleTag : '<' ∉ styleTag := by
  intro h
  rcases List.mem_append.mp h with h | h
  · exact absurd h (by decide)
  rcases List.mem_append.mp h with h | h
  · exact lt_not_mem_stylesheet h
  · exact absurd h (by decide)

theorem tags_before (title behind : Text) :
    tags (beforeTitle ++ '<' :: (titleTag title ++ '<' :: ("/title>\n".toList ++ '<' :: (styleTag
        ++ '<' :: (beforeMenu ++ '<' :: behind)))))
      = tagsBefore title ++ tags behind := by
  have hend : '<' ∉ "/title>\n".toList := by
    decide
  rw [tags_append_cons beforeTitle, tags_cons (lt_not_mem_titleTag title), tags_cons hend,
    tags_cons lt_not_mem_styleTag, tags_append_cons beforeMenu, tagsBefore]
  simp only [List.append_assoc, List.cons_append, List.nil_append]

/-- No list of links begins in the fixed parts of a page. -/
theorem not_begins_menuTag_of_fixed :
    ∀ tag ∈ tags beforeTitle ++ tags beforeMenu, Text.begins menuTag tag = false := by
  decide +kernel

/-- Nothing in front of the links passes for their beginning. -/
theorem not_begins_menuTag {title tag : Text} (h : tag ∈ tagsBefore title) :
    Text.begins menuTag tag = false := by
  rcases List.mem_append.mp h with h | h
  · rcases List.mem_append.mp h with h | h
    · exact not_begins_menuTag_of_fixed tag (List.mem_append_left _ h)
    · simp only [List.mem_cons, List.not_mem_nil, or_false] at h
      rcases h with rfl | rfl | rfl
      · rfl
      · rfl
      · rfl
  · exact not_begins_menuTag_of_fixed tag (List.mem_append_right _ h)

/-- **The links of a page.** A page with several sources links to the page
of each of them, in order and to nothing else. -/
theorem links_render (title : Text) {sources : List Text} (hseveral : 1 < sources.length)
    (rows : List Row) :
    links (render title sources rows)
      = sources.map fun name => escapeQuoted name ++ ".html" := by
  have hmenu : '<' ∉ menuTag ++ ['\n'] := by
    decide
  obtain ⟨blanks, found, htags, hfound, hlinks⟩ :=
    tags_links hmenu sources ("/div>".toList ++ afterMenu title rows)
  obtain ⟨rest, tags', hbehind⟩ := exists_tags_behind (afterMenu title rows)
  rw [List.append_assoc] at htags
  have hpage : tags (render title sources rows)
      = tagsBefore title ++ (menuTag ++ (['\n'] ++ blanks))
        :: (found ++ ("/div>".toList ++ rest) :: tags') := by
    rw [render_eq title hseveral rows, tags_before, List.append_assoc, htags, hbehind,
      List.append_assoc]
  have hbefore : ∀ tag ∈ tagsBefore title, (!Text.begins menuTag tag) = true := by
    intro tag htag
    rw [not_begins_menuTag htag]
    rfl
  have hfirst : ¬ (!Text.begins menuTag (menuTag ++ (['\n'] ++ blanks))) = true := by
    rw [Text.begins_iff.mpr ⟨_, rfl⟩]
    decide
  have hinside : ∀ tag ∈ found, (!Text.begins "/div>" tag) = true := by
    intro tag htag
    rcases hfound tag htag with ⟨name, rfl⟩ | ⟨blanks, rfl⟩
    · rfl
    · rfl
  have hlast : ¬ (!Text.begins "/div>" ("/div>".toList ++ rest)) = true := by
    rw [Text.begins_iff.mpr ⟨_, rfl⟩]
    decide
  rw [links, menu, hpage, List.dropWhile_append_of_pos hbefore,
    List.dropWhile_cons_of_neg (p := fun tag => !Text.begins menuTag tag) hfirst, List.tail_cons,
    List.takeWhile_append_of_pos hinside,
    List.takeWhile_cons_of_neg (p := fun tag => !Text.begins "/div>" tag) hlast,
    List.append_nil, hlinks]

end Marginalia.Page
