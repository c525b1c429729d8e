import Marginalia.Proofs.Page.Links

/-!
# `Marginalia.Proofs.Page.Titles`: what a page says about itself

A page gives its title twice, in its head and above its columns, and in
between the links to other pages. All of this stands in front of the rows,
which can hold any markup. Here a reader takes it from the page, tag by
tag. The title is what stands in the first element called `title`, the
heading what stands in the first one called `h1`, and the links are the
anchors in front of the first table.

`shows_render` says that this reader finds the title and the names of the
sources as they are written, without a character that could end the place
where they stand, and that they stand for the title and the names that
were given. So no two titles and no two lists of sources are written the
same, but for lists without links (`Shows.unique`). `render_unambiguous`
puts both together.
-/

set_option autoImplicit false

namespace Marginalia.Page

open Text (escape escapeQuoted unescape)

/-! ### Reading a page -/

/-- What stands in the first element with this beginning. -/
def firstText? (element page : Text) : Option Text :=
  (tags page).findSome? (Text.after? element)

/-- The tags in front of the first table. -/
def tagsBeforeTable (page : Text) : List Text :=
  (tags page).takeWhile fun tag => !Text.begins "table " tag

/-- Where the anchors in front of the first table lead, as it is
written. -/
def sourceLinks (page : Text) : List Text :=
  (tagsBeforeTable page).filterMap href?

/-- What a reader finds on a page with this title and these sources:

- `title`: the title stands in the head and above the columns. It is
  written the same in both places, no tag begins or ends in it, and it
  stands for the title that was given;
- `links`: there is a link for each source if there are several, and none
  otherwise. No tag begins or ends in what is written for a name, no
  attribute value ends in it, and it stands for the name that was
  given. -/
structure Shows (page title : Text) (sources : List Text) : Prop where
  title : ∃ written,
    firstText? "title>" page = some written ∧ firstText? "h1>" page = some written ∧
    '<' ∉ written ∧ '>' ∉ written ∧ unescape written = title
  links : ∃ written : List Text,
    (sourceLinks page = written.map fun value => (value ++ ".html" : Text)) ∧
    (∀ value ∈ written, '<' ∉ value ∧ '>' ∉ value ∧ '"' ∉ value) ∧
    written.map unescape = if 1 < sources.length then sources else []

variable {page title title' tag : Text} {sources sources' : List Text}

/-! ### The page, tag by tag -/

/-- The links of a page, which only several sources have. -/
def menuOf (sources : List Text) : Text :=
  if 1 < sources.length then jumpMenu sources else []

/-- A page between its style sheet and its table. -/
def beforeTable (menu : Text) : Text :=
  "/style>\n".toList
    ++ line "</head>"
    ++ line "<body>"
    ++ line "<div id=\"container\">"
    ++ line "  <div id=\"background\"></div>"
    ++ menu
    ++ "  ".toList

/-- A table up to its heading. -/
def beforeHeading : Text :=
  "table cellpadding=\"0\" cellspacing=\"0\">\n".toList
    ++ line "    <thead>"
    ++ line "      <tr>"
    ++ "        <th class=\"docs\">".toList

/-- The tag of the heading. -/
def headingTag (title : Text) : Text :=
  "h1>".toList ++ escape title

/-- A page behind its heading. -/
def afterHeading (rows : List Row) : Text :=
  "/h1></th>\n".toList
    ++ line "        <th class=\"code\"></th>"
    ++ line "      </tr>"
    ++ line "    </thead>"
    ++ line "    <tbody>"
    ++ rows.flatMap Row.render
    ++ tail

/-- A page is cut around its title, its style sheet and its heading. -/
theorem render_eq_heading (title : Text) (sources : List Text) (rows : List Row) :
    render title sources rows
      = beforeTitle ++ '<' :: (titleTag title ++ '<' :: ("/title>\n".toList ++ '<' :: (styleTag
        ++ '<' :: (beforeTable (menuOf sources) ++ '<' :: (beforeHeading
          ++ '<' :: (headingTag title ++ '<' :: afterHeading rows)))))) := by
  have hopen : "        <th class=\"docs\"><h1>".toList
      = "        <th class=\"docs\">".toList ++ '<' :: "h1>".toList := by
    decide
  have hclose : "</h1></th>".toList ++ ['\n'] = '<' :: "/h1></th>\n".toList := by
    decide
  have hheading : line ("        <th class=\"docs\"><h1>".toList ++ escape title
        ++ "</h1></th>".toList)
      = "        <th class=\"docs\">".toList ++ '<' :: (headingTag title
        ++ '<' :: "/h1></th>\n".toList) := by
    rw [line, headingTag, hopen, List.append_assoc, hclose]
    simp only [List.append_assoc, List.cons_append]
  have hstyle : line "<style>" = '<' :: "style>\n".toList := rfl
  have hunstyle : line "</style>" = '<' :: "/style>\n".toList := rfl
  have htable : line "  <table cellpadding=\"0\" cellspacing=\"0\">"
      = "  ".toList ++ '<' :: "table cellpadding=\"0\" cellspacing=\"0\">\n".toList := rfl
  unfold render head lead beforeTitle beforeTable menuOf beforeHeading afterHeading styleTag
  rw [line_title, hheading, hstyle, hunstyle, htable]
  simp only [List.append_assoc, List.cons_append]

/-- The tags of a page in front of its table. -/
def tagsInFront (title : Text) (sources : List Text) : List Text :=
  tags beforeTitle ++ titleTag title :: (["/title>\n".toList, styleTag]
    ++ tags (beforeTable (menuOf sources)))

/-- The tags of a page. -/
theorem tags_render (title : Text) (sources : List Text) (rows : List Row) :
    tags (render title sources rows)
      = tagsInFront title sources
        ++ (tags beforeHeading ++ headingTag title :: tags (afterHeading rows)) := by
  have hend : '<' ∉ "/title>\n".toList := by
    decide
  have hheading : '<' ∉ headingTag title := by
    intro h
    rcases List.mem_append.mp h with h | h
    · exact absurd h (by decide)
    · exact Text.lt_not_mem_escape title h
  rw [render_eq_heading, tags_append_cons beforeTitle, tags_cons (lt_not_mem_titleTag title),
    tags_cons hend, tags_cons lt_not_mem_styleTag, tags_append_cons (beforeTable (menuOf sources)),
    tags_append_cons beforeHeading, tags_cons hheading, tagsInFront]
  simp only [List.append_assoc, List.cons_append, List.nil_append]

/-! ### In front of the table -/

/-- A tag that begins nothing the reader looks for. -/
def Ignored (tag : Text) : Prop :=
  Text.after? "title>" tag = none ∧ Text.after? "h1>" tag = none ∧
  Text.begins "table " tag = false ∧ href? tag = none

instance (tag : Text) : Decidable (Ignored tag) :=
  inferInstanceAs (Decidable (_ ∧ _))

/-- A tag that begins neither the table nor the heading. Anchors are
such tags too. -/
def Passed (tag : Text) : Prop :=
  Text.after? "h1>" tag = none ∧ Text.begins "table " tag = false

theorem Ignored.passed (h : Ignored tag) : Passed tag :=
  ⟨h.2.1, h.2.2.1⟩

theorem filterMap_href?_of_ignored {found : List Text} (h : ∀ tag ∈ found, Ignored tag) :
    found.filterMap href? = [] :=
  List.filterMap_eq_nil_iff.mpr fun tag htag => (h tag htag).2.2.2

/-- What follows the links in front of the table. -/
def afterLinks : Text :=
  "/div>\n".toList
    ++ line "    </div>"
    ++ line "  </div>"
    ++ "  ".toList

theorem ignored_beforeTitle : ∀ tag ∈ tags beforeTitle, Ignored tag := by
  decide +kernel

/-- The fixed tags on both sides of the links. -/
theorem ignored_aroundLinks : ∀ tag ∈ tags beforeMenu ++ tags afterLinks, Ignored tag := by
  decide +kernel

/-- Without links nothing is there but fixed text. -/
theorem ignored_beforeTable_nil : ∀ tag ∈ tags (beforeTable []), Ignored tag := by
  decide +kernel

/-- With links there are the tags of these, and fixed tags on both
sides. -/
theorem tags_beforeTable_of_lt (h : 1 < sources.length) :
    ∃ blanks found,
      tags (beforeTable (menuOf sources))
          = tags beforeMenu ++ (menuTag ++ ['\n'] ++ blanks) :: (found ++ tags afterLinks)
        ∧ (∀ tag ∈ found, IsLinkTag tag)
        ∧ found.filterMap href? = sources.map fun name => escapeQuoted name ++ ".html" := by
  have hmenu : '<' ∉ menuTag ++ ['\n'] := by
    decide
  obtain ⟨blanks, found, htags, hfound, hlinks⟩ := tags_links hmenu sources afterLinks
  refine ⟨blanks, found, ?_, hfound, hlinks⟩
  have hcut : beforeTable (menuOf sources)
      = beforeMenu ++ '<' :: ((menuTag ++ ['\n'])
        ++ (sources.flatMap jumpLink ++ ("      ".toList ++ '<' :: afterLinks))) := by
    have hopen : line "      <div id=\"jump_page\">"
        = "      ".toList ++ '<' :: (menuTag ++ ['\n']) := rfl
    have hclose : line "      </div>" = "      ".toList ++ '<' :: "/div>\n".toList := rfl
    unfold beforeTable menuOf jumpMenu beforeMenu afterLinks
    rw [if_pos h, hopen, hclose]
    simp only [List.append_assoc, List.cons_append]
  rw [hcut, tags_append_cons, htags]

/-- Neither the table nor the heading begins in front of the table. -/
theorem passed_beforeTable (h : tag ∈ tags (beforeTable (menuOf sources))) : Passed tag := by
  by_cases hseveral : 1 < sources.length
  · obtain ⟨blanks, found, htags, hfound, -⟩ := tags_beforeTable_of_lt hseveral
    rw [htags] at h
    rcases List.mem_append.mp h with h | h
    · exact (ignored_aroundLinks tag (List.mem_append_left _ h)).passed
    rcases List.mem_cons.mp h with rfl | h
    · exact ⟨rfl, rfl⟩
    -- Between the fixed tags are the anchors and the tags that end them.
    rcases List.mem_append.mp h with h | h
    · rcases hfound tag h with ⟨name, rfl⟩ | ⟨blanks, rfl⟩
      · exact ⟨rfl, rfl⟩
      · exact ⟨rfl, rfl⟩
    · exact (ignored_aroundLinks tag (List.mem_append_right _ h)).passed
  · rw [menuOf, if_neg hseveral] at h
    exact (ignored_beforeTable_nil tag h).passed

theorem passed_tagsInFront (h : tag ∈ tagsInFront title sources) : Passed tag := by
  rcases List.mem_append.mp h with h | h
  · exact (ignored_beforeTitle tag h).passed
  rcases List.mem_cons.mp h with rfl | h
  · exact ⟨rfl, rfl⟩
  rcases List.mem_append.mp h with h | h
  · simp only [List.mem_cons, List.not_mem_nil, or_false] at h
    rcases h with rfl | rfl
    · exact ⟨rfl, rfl⟩
    · exact ⟨rfl, rfl⟩
  · exact passed_beforeTable h

/-- The anchors there are those of the links. -/
theorem hrefs_beforeTable (sources : List Text) :
    (tags (beforeTable (menuOf sources))).filterMap href?
      = (if 1 < sources.length then sources else []).map
          fun name => escapeQuoted name ++ ".html" := by
  by_cases hseveral : 1 < sources.length
  · obtain ⟨blanks, found, htags, -, hlinks⟩ := tags_beforeTable_of_lt hseveral
    have hbefore : (tags beforeMenu).filterMap href? = [] :=
      filterMap_href?_of_ignored fun tag h => ignored_aroundLinks tag (List.mem_append_left _ h)
    have hafter : (tags afterLinks).filterMap href? = [] :=
      filterMap_href?_of_ignored fun tag h => ignored_aroundLinks tag (List.mem_append_right _ h)
    have hmenu : href? (menuTag ++ ['\n'] ++ blanks) = none := rfl
    rw [htags, List.filterMap_append, hbefore, List.nil_append, List.filterMap_cons_none hmenu,
      List.filterMap_append, hafter, List.append_nil, hlinks, if_pos hseveral]
  · rw [menuOf, if_neg hseveral, if_neg hseveral,
      filterMap_href?_of_ignored ignored_beforeTable_nil, List.map_nil]

/-- What the table begins with. -/
theorem tags_beforeHeading :
    tags beforeHeading
      = ["table cellpadding=\"0\" cellspacing=\"0\">\n    ".toList, "thead>\n      ".toList,
        "tr>\n        ".toList, "th class=\"docs\">".toList] := by
  decide +kernel

/-! ### What the reader finds -/

/-- The tags in front of the table. -/
theorem tagsBeforeTable_render (title : Text) (sources : List Text) (rows : List Row) :
    tagsBeforeTable (render title sources rows) = tagsInFront title sources := by
  have hpassed : ∀ tag ∈ tagsInFront title sources, (!Text.begins "table " tag) = true := by
    intro tag h
    rw [(passed_tagsInFront h).2]
    rfl
  have htable : ¬ (!Text.begins "table "
      "table cellpadding=\"0\" cellspacing=\"0\">\n    ".toList) = true := by
    decide
  rw [tagsBeforeTable, tags_render, List.takeWhile_append_of_pos hpassed, tags_beforeHeading,
    List.cons_append, List.takeWhile_cons_of_neg (p := fun tag => !Text.begins "table " tag) htable,
    List.append_nil]

theorem firstText?_title (title : Text) (sources : List Text) (rows : List Row) :
    firstText? "title>" (render title sources rows) = some (escape title) := by
  have hbefore : (tags beforeTitle).findSome? (Text.after? "title>") = none :=
    List.findSome?_eq_none_iff.mpr fun tag h => (ignored_beforeTitle tag h).1
  have htitle : Text.after? "title>" (titleTag title) = some (escape title) :=
    Text.after?_append _ _
  rw [firstText?, tags_render, tagsInFront, List.append_assoc, List.findSome?_append, hbefore,
    Option.none_or, List.cons_append, List.findSome?_cons, htitle]

theorem firstText?_heading (title : Text) (sources : List Text) (rows : List Row) :
    firstText? "h1>" (render title sources rows) = some (escape title) := by
  have hfront : (tagsInFront title sources).findSome? (Text.after? "h1>") = none :=
    List.findSome?_eq_none_iff.mpr fun tag h => (passed_tagsInFront h).1
  have hbefore : (tags beforeHeading).findSome? (Text.after? "h1>") = none := by
    rw [tags_beforeHeading]
    decide
  have hheading : Text.after? "h1>" (headingTag title) = some (escape title) :=
    Text.after?_append _ _
  rw [firstText?, tags_render, List.findSome?_append, hfront, Option.none_or,
    List.findSome?_append, hbefore, Option.none_or, List.findSome?_cons, hheading]

theorem sourceLinks_render (title : Text) (sources : List Text) (rows : List Row) :
    sourceLinks (render title sources rows)
      = (if 1 < sources.length then sources else []).map
          fun name => escapeQuoted name ++ ".html" := by
  have hbefore := filterMap_href?_of_ignored ignored_beforeTitle
  have htitle : href? (titleTag title) = none := rfl
  have hend : href? "/title>\n".toList = none := rfl
  have hstyle : href? styleTag = none := rfl
  rw [sourceLinks, tagsBeforeTable_render, tagsInFront, List.filterMap_append, hbefore,
    List.nil_append, List.filterMap_cons_none htitle, List.filterMap_append,
    List.filterMap_cons_none hend, List.filterMap_cons_none hstyle, List.filterMap_nil,
    List.nil_append, hrefs_beforeTable]

/-- A reader finds the title and the sources that a page was rendered
with. -/
theorem shows_render (title : Text) (sources : List Text) (rows : List Row) :
    Shows (render title sources rows) title sources where
  title :=
    ⟨escape title, firstText?_title title sources rows, firstText?_heading title sources rows,
      Text.lt_not_mem_escape title, Text.gt_not_mem_escape title, Text.unescape_escape title⟩
  links := by
    refine ⟨(if 1 < sources.length then sources else []).map escapeQuoted, ?_, ?_, ?_⟩
    · rw [sourceLinks_render, List.map_map]
      rfl
    · intro value hvalue
      obtain ⟨name, -, rfl⟩ := List.mem_map.mp hvalue
      exact ⟨Text.lt_not_mem_escapeQuoted name, Text.gt_not_mem_escapeQuoted name,
        Text.quote_not_mem_escapeQuoted name⟩
    · have hid : ∀ name ∈ (if 1 < sources.length then sources else []),
          (unescape ∘ escapeQuoted) name = id name :=
        fun name _ => Text.unescape_escapeQuoted name
      rw [List.map_map, List.map_congr_left hid, List.map_id]

/-- What a page shows is shown by no other: the title is one, and so are
the sources if there are several. -/
theorem Shows.unique (h : Shows page title sources) (h' : Shows page title' sources') :
    title = title' ∧ (sources = sources' ∨ (sources.length ≤ 1 ∧ sources'.length ≤ 1)) := by
  constructor
  · obtain ⟨written, hwritten, -, -, -, htitle⟩ := h.title
    obtain ⟨written', hwritten', -, -, -, htitle'⟩ := h'.title
    have hsame : written = written' := Option.some.inj (hwritten.symm.trans hwritten')
    rw [← htitle, ← htitle', hsame]
  · obtain ⟨written, hlinks, -, hsources⟩ := h.links
    obtain ⟨written', hlinks', -, hsources'⟩ := h'.links
    have hsame : written = written' := by
      refine (List.map_inj_right fun value value' heq => ?_).mp (hlinks.symm.trans hlinks')
      exact List.append_cancel_right heq
    rw [hsame, hsources'] at hsources
    by_cases hseveral : 1 < sources.length
    · by_cases hseveral' : 1 < sources'.length
      · rw [if_pos hseveral, if_pos hseveral'] at hsources
        exact .inl hsources.symm
      -- A page with links is none without.
      · rw [if_pos hseveral, if_neg hseveral'] at hsources
        rw [← hsources] at hseveral
        cases hseveral
    · by_cases hseveral' : 1 < sources'.length
      · rw [if_neg hseveral, if_pos hseveral'] at hsources
        rw [hsources] at hseveral'
        cases hseveral'
      · exact .inr ⟨Nat.le_of_not_lt hseveral, Nat.le_of_not_lt hseveral'⟩

/-- **Titles and sources are not confused.** Whatever the rows hold, a
page shows its title and its sources. Pages that are the same have the
same title, and the same sources unless neither has any links. -/
theorem render_unambiguous :
    (∀ title sources rows, Shows (render title sources rows) title sources) ∧
    ∀ title title' sources sources' rows rows',
      render title sources rows = render title' sources' rows' →
        title = title' ∧
        (sources = sources' ∨ (sources.length ≤ 1 ∧ sources'.length ≤ 1)) := by
  refine ⟨shows_render, ?_⟩
  intro title title' sources sources' rows rows' heq
  have h := shows_render title sources rows
  have h' := shows_render title' sources' rows'
  rw [heq] at h
  exact h.unique h'

/-- A row with markup that passes for a title, a heading and links. -/
def imitatingRow : Row :=
  ⟨0, "<title>x</title><div id=\"jump_page\"><a class=\"source\" href=\"x.html\">x</a></div>",
    "<h1>x</h1><table ></table>"⟩

theorem render_unambiguous_imitatingRow :
    Shows (render "a<b>" ["c\"d", "e&"] [imitatingRow]) "a<b>" ["c\"d", "e&"] ∧
    render "a<b>" ["c\"d"] [imitatingRow] = render "a<b>" [] [imitatingRow] ∧
    (["c\"d".toList] = [] ∨ (["c\"d".toList].length ≤ 1 ∧ ([] : List Text).length ≤ 1)) := by
  obtain ⟨hshows, hsame⟩ := render_unambiguous
  have hpages : render "a<b>" ["c\"d"] [imitatingRow] = render "a<b>" [] [imitatingRow] := rfl
  exact ⟨hshows _ _ _, hpages, (hsame _ _ _ _ _ _ hpages).2⟩

end Marginalia.Page
