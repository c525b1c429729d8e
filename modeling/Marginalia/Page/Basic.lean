import Marginalia.Page.Stylesheet
import Marginalia.Path
import Marginalia.Text.Escape

/-!
# `Marginalia.Page.Basic`: the page of a source file

A page has two columns, documentation on the left and code on the right,
with a row for each section. It is headed by the name of its source, and
where several sources are documented together it links to the pages of
all of them.
-/

set_option autoImplicit false

namespace Marginalia.Page

/-- A row of a page: a section's number and the markup of its two sides. -/
structure Row where
  index : Nat
  docs : Text
  code : Text
deriving DecidableEq

/-- The name of a source on pages: its file name without the extension,
or the path itself where it ends in no file name. -/
def sourceName (source : Path) : Text :=
  source.fileStem?.getD source.text

/-- Where the page of a source goes. -/
def location (directory source : Path) : Path :=
  directory.join ⟨sourceName source ++ ".html"⟩

/-- One line of a page. -/
def line (text : Text) : Text :=
  text ++ ['\n']

/-- The link to the page of the source called `name`. -/
def jumpLink (name : Text) : Text :=
  line ("        <a class=\"source\" href=\"".toList ++ Text.escapeQuoted name
    ++ ".html\">".toList ++ Text.escape name ++ "</a>".toList)

/-- The links to the pages of all sources. -/
def jumpMenu (sources : List Text) : Text :=
  line "  <div id=\"jump_to\">"
    ++ line "    Jump To &hellip;"
    ++ line "    <div id=\"jump_wrapper\">"
    ++ line "      <div id=\"jump_page\">"
    ++ sources.flatMap jumpLink
    ++ line "      </div>"
    ++ line "    </div>"
    ++ line "  </div>"

/-- The markup of a row. -/
def Row.render (row : Row) : Text :=
  let index := Text.ofNat row.index
  line ("      <tr id=\"section-".toList ++ index ++ "\">".toList)
    ++ line "        <td class=\"docs\">"
    ++ line "          <div class=\"pilwrap\">"
    ++ line ("            <a class=\"pilcrow\" href=\"#section-".toList ++ index
        ++ "\">&#182;</a>".toList)
    ++ line "          </div>"
    ++ line ("          ".toList ++ row.docs)
    ++ line "        </td>"
    ++ line "        <td class=\"code\">"
    ++ line ("          ".toList ++ row.code)
    ++ line "        </td>"
    ++ line "      </tr>"

/-- The head of a page up to its style sheet, which is left open. -/
def head (title : Text) : Text :=
  line "<!DOCTYPE html>"
    ++ line "<html lang=\"en\">"
    ++ line "<head>"
    ++ line "  <meta charset=\"UTF-8\">"
    ++ line "  <meta name=\"viewport\" content=\"width=device-width, initial-scale=1.0\">"
    ++ line ("  <title>".toList ++ Text.escape title ++ "</title>".toList)
    ++ line "<style>"

/-- What lies between the style sheet and the rows. -/
def lead (title : Text) (sources : List Text) : Text :=
  line "</style>"
    ++ line "</head>"
    ++ line "<body>"
    ++ line "<div id=\"container\">"
    ++ line "  <div id=\"background\"></div>"
    ++ (if 1 < sources.length then jumpMenu sources else [])
    ++ line "  <table cellpadding=\"0\" cellspacing=\"0\">"
    ++ line "    <thead>"
    ++ line "      <tr>"
    ++ line ("        <th class=\"docs\"><h1>".toList ++ Text.escape title
        ++ "</h1></th>".toList)
    ++ line "        <th class=\"code\"></th>"
    ++ line "      </tr>"
    ++ line "    </thead>"
    ++ line "    <tbody>"

/-- The end of a page. -/
def tail : Text :=
  line "    </tbody>"
    ++ line "  </table>"
    ++ line "</div>"
    ++ line "</body>"
    ++ line "</html>"

/-- The page with the given title, links to the pages of `sources` if
these are several, and the rows. -/
def render (title : Text) (sources : List Text) (rows : List Row) : Text :=
  head title ++ line stylesheet ++ lead title sources ++ rows.flatMap Row.render ++ tail

end Marginalia.Page
