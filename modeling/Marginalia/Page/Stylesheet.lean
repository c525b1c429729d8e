import Marginalia.Text.Lines

/-!
# `Marginalia.Page.Stylesheet`: how a page looks

The rules of the style sheet that every page carries: first those for the
layout, then those for the colours of highlighted code.
-/

set_option autoImplicit false

namespace Marginalia.Page

/-- A rule of a style sheet: what it is about and what it says. -/
structure StyleRule where
  selector : Text
  declarations : List Text

namespace StyleRule

/-- A rule with a line for every declaration. -/
def onLines (rule : StyleRule) : Text :=
  rule.selector ++ " \x7b\n".toList
    ++ rule.declarations.flatMap (fun d => "  ".toList ++ d ++ ";\n".toList) ++ "\x7d".toList

/-- A rule on one line. -/
def onOneLine (rule : StyleRule) : Text :=
  rule.selector ++ " \x7b ".toList ++ Text.joinWith "; " rule.declarations ++ " \x7d".toList

end StyleRule

/-- The rules for the layout. -/
def layoutRules : List StyleRule :=
  [⟨"body",
     ["font-family: 'Palatino Linotype', 'Book Antiqua', Palatino, FreeSerif, serif",
      "font-size: 15px", "line-height: 22px", "color: #252519", "margin: 0", "padding: 0"]⟩,
   ⟨"a",
     ["color: #261a3b"]⟩,
   ⟨"a:visited",
     ["color: #261a3b"]⟩,
   ⟨"#container",
     ["position: relative"]⟩,
   ⟨"#background",
     ["position: fixed", "top: 0", "left: 525px", "right: 0", "bottom: 0",
      "background: #f5f5ff", "border-left: 1px solid #e5e5ee", "z-index: -1"]⟩,
   ⟨"#jump_to, #jump_page",
     ["background: white", "box-shadow: 0 0 25px #777", "font: 10px Arial",
      "text-transform: uppercase", "cursor: pointer", "text-align: right"]⟩,
   ⟨"#jump_to, #jump_wrapper",
     ["position: fixed", "right: 0", "top: 0", "padding: 5px 10px"]⟩,
   ⟨"#jump_wrapper",
     ["padding: 0", "display: none"]⟩,
   ⟨"#jump_to:hover #jump_wrapper",
     ["display: block"]⟩,
   ⟨"#jump_page",
     ["padding: 5px 0 3px", "margin: 0 0 25px 25px"]⟩,
   ⟨"#jump_page .source",
     ["display: block", "padding: 5px 10px", "text-decoration: none",
      "border-top: 1px solid #eee"]⟩,
   ⟨"table td",
     ["border: 0", "outline: 0"]⟩,
   ⟨"td.docs, th.docs",
     ["max-width: 450px", "min-width: 450px", "min-height: 5px",
      "padding: 10px 25px 1px 50px", "overflow-x: hidden", "vertical-align: top",
      "text-align: left"]⟩,
   ⟨".docs pre",
     ["margin: 15px 0 15px", "padding-left: 15px"]⟩,
   ⟨".docs p tt, .docs p code",
     ["background: #f8f8ff", "border: 1px solid #dedede", "font-size: 12px",
      "padding: 0 0.2em"]⟩,
   ⟨".pilwrap",
     ["position: relative"]⟩,
   ⟨".pilcrow",
     ["font: 12px Arial", "text-decoration: none", "color: #454545", "position: absolute",
      "top: 3px", "left: -20px", "padding: 1px 2px", "opacity: 0"]⟩,
   ⟨"td.docs:hover .pilcrow",
     ["opacity: 1"]⟩,
   ⟨"td.code, th.code",
     ["padding: 14px 15px 16px 25px", "width: 100%", "vertical-align: top",
      "background: #f5f5ff", "border-left: 1px solid #e5e5ee"]⟩,
   ⟨"pre, tt, code",
     ["font-size: 12px", "line-height: 18px",
      "font-family: Monaco, Consolas, \"Lucida Console\", monospace", "margin: 0",
      "padding: 0"]⟩]

/-- The rules for the colours of code. -/
def colourRules : List StyleRule :=
  [⟨".highlight .c, .highlight .c1, .highlight .cm", ["color: #408080", "font-style: italic"]⟩,
   ⟨".highlight .k, .highlight .kd, .highlight .kn", ["color: #954121"]⟩,
   ⟨".highlight .s, .highlight .s1, .highlight .s2", ["color: #219161"]⟩,
   ⟨".highlight .m, .highlight .mi, .highlight .mf", ["color: #666666"]⟩,
   ⟨".highlight .nf, .highlight .nc", ["color: #19469d"]⟩,
   ⟨".highlight .nv, .highlight .vg, .highlight .vi", ["color: #19469d"]⟩,
   ⟨".highlight .o, .highlight .ow", ["color: #666666"]⟩]

/-- The style sheet. -/
def stylesheet : Text :=
  '\n' :: Text.joinWith "\n\n" (layoutRules.map StyleRule.onLines) ++ "\n\n".toList
    ++ Text.joinWith "\n" (colourRules.map StyleRule.onOneLine) ++ ['\n']

end Marginalia.Page
