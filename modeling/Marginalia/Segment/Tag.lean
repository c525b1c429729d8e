import Marginalia.Text.Blank

/-!
# `Marginalia.Segment.Tag`: docblock tags as prose

A docblock line such as `@param int x the input` is turned into a
piece of a sentence, here "Takes `int x` the input". A line
that follows a tag of the same kind continues its sentence with
" and "; one that follows another kind starts a new sentence.
-/

set_option autoImplicit false

namespace Marginalia.Segment

/-- What a tag is about. -/
inductive TagKind
  | param
  | return
deriving DecidableEq

namespace TagKind

/-- The kind that a keyword stands for. -/
def ofKeyword? (keyword : Text) : Option TagKind :=
  if keyword = "param" then some .param
  else if keyword = "return" then some .return
  else none

/-- The words that begin a sentence about this kind. -/
def header : TagKind → Text
  | .param => "Takes "
  | .return => "Returns "

end TagKind

/-- A tag: its kind, the first two words after the keyword, and
what is left. Each of the three may be empty. -/
structure Tag where
  kind : TagKind
  type : Text
  name : Text
  description : Text
deriving DecidableEq

/-- The next word of a text and what follows it, both without blanks in
front. -/
def nextWord (text : Text) : Text × Text :=
  let (word, rest) := Text.cutWord (Text.trimStart text)
  (word, Text.trimStart rest)

namespace Tag

/-- The fields of a tag in what follows its keyword. -/
def ofRemainder (kind : TagKind) (remainder : Text) : Tag :=
  let (type, rest) := nextWord remainder
  let (name, rest) := nextWord rest
  ⟨kind, type, name, Text.trimEnd rest⟩

/-- Reads a line as a tag: an at sign, blanks in front aside, and
a keyword that is known. -/
def ofText? (text : Text) : Option Tag :=
  match Text.trimStart text with
  | '@' :: rest =>
    let (keyword, remainder) := Text.cutWord rest
    (TagKind.ofKeyword? keyword).map (ofRemainder · remainder)
  | _ => none

/-- The words in backticks: type and name, as far as they are given. -/
def signature (tag : Tag) : Text :=
  if tag.type = [] then tag.name
  else if tag.name = [] then tag.type
  else tag.type ++ ' ' :: tag.name

/-- The tag as part of a sentence. A field that is missing leaves
no trace. -/
def render (tag : Tag) : Text :=
  let code := if tag.signature = [] then [] else '\x60' :: tag.signature ++ ['\x60']
  if code = [] then tag.description
  else if tag.description = [] then code
  else code ++ ' ' :: tag.description

/-- How the sentence of a tag begins, after a tag of the
kind `previous` or after none. -/
def lead (previous : Option TagKind) (kind : TagKind) : Text :=
  match previous with
  | none => kind.header
  | some earlier => if earlier = kind then " and " else ". " ++ kind.header

end Tag

end Marginalia.Segment
