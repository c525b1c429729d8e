import Marginalia.Markdown.Chars

/-!
# `Marginalia.Markdown.RawHtml`: markup that is passed through

Scanners for tags, comments and the other constructs of HTML that may
stand in Markdown as they are. Each looks at the beginning of a text and
answers with what follows the construct.
-/

set_option autoImplicit false

namespace Marginalia.Markdown

/-! ### Tags -/

/-- What follows the name of a tag. -/
def afterTagName? : Text → Option Text
  | c :: rest =>
    if c.isAlpha then some (rest.dropWhile fun c => c.isAlphanum || c = '-') else none
  | [] => none

/-- What follows the name of an attribute. -/
def afterAttributeName? : Text → Option Text
  | c :: rest =>
    if c.isAlpha || c = '_' || c = ':' then
      some (rest.dropWhile fun c => c.isAlphanum || c = ':' || c = '.' || c = '_' || c = '-')
    else none
  | [] => none

/-- Whether a character can stand in an attribute value without quotes. -/
def isUnquoted (c : Char) : Bool :=
  !isSpacing c && c != '"' && c != '\'' && c != '=' && c != '<' && c != '>' && c != '\x60'
    && c.toNat != 0

/-- What follows the value of an attribute. -/
def afterValue? : Text → Option Text
  | [] => none
  | c :: rest =>
    if c = '"' || c = '\'' then
      match rest.dropWhile (· != c) with
      | _ :: rest => some rest
      | [] => none
    else if isUnquoted c then some (rest.dropWhile isUnquoted)
    else none

/-- What follows the value of an attribute with its equals sign; the text
itself where there is none. -/
def afterAssignment (text : Text) : Text :=
  match trimLeft text with
  | '=' :: rest => (afterValue? (trimLeft rest)).getD text
  | _ => text

/-- What follows the attributes at the beginning of a text; `fuel` bounds
their number. -/
def afterAttributes : (fuel : Nat) → Text → Text
  | 0, text => text
  | fuel + 1, text =>
    match text with
    | c :: _ =>
      if isSpacing c then
        match afterAttributeName? (trimLeft text) with
        | some rest => afterAttributes fuel (afterAssignment rest)
        | none => text
      else text
    | [] => text

/-- What follows an opening tag; `text` is what follows its `<`. -/
def afterOpenTag? (text : Text) : Option Text :=
  match afterTagName? text with
  | none => none
  | some rest =>
    match trimLeft (afterAttributes rest.length rest) with
    | '>' :: rest => some rest
    | '/' :: '>' :: rest => some rest
    | _ => none

/-- What follows a closing tag; `text` is what follows its `<`. -/
def afterCloseTag? : (text : Text) → Option Text
  | '/' :: text =>
    match (afterTagName? text).map trimLeft with
    | some ('>' :: rest) => some rest
    | _ => none
  | _ => none

/-- What follows a tag; `text` is what follows its `<`. -/
def afterTag? (text : Text) : Option Text :=
  (afterCloseTag? text).or (afterOpenTag? text)

/-! ### Other constructs -/

/-- What follows a comment, where `text` follows its opening dashes. A
single dash takes the character behind it along, and two dashes the
character behind them. -/
def afterComment? : (text : Text) → Option Text
  | '-' :: '-' :: '>' :: rest => some rest
  | '-' :: '-' :: _ :: rest => afterComment? rest
  | '-' :: c :: rest => if c = '-' then none else afterComment? rest
  | c :: rest => if c = '-' then none else afterComment? rest
  | [] => none

/-- What is left where the content of a character data section ends. Its
content takes a bracket along with the character behind it, and two
brackets with the one behind them. -/
def afterCharacterData : (text : Text) → Text
  | ']' :: ']' :: '>' :: rest => ']' :: ']' :: '>' :: rest
  | ']' :: ']' :: _ :: rest => afterCharacterData rest
  | ']' :: c :: rest => if c = ']' then [']', c] else afterCharacterData rest
  | c :: rest => if c = ']' then [c] else afterCharacterData rest
  | [] => []

/-- What is left where the content of a processing instruction ends. A
question mark takes the character behind it along. -/
def afterInstruction : (text : Text) → Text
  | '?' :: '>' :: rest => '?' :: '>' :: rest
  | '?' :: _ :: rest => afterInstruction rest
  | c :: rest => if c = '?' then [c] else afterInstruction rest
  | [] => []

end Marginalia.Markdown
