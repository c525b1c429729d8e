import Marginalia.Segment.Tag
import Marginalia.Proofs.Text.Words

/-!
# `Marginalia.Proofs.Segment.Tags`: which texts are tags, and how they are written

A tag is read in three cuts: at the at sign, behind the keyword, and behind
the first two words of the remainder. Each of them takes blanks off on its
own. `written_of_tagged` says what this comes to, and mentions no cut:

* A text is read as a tag if and only if it is `Tagged`: blanks, an at
  sign, and a keyword that is a whole word.
* The remainder is then `Written`. The first one or two words stand in one
  pair of backticks, with one space between them. What is behind them
  follows after one space, as it is but for the blanks around it. If there
  is no word, nothing is written, and no backticks either.
* No word is lost. Without that pair of backticks the words of the
  rendering are the words of the remainder.

`Text.words` is the measure for the last two. It goes over a text from its
end and has nothing to do with the cuts.
-/

set_option autoImplicit false

namespace Marginalia.Segment

open Text (EndsWord FirstWord IsTrimmed IsWord)

variable {text type name rest behind description remainder : Text} {kind : TagKind}

/-- The word that stands for a kind. -/
def TagKind.keyword : TagKind → Text
  | .param => "param"
  | .return => "return"

/-- A text that is tagged, with blanks in front of the at sign and a
`remainder` behind the keyword:

- `begins`: nothing else is in front of the remainder;
- `ends`: the keyword ends where the remainder begins. -/
structure Tagged (text : Text) (kind : TagKind) (remainder : Text) : Prop where
  begins : ∃ gap : Text, gap.allBlank = true ∧ text = gap ++ '@' :: (kind.keyword ++ remainder)
  ends : EndsWord remainder

/-- The text in a pair of backticks. -/
def quoted (text : Text) : Text :=
  '\x60' :: text ++ ['\x60']

/-- How a remainder is written, and the same without the pair of backticks.
The cases are that it has no word, one word, two words, and more. Then it
is cut into a `front` with two words that ends in a blank, a description,
and blanks. -/
inductive Written (remainder : Text) : (rendering plain : Text) → Prop
  | none (words : Text.words remainder = []) : Written remainder [] []
  | one {type : Text} (words : Text.words remainder = [type]) :
      Written remainder (quoted type) type
  | two {type name : Text} (words : Text.words remainder = [type, name]) :
      Written remainder (quoted (type ++ ' ' :: name)) (type ++ ' ' :: name)
  | more {type name front description back : Text}
      (cut : remainder = front ++ (description ++ back))
      (words : Text.words front = [type, name])
      (parted : ∀ c ∈ front.getLast?, isBlank c = true)
      (trimmed : IsTrimmed description)
      (blank : back.allBlank = true) :
      Written remainder (quoted (type ++ ' ' :: name) ++ ' ' :: description)
        (type ++ ' ' :: name ++ ' ' :: description)

/-! ### The keyword -/

theorem ofKeyword?_eq_some_iff {keyword : Text} :
    TagKind.ofKeyword? keyword = some kind ↔ keyword = kind.keyword := by
  constructor
  · intro h
    rw [TagKind.ofKeyword?] at h
    split at h
    · rename_i hparam
      cases h
      exact hparam
    · split at h
      · rename_i hreturn
        cases h
        exact hreturn
      · cases h
  · rintro rfl
    cases kind <;> rfl

theorem visible_keyword (kind : TagKind) : ∀ c ∈ kind.keyword, isBlank c = false := by
  have hall : kind.keyword.all (!isBlank ·) = true := by cases kind <;> rfl
  intro c hc
  simpa using List.all_eq_true.mp hall c hc

/-- A tagged text is a tag with the fields of its remainder. -/
theorem Tagged.ofText?_eq (h : Tagged text kind remainder) :
    Tag.ofText? text = some (Tag.ofRemainder kind remainder) := by
  obtain ⟨⟨gap, hgap, rfl⟩, hends⟩ := h
  have htrim : Text.trimStart (gap ++ '@' :: (kind.keyword ++ remainder))
      = '@' :: (kind.keyword ++ remainder) := by
    rw [Text.trimStart_append_of_allBlank hgap]
    rfl
  have hcut := Text.cutWord_append_of_endsWord (visible_keyword kind) hends
  simp only [Tag.ofText?, htrim, hcut, ofKeyword?_eq_some_iff.mpr rfl, Option.map_some]

/-- Nothing else is a tag. -/
theorem exists_tagged {tag : Tag} (h : Tag.ofText? text = some tag) :
    ∃ kind remainder, Tagged text kind remainder := by
  obtain ⟨gap, hgap, htext⟩ := Text.exists_eq_trimStart text
  rw [Tag.ofText?] at h
  split at h
  · rename_i behind htrim
    obtain ⟨kind, hkind, -⟩ := Option.map_eq_some_iff.mp h
    have hkeyword : (Text.cutWord behind).1 = kind.keyword := ofKeyword?_eq_some_iff.mp hkind
    refine ⟨kind, (Text.cutWord behind).2, ⟨gap, hgap, ?_⟩, Text.endsWord_cutWord behind⟩
    rw [← hkeyword, Text.cutWord_append, ← htrim]
    exact htext
  · cases h

/-! ### The first two words -/

theorem nextWord_of_allBlank (h : text.allBlank = true) : nextWord text = ([], []) := by
  rw [nextWord, Text.trimStart_of_allBlank h]
  rfl

theorem nextWord_of_firstWord (h : FirstWord text type rest) :
    nextWord text = (type, Text.trimStart rest) := by
  rw [nextWord, h.cutWord_trimStart]

theorem nextWord_trimStart (text : Text) : nextWord (Text.trimStart text) = nextWord text := by
  rw [nextWord, Text.trimStart_trimStart, nextWord]

theorem ofRemainder_of_allBlank (h : remainder.allBlank = true) :
    Tag.ofRemainder kind remainder = ⟨kind, [], [], []⟩ := by
  have hnil : nextWord [] = ([], []) := rfl
  simp only [Tag.ofRemainder, nextWord_of_allBlank h, hnil]
  rfl

theorem ofRemainder_of_firstWord (h : FirstWord remainder type rest) :
    Tag.ofRemainder kind remainder
      = ⟨kind, type, (nextWord rest).1, Text.trimEnd (nextWord rest).2⟩ := by
  simp only [Tag.ofRemainder, nextWord_of_firstWord h, nextWord_trimStart]

/-! ### The rendering -/

theorem render_of_type (htype : type ≠ []) :
    Tag.render ⟨kind, type, [], []⟩ = quoted type := by
  simp [Tag.render, Tag.signature, quoted, htype]

theorem render_of_name (htype : type ≠ []) (hname : name ≠ []) :
    Tag.render ⟨kind, type, name, []⟩ = quoted (type ++ ' ' :: name) := by
  simp [Tag.render, Tag.signature, quoted, htype, hname]

theorem render_of_description (htype : type ≠ []) (hname : name ≠ [])
    (hdescription : description ≠ []) :
    Tag.render ⟨kind, type, name, description⟩
      = quoted (type ++ ' ' :: name) ++ ' ' :: description := by
  simp [Tag.render, Tag.signature, quoted, htype, hname, hdescription]

/-- One space is enough to keep two words apart. -/
theorem words_pair (htype : IsWord type) (hname : IsWord name) :
    Text.words (type ++ ' ' :: name) = [type, name] := by
  rw [Text.words_append_cons (by decide), Text.words_of_isWord htype, Text.words_of_isWord hname]
  rfl

/-- A remainder with two words in it, and something visible behind them. -/
theorem written_more (htype : FirstWord remainder type rest) (hname : FirstWord rest name behind)
    (hvisible : behind.allBlank = false) :
    Written remainder (quoted (type ++ ' ' :: name) ++ ' ' :: Text.trim behind)
      (type ++ ' ' :: name ++ ' ' :: Text.trim behind) := by
  obtain ⟨front, back, hfront, hback, hcut, htrimmed⟩ := Text.exists_eq_trim hvisible
  obtain ⟨⟨gap, hgap, rfl⟩, hisType, hends⟩ := htype
  obtain ⟨⟨gap', hgap', rfl⟩, hisName, hbehind⟩ := hname
  -- Both words end at a blank.
  have hgapne : gap' ≠ [] := hends.ne_nil hisName.nonempty hisName.visible_head?
  have hfrontne : front ≠ [] := by
    rw [hcut] at hbehind
    exact hbehind.ne_nil htrimmed.nonempty htrimmed.first
  have hremainder : gap ++ (type ++ (gap' ++ (name ++ behind)))
      = (gap ++ (type ++ (gap' ++ (name ++ front)))) ++ (Text.trim behind ++ back) := by
    simp only [List.append_assoc]
    rw [← hcut]
  refine .more hremainder ?_ ?_ htrimmed hback
  · have hinner : FirstWord (gap' ++ (name ++ front)) name front :=
      ⟨⟨gap', hgap', rfl⟩, hisName, .of_allBlank hfront⟩
    have houter : FirstWord (gap ++ (type ++ (gap' ++ (name ++ front)))) type _ :=
      ⟨⟨gap, hgap, rfl⟩, hisType, .of_gap hgapne hgap' _⟩
    rw [houter.words_eq, hinner.words_eq, Text.words_of_allBlank hfront]
  · intro c hc
    have hlast : front.getLast? = some (front.getLast hfrontne) :=
      List.getLast?_eq_some_getLast hfrontne
    simp only [← List.append_assoc] at hc
    rw [List.getLast?_append, hlast, Option.some_or] at hc
    cases hc
    exact List.all_eq_true.mp hfront _ (List.getLast_mem hfrontne)

/-- **A remainder is written word by word.** The cases are those of
`Written`: there is a first word or none, then a second one or none, and
then something visible or nothing. -/
theorem exists_written (kind : TagKind) (remainder : Text) :
    ∃ plain, Written remainder (Tag.ofRemainder kind remainder).render plain ∧
      Text.words plain = Text.words remainder := by
  rcases Text.blank_or_exists_firstWord remainder with hblank | ⟨type, rest, htype⟩
  · have hwords := Text.words_of_allBlank hblank
    rw [ofRemainder_of_allBlank hblank]
    exact ⟨[], .none hwords, hwords.symm⟩
  rw [ofRemainder_of_firstWord htype]
  rcases Text.blank_or_exists_firstWord rest with hblank | ⟨name, behind, hname⟩
  · have hwords : Text.words remainder = [type] := by
      rw [htype.words_eq, Text.words_of_allBlank hblank]
    rw [nextWord_of_allBlank hblank]
    refine ⟨type, ?_, ?_⟩
    · show Written remainder (Tag.render ⟨kind, type, [], []⟩) type
      rw [render_of_type htype.isWord.nonempty]
      exact .one hwords
    · rw [hwords, Text.words_of_isWord htype.isWord]
  rw [nextWord_of_firstWord hname]
  have hwords : Text.words remainder = type :: name :: Text.words behind := by
    rw [htype.words_eq, hname.words_eq]
  have hpair := words_pair htype.isWord hname.isWord
  cases hempty : behind.allBlank with
  | true =>
    rw [Text.words_of_allBlank hempty] at hwords
    refine ⟨type ++ ' ' :: name, ?_, ?_⟩
    · show Written remainder (Tag.render ⟨kind, type, name, Text.trim behind⟩) _
      rw [Text.trim_of_allBlank hempty,
        render_of_name htype.isWord.nonempty hname.isWord.nonempty]
      exact .two hwords
    · rw [hwords, hpair]
  | false =>
    obtain ⟨-, -, -, -, -, htrimmed⟩ := Text.exists_eq_trim hempty
    refine ⟨type ++ ' ' :: name ++ ' ' :: Text.trim behind, ?_, ?_⟩
    · show Written remainder (Tag.render ⟨kind, type, name, Text.trim behind⟩) _
      rw [render_of_description htype.isWord.nonempty hname.isWord.nonempty htrimmed.nonempty]
      exact written_more htype hname hempty
    · rw [hwords, Text.words_append_cons (by decide), hpair, Text.words_trim]
      rfl

/-! ### Tags -/

/-- **Tags are what they look like, and keep their words.** A text is read
as a tag if and only if it is tagged. It is then a tag of that kind, its
remainder is written as `Written` says, and without the pair of backticks
that is put in it has the words of the remainder. -/
theorem written_of_tagged (text : Text) :
    ((Tag.ofText? text).isSome = true ↔ ∃ kind remainder, Tagged text kind remainder) ∧
    ∀ kind remainder, Tagged text kind remainder →
      ∃ tag plain, Tag.ofText? text = some tag ∧ tag.kind = kind ∧
        Written remainder tag.render plain ∧ Text.words plain = Text.words remainder := by
  refine ⟨⟨fun h => ?_, ?_⟩, fun kind remainder h => ?_⟩
  · obtain ⟨tag, htag⟩ := Option.isSome_iff_exists.mp h
    exact exists_tagged htag
  · rintro ⟨kind, remainder, h⟩
    rw [h.ofText?_eq]
    rfl
  · obtain ⟨plain, hwritten, hwords⟩ := exists_written kind remainder
    exact ⟨Tag.ofRemainder kind remainder, plain, h.ofText?_eq, rfl, hwritten, hwords⟩

/-- What is behind the keyword of `spacedTag`: blanks of several kinds, and
words with backticks of their own. -/
def spacedRemainder : Text := "\t int\u3000 x  the \x60raw\x60   input "

/-- A tag with blanks all around. -/
def spacedTag : Text := " \u00a0@param" ++ spacedRemainder

theorem written_of_tagged_spacedTag :
    Tagged spacedTag .param spacedRemainder ∧
    ∃ tag plain, Tag.ofText? spacedTag = some tag ∧ tag.kind = .param ∧
      Written spacedRemainder tag.render plain ∧
      (Text.words plain).map String.ofList = ["int", "x", "the", "\x60raw\x60", "input"] := by
  have htagged : Tagged spacedTag .param spacedRemainder :=
    ⟨⟨" \u00a0", by decide, rfl⟩, by decide⟩
  obtain ⟨tag, plain, htag, hkind, hwritten, hwords⟩ :=
    (written_of_tagged spacedTag).2 .param spacedRemainder htagged
  refine ⟨htagged, tag, plain, htag, hkind, hwritten, ?_⟩
  rw [hwords]
  decide +kernel

example : (Tag.ofText? spacedTag).map (String.ofList ·.render)
    = some "\x60int x\x60 the \x60raw\x60   input" := by
  decide +kernel

end Marginalia.Segment
