/-!
# `Marginalia.Text.Basic`: texts as lists of characters

Everything the library reads, cuts and writes is a `Text`, a plain list
of characters, so that statements about it are statements about lists.
String literals stand for texts through a coercion. This file holds the
few list operations that the rest of the library cuts text with: taking
a known beginning or ending off, and looking for a text inside another.
-/

set_option autoImplicit false

namespace Marginalia

/-- A text: its characters in order. -/
abbrev Text := List Char

/-- A string literal stands for its characters. -/
instance : Coe String Text := ⟨String.toList⟩

namespace Text

/-- The rest of `text` after `lead`, if it begins with it. -/
def after? : (lead text : Text) → Option Text
  | [], text => some text
  | _ :: _, [] => none
  | c :: lead, d :: text => if c = d then after? lead text else none

/-- The rest of `text` after `lead`, or all of it if it begins otherwise. -/
def dropLead (lead text : Text) : Text :=
  (after? lead text).getD text

/-- The text before `tail`, or all of it if it ends otherwise. -/
def dropTail (tail text : Text) : Text :=
  match after? tail.reverse text.reverse with
  | some front => front.reverse
  | none => text

/-- Whether `text` begins with `lead`. -/
def begins (lead text : Text) : Bool :=
  (after? lead text).isSome

/-- Whether `part` stands somewhere in `text`. -/
def mentions (part : Text) : (text : Text) → Bool
  | [] => part.isEmpty
  | c :: text => begins part (c :: text) || mentions part text

/-- The part before the last `mark` and the part after it. -/
def cutLast? (mark : Char) (text : Text) : Option (Text × Text) :=
  let tail := text.reverse.takeWhile (· != mark)
  match text.reverse.dropWhile (· != mark) with
  | [] => none
  | _ :: front => some (front.reverse, tail.reverse)

/-- The decimal digits of a number. -/
def ofNat (n : Nat) : Text :=
  Nat.toDigits 10 n

/-! ### What a cut leaves behind -/

theorem after?_eq_some_iff {lead text rest : Text} :
    after? lead text = some rest ↔ text = lead ++ rest := by
  induction lead generalizing text with
  | nil => simp [after?, eq_comm]
  | cons c lead ih =>
    cases text with
    | nil => simp [after?]
    | cons d text => by_cases h : c = d <;> simp [after?, h, ih, Ne.symm, eq_comm]

theorem after?_append (lead rest : Text) : after? lead (lead ++ rest) = some rest :=
  after?_eq_some_iff.2 rfl

theorem begins_iff {lead text : Text} : begins lead text = true ↔ ∃ rest, text = lead ++ rest := by
  simp [begins, Option.isSome_iff_exists, after?_eq_some_iff]

theorem dropLead_append (lead rest : Text) : dropLead lead (lead ++ rest) = rest := by
  simp [dropLead, after?_append]

theorem dropTail_append (front tail : Text) : dropTail tail (front ++ tail) = front := by
  simp [dropTail, after?_append]

end Text

end Marginalia
