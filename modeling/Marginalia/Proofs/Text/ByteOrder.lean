import Marginalia.Text.Utf8

/-!
# `Marginalia.Proofs.Text.ByteOrder`: texts are ordered as their bytes

Texts are compared character by character. Written as UTF-8 they are
compared byte by byte, with the same result: `encode_lt_encode`. The step
is `encodeChar_append_lt`. Of two characters the lesser one has the lesser
bytes, and what is behind them does not count.
-/

set_option autoImplicit false

namespace Marginalia.Utf8

variable {m n : Nat} {s t : Bytes}

/-! ### Bytes in a row -/

/-- A first byte that is no greater decides, unless the two are the
same. -/
theorem cons_lt_cons_of_le (hn : n < 256) (hle : m ≤ n) (hrest : m = n → s < t) :
    m.toUInt8 :: s < n.toUInt8 :: t := by
  rw [List.cons_lt_cons_iff, UInt8.lt_iff_toNat_lt, UInt8.toNat_ofNat', UInt8.toNat_ofNat']
  by_cases heq : m = n
  · exact .inr ⟨by rw [heq], hrest heq⟩
  · exact .inl (by omega)

/-- A lesser first byte decides. -/
theorem cons_lt_cons_of_lt (hn : n < 256) (hlt : m < n) (s t : Bytes) :
    m.toUInt8 :: s < n.toUInt8 :: t :=
  cons_lt_cons_of_le hn (by omega) (fun heq => by omega)

/-! ### One character -/

/-- Code points end at `0x10FFFF`. -/
theorem toNat_lt (c : Char) : c.toNat < 0x110000 := by
  rcases c.valid with hlow | ⟨-, hhigh⟩
  · have hbelow : c.toNat < 0xD800 := hlow
    omega
  · exact hhigh

/-- A lesser character has lesser bytes, whatever is behind them. The first
byte tells how many there are, and more of them begin with a greater one.
Of as many bytes the first that differ decide. -/
theorem encodeChar_append_lt {c d : Char} (h : c < d) (s t : Bytes) :
    encodeChar c ++ s < encodeChar d ++ t := by
  have hlt : c.toNat < d.toNat := h
  have hmax := toNat_lt d
  unfold encodeChar
  generalize c.toNat = m at hlt
  generalize d.toNat = n at hlt hmax
  dsimp only
  by_cases hone : m < 0x80
  · rw [if_pos hone]
    split
    · exact cons_lt_cons_of_lt (by omega) hlt _ _
    split
    · exact cons_lt_cons_of_lt (by omega) (by omega) _ _
    split
    · exact cons_lt_cons_of_lt (by omega) (by omega) _ _
    · exact cons_lt_cons_of_lt (by omega) (by omega) _ _
  rw [if_neg hone, if_neg (show ¬n < 0x80 by omega)]
  by_cases htwo : m < 0x800
  · rw [if_pos htwo]
    split
    · refine cons_lt_cons_of_le (by omega) (by omega) fun hfirst => ?_
      exact cons_lt_cons_of_lt (by omega) (by omega) _ _
    split
    · exact cons_lt_cons_of_lt (by omega) (by omega) _ _
    · exact cons_lt_cons_of_lt (by omega) (by omega) _ _
  rw [if_neg htwo, if_neg (show ¬n < 0x800 by omega)]
  by_cases hthree : m < 0x10000
  · rw [if_pos hthree]
    split
    · refine cons_lt_cons_of_le (by omega) (by omega) fun hfirst => ?_
      refine cons_lt_cons_of_le (by omega) (by omega) fun hsecond => ?_
      exact cons_lt_cons_of_lt (by omega) (by omega) _ _
    · exact cons_lt_cons_of_lt (by omega) (by omega) _ _
  rw [if_neg hthree, if_neg (show ¬n < 0x10000 by omega)]
  refine cons_lt_cons_of_le (by omega) (by omega) fun hfirst => ?_
  refine cons_lt_cons_of_le (by omega) (by omega) fun hsecond => ?_
  refine cons_lt_cons_of_le (by omega) (by omega) fun hthird => ?_
  exact cons_lt_cons_of_lt (by omega) (by omega) _ _

theorem encodeChar_ne_nil (c : Char) : encodeChar c ≠ [] := by
  unfold encodeChar
  dsimp only
  split
  · exact List.cons_ne_nil _ _
  split
  · exact List.cons_ne_nil _ _
  split
  · exact List.cons_ne_nil _ _
  · exact List.cons_ne_nil _ _

/-! ### Texts -/

/-- **A lesser text has lesser bytes.** -/
theorem encode_lt_encode {a b : Text} (h : a < b) : encode a < encode b := by
  induction a generalizing b with
  | nil =>
    cases b with
    | nil => exact absurd h (List.lt_irrefl [])
    | cons d b =>
      obtain ⟨first, rest, hbytes⟩ := List.exists_cons_of_ne_nil (encodeChar_ne_nil d)
      rw [encode, encode, List.flatMap_cons, hbytes, List.flatMap_nil, List.cons_append]
      exact List.nil_lt_cons _ _
  | cons c a ih =>
    cases b with
    | nil => exact absurd h (List.not_lt_nil _)
    | cons d b =>
      rw [encode, encode, List.flatMap_cons, List.flatMap_cons]
      rcases List.cons_lt_cons_iff.mp h with hlt | ⟨rfl, hrest⟩
      · exact encodeChar_append_lt hlt _ _
      · exact List.append_left_lt (ih hrest)

end Marginalia.Utf8
