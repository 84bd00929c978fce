import Mathlib.Tactic.Common
import Mathlib.Tactic.IntervalCases
import LiterateLinks.Text.Bytes

/-!
# Texts in bytes

The bytes of a text are those of its characters, and reading them leniently gives the text back.
The first byte of a character tells how many are to follow and narrows the range of the second one,
so a character is read byte by byte, with what is known of it carried along
(`Text.decodeFrom_encodeChar`).  Bytes that are no text are read too, but they do not come back: the
bytes of a text are exactly those that do (`ByteString.isText_iff`).

Some bytes always give some character, so only the empty string of bytes is shown as the empty text.
-/

namespace LiterateLinks

namespace Text

/-! ## The bytes of one character -/

/-- The byte of a number below 256 is that number. -/
lemma toNat_ofNat_of_lt {n : ℕ} (h : n < 256) : (UInt8.ofNat n).toNat = n := by
  rw [UInt8.toNat_ofNat']
  exact Nat.mod_eq_of_lt h

/-- A byte of ASCII is a character. -/
lemma leadByte_one {n : ℕ} (h : n < 0x80) : leadByte (UInt8.ofNat n) = ([Char.ofNat n], none) := by
  have hn : (UInt8.ofNat n).toNat = n := toNat_ofNat_of_lt (by omega)
  have hascii : UInt8.ofNat n < 0x80 := by
    rw [UInt8.lt_iff_toNat_lt, hn]
    exact h
  rw [leadByte, if_pos hascii, hn]

/-- The first of two bytes. -/
lemma leadByte_two {n : ℕ} (hlo : 0xc2 ≤ n) (hhi : n ≤ 0xdf) :
    leadByte (UInt8.ofNat n) = ([], some ⟨1, n - 0xc0, 0x80, 0xbf⟩) := by
  interval_cases n <;> rfl

/-- The first of three bytes.  After the least one the second byte starts later, and before the
surrogates it ends earlier. -/
lemma leadByte_three {n : ℕ} (hlo : 0xe0 ≤ n) (hhi : n ≤ 0xef) :
    leadByte (UInt8.ofNat n) = ([], some ⟨2, n - 0xe0, if n = 0xe0 then 0xa0 else 0x80,
      if n = 0xed then 0x9f else 0xbf⟩) := by
  interval_cases n <;> rfl

/-- The first of four bytes.  After the least one the second byte starts later, and after the
greatest one it ends earlier. -/
lemma leadByte_four {n : ℕ} (hlo : 0xf0 ≤ n) (hhi : n ≤ 0xf4) :
    leadByte (UInt8.ofNat n) = ([], some ⟨3, n - 0xf0, if n = 0xf0 then 0x90 else 0x80,
      if n = 0xf4 then 0x8f else 0xbf⟩) := by
  interval_cases n <;> rfl

section Step

variable {value n : ℕ} {lo hi : UInt8} (hn : n < 256) (hlo : lo.toNat ≤ n) (hhi : n ≤ hi.toNat)
include hn hlo hhi

/-- A byte of that number lies in the range. -/
lemma mem_range_ofNat : (decide (lo ≤ UInt8.ofNat n) && decide (UInt8.ofNat n ≤ hi)) = true := by
  rw [Bool.and_eq_true, decide_eq_true_eq, decide_eq_true_eq, UInt8.le_iff_toNat_le,
    UInt8.le_iff_toNat_le, toNat_ofNat_of_lt hn]
  exact ⟨hlo, hhi⟩

/-- The last byte of a character completes it. -/
lemma decodeFrom_last (bs : List UInt8) :
    decodeFrom (some ⟨1, value, lo, hi⟩) (UInt8.ofNat n :: bs) =
      Char.ofNat (value * 64 + (n - 0x80)) :: decodeFrom none bs := by
  rw [decodeFrom, if_pos (mem_range_ofNat hn hlo hhi), toNat_ofNat_of_lt hn]
  rfl

/-- A byte before the last is read into the character. -/
lemma decodeFrom_more (left : ℕ) (bs : List UInt8) :
    decodeFrom (some ⟨left + 2, value, lo, hi⟩) (UInt8.ofNat n :: bs) =
      decodeFrom (some ⟨left + 1, value * 64 + (n - 0x80), 0x80, 0xbf⟩) bs := by
  rw [decodeFrom, if_pos (mem_range_ofNat hn hlo hhi), toNat_ofNat_of_lt hn]
  have hleft : ¬left + 2 ≤ 1 := by omega
  exact if_neg hleft

end Step

/-- A byte after the first holds six bits of a character. -/
lemma trailing_bounds (n : ℕ) :
    n % 64 + 128 < 256 ∧ (0x80 : UInt8).toNat ≤ n % 64 + 128 ∧
      n % 64 + 128 ≤ (0xbf : UInt8).toNat := by
  have hbits : n % 64 < 64 := Nat.mod_lt n (by decide)
  refine ⟨by omega, ?_, ?_⟩
  · exact Nat.le_add_left 128 (n % 64)
  · change n % 64 + 128 ≤ 191
    omega

/-- Two bytes are read as the character that they stand for. -/
lemma decodeFrom_two {v : ℕ} (hlo : 0x80 ≤ v) (hhi : v < 0x800) (bs : List UInt8) :
    decodeFrom none (UInt8.ofNat (v / 64 % 32 + 192) :: UInt8.ofNat (v % 64 + 128) :: bs) =
      Char.ofNat v :: decodeFrom none bs := by
  have hvalue : (v / 64 % 32 + 192 - 0xc0) * 64 + (v % 64 + 128 - 0x80) = v := by omega
  obtain ⟨hlt, hlast, hlast'⟩ := trailing_bounds v
  rw [decodeFrom, leadByte_two (by omega) (by omega)]
  dsimp only
  rw [List.nil_append, decodeFrom_last hlt hlast hlast', hvalue]

/-- Three bytes are read as the character that they stand for. -/
lemma decodeFrom_three {v : ℕ} (hlo : 0x800 ≤ v) (hhi : v < 0x10000)
    (hvalid : v < 0xd800 ∨ 0xdfff < v) (bs : List UInt8) :
    decodeFrom none (UInt8.ofNat (v / 4096 % 16 + 224) :: UInt8.ofNat (v / 64 % 64 + 128) ::
      UInt8.ofNat (v % 64 + 128) :: bs) = Char.ofNat v :: decodeFrom none bs := by
  have hvalue : ((v / 4096 % 16 + 224 - 0xe0) * 64 + (v / 64 % 64 + 128 - 0x80)) * 64 +
      (v % 64 + 128 - 0x80) = v := by omega
  have hsecond : (if v / 4096 % 16 + 224 = 0xe0 then (0xa0 : UInt8) else 0x80).toNat ≤
      v / 64 % 64 + 128 := by
    split
    · simp
      omega
    · simp
  have hsecond' : v / 64 % 64 + 128 ≤
      (if v / 4096 % 16 + 224 = 0xed then (0x9f : UInt8) else 0xbf).toNat := by
    split <;> (simp; omega)
  obtain ⟨hlt, hlast, hlast'⟩ := trailing_bounds v
  rw [decodeFrom, leadByte_three (by omega) (by omega)]
  dsimp only
  rw [List.nil_append, decodeFrom_more (trailing_bounds (v / 64)).1 hsecond hsecond' 0,
    decodeFrom_last hlt hlast hlast', hvalue]

/-- Four bytes are read as the character that they stand for. -/
lemma decodeFrom_four {v : ℕ} (hlo : 0x10000 ≤ v) (hhi : v < 0x110000) (bs : List UInt8) :
    decodeFrom none (UInt8.ofNat (v / 262144 % 8 + 240) :: UInt8.ofNat (v / 4096 % 64 + 128) ::
      UInt8.ofNat (v / 64 % 64 + 128) :: UInt8.ofNat (v % 64 + 128) :: bs) =
      Char.ofNat v :: decodeFrom none bs := by
  have hvalue : (((v / 262144 % 8 + 240 - 0xf0) * 64 + (v / 4096 % 64 + 128 - 0x80)) * 64 +
      (v / 64 % 64 + 128 - 0x80)) * 64 + (v % 64 + 128 - 0x80) = v := by omega
  have hsecond : (if v / 262144 % 8 + 240 = 0xf0 then (0x90 : UInt8) else 0x80).toNat ≤
      v / 4096 % 64 + 128 := by
    split
    · simp
      omega
    · simp
  have hsecond' : v / 4096 % 64 + 128 ≤
      (if v / 262144 % 8 + 240 = 0xf4 then (0x8f : UInt8) else 0xbf).toNat := by
    split <;> (simp; omega)
  obtain ⟨hlt, hthird, hthird'⟩ := trailing_bounds (v / 64)
  obtain ⟨hlt', hlast, hlast'⟩ := trailing_bounds v
  rw [decodeFrom, leadByte_four (by omega) (by omega)]
  dsimp only
  rw [List.nil_append, decodeFrom_more (trailing_bounds (v / 4096)).1 hsecond hsecond' 1,
    decodeFrom_more hlt hthird hthird', decodeFrom_last hlt' hlast hlast', hvalue]

/-- The bytes of a character are read as the character, whatever follows. -/
lemma decodeFrom_encodeChar (c : Char) (bs : List UInt8) :
    decodeFrom none (String.utf8EncodeChar c ++ bs) = c :: decodeFrom none bs := by
  have hvalid : c.val.toNat < 0xd800 ∨ 0xdfff < c.val.toNat ∧ c.val.toNat < 0x110000 := c.valid
  have hchar : Char.ofNat c.val.toNat = c := Char.ofNat_toNat c
  unfold String.utf8EncodeChar
  dsimp only
  split
  · rw [List.singleton_append, decodeFrom, leadByte_one (by omega), hchar]
    rfl
  split
  · exact (decodeFrom_two (by omega) (by omega) bs).trans (by rw [hchar])
  split
  · exact (decodeFrom_three (by omega) (by omega) (by omega) bs).trans (by rw [hchar])
  · exact (decodeFrom_four (by omega) (by omega) bs).trans (by rw [hchar])

/-! ## The bytes of a text -/

/-- The bytes of characters are read as the characters. -/
lemma decodeFrom_flatMap_encodeChar (chars : List Char) :
    decodeFrom none (chars.flatMap String.utf8EncodeChar) = chars := by
  induction chars with
  | nil => rfl
  | cons c chars ih => rw [List.flatMap_cons, decodeFrom_encodeChar, ih]

/-- A character that is begun is read as some character. -/
lemma decodeFrom_some_ne_nil (p : Partial) (bs : List UInt8) : decodeFrom (some p) bs ≠ [] := by
  induction bs generalizing p with
  | nil => exact List.cons_ne_nil _ _
  | cons b bs ih =>
    rw [decodeFrom]
    split
    · dsimp only
      split
      · exact List.cons_ne_nil _ _
      · exact ih _
    · exact List.cons_ne_nil _ _

/-- Some bytes are read as some character. -/
lemma decodeFrom_cons_ne_nil (b : UInt8) (bs : List UInt8) : decodeFrom none (b :: bs) ≠ [] := by
  change (leadByte b).1 ++ decodeFrom (leadByte b).2 bs ≠ []
  have hlead : (leadByte b).1 ≠ [] ∨ ∃ p, (leadByte b).2 = some p := by
    unfold leadByte
    split_ifs <;> simp
  rcases hlead with hchars | ⟨p, hp⟩
  · exact List.append_ne_nil_of_left_ne_nil hchars _
  · rw [hp]
    exact List.append_ne_nil_of_right_ne_nil _ (decodeFrom_some_ne_nil p bs)

end Text

namespace ByteString

/-- The bytes of one string after another. -/
@[simp] lemma bytes_append (first second : ByteString) :
    (first ++ second).bytes = first.bytes ++ second.bytes := rfl

/-- Strings are put together in any grouping. -/
lemma append_assoc (first second third : ByteString) :
    first ++ second ++ third = first ++ (second ++ third) :=
  congrArg mk (List.append_assoc first.bytes second.bytes third.bytes)

/-- The empty string adds nothing. -/
lemma append_empty (name : ByteString) : name ++ ("" : ByteString) = name :=
  congrArg mk (List.append_nil name.bytes)

/-- Strings are put together as lists of bytes are. -/
lemma mk_append (first second : List UInt8) :
    (⟨first ++ second⟩ : ByteString) = ⟨first⟩ ++ ⟨second⟩ := rfl

/-- The bytes of two texts are put together as the texts are. -/
lemma ofString_append (first second : String) :
    ofString (first ++ second) = ofString first ++ ofString second := by
  rw [ofString, String.toList_append, List.flatMap_append, mk_append]
  rfl

/-- The bytes of a text are shown as the text. -/
@[simp] lemma lossy_ofString (text : String) : (ofString text).lossy = text := by
  rw [lossy, ofString, Text.decodeFrom_flatMap_encodeChar, String.ofList_toList]

/-- Different texts have different bytes. -/
lemma ofString_inj {text other : String} : ofString text = ofString other ↔ text = other := by
  refine ⟨fun h => ?_, congrArg ofString⟩
  rw [← lossy_ofString text, h, lossy_ofString]

/-- Only the empty string is shown as the empty text. -/
lemma lossy_eq_empty_iff {name : ByteString} : name.lossy = "" ↔ name = "" := by
  obtain ⟨_ | ⟨b, bs⟩⟩ := name
  · exact iff_of_true rfl rfl
  · have hshown : (⟨b :: bs⟩ : ByteString).lossy ≠ "" := by
      intro h
      rw [lossy, String.ofList_eq_empty_iff] at h
      exact Text.decodeFrom_cons_ne_nil b bs h
    exact iff_of_false hshown (by rintro ⟨⟩)

/-- The bytes are those of a text. -/
def IsText (name : ByteString) : Prop :=
  ∃ text : String, name = text

/-- The bytes of a text are those that come back from what is shown of them. -/
lemma isText_iff {name : ByteString} : name.IsText ↔ (name.lossy : ByteString) = name := by
  constructor
  · rintro ⟨text, rfl⟩
    rw [lossy_ofString]
  · exact fun h => ⟨name.lossy, h.symm⟩

instance (name : ByteString) : Decidable name.IsText :=
  decidable_of_iff _ isText_iff.symm

end ByteString

end LiterateLinks
