import Mathlib.Tactic.Common
import LiterateLinks.Json.Reader

/-!
# Written objects are read back

An object of strings is written without blanks, its members in order and with repetitions.  Reading
it gives the same members again, whatever the strings hold.

All readers go from left to right, so each lemma is about a text and an arbitrary rest behind it:
the reader takes the text, gives what was written and stops at the rest (`Json.Takes`).  The number
of bytes that it counts on its way only places faults, so it is left open.  The induction over the
characters of a string is the one of `readStringFrom`: every escape is read in one round.
-/

namespace LiterateLinks

namespace Json

open JsonValue (escapeChar hexDigit renderString)

variable {α : Type}

/-- The reader takes the text from the front of any source, gives the value and stops behind the
text. -/
def Takes (read : Cursor → Except Fault (α × Cursor)) (text : List Char) (value : α) : Prop :=
  ∀ rest offset, ∃ later, read ⟨text ++ rest, offset⟩ = .ok (value, ⟨rest, later⟩)

/-- What is written for some things is at least as long as there are things, if nothing is written
as nothing. -/
lemma length_le_length_flatMap {β : Type} {write : β → List Char} (h : ∀ x, write x ≠ [])
    (xs : List β) : xs.length ≤ (xs.flatMap write).length := by
  induction xs with
  | nil => simp
  | cons x xs ih =>
    have hpos : 0 < (write x).length := List.length_pos_iff.2 (h x)
    rw [List.flatMap_cons, List.length_append, List.length_cons]
    omega

/-! ## Strings -/

/-- No character is written as nothing. -/
lemma escapeChar_ne_nil (c : Char) : escapeChar c ≠ [] := by
  unfold escapeChar
  split_ifs <;> simp

/-- A hexadecimal digit is read as its value. -/
lemma hexValue?_hexDigit : ∀ n < 16, hexValue? (hexDigit n) = some n := by
  decide

/-- The number of a control character is read back. -/
lemma readUnicodeEscape_control {c : Char} (hc : c.toNat < 0x20) (rest : List Char) (offset : Nat) :
    readUnicodeEscape
        ⟨'0' :: '0' :: hexDigit (c.toNat / 16) :: hexDigit (c.toNat % 16) :: rest, offset⟩ =
      .ok (c, ⟨rest, offset + 4⟩) := by
  have hzero : hexValue? '0' = some 0 := by decide
  have hhigh : hexValue? (hexDigit (c.toNat / 16)) = some (c.toNat / 16) :=
    hexValue?_hexDigit _ (by omega)
  have hlow : hexValue? (hexDigit (c.toNat % 16)) = some (c.toNat % 16) :=
    hexValue?_hexDigit _ (by omega)
  have hnumber : c.toNat / 16 * 16 + c.toNat % 16 = c.toNat := by omega
  have hhex : readHex
        ⟨'0' :: '0' :: hexDigit (c.toNat / 16) :: hexDigit (c.toNat % 16) :: rest, offset⟩ =
      .ok (c.toNat, ⟨rest, offset + 4⟩) := by
    simp [readHex, hzero, hhigh, hlow, hnumber]
  have hlead : ¬ 0xdc00 ≤ c.toNat := by omega
  have hplain : c.toNat < 0xd800 := by omega
  unfold readUnicodeEscape
  rw [hhex]
  simp [bind, Except.bind, hlead, hplain, pure, Except.pure]

/-- What follows a backslash is read in one round. -/
lemma readStringFrom_backslash {c : Char} {text : List Char} {offset : Nat} {cur : Cursor}
    (h : readEscape ⟨text, offset + 1⟩ = .ok (c, cur)) (fuel : Nat) (content : List Char) :
    readStringFrom (fuel + 1) content ⟨'\\' :: text, offset⟩ =
      readStringFrom fuel (c :: content) cur := by
  have hnext : Cursor.next ⟨'\\' :: text, offset⟩ = ⟨text, offset + 1⟩ := rfl
  rw [readStringFrom]
  simp [hnext, h]

/-- A character as it is written is read in one round. -/
lemma readStringFrom_escapeChar (c : Char) (fuel : Nat) (content rest : List Char) (offset : Nat) :
    ∃ later, readStringFrom (fuel + 1) content ⟨escapeChar c ++ rest, offset⟩ =
      readStringFrom fuel (c :: content) ⟨rest, later⟩ := by
  unfold escapeChar
  split_ifs with hquote hslash hback hfeed hline hreturn htab hcontrol
  -- seven characters have escapes of their own
  iterate 7
    subst c
    exact ⟨_, readStringFrom_backslash rfl fuel content⟩
  · have hescape : readEscape ⟨'u' :: '0' :: '0' :: hexDigit (c.toNat / 16) ::
        hexDigit (c.toNat % 16) :: rest, offset + 1⟩ = .ok (c, ⟨rest, offset + 1 + 1 + 4⟩) :=
      readUnicodeEscape_control hcontrol rest (offset + 1 + 1)
    exact ⟨_, readStringFrom_backslash hescape fuel content⟩
  · refine ⟨offset + c.utf8Size, ?_⟩
    rw [List.singleton_append, readStringFrom]
    simp [hquote, hslash, hcontrol, Cursor.next]

/-- The characters of a string are read up to its closing quotation mark. -/
lemma readStringFrom_written (cs content rest : List Char) {fuel : Nat} (hfuel : cs.length < fuel)
    (offset : Nat) :
    ∃ later, readStringFrom fuel content ⟨cs.flatMap escapeChar ++ '"' :: rest, offset⟩ =
      .ok (String.ofList (content.reverse ++ cs), ⟨rest, later⟩) := by
  induction cs generalizing content fuel offset with
  | nil =>
    obtain ⟨fuel, rfl⟩ : ∃ n, fuel = n + 1 := Nat.exists_eq_succ_of_ne_zero (by omega)
    refine ⟨offset + 1, ?_⟩
    rw [readStringFrom, List.append_nil]
    rfl
  | cons c cs ih =>
    obtain ⟨fuel, rfl⟩ : ∃ n, fuel = n + 1 := Nat.exists_eq_succ_of_ne_zero (by omega)
    have hmore : cs.length < fuel := by
      rw [List.length_cons] at hfuel
      omega
    rw [List.flatMap_cons, List.append_assoc]
    obtain ⟨middle, hstep⟩ :=
      readStringFrom_escapeChar c fuel content (cs.flatMap escapeChar ++ '"' :: rest) offset
    obtain ⟨later, hrun⟩ := ih (c :: content) hmore middle
    refine ⟨later, ?_⟩
    rw [hstep, hrun, List.reverse_cons, List.append_assoc, List.singleton_append]

/-- A string as it is written, with its quotation marks. -/
lemma toList_renderString (s : String) :
    (renderString s).toList = '"' :: (s.toList.flatMap escapeChar ++ ['"']) := by
  simp [renderString]

/-- A string is read back from after its opening quotation mark. -/
lemma takes_readString (s : String) :
    Takes readString (s.toList.flatMap escapeChar ++ ['"']) s := by
  intro rest offset
  have hlength : s.toList.length ≤ (s.toList.flatMap escapeChar).length :=
    length_le_length_flatMap escapeChar_ne_nil s.toList
  have hfuel : s.toList.length <
      (s.toList.flatMap escapeChar ++ ['"'] ++ rest).length + 1 := by
    simp only [List.length_append]
    omega
  obtain ⟨later, hread⟩ := readStringFrom_written s.toList [] rest hfuel offset
  refine ⟨later, ?_⟩
  rw [readString]
  simpa using hread

/-- A string is read back as a value. -/
lemma takes_readValue (fuel depth : Nat) (s : String) :
    Takes (readValue (fuel + 1) depth) (renderString s).toList (.string s) := by
  intro rest offset
  obtain ⟨later, hread⟩ := takes_readString s rest (offset + 1)
  refine ⟨later, ?_⟩
  have hscalar : readScalar ⟨'"' :: (s.toList.flatMap escapeChar ++ ['"'] ++ rest), offset⟩ =
      .ok (some (.string s, ⟨rest, later⟩)) := by
    have hquote : readScalar ⟨'"' :: (s.toList.flatMap escapeChar ++ ['"'] ++ rest), offset⟩ =
        (readString ⟨s.toList.flatMap escapeChar ++ ['"'] ++ rest, offset + 1⟩).bind
          fun result => .ok (some (.string result.1, result.2)) := rfl
    rw [hquote, hread]
    rfl
  have hblanks : Cursor.skipBlanks ⟨'"' :: (s.toList.flatMap escapeChar ++ ['"'] ++ rest), offset⟩ =
      ⟨'"' :: (s.toList.flatMap escapeChar ++ ['"'] ++ rest), offset⟩ := rfl
  rw [toList_renderString, List.cons_append, readValue]
  simp only [hblanks, hscalar]
  rfl

/-! ## Members -/

/-- A member as it is written. -/
def writeMember (pair : String × String) : String :=
  renderString pair.1 ++ ":" ++ renderString pair.2

/-- An object of strings as it is written: all members in order, without blanks. -/
def writeObject (pairs : List (String × String)) : String :=
  "\x7b" ++ ",".intercalate (pairs.map writeMember) ++ "\x7d"

/-- The members of an object of strings. -/
def stringMembers (pairs : List (String × String)) : List (String × JsonValue) :=
  pairs.map fun pair => (pair.1, .string pair.2)

/-- Texts with commas between them are the first text and the others, each with a comma before
it. -/
lemma toList_intercalate_cons (text : String) (texts : List String) :
    (",".intercalate (text :: texts)).toList =
      text.toList ++ texts.flatMap fun other => ',' :: other.toList := by
  induction texts generalizing text with
  | nil => simp
  | cons next texts ih =>
    rw [String.intercalate_cons_cons, String.toList_append, String.toList_append, ih]
    simp

/-- The members behind the first one and the end of the object. -/
def writeOthers (pairs : List (String × String)) : List Char :=
  pairs.flatMap (fun pair => ',' :: (writeMember pair).toList) ++ ['\x7d']

/-- What stands before a member. -/
def lead (first : Bool) : List Char :=
  if first then [] else [',']

/-- The key of the next member is found behind the comma. -/
lemma exists_nextKey_eq (first : Bool) (text : List Char) (offset : Nat) :
    ∃ later,
      nextKey first ⟨lead first ++ '"' :: text, offset⟩ = .ok (true, ⟨'"' :: text, later⟩) := by
  cases first with
  | true => exact ⟨offset, rfl⟩
  | false => exact ⟨offset + 1, rfl⟩

/-- A member is read, and then the others. -/
lemma exists_readMembers_eq (pair : String × String) (fuel depth : Nat) (first : Bool)
    (rest : List Char) (offset : Nat) :
    ∃ later, readMembers (fuel + 2) depth first
        ⟨lead first ++ (writeMember pair).toList ++ rest, offset⟩ =
      (readMembers (fuel + 1) depth false ⟨rest, later⟩).bind
        fun result => .ok ((pair.1, .string pair.2) :: result.1, result.2) := by
  obtain ⟨key, location⟩ := pair
  have htext : lead first ++ (writeMember (key, location)).toList ++ rest = lead first ++
      '"' :: (key.toList.flatMap escapeChar ++ ['"'] ++
        ':' :: ((renderString location).toList ++ rest)) := by
    simp [writeMember, toList_renderString]
  obtain ⟨start, hnext⟩ := exists_nextKey_eq first
    (key.toList.flatMap escapeChar ++ ['"'] ++ ':' :: ((renderString location).toList ++ rest))
    offset
  obtain ⟨behind, hkey⟩ :=
    takes_readString key (':' :: ((renderString location).toList ++ rest)) (start + 1)
  have hcolon : readColon ⟨':' :: ((renderString location).toList ++ rest), behind⟩ =
      .ok ⟨(renderString location).toList ++ rest, behind + 1⟩ := rfl
  obtain ⟨later, hvalue⟩ := takes_readValue fuel depth location rest (behind + 1)
  have hquote (text : List Char) : Cursor.next ⟨'"' :: text, start⟩ = ⟨text, start + 1⟩ := rfl
  refine ⟨later, ?_⟩
  rw [htext, readMembers]
  simp only [hnext, bind, Except.bind, if_true, hquote, hkey, hcolon, hvalue]
  rfl

/-- The members of an object are read back, up to its closing brace. -/
lemma takes_readMembers (pairs : List (String × String)) (depth : Nat) {fuel : Nat}
    (hfuel : pairs.length < fuel) :
    Takes (readMembers fuel depth false) (writeOthers pairs) (stringMembers pairs) := by
  intro rest offset
  induction pairs generalizing fuel offset with
  | nil =>
    obtain ⟨fuel, rfl⟩ : ∃ n, fuel = n + 1 := Nat.exists_eq_succ_of_ne_zero (by omega)
    exact ⟨offset + 1, rfl⟩
  | cons pair pairs ih =>
    rw [List.length_cons] at hfuel
    obtain ⟨fuel, rfl⟩ : ∃ n, fuel = n + 2 := ⟨fuel - 2, by omega⟩
    have hmore : pairs.length < fuel + 1 := by omega
    have htext : writeOthers (pair :: pairs) ++ rest =
        lead false ++ (writeMember pair).toList ++ (writeOthers pairs ++ rest) := by
      simp [writeOthers, lead]
    obtain ⟨middle, hstep⟩ :=
      exists_readMembers_eq pair fuel depth false (writeOthers pairs ++ rest) offset
    obtain ⟨later, hrun⟩ := ih hmore middle
    refine ⟨later, ?_⟩
    rw [htext, hstep, hrun]
    rfl

/-! ## Objects -/

/-- A source that opens an object is read as far as its members are. -/
lemma parseObject_eq_ok {source : String} {text : List Char} {members : List (String × JsonValue)}
    {later : Nat} (hsource : source.toList = '\x7b' :: text)
    (h : readMembers (2 * source.toList.length + 2) maxDepth true ⟨text, 1⟩ =
      .ok (members, ⟨[], later⟩)) : parseObject source = .ok members := by
  have hblanks : Cursor.skipBlanks ⟨'\x7b' :: text, 0⟩ = ⟨'\x7b' :: text, 0⟩ := rfl
  have hscalar : readScalar ⟨'\x7b' :: text, 0⟩ = .ok none := rfl
  have hnext : Cursor.next ⟨'\x7b' :: text, 0⟩ = ⟨text, 1⟩ := rfl
  have hhead : (('\x7b' :: text).head? == some '[') = false := rfl
  rw [hsource] at h
  unfold parseObject
  rw [hsource]
  simp only [hblanks, hscalar, hhead, hnext, h, bind, Except.bind]
  rfl

/-- An object with a first member, as it is written. -/
lemma toList_writeObject_cons (pair : String × String) (pairs : List (String × String)) :
    (writeObject (pair :: pairs)).toList =
      '\x7b' :: (lead true ++ (writeMember pair).toList ++ writeOthers pairs) := by
  rw [writeObject, String.toList_append, String.toList_append, List.map_cons,
    toList_intercalate_cons]
  simp [lead, writeOthers, List.flatMap_map]

/-- An object of strings is read back with all its members. -/
lemma parseObject_writeObject (pairs : List (String × String)) :
    parseObject (writeObject pairs) = .ok (stringMembers pairs) := by
  cases pairs with
  | nil => rfl
  | cons pair pairs =>
    have hsource := toList_writeObject_cons pair pairs
    have hlength : pairs.length ≤
        (pairs.flatMap fun pair => ',' :: (writeMember pair).toList).length :=
      length_le_length_flatMap (fun pair => List.cons_ne_nil _ _) pairs
    have hfuel : pairs.length < 2 * (writeObject (pair :: pairs)).toList.length + 1 := by
      rw [hsource, writeOthers]
      simp only [List.length_cons, List.length_append]
      omega
    obtain ⟨middle, hstep⟩ := exists_readMembers_eq pair
      (2 * (writeObject (pair :: pairs)).toList.length) maxDepth true (writeOthers pairs) 1
    obtain ⟨later, hrun⟩ := takes_readMembers pairs maxDepth hfuel [] middle
    rw [List.append_nil] at hrun
    rw [hrun] at hstep
    exact parseObject_eq_ok hsource hstep

end Json

end LiterateLinks
