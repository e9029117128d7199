import Mathlib.Data.List.Basic
import Palette.Text.Utf8

/-!
# Which bytes are a text

Bytes are read as the text that they are the coding of, and bytes that are the coding of no
text are refused (`decodeUtf8_eq_ok_iff`).  The automaton looks at one byte at a time, so its
answer is compared with the coding of one character at a time: `Utf8Sequence` lists the
sequences of one to four bytes with their code points.  It has just the codings of characters
(`Utf8Sequence.utf8EncodeChar_eq`, `utf8Sequence_utf8EncodeChar`).  The automaton reads such a
sequence as its character (`Utf8Sequence.decodeFrom_append`), and what it reads begins with one
(`exists_utf8Sequence_of_decodeFrom`).

The line ends of a text are unified from left to right, where a carriage return takes a line
feed behind it along (`UnifiesLines`).
-/

namespace Palette.Text

/-! ## The sequence of a character -/

/-- The byte goes on with a sequence. -/
def Continues (byte : UInt8) : Prop :=
  0x80 ≤ byte.toNat ∧ byte.toNat ≤ 0xBF

/-- The bytes are the sequence of a code point.  After some first bytes, the range of the second
one is narrower: it leaves out code points that have a shorter sequence, halves of pairs, and what
lies past the last code point. -/
inductive Utf8Sequence : List UInt8 → Nat → Prop
  | one {first : UInt8} {code : Nat} (hfirst : first.toNat < 0x80) (hcode : code = first.toNat) :
      Utf8Sequence [first] code
  | two {first second : UInt8} {code : Nat} (hfirst : 0xC2 ≤ first.toNat ∧ first.toNat < 0xE0)
      (hsecond : Continues second)
      (hcode : code = (first.toNat - 0xC0) * 64 + (second.toNat - 0x80)) :
      Utf8Sequence [first, second] code
  | three {first second third : UInt8} {code : Nat}
      (hfirst : 0xE0 ≤ first.toNat ∧ first.toNat < 0xF0) (hsecond : Continues second)
      (hlow : first.toNat = 0xE0 → 0xA0 ≤ second.toNat)
      (hhigh : first.toNat = 0xED → second.toNat ≤ 0x9F) (hthird : Continues third)
      (hcode : code = ((first.toNat - 0xE0) * 64 + (second.toNat - 0x80)) * 64 +
        (third.toNat - 0x80)) :
      Utf8Sequence [first, second, third] code
  | four {first second third fourth : UInt8} {code : Nat}
      (hfirst : 0xF0 ≤ first.toNat ∧ first.toNat < 0xF5) (hsecond : Continues second)
      (hlow : first.toNat = 0xF0 → 0x90 ≤ second.toNat)
      (hhigh : first.toNat = 0xF4 → second.toNat ≤ 0x8F) (hthird : Continues third)
      (hfourth : Continues fourth)
      (hcode : code = (((first.toNat - 0xF0) * 64 + (second.toNat - 0x80)) * 64 +
        (third.toNat - 0x80)) * 64 + (fourth.toNat - 0x80)) :
      Utf8Sequence [first, second, third, fourth] code

variable {bytes rest : List UInt8} {code position : Nat} {done result : List Char}

theorem Utf8Sequence.isValidChar (hsequence : Utf8Sequence bytes code) : code.isValidChar := by
  unfold Nat.isValidChar
  cases hsequence with
  | one hfirst hcode => omega
  | two hfirst hsecond hcode =>
      unfold Continues at hsecond
      omega
  | three hfirst hsecond hlow hhigh hthird hcode =>
      unfold Continues at hsecond hthird
      omega
  | four hfirst hsecond hlow hhigh hthird hfourth hcode =>
      unfold Continues at hsecond hthird hfourth
      omega

theorem toNat_val_ofNat (hvalid : code.isValidChar) : (Char.ofNat code).val.toNat = code := by
  rw [Char.ofNat, dif_pos hvalid]
  rfl

theorem ofNat_eq_of_toNat_eq {byte : UInt8} (hcode : code = byte.toNat) :
    UInt8.ofNat code = byte := by
  rw [hcode, UInt8.ofNat_toNat]

/-- A sequence is the coding of its code point. -/
theorem Utf8Sequence.utf8EncodeChar_eq (hsequence : Utf8Sequence bytes code) :
    String.utf8EncodeChar (Char.ofNat code) = bytes := by
  unfold String.utf8EncodeChar
  rw [toNat_val_ofNat hsequence.isValidChar]
  dsimp only
  cases hsequence with
  | @one first _ hfirst hcode =>
      rw [if_pos (by omega), ofNat_eq_of_toNat_eq hcode]
  | @two first second _ hfirst hsecond hcode =>
      unfold Continues at hsecond
      rw [if_neg (by omega), if_pos (by omega), @ofNat_eq_of_toNat_eq _ first (by omega),
        @ofNat_eq_of_toNat_eq _ second (by omega)]
  | @three first second third _ hfirst hsecond hlow hhigh hthird hcode =>
      unfold Continues at hsecond hthird
      rw [if_neg (by omega), if_neg (by omega), if_pos (by omega),
        @ofNat_eq_of_toNat_eq _ first (by omega), @ofNat_eq_of_toNat_eq _ second (by omega),
        @ofNat_eq_of_toNat_eq _ third (by omega)]
  | @four first second third fourth _ hfirst hsecond hlow hhigh hthird hfourth hcode =>
      unfold Continues at hsecond hthird hfourth
      rw [if_neg (by omega), if_neg (by omega), if_neg (by omega),
        @ofNat_eq_of_toNat_eq _ first (by omega), @ofNat_eq_of_toNat_eq _ second (by omega),
        @ofNat_eq_of_toNat_eq _ third (by omega), @ofNat_eq_of_toNat_eq _ fourth (by omega)]

theorem toNat_ofNat_of_lt {code : Nat} (hcode : code < 256) : (UInt8.ofNat code).toNat = code := by
  rw [UInt8.toNat_ofNat', Nat.mod_eq_of_lt hcode]

/-- The coding of a character is a sequence. -/
theorem utf8Sequence_utf8EncodeChar (character : Char) :
    Utf8Sequence (String.utf8EncodeChar character) character.toNat := by
  have hvalid : character.toNat < 0xD800 ∨
      0xDFFF < character.toNat ∧ character.toNat < 0x110000 := character.valid
  have hcode : character.val.toNat = character.toNat := rfl
  unfold String.utf8EncodeChar
  rw [hcode]
  generalize character.toNat = code at hvalid
  -- a byte holds the digit of the code to the base 64, and the first one what is left of it
  have hlast := @toNat_ofNat_of_lt (code % 64 + 128) (by omega)
  have hsixths := @toNat_ofNat_of_lt (code / 64 % 64 + 128) (by omega)
  dsimp only
  split
  · have hfirst := @toNat_ofNat_of_lt code (by omega)
    exact .one (by omega) (by omega)
  split
  · have hfirst := @toNat_ofNat_of_lt (code / 64 % 32 + 192) (by omega)
    exact .two (by omega) ⟨by omega, by omega⟩ (by omega)
  split
  · have hfirst := @toNat_ofNat_of_lt (code / 4096 % 16 + 224) (by omega)
    exact .three (by omega) ⟨by omega, by omega⟩ (by omega) (by omega) ⟨by omega, by omega⟩
      (by omega)
  · have hfirst := @toNat_ofNat_of_lt (code / 262144 % 8 + 240) (by omega)
    have hsecond := @toNat_ofNat_of_lt (code / 4096 % 64 + 128) (by omega)
    exact .four (by omega) ⟨by omega, by omega⟩ (by omega) (by omega) ⟨by omega, by omega⟩
      ⟨by omega, by omega⟩ (by omega)

/-! ## Reading a sequence -/

namespace Utf8Pending

variable {sequence : Utf8Pending} {byte : UInt8}

/-- The byte may be the next one of the sequence. -/
def Takes (sequence : Utf8Pending) (byte : UInt8) : Prop :=
  sequence.low.toNat ≤ byte.toNat ∧ byte.toNat ≤ sequence.high.toNat

/-- The sequence with one more byte. -/
def after (sequence : Utf8Pending) (byte : UInt8) : Utf8Pending :=
  ⟨sequence.start, sequence.first, sequence.bits * 64 + (byte.toNat - 0x80),
    sequence.missing - 1, 0x80, 0xBF⟩

theorem decodeFrom_last (htakes : sequence.Takes byte) (hmissing : sequence.missing ≤ 1) :
    decodeFrom position (some sequence) done (byte :: rest) =
      decodeFrom (position + 1) none (Char.ofNat (sequence.after byte).bits :: done) rest :=
  (if_pos htakes).trans (if_pos hmissing)

theorem decodeFrom_inner (htakes : sequence.Takes byte) (hmissing : 1 < sequence.missing) :
    decodeFrom position (some sequence) done (byte :: rest) =
      decodeFrom (position + 1) (some (sequence.after byte)) done rest :=
  (if_pos htakes).trans (if_neg (Nat.not_le.2 hmissing))

/-- Where a sequence is pending, another byte of it must follow. -/
theorem exists_takes (hok : decodeFrom position (some sequence) done bytes = .ok result) :
    ∃ byte rest, bytes = byte :: rest ∧ sequence.Takes byte := by
  cases bytes with
  | nil => cases hok
  | cons byte rest =>
      rw [decodeFrom] at hok
      split at hok
      · rename_i htakes
        exact ⟨byte, rest, rfl, htakes⟩
      · cases hok

end Utf8Pending

/-- What is pending behind a first byte that leaves `missing` bytes to come: the second one is no
less than `low` behind one first byte, and no greater than `high` behind another one. -/
def narrowed (position : Nat) (first : UInt8) (base missing : Nat)
    (lowFirst low highFirst high : UInt8) : Utf8Pending :=
  ⟨position, first, first.toNat - base, missing, if first = lowFirst then low else 0x80,
    if first = highFirst then high else 0xBF⟩

section

variable {first second lowFirst low highFirst high : UInt8} {base missing : Nat}

theorem takes_narrowed_iff (hlow : 0x80 ≤ low.toNat) (hhigh : high.toNat ≤ 0xBF) :
    (narrowed position first base missing lowFirst low highFirst high).Takes second ↔
      Continues second ∧ (first.toNat = lowFirst.toNat → low.toNat ≤ second.toNat) ∧
        (first.toNat = highFirst.toNat → second.toNat ≤ high.toNat) := by
  have hleast : (0x80 : UInt8).toNat = 0x80 := rfl
  have hgreatest : (0xBF : UInt8).toNat = 0xBF := rfl
  simp only [narrowed, Utf8Pending.Takes, Continues, ← UInt8.toNat_inj]
  split <;> split <;> omega

theorem startSequence_eq (position : Nat) (first : UInt8) :
    startSequence position first =
      if first.toNat < 0x80 then some (.inl (Char.ofNat first.toNat))
      else if first.toNat < 0xC2 then none
      else if first.toNat < 0xE0 then
        some (.inr ⟨position, first, first.toNat - 0xC0, 1, 0x80, 0xBF⟩)
      else if first.toNat < 0xF0 then
        some (.inr (narrowed position first 0xE0 2 0xE0 0xA0 0xED 0x9F))
      else if first.toNat < 0xF5 then
        some (.inr (narrowed position first 0xF0 3 0xF0 0x90 0xF4 0x8F))
      else none := rfl

theorem startSequence_two (hfirst : 0xC2 ≤ first.toNat ∧ first.toNat < 0xE0) :
    startSequence position first =
      some (.inr ⟨position, first, first.toNat - 0xC0, 1, 0x80, 0xBF⟩) := by
  rw [startSequence_eq, if_neg (by omega), if_neg (by omega), if_pos hfirst.2]

theorem startSequence_three (hfirst : 0xE0 ≤ first.toNat ∧ first.toNat < 0xF0) :
    startSequence position first =
      some (.inr (narrowed position first 0xE0 2 0xE0 0xA0 0xED 0x9F)) := by
  rw [startSequence_eq, if_neg (by omega), if_neg (by omega), if_neg (by omega), if_pos hfirst.2]

theorem startSequence_four (hfirst : 0xF0 ≤ first.toNat ∧ first.toNat < 0xF5) :
    startSequence position first =
      some (.inr (narrowed position first 0xF0 3 0xF0 0x90 0xF4 0x8F)) := by
  rw [startSequence_eq, if_neg (by omega), if_neg (by omega), if_neg (by omega),
    if_neg (by omega), if_pos hfirst.2]

theorem takes_second_of_three_iff :
    (narrowed position first 0xE0 2 0xE0 0xA0 0xED 0x9F).Takes second ↔
      Continues second ∧ (first.toNat = 0xE0 → 0xA0 ≤ second.toNat) ∧
        (first.toNat = 0xED → second.toNat ≤ 0x9F) :=
  takes_narrowed_iff (by decide) (by decide)

theorem takes_second_of_four_iff :
    (narrowed position first 0xF0 3 0xF0 0x90 0xF4 0x8F).Takes second ↔
      Continues second ∧ (first.toNat = 0xF0 → 0x90 ≤ second.toNat) ∧
        (first.toNat = 0xF4 → second.toNat ≤ 0x8F) :=
  takes_narrowed_iff (by decide) (by decide)

end

/-- A sequence is read as its character, whatever follows. -/
theorem Utf8Sequence.decodeFrom_append (hsequence : Utf8Sequence bytes code) (position : Nat)
    (done : List Char) (rest : List UInt8) :
    decodeFrom position none done (bytes ++ rest) =
      decodeFrom (position + bytes.length) none (Char.ofNat code :: done) rest := by
  cases hsequence with
  | one hfirst hcode =>
      rw [List.cons_append, decodeFrom, startSequence_eq, if_pos hfirst, hcode]
      rfl
  | two hfirst hsecond hcode =>
      rw [List.cons_append, decodeFrom, startSequence_two hfirst, hcode]
      exact Utf8Pending.decodeFrom_last hsecond (Nat.le_refl 1)
  | @three first second third _ hfirst hsecond hlow hhigh hthird hcode =>
      have htakes : (narrowed position first 0xE0 2 0xE0 0xA0 0xED 0x9F).Takes second :=
        takes_second_of_three_iff.2 ⟨hsecond, hlow, hhigh⟩
      rw [List.cons_append, decodeFrom, startSequence_three hfirst, hcode]
      exact (Utf8Pending.decodeFrom_inner htakes Nat.one_lt_two).trans
        (Utf8Pending.decodeFrom_last hthird (Nat.le_refl 1))
  | @four first second third fourth _ hfirst hsecond hlow hhigh hthird hfourth hcode =>
      have htakes : (narrowed position first 0xF0 3 0xF0 0x90 0xF4 0x8F).Takes second :=
        takes_second_of_four_iff.2 ⟨hsecond, hlow, hhigh⟩
      have hthirdTakes : (Utf8Pending.after (narrowed position first 0xF0 3 0xF0 0x90 0xF4 0x8F)
          second).Takes third := hthird
      have hthree : 1 < 3 := Nat.lt_of_sub_eq_succ rfl
      rw [List.cons_append, decodeFrom, startSequence_four hfirst, hcode]
      exact (Utf8Pending.decodeFrom_inner htakes hthree).trans
        ((Utf8Pending.decodeFrom_inner hthirdTakes Nat.one_lt_two).trans
          (Utf8Pending.decodeFrom_last hfourth (Nat.le_refl 1)))

/-- What is read begins with a sequence. -/
theorem exists_utf8Sequence_of_decodeFrom {first : UInt8}
    (hok : decodeFrom position none done (first :: rest) = .ok result) :
    ∃ bytes left code, first :: rest = bytes ++ left ∧ Utf8Sequence bytes code := by
  rw [decodeFrom] at hok
  -- the first byte says how many there are, and each of them is asked for in turn
  by_cases hone : first.toNat < 0x80
  · exact ⟨[first], rest, _, rfl, .one hone rfl⟩
  by_cases hinner : first.toNat < 0xC2
  · rw [startSequence_eq, if_neg hone, if_pos hinner] at hok
    cases hok
  by_cases htwo : first.toNat < 0xE0
  · have hfirst := And.intro (Nat.not_lt.1 hinner) htwo
    rw [startSequence_two hfirst] at hok
    obtain ⟨second, left, rfl, hsecond⟩ := Utf8Pending.exists_takes hok
    exact ⟨[first, second], left, _, rfl, .two hfirst hsecond rfl⟩
  by_cases hthree : first.toNat < 0xF0
  · have hfirst := And.intro (Nat.not_lt.1 htwo) hthree
    rw [startSequence_three hfirst] at hok
    obtain ⟨second, left, rfl, htakes⟩ := Utf8Pending.exists_takes hok
    obtain ⟨hsecond, hlow, hhigh⟩ := takes_second_of_three_iff.1 htakes
    obtain ⟨third, left, rfl, hthird⟩ :=
      Utf8Pending.exists_takes ((Utf8Pending.decodeFrom_inner htakes Nat.one_lt_two).symm.trans hok)
    exact ⟨[first, second, third], left, _, rfl, .three hfirst hsecond hlow hhigh hthird rfl⟩
  by_cases hfour : first.toNat < 0xF5
  · have hfirst := And.intro (Nat.not_lt.1 hthree) hfour
    rw [startSequence_four hfirst] at hok
    obtain ⟨second, left, rfl, htakes⟩ := Utf8Pending.exists_takes hok
    obtain ⟨hsecond, hlow, hhigh⟩ := takes_second_of_four_iff.1 htakes
    have hthree : 1 < 3 := Nat.lt_of_sub_eq_succ rfl
    have hbehind := (Utf8Pending.decodeFrom_inner htakes hthree).symm.trans hok
    obtain ⟨third, left, rfl, hthird⟩ := Utf8Pending.exists_takes hbehind
    obtain ⟨fourth, left, rfl, hfourth⟩ :=
      Utf8Pending.exists_takes
        ((Utf8Pending.decodeFrom_inner hthird Nat.one_lt_two).symm.trans hbehind)
    exact ⟨[first, second, third, fourth], left, _, rfl,
      .four hfirst hsecond hlow hhigh hthird hfourth rfl⟩
  · rw [startSequence_eq, if_neg hone, if_neg hinner, if_neg htwo, if_neg hthree,
      if_neg hfour] at hok
    cases hok

/-! ## Reading a text -/

theorem exists_of_decodeFrom_eq_ok (hok : decodeFrom position none done bytes = .ok result) :
    ∃ characters : List Char, bytes = characters.flatMap String.utf8EncodeChar ∧
      result = done.reverse ++ characters := by
  -- a sequence takes one to four bytes, so the induction is on how many there are
  induction hlength : bytes.length using Nat.strongRecOn generalizing bytes position done with
  | ind length ih =>
      cases bytes with
      | nil =>
          cases hok
          exact ⟨[], rfl, (List.append_nil _).symm⟩
      | cons first rest =>
          obtain ⟨sequence, left, code, hsplit, hsequence⟩ :=
            exists_utf8Sequence_of_decodeFrom hok
          rw [hsplit, hsequence.decodeFrom_append] at hok
          have hshorter : left.length < length := by
            have hlong : 0 < sequence.length := by cases hsequence <;> simp
            rw [← hlength, hsplit, List.length_append]
            omega
          obtain ⟨characters, rfl, rfl⟩ := ih _ hshorter hok rfl
          refine ⟨Char.ofNat code :: characters, ?_, ?_⟩
          · rw [hsplit, List.flatMap_cons, hsequence.utf8EncodeChar_eq]
          · rw [List.reverse_cons, List.append_assoc, List.singleton_append]

theorem decodeFrom_flatMap (characters : List Char) (position : Nat) (done : List Char) :
    decodeFrom position none done (characters.flatMap String.utf8EncodeChar) =
      .ok (done.reverse ++ characters) := by
  induction characters generalizing position done with
  | nil => rw [List.append_nil]; rfl
  | cons character characters ih =>
      rw [List.flatMap_cons, (utf8Sequence_utf8EncodeChar character).decodeFrom_append,
        Char.ofNat_toNat, ih, List.reverse_cons, List.append_assoc, List.singleton_append]

/-- Bytes are read as the text that they are the coding of. -/
theorem decodeUtf8_eq_ok_iff {characters : List Char} :
    decodeUtf8 bytes = .ok characters ↔ bytes = characters.flatMap String.utf8EncodeChar := by
  constructor
  · intro hok
    obtain ⟨same, hbytes, rfl⟩ := exists_of_decodeFrom_eq_ok hok
    exact hbytes
  · rintro rfl
    exact decodeFrom_flatMap characters 0 []

/-- The bytes are the coding of a text. -/
def IsUtf8 (bytes : List UInt8) : Prop :=
  ∃ characters : List Char, bytes = characters.flatMap String.utf8EncodeChar

/-- Bytes are refused exactly if they are the coding of no text. -/
theorem exists_decodeUtf8_eq_error_iff :
    (∃ fault, decodeUtf8 bytes = .error fault) ↔ ¬ IsUtf8 bytes := by
  simp only [IsUtf8, ← decodeUtf8_eq_ok_iff]
  cases decodeUtf8 bytes with
  | ok characters => simp
  | error fault => simp

/-! ## Line ends -/

/-- The second text is the first one with a line feed for each of its line ends, which are a
carriage return, alone or with a line feed behind it, and a line feed. -/
inductive UnifiesLines : List Char → List Char → Prop
  | nil : UnifiesLines [] []
  | pair {raw text : List Char} (hrest : UnifiesLines raw text) :
      UnifiesLines ('\r' :: '\n' :: raw) ('\n' :: text)
  | alone {raw text : List Char} (hnext : raw.head? ≠ some '\n') (hrest : UnifiesLines raw text) :
      UnifiesLines ('\r' :: raw) ('\n' :: text)
  | other {character : Char} {raw text : List Char} (hother : character ≠ '\r')
      (hrest : UnifiesLines raw text) : UnifiesLines (character :: raw) (character :: text)

/-- The line feeds of a text that stands behind a character. -/
def lineFeedsBehind (before : Option Char) (characters : List Char) : List Char :=
  (characters.zip (before :: characters.map some)).filterMap fun (character, before) =>
    if character = '\n' ∧ before = some '\r' then none
    else some (if character = '\r' then '\n' else character)

section

variable {before : Option Char} {raw text : List Char}

theorem lineFeedsBehind_cons_of_pair :
    lineFeedsBehind (some '\r') ('\n' :: raw) = lineFeedsBehind (some '\n') raw :=
  List.filterMap_cons_none rfl

theorem lineFeedsBehind_cons {character : Char}
    (hpair : ¬ (character = '\n' ∧ before = some '\r')) :
    lineFeedsBehind before (character :: raw) =
      (if character = '\r' then '\n' else character) :: lineFeedsBehind (some character) raw :=
  List.filterMap_cons_some (if_neg hpair)

/-- A line feed at the start of the text must not belong to a carriage return before it. -/
theorem UnifiesLines.lineFeedsBehind_eq (hunifies : UnifiesLines raw text)
    (hstart : before = some '\r' → raw.head? ≠ some '\n') : lineFeedsBehind before raw = text := by
  induction hunifies generalizing before with
  | nil => rfl
  | pair _ ih =>
      rw [lineFeedsBehind_cons (by simp), lineFeedsBehind_cons_of_pair, ih (by simp), if_pos rfl]
  | alone hnext _ ih => rw [lineFeedsBehind_cons (by simp), ih fun _ => hnext, if_pos rfl]
  | other hother _ ih =>
      have hpair : ¬ (_ ∧ _) := fun hpair => hstart hpair.2 (congrArg some hpair.1)
      rw [lineFeedsBehind_cons hpair, ih fun hbefore => absurd (Option.some.inj hbefore) hother,
        if_neg hother]

theorem exists_unifiesLines : ∀ raw : List Char, ∃ text, UnifiesLines raw text
  | [] => ⟨[], .nil⟩
  | [character] => by
      by_cases hreturn : character = '\r'
      · exact ⟨['\n'], hreturn ▸ .alone nofun .nil⟩
      · exact ⟨[character], .other hreturn .nil⟩
  | character :: next :: raw => by
      -- a pair goes on two characters further on, everything else at the next one
      obtain ⟨behind, hbehind⟩ := exists_unifiesLines (next :: raw)
      by_cases hreturn : character = '\r'
      · by_cases hnext : next = '\n'
        · obtain ⟨text, hrest⟩ := exists_unifiesLines raw
          exact ⟨'\n' :: text, hreturn ▸ hnext ▸ .pair hrest⟩
        · have hhead : (next :: raw).head? ≠ some '\n' := fun hsame =>
            hnext (Option.some.inj hsame)
          exact ⟨'\n' :: behind, hreturn ▸ .alone hhead hbehind⟩
      · exact ⟨character :: behind, .other hreturn hbehind⟩

theorem unifiesLines_iff : UnifiesLines raw text ↔ text = lineFeeds raw := by
  have hunique : ∀ {other}, UnifiesLines raw other → lineFeeds raw = other :=
    fun hunifies => @UnifiesLines.lineFeedsBehind_eq none _ _ hunifies nofun
  constructor
  · exact fun hunifies => (hunique hunifies).symm
  · rintro rfl
    obtain ⟨text, hunifies⟩ := exists_unifiesLines raw
    rwa [hunique hunifies]

end

end Palette.Text
