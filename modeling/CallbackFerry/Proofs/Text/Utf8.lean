import CallbackFerry.Text.Utf8
import Mathlib.Data.List.Infix
import Mathlib.Tactic.IntervalCases
import Mathlib.Tactic.SplitIfs

/-!
# Reading bytes that need not be text

`Lossy` is the rule for reading any bytes as text: a character that is written out is kept, and
where none is, the longest piece with which a character begins becomes a replacement character, or a
single byte if no character begins with it.  How a character is written is the library's
`String.utf8EncodeChar`.

`decodeLossy_eq_iff` says that `decodeLossy` follows this rule, and that the rule leaves no choice.
What the decoder knows in the middle of a character is `Promise`: which characters begin with the
bytes read so far, and that each value of the next byte within the range, and no other, goes on with
one of them.  Every byte within the range keeps the promise (`Promise.next`, `Promise.last`), and a
byte out of it ends the longest piece (`Promise.broken`).
-/

namespace CallbackFerry.Utf8

/-! ### How characters are written -/

/-- A number without its last groups of six bits. -/
def upper : (groups value : Nat) → Nat
  | 0, value => value
  | groups + 1, value => upper groups value / 64

/-- The bytes for the last groups of six bits of a number. -/
def tail : (groups value : Nat) → Bytes
  | 0, _ => []
  | groups + 1, value => UInt8.ofNat (0x80 + upper groups value % 64) :: tail groups value

theorem exists_upper (groups top : Nat) : ∃ value, upper groups value = top := by
  induction groups generalizing top with
  | zero => exact ⟨top, rfl⟩
  | succ groups ih =>
    obtain ⟨value, known⟩ := ih (top * 64)
    exact ⟨value, by rw [upper, known, Nat.mul_div_cancel _ (by decide)]⟩

theorem toNat_ofNat {n : Nat} (small : n < 256) : (UInt8.ofNat n).toNat = n :=
  UInt8.toNat_ofNat_of_lt' small

theorem eq_ofNat_iff {byte : UInt8} {value : Nat} :
    byte = UInt8.ofNat (0x80 + value % 64) ↔ byte.toNat = 0x80 + value % 64 := by
  rw [← UInt8.toNat_inj, toNat_ofNat (by omega)]

/-- A character's number is no surrogate. -/
theorem scalar (c : Char) : c.toNat < 0xD800 ∨ 0xDFFF < c.toNat ∧ c.toNat < 0x110000 :=
  c.valid

theorem exists_char (value : Nat) (valid : value < 0xD800 ∨ 0xDFFF < value ∧ value < 0x110000) :
    ∃ c : Char, c.toNat = value :=
  ⟨Char.ofNatAux value valid, rfl⟩

/-- The least number of a character with so many groups of six bits behind its first byte; from four
groups on, the least number of no character. -/
def least : (groups : Nat) → Nat
  | 0 => 0
  | 1 => 0x80
  | 2 => 0x800
  | 3 => 0x10000
  | _ => 0x110000

/-- The bits that tell in the first byte how many groups are behind it. -/
def mark : (groups : Nat) → Nat
  | 0 => 0
  | 1 => 0xC0
  | 2 => 0xE0
  | 3 => 0xF0
  | _ => 0xF8

theorem eq_of_least {groups others value : Nat} (few : groups ≤ 3) (few' : others ≤ 3)
    (size : least groups ≤ value ∧ value < least (groups + 1))
    (size' : least others ≤ value ∧ value < least (others + 1)) : groups = others := by
  interval_cases groups <;> interval_cases others <;> simp only [least] at size size' <;> omega

theorem eq_of_mark {groups others value : Nat} (few : groups ≤ 3) (few' : others ≤ 3)
    (first : mark groups ≤ value ∧ value < mark (groups + 1))
    (first' : mark others ≤ value ∧ value < mark (others + 1)) : groups = others := by
  interval_cases groups <;> interval_cases others <;> simp only [mark] at first first' <;> omega

/-- How a character is written with so many groups of six bits. -/
structure Written (c : Char) (groups : Nat) : Prop where
  /-- There are three groups at the most. -/
  few : groups ≤ 3
  /-- It has no fewer groups than it needs, and no more. -/
  size : least groups ≤ c.toNat ∧ c.toNat < least (groups + 1)
  /-- The bits in front of the groups are in the first byte. -/
  form : String.utf8EncodeChar c =
    UInt8.ofNat (mark groups + upper groups c.toNat) :: tail groups c.toNat

theorem exists_written (c : Char) : ∃ groups, Written c groups := by
  have scalar := scalar c
  have same : c.val.toNat = c.toNat := rfl
  by_cases one : c.toNat < 0x80
  · refine ⟨0, by decide, by simp only [least]; omega, ?_⟩
    simp only [String.utf8EncodeChar, same, mark, upper, tail, Nat.zero_add]
    rw [if_pos (by omega)]
  · by_cases two : c.toNat < 0x800
    · refine ⟨1, by decide, by simp only [least]; omega, ?_⟩
      simp only [String.utf8EncodeChar, same, mark, upper, tail, Nat.add_comm 0x80,
        Nat.add_comm 0xC0]
      rw [if_neg (by omega), if_pos (by omega), Nat.mod_eq_of_lt (by omega : c.toNat / 64 < 0x20)]
    · by_cases three : c.toNat < 0x10000
      · refine ⟨2, by decide, by simp only [least]; omega, ?_⟩
        simp only [String.utf8EncodeChar, same, mark, upper, tail, Nat.add_comm 0x80,
          Nat.add_comm 0xE0, Nat.div_div_eq_div_mul]
        rw [if_neg (by omega), if_neg (by omega), if_pos (by omega),
          Nat.mod_eq_of_lt (by omega : c.toNat / 4096 < 0x10)]
      · refine ⟨3, by decide, by simp only [least]; omega, ?_⟩
        simp only [String.utf8EncodeChar, same, mark, upper, tail, Nat.add_comm 0x80,
          Nat.add_comm 0xF0, Nat.div_div_eq_div_mul]
        rw [if_neg (by omega), if_neg (by omega), if_neg (by omega),
          Nat.mod_eq_of_lt (by omega : c.toNat / 262144 < 0x08)]

/-- The first byte of a character holds the bits in front of its groups, below a mark of how many
groups there are. -/
theorem Written.first {c : Char} {groups : Nat} {byte : UInt8} (written : Written c groups)
    (begins : [byte] <+: String.utf8EncodeChar c) :
    byte.toNat = mark groups + upper groups c.toNat ∧ byte.toNat < mark (groups + 1) ∧
      String.utf8EncodeChar c = byte :: tail groups c.toNat := by
  obtain ⟨few, size, form⟩ := written
  have small : mark groups + upper groups c.toNat < mark (groups + 1) := by
    interval_cases groups <;> simp only [least, mark, upper] at size ⊢ <;> omega
  have most : mark (groups + 1) ≤ 0xF8 := by
    interval_cases groups <;> decide
  rw [form, List.singleton_prefix_cons_iff] at begins
  have number : byte.toNat = mark groups + upper groups c.toNat := by
    rw [begins, toNat_ofNat (by omega)]
  exact ⟨number, by omega, begins ▸ form⟩

theorem encode_ne_nil (c : Char) : String.utf8EncodeChar c ≠ [] := by
  rw [← List.length_pos_iff, String.length_utf8EncodeChar]
  exact c.utf8Size_pos

/-- Where a character is written out, no other one is. -/
theorem encode_append_inj {c d : Char} {rest others : Bytes}
    (same : String.utf8EncodeChar c ++ rest = String.utf8EncodeChar d ++ others) :
    c = d ∧ rest = others := by
  have decoded := congrArg (fun bytes : Bytes => bytes.toByteArray.utf8DecodeChar? 0) same
  simp only [List.toByteArray_append, ByteArray.utf8DecodeChar?_utf8EncodeChar_append,
    Option.some.injEq] at decoded
  subst decoded
  exact ⟨rfl, List.append_cancel_left same⟩

theorem encode_inj_of_front {c d : Char}
    (h : String.utf8EncodeChar c <+: String.utf8EncodeChar d) : c = d := by
  obtain ⟨rest, same⟩ := h
  rw [← List.append_nil (String.utf8EncodeChar d)] at same
  exact (encode_append_inj same).1

/-! ### The rule -/

/-- Whether a character begins with these bytes. -/
def Begins (piece : Bytes) : Prop :=
  ∃ c : Char, piece <+: String.utf8EncodeChar c

theorem Begins.of_front {piece more : Bytes} (begins : Begins more) (front : piece <+: more) :
    Begins piece := by
  obtain ⟨c, begins⟩ := begins
  exact ⟨c, front.trans begins⟩

/-- Whether a piece in front of the rest is a maximal broken one. -/
structure Broken (piece rest : Bytes) : Prop where
  /-- It is not empty. -/
  some : piece ≠ []
  /-- No character is written out there. -/
  unwritten : ∀ c : Char, ¬ String.utf8EncodeChar c <+: piece ++ rest
  /-- A character begins with it, or it is a single byte. -/
  begun : Begins piece ∨ piece.length = 1
  /-- No character begins with one byte more. -/
  longest : ∀ byte, rest.head? = .some byte → ¬ Begins (piece ++ [byte])

/-- The rule for reading bytes as text. -/
inductive Lossy : Bytes → List Char → Prop
  /-- There is nothing more to read. -/
  | done : Lossy [] []
  /-- A character that is written out is kept. -/
  | kept {c : Char} {rest : Bytes} {text : List Char} (others : Lossy rest text) :
      Lossy (String.utf8EncodeChar c ++ rest) (c :: text)
  /-- A maximal broken piece is replaced. -/
  | broken {piece rest : Bytes} {text : List Char} (cut : Broken piece rest)
      (others : Lossy rest text) : Lossy (piece ++ rest) (replacement :: text)

theorem Broken.length_le {piece other rest others : Bytes} (cut : Broken piece rest)
    (another : Broken other others) (same : piece ++ rest = other ++ others) :
    other.length ≤ piece.length := by
  by_contra! less
  -- The other piece goes on with a byte with which no character goes on.
  obtain ⟨more, rfl⟩ : piece <+: other :=
    List.prefix_of_prefix_length_le ⟨rest, same⟩ (List.prefix_append ..) less.le
  cases more with
  | nil => simp at less
  | cons byte more =>
    rw [List.append_assoc, List.append_cancel_left_eq] at same
    have long : (piece ++ byte :: more).length ≠ 1 := by
      have := List.length_pos_of_ne_nil cut.some
      simp only [List.length_append, List.length_cons]
      omega
    refine cut.longest byte (by rw [same]; rfl) ((another.begun.resolve_right long).of_front ?_)
    rw [List.prefix_append_right_inj, List.singleton_prefix_cons_iff]

/-- The rule leaves no choice. -/
theorem Lossy.unique {bytes : Bytes} {text other : List Char} (lossy : Lossy bytes text)
    (another : Lossy bytes other) : text = other := by
  induction lossy generalizing other with
  | done =>
    generalize nothing : ([] : Bytes) = bytes at another
    cases another with
    | done => rfl
    | kept => exact absurd (List.append_eq_nil_iff.mp nothing.symm).1 (encode_ne_nil _)
    | broken cut => exact absurd (List.append_eq_nil_iff.mp nothing.symm).1 cut.some
  | @kept c rest text others ih =>
    generalize same : String.utf8EncodeChar c ++ rest = bytes at another
    cases another with
    | done => exact absurd (List.append_eq_nil_iff.mp same).1 (encode_ne_nil c)
    | kept another =>
      obtain ⟨rfl, rfl⟩ := encode_append_inj same
      rw [ih another]
    | broken cut => exact absurd ⟨rest, same⟩ (cut.unwritten c)
  | @broken piece rest text cut others ih =>
    generalize same : piece ++ rest = bytes at another
    cases another with
    | done => exact absurd (List.append_eq_nil_iff.mp same).1 cut.some
    | kept => exact absurd ⟨_, same.symm⟩ (cut.unwritten _)
    | broken other another =>
      have size := Nat.le_antisymm (other.length_le cut same.symm) (cut.length_le other same)
      obtain ⟨rfl, rfl⟩ := List.append_inj same size
      rw [ih another]

/-- A NUL character in the text is a zero byte. -/
theorem Lossy.zero_mem {bytes : Bytes} {text : List Char} (lossy : Lossy bytes text)
    (nul : '\x00' ∈ text) : 0 ∈ bytes := by
  induction lossy with
  | done => cases nul
  | kept others ih =>
    rcases List.mem_cons.mp nul with rfl | behind
    · exact List.mem_append_left _ (by decide)
    · exact List.mem_append_right _ (ih behind)
  | broken cut others ih =>
    rcases List.mem_cons.mp nul with same | behind
    · exact absurd same (by decide)
    · exact List.mem_append_right _ (ih behind)

/-! ### In the middle of a character -/

/-- What is known when a character was begun: the bytes that were read, how many of those that it
still owes come after the next one, the range of the next one, and the bits so far. -/
structure Promise (read : Bytes) (owed : Nat) (low high : UInt8) (bits : Nat) : Prop where
  /-- The range is one of bytes that go on with a character. -/
  bounds : 0x80 ≤ low.toNat ∧ low.toNat ≤ high.toNat ∧ high.toNat ≤ 0xBF
  /-- A character that begins so has these bits, and its next byte is in the range. -/
  known : ∀ c : Char, read <+: String.utf8EncodeChar c →
    String.utf8EncodeChar c = read ++ tail (owed + 1) c.toNat ∧ upper (owed + 1) c.toNat = bits ∧
      low.toNat ≤ 0x80 + upper owed c.toNat % 64 ∧ 0x80 + upper owed c.toNat % 64 ≤ high.toNat
  /-- Every number with these bits and a next byte in the range is that of a character. -/
  given : ∀ value, upper (owed + 1) value = bits → low.toNat ≤ 0x80 + upper owed value % 64 →
    0x80 + upper owed value % 64 ≤ high.toNat →
      ∃ c : Char, c.toNat = value ∧ String.utf8EncodeChar c = read ++ tail (owed + 1) value

/-- A first byte promises the groups of its mark.  Numbers that need fewer groups, surrogates, and
numbers that are too large are kept out by the range of the next byte. -/
theorem promise_of_mark {owed : Nat} {byte low high : UInt8} {bits : Nat} (few : owed ≤ 2)
    (number : byte.toNat = mark (owed + 1) + bits) (most : byte.toNat < mark (owed + 2))
    (bounds : 0x80 ≤ low.toNat ∧ low.toNat ≤ high.toNat ∧ high.toNat ≤ 0xBF)
    (fits : ∀ value, upper (owed + 1) value = bits →
      (low.toNat ≤ 0x80 + upper owed value % 64 ∧ 0x80 + upper owed value % 64 ≤ high.toNat ↔
        (least (owed + 1) ≤ value ∧ value < least (owed + 2)) ∧
          (value < 0xD800 ∨ 0xDFFF < value))) : Promise [byte] owed low high bits where
  bounds := bounds
  known c begins := by
    -- The mark in the byte tells how many groups the character has.
    obtain ⟨groups, written⟩ := exists_written c
    obtain ⟨first, below, form⟩ := written.first begins
    obtain rfl := eq_of_mark written.few (by omega) ⟨by omega, below⟩ ⟨by omega, most⟩
    have top : upper (owed + 1) c.toNat = bits := by omega
    have scalar := scalar c
    exact ⟨form, top, (fits c.toNat top).mpr ⟨written.size, by omega⟩⟩
  given value top lower higher := by
    obtain ⟨size, scalar⟩ := (fits value top).mp ⟨lower, higher⟩
    -- The size of the number tells how many groups it needs.
    have valid : value < 0x110000 := by
      interval_cases owed <;> simp only [least] at size <;> omega
    obtain ⟨c, rfl⟩ := exists_char value (by omega)
    obtain ⟨groups, written⟩ := exists_written c
    obtain rfl := eq_of_least written.few (by omega) written.size size
    refine ⟨c, rfl, ?_⟩
    rw [written.form, top, ← number, UInt8.ofNat_toNat]
    rfl

/-- A first byte promises what `lead` says. -/
theorem promise_of_lead {byte : UInt8} {l : Lead} (leads : lead byte = some l) :
    ∃ owed, l.owed = owed + 1 ∧ Promise [byte] owed l.low l.high l.bits := by
  have size := byte.toNat_lt
  unfold lead at leads
  simp only [UInt8.le_iff_toNat_le, ← UInt8.toNat_inj, UInt8.reduceToNat] at leads
  split_ifs at leads
  all_goals obtain rfl := Option.some.inj leads
  -- In each of the seven ranges inequalities between numbers are left.
  all_goals refine ⟨_, rfl, promise_of_mark (by decide) ?_ ?_ ?_ fun value top => ?_⟩
  all_goals simp only [mark, least, upper, UInt8.reduceToNat] at *
  all_goals omega

/-- No character begins with a byte that promises nothing. -/
theorem not_begins_of_lead {byte : UInt8} (long : 0x80 ≤ byte.toNat) (leads : lead byte = none) :
    ¬ Begins [byte] := by
  rintro ⟨c, begins⟩
  have scalar := scalar c
  obtain ⟨groups, written⟩ := exists_written c
  obtain ⟨first, -, -⟩ := written.first begins
  obtain ⟨few, size, -⟩ := written
  unfold lead at leads
  simp only [UInt8.le_iff_toNat_le, ← UInt8.toNat_inj, UInt8.reduceToNat] at leads
  split_ifs at leads
  interval_cases groups <;> simp only [mark, least, upper] at first size <;> omega

namespace Promise

variable {read rest : Bytes} {owed : Nat} {low high byte : UInt8} {bits : Nat}

/-- A byte goes on with a character if and only if it is in the range. -/
theorem begins_iff (promise : Promise read owed low high bits) :
    Begins (read ++ [byte]) ↔ low ≤ byte ∧ byte ≤ high := by
  have bounds := promise.bounds
  simp only [UInt8.le_iff_toNat_le]
  constructor
  · rintro ⟨c, begins⟩
    obtain ⟨form, -, least, most⟩ := promise.known c ((List.prefix_append ..).trans begins)
    rw [form, List.prefix_append_right_inj, tail, List.singleton_prefix_cons_iff,
      eq_ofNat_iff] at begins
    omega
  · rintro ⟨least, most⟩
    obtain ⟨value, top⟩ := exists_upper owed (bits * 64 + (byte.toNat - 0x80))
    obtain ⟨c, same, form⟩ := promise.given value (by rw [upper, top]; omega)
      (by rw [top]; omega) (by rw [top]; omega)
    refine ⟨c, ?_⟩
    rw [form, List.prefix_append_right_inj, tail, List.singleton_prefix_cons_iff, eq_ofNat_iff, top]
    omega

theorem begins (promise : Promise read owed low high bits) : Begins read := by
  have next := promise.begins_iff.mpr
    ⟨UInt8.le_refl low, UInt8.le_iff_toNat_le.mpr promise.bounds.2.1⟩
  exact next.of_front (List.prefix_append ..)

/-- A character that is written out where one was begun is the one that was begun. -/
theorem begins_of_written (promise : Promise read owed low high bits) {c : Char}
    (front : String.utf8EncodeChar c <+: read ++ rest) : read <+: String.utf8EncodeChar c := by
  rcases List.prefix_or_prefix_of_prefix front (List.prefix_append ..) with short | long
  · -- It would be the beginning of a character, and so that character itself.
    obtain ⟨d, begins⟩ := promise.begins
    obtain rfl := encode_inj_of_front (short.trans begins)
    exact begins
  · exact long

/-- A piece ends where the next byte is out of the range, or where there is none. -/
theorem broken (promise : Promise read owed low high bits) (some : read ≠ [])
    (outside : ∀ byte, rest.head? = .some byte → ¬ (low ≤ byte ∧ byte ≤ high)) :
    Broken read rest := by
  refine ⟨some, fun c front => ?_, .inl promise.begins, fun byte next begins => ?_⟩
  · have form := (promise.known c (promise.begins_of_written front)).1
    have begins : Begins (read ++ [UInt8.ofNat (0x80 + upper owed c.toNat % 64)]) := by
      refine ⟨c, ?_⟩
      rw [form, List.prefix_append_right_inj, tail, List.singleton_prefix_cons_iff]
    rw [form, List.prefix_append_right_inj, tail, List.cons_prefix_iff] at front
    obtain ⟨others, rfl, -⟩ := front
    exact outside _ rfl (promise.begins_iff.mp begins)
  · exact outside byte next (promise.begins_iff.mp begins)

/-- The promise is kept by one byte more. -/
theorem next (promise : Promise read (owed + 1) low high bits) (least : low ≤ byte)
    (most : byte ≤ high) :
    Promise (read ++ [byte]) owed 0x80 0xBF (bits * 64 + (byte.toNat - 0x80)) := by
  have bounds := promise.bounds
  rw [UInt8.le_iff_toNat_le] at least most
  refine ⟨by decide, fun c begins => ?_, fun value top _ _ => ?_⟩
  · obtain ⟨form, known, -, -⟩ := promise.known c ((List.prefix_append ..).trans begins)
    rw [form, List.prefix_append_right_inj, tail, List.singleton_prefix_cons_iff] at begins
    have number := eq_ofNat_iff.mp begins
    rw [upper] at known
    simp only [UInt8.reduceToNat]
    refine ⟨?_, by omega, by omega, by omega⟩
    rw [form, List.append_assoc, List.singleton_append, begins]
    rfl
  · have number : byte = UInt8.ofNat (0x80 + upper (owed + 1) value % 64) := by
      rw [eq_ofNat_iff, top]
      omega
    obtain ⟨c, same, form⟩ := promise.given value (by rw [upper, top]; omega)
      (by rw [top]; omega) (by rw [top]; omega)
    refine ⟨c, same, ?_⟩
    rw [form, tail, ← number, List.append_assoc]
    rfl

/-- The last byte makes it a character. -/
theorem last (promise : Promise read 0 low high bits) (least : low ≤ byte) (most : byte ≤ high) :
    String.utf8EncodeChar (Char.ofNat (bits * 64 + (byte.toNat - 0x80))) = read ++ [byte] := by
  have bounds := promise.bounds
  rw [UInt8.le_iff_toNat_le] at least most
  have number : byte = UInt8.ofNat (0x80 + (bits * 64 + (byte.toNat - 0x80)) % 64) := by
    rw [eq_ofNat_iff]
    omega
  obtain ⟨c, same, form⟩ := promise.given (bits * 64 + (byte.toNat - 0x80))
    (by rw [upper, upper]; omega) (by rw [upper]; omega) (by rw [upper]; omega)
  rw [← same, Char.ofNat_toNat, form, tail, tail, upper, ← number]

end Promise

/-! ### What is read -/

theorem encode_of_lt {byte : UInt8} (small : byte < 0x80) :
    String.utf8EncodeChar (Char.ofNat byte.toNat) = [byte] := by
  simp only [UInt8.lt_iff_toNat_lt, UInt8.reduceToNat] at small
  obtain ⟨c, same⟩ := exists_char byte.toNat (by omega)
  obtain ⟨groups, written⟩ := exists_written c
  obtain rfl : groups = 0 := eq_of_least written.few (by decide) written.size (by
    simp only [least]
    omega)
  rw [← same, Char.ofNat_toNat, written.form, mark, upper, tail, Nat.zero_add, same,
    UInt8.ofNat_toNat]

/-- A byte out of the range ends the piece, and is read afresh. -/
theorem decodeFrom_of_outside {owed : Nat} {low high byte : UInt8} {bits : Nat} {rest : Bytes}
    (outside : ¬ (low ≤ byte ∧ byte ≤ high)) :
    decodeFrom (owed + 1) low high bits (byte :: rest) =
      replacement :: decodeFrom 0 0 0 0 (byte :: rest) := by
  conv_lhs => rw [decodeFrom, if_neg outside]
  rw [decodeFrom]
  split
  · rfl
  · split <;> rfl

/-- Whatever is read follows the rule, from the start of a character as well as in the middle. -/
theorem lossy_decodeFrom (bytes : Bytes) : Lossy bytes (decodeFrom 0 0 0 0 bytes) ∧
    ∀ read owed low high bits, Promise read owed low high bits → read ≠ [] →
      Lossy (read ++ bytes) (decodeFrom (owed + 1) low high bits bytes) := by
  -- Both at once: a first byte makes a promise, and a byte out of the range is read afresh.
  induction bytes with
  | nil =>
    refine ⟨.done, fun read owed low high bits promise some => ?_⟩
    refine .broken (promise.broken some fun byte none => ?_) .done
    cases none
  | cons byte rest ih =>
    obtain ⟨afresh, amidst⟩ := ih
    have start : Lossy (byte :: rest) (decodeFrom 0 0 0 0 (byte :: rest)) := by
      rw [decodeFrom]
      split
      · next small =>
        have kept := Lossy.kept (c := Char.ofNat byte.toNat) afresh
        rwa [encode_of_lt small] at kept
      · next large =>
        rw [UInt8.not_lt, UInt8.le_iff_toNat_le] at large
        split
        · next l leads =>
          obtain ⟨owed, more, promise⟩ := promise_of_lead leads
          rw [more]
          exact amidst [byte] owed l.low l.high l.bits promise (List.cons_ne_nil _ _)
        · next leads =>
          have none := not_begins_of_lead large leads
          have cut : Broken [byte] rest := by
            refine ⟨List.cons_ne_nil _ _, fun c front => ?_, .inr rfl,
              fun next _ begins => none (begins.of_front (List.prefix_append ..))⟩
            -- A character that is written out here begins with the byte.
            obtain empty | ⟨others, form, -⟩ := List.prefix_cons_iff.mp front
            · exact encode_ne_nil c empty
            · exact none ⟨c, by rw [form, List.singleton_prefix_cons_iff]⟩
          exact .broken cut afresh
    refine ⟨start, fun read owed low high bits promise some => ?_⟩
    by_cases inside : low ≤ byte ∧ byte ≤ high
    · obtain ⟨least, most⟩ := inside
      cases owed with
      | zero =>
        rw [decodeFrom, if_pos ⟨least, most⟩]
        have kept := Lossy.kept (c := Char.ofNat (bits * 64 + (byte.toNat - 0x80))) afresh
        rwa [promise.last least most, List.append_assoc] at kept
      | succ owed =>
        rw [decodeFrom, if_pos ⟨least, most⟩]
        have read := amidst _ _ _ _ _ (promise.next least most) (by simp)
        rwa [List.append_assoc] at read
    · rw [decodeFrom_of_outside inside]
      refine .broken (promise.broken some fun other next => ?_) start
      obtain rfl := Option.some.inj next
      exact inside

/-- The text that is read from some bytes is the one by the rule. -/
theorem decodeLossy_eq_iff {bytes : Bytes} {text : String} :
    decodeLossy bytes = text ↔ Lossy bytes text.toList := by
  have lossy := (lossy_decodeFrom bytes).1
  rw [decodeLossy]
  constructor
  · rintro rfl
    rwa [String.toList_ofList]
  · intro another
    rw [lossy.unique another, String.ofList_toList]

/-- A byte that does not go on with a character is read afresh. -/
example : decodeLossy [0xF0, 0x9F, 0x41, 0xE2, 0x28] = "\uFFFDA\uFFFD(" := by decide

end CallbackFerry.Utf8
