import Treewalk.Runner.Basic
import Mathlib.Tactic.Common

/-!
# What is written in UTF-8 is read back

The octets of a program document are read as UTF-8 before anything else is done with them, by a
reader that puts a replacement character for every piece that is no character. In the octets of a
text there is no such piece: those of one character are read as that character, whatever follows
them (`Treewalk.Text.Utf8.step_encodeChar`). This is shown for each length of a character, since it
is the first octet that says how many follow, and four of the first octets restrict the second.

So nothing behind the reader can tell the octets of a text from the text: not the choice of a format
by how a document begins, not the reader of the format, and not a run.

* **`Treewalk.Text.Utf8.fragments_encode`**: the octets of a text are cut into its characters.
* **`Treewalk.Runner.octets_as_text`**: the octets of a text are read, and run, as the text.
-/

namespace Treewalk

namespace Text.Utf8

/-! ### Octets by their numbers -/

theorem toNat_toUInt8 {n : Nat} (h : n < 0x100) : n.toUInt8.toNat = n := by
  rw [Nat.toUInt8, UInt8.toNat_ofNat', Nat.mod_eq_of_lt h]

/-- An octet that continues a character adds what it was made of. -/
theorem tail_of_lt {k : Nat} (h : k < 0x40) :
    isTail (0x80 + k).toUInt8 = true ∧ tailBits (0x80 + k).toUInt8 = k := by
  have hoctet : (0x80 + k).toUInt8.toNat = 0x80 + k := toNat_toUInt8 (by omega)
  constructor
  · simp only [isTail, hoctet, Bool.and_eq_true, decide_eq_true_eq]
    omega
  · rw [tailBits, hoctet]
    omega

/-- The second octet of a longer character: behind four of the first octets not every one will
do. -/
theorem isSecond_of_bounds {a k : Nat} (ha : a < 0x100) (hk : k < 0x40)
    (hE0 : a = 0xE0 → 0x20 ≤ k) (hED : a = 0xED → k < 0x20) (hF0 : a = 0xF0 → 0x10 ≤ k)
    (hF4 : a = 0xF4 → k < 0x10) : isSecond a.toUInt8 (0x80 + k).toUInt8 = true := by
  have hoctet : (0x80 + k).toUInt8.toNat = 0x80 + k := toNat_toUInt8 (by omega)
  simp only [isSecond, (tail_of_lt hk).1, toNat_toUInt8 ha, hoctet, Bool.true_and,
    Bool.and_eq_true, Bool.or_eq_true, bne_iff_ne, ne_eq, decide_eq_true_eq]
  omega

/-! ### One character

One lemma for each length: which numbers the octets have, and what they are read as. -/

theorem step_one {n : Nat} (rest : List UInt8) (hn : n < 0x80) :
    step n.toUInt8 rest = (.char (Char.ofNat n), 0) := by
  simp only [step, toNat_toUInt8 (show n < 0x100 by omega), if_pos hn]

theorem step_two {a b : Nat} (rest : List UInt8) (hleast : 2 ≤ a) (ha : a < 0x20) (hb : b < 0x40) :
    step (0xC0 + a).toUInt8 ((0x80 + b).toUInt8 :: rest) = (.char (Char.ofNat (a * 64 + b)), 1) := by
  have hfirst : (0xC0 + a).toUInt8.toNat = 0xC0 + a := toNat_toUInt8 (by omega)
  have hsecond : isSecond (0xC0 + a).toUInt8 (0x80 + b).toUInt8 = true :=
    isSecond_of_bounds (by omega) hb (by omega) (by omega) (by omega) (by omega)
  simp only [step, hfirst, hsecond, (tail_of_lt hb).2, Bool.not_true, Bool.false_eq_true, if_false,
    Bool.or_eq_true, decide_eq_true_eq]
  rw [if_neg (by omega), if_neg (by omega), if_pos (by omega), Nat.add_sub_cancel_left]

theorem step_three {a b c : Nat} (rest : List UInt8) (ha : a < 0x10) (hb : b < 0x40) (hc : c < 0x40)
    (hleast : a = 0 → 0x20 ≤ b) (hsurrogate : a = 0x0D → b < 0x20) :
    step (0xE0 + a).toUInt8 ((0x80 + b).toUInt8 :: (0x80 + c).toUInt8 :: rest) =
      (.char (Char.ofNat (a * 4096 + b * 64 + c)), 2) := by
  have hfirst : (0xE0 + a).toUInt8.toNat = 0xE0 + a := toNat_toUInt8 (by omega)
  have hsecond : isSecond (0xE0 + a).toUInt8 (0x80 + b).toUInt8 = true :=
    isSecond_of_bounds (by omega) hb (by omega) (by omega) (by omega) (by omega)
  simp only [step, hfirst, hsecond, tail_of_lt hb, tail_of_lt hc, Bool.not_true, Bool.false_eq_true,
    if_false, Bool.or_eq_true, decide_eq_true_eq]
  rw [if_neg (by omega), if_neg (by omega), if_neg (by omega), if_pos (by omega),
    Nat.add_sub_cancel_left]

theorem step_four {a b c d : Nat} (rest : List UInt8) (ha : a < 5) (hb : b < 0x40) (hc : c < 0x40)
    (hd : d < 0x40) (hleast : a = 0 → 0x10 ≤ b) (hmost : a = 4 → b < 0x10) :
    step (0xF0 + a).toUInt8 ((0x80 + b).toUInt8 :: (0x80 + c).toUInt8 :: (0x80 + d).toUInt8 :: rest) =
      (.char (Char.ofNat (a * 262144 + b * 4096 + c * 64 + d)), 3) := by
  have hfirst : (0xF0 + a).toUInt8.toNat = 0xF0 + a := toNat_toUInt8 (by omega)
  have hsecond : isSecond (0xF0 + a).toUInt8 (0x80 + b).toUInt8 = true :=
    isSecond_of_bounds (by omega) hb (by omega) (by omega) (by omega) (by omega)
  simp only [step, hfirst, hsecond, tail_of_lt hb, tail_of_lt hc, tail_of_lt hd, Bool.not_true,
    Bool.false_eq_true, if_false, Bool.or_eq_true, decide_eq_true_eq]
  rw [if_neg (by omega), if_neg (by omega), if_neg (by omega), if_neg (by omega),
    Nat.add_sub_cancel_left]

/-- **The octets of a character are read as that character**, whatever follows them. -/
theorem step_encodeChar (c : Char) (rest : List UInt8) :
    ∃ a tail, encodeChar c = a :: tail ∧ step a (tail ++ rest) = (.char c, tail.length) := by
  obtain ⟨n, hn⟩ : ∃ n, c.toNat = n := ⟨_, rfl⟩
  have hc : Char.ofNat n = c := hn ▸ Char.ofNat_toNat c
  -- no character has the number of a surrogate, and none a number past the end
  have hvalid : n < 0xD800 ∨ 0xDFFF < n ∧ n < 0x110000 := hn ▸ c.valid
  simp only [encodeChar, hn]
  split_ifs with h1 h2 h3
  · refine ⟨_, _, rfl, ?_⟩
    rw [List.nil_append, step_one rest h1, hc]
    rfl
  · refine ⟨_, _, rfl, ?_⟩
    have hread : n / 64 * 64 + n % 64 = n := by omega
    rw [List.singleton_append, step_two rest (by omega) (by omega) (by omega), hread, hc]
    rfl
  · refine ⟨_, _, rfl, ?_⟩
    have hread : n / 4096 * 4096 + n / 64 % 64 * 64 + n % 64 = n := by omega
    rw [List.cons_append, List.singleton_append, step_three rest (by omega) (by omega) (by omega)
      (by omega) (by omega), hread, hc]
    rfl
  · refine ⟨_, _, rfl, ?_⟩
    have hread : n / 262144 * 262144 + n / 4096 % 64 * 4096 + n / 64 % 64 * 64 + n % 64 = n := by
      omega
    rw [List.cons_append, List.cons_append, List.singleton_append, step_four rest (by omega)
      (by omega) (by omega) (by omega) (by omega) (by omega), hread, hc]
    rfl

/-! ### Texts -/

/-- **The octets of a text are cut into its characters.** -/
theorem fragments_encode (s : List Char) :
    fragments (encode s) = s.map fun c => ⟨encodeChar c, .ok [c]⟩ := by
  induction s with
  | nil => simp [encode, fragments]
  | cons c s ih =>
    obtain ⟨a, tail, hoctets, hstep⟩ := step_encodeChar c (encode s)
    have hencode : encode (c :: s) = a :: (tail ++ encode s) := by
      rw [encode, List.flatMap_cons, hoctets]
      rfl
    rw [hencode, fragments, hstep]
    simp only [List.take_left, List.drop_left, ih, List.map_cons, hoctets]

/-- **The reader that mends has nothing to mend.** -/
theorem decodeReplacing_encode (s : List Char) : decodeReplacing (encode s) = s := by
  rw [decodeReplacing, fragments_encode, Fragment.mended, List.flatMap_map, List.flatMap_singleton']

/-- The octets of a character are those that a string keeps it in. -/
theorem encodeChar_eq (c : Char) : encodeChar c = String.utf8EncodeChar c := by
  have hvalid : c.toNat < 0xD800 ∨ 0xDFFF < c.toNat ∧ c.toNat < 0x110000 := c.valid
  have hval : c.val.toNat = c.toNat := rfl
  simp only [encodeChar, String.utf8EncodeChar, hval]
  generalize c.toNat = n at hvalid
  have hone : n ≤ 127 ↔ n < 0x80 := Nat.lt_succ_iff.symm
  have htwo : n ≤ 2047 ↔ n < 0x800 := Nat.lt_succ_iff.symm
  have hthree : n ≤ 65535 ↔ n < 0x10000 := Nat.lt_succ_iff.symm
  simp only [hone, htwo, hthree, Nat.toUInt8, Nat.add_comm]
  split_ifs with h1 h2 h3
  · rfl
  · rw [Nat.mod_eq_of_lt (show n / 64 < 32 by omega)]
  · rw [Nat.mod_eq_of_lt (show n / 4096 < 16 by omega)]
  · rw [Nat.mod_eq_of_lt (show n / 262144 < 8 by omega)]

theorem encode_toList (s : String) : encode s.toList = s.toUTF8.data.toList := by
  rw [String.toUTF8_eq_toByteArray, ← String.utf8Encode_toList, List.utf8Encode, List.data_toByteArray,
    encode, funext encodeChar_eq]

end Text.Utf8

/-! ### Documents and runs -/

/-- The octets of a string have its text. -/
theorem Source.toText_octets (s : String) : (Source.octets s.toUTF8.data.toList).toText = s := by
  rw [← Text.Utf8.encode_toList, toText, Text.Utf8.decodeReplacing_encode, String.ofList_toList]

/-- A document is read from the text of its source. -/
theorem Document.read_congr {source source' : Source} (h : source'.toText = source.toText)
    (format file : Option String) : read format file source' = read format file source := by
  simp only [read, h]

/-- **The octets of a text are the text.** For every string, its octets in UTF-8 are read as the
string is, whatever the format that is asked for and the name of the file: to the same document or
to the same fault. And a run of the octets is a run of the string: it ends in the same way, puts out
the same, and leaves the same core and the same surroundings behind. -/
theorem Runner.octets_as_text {V W : Type} (s : String) (format file : Option String) :
    Document.read format file (.octets s.toUTF8.data.toList) = Document.read format file (.text s) ∧
      ∀ (r : Runner V W) (tracing : Tracing) (fuel : Nat) (w : W),
        r.run tracing fuel (.source format (.octets s.toUTF8.data.toList)) w =
          r.run tracing fuel (.source format (.text s)) w := by
  have hread (file : Option String) : Document.read format file (.octets s.toUTF8.data.toList) =
      Document.read format file (.text s) := Document.read_congr (Source.toText_octets s) format file
  refine ⟨hread file, fun r tracing fuel w => ?_⟩
  have hload : Job.load r.file (.source format (.octets s.toUTF8.data.toList)) =
      Job.load r.file (.source format (.text s)) := by
    rw [Job.load, Job.load, Program.load, Program.load, hread]
  rw [run, run, hload]

end Treewalk
