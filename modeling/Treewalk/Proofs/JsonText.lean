import Treewalk.Document.Format
import Treewalk.Proofs.Layout
import Treewalk.Proofs.Reading.Json

/-!
# JSON texts that are read back

The writer of JSON puts a document together from the texts of its parts, and the reader takes it
apart again. That the two belong together is shown part by part, and a part does not know what comes
behind it. So what is shown of the text of a part is that it is read as the part whatever comes
behind, and that the rest is left as it is (`Treewalk.Json.Reads`). There is one condition, since
the end of a number is not written down: it is over where no character follows that could belong to
it (`Treewalk.Json.Over`). Neither a comma nor a blank nor a bracket could.

The two layouts of the writer differ in the blanks around brackets and behind commas, and the reader
skips them (`Treewalk.Json.Blank`). The reader has a bound on its steps, and the length of a text is
enough for it.

* **`Treewalk.Json.readString_stringText`**: a text is read back, whatever characters are in it.
* **`Treewalk.Json.reads_int`**: so is an integer, unless it has too many digits.
* **`Treewalk.Json.reads_list`** and **`Treewalk.Json.reads_mapping`**: so are a list and a mapping,
  if their parts are and no two keys are equal.
-/

namespace Treewalk

open Decimal

namespace Document

/-- Entries under texts. -/
def named (entries : List (String × Document)) : List (Document × Document) :=
  entries.map fun e => (.str e.1, e.2)

/-- An entry under a new name comes last. -/
theorem put_named {entries : List (String × Document)} {name : String} (d : Document)
    (hnew : name ∉ entries.map Prod.fst) :
    put (.str name) d (named entries) = named (entries ++ [(name, d)]) := by
  induction entries with
  | nil => rfl
  | cons e entries ih =>
    rw [List.map_cons, List.mem_cons, not_or] at hnew
    have hkey : (Document.str e.1).sameKey (.str name) = false := by
      simp [sameKey, Ne.symm hnew.1]
    rw [named, List.map_cons, put, if_neg (by simp [hkey])]
    exact congrArg _ (ih hnew.2)

end Document

namespace Json

open Document

/-! ### Numbers -/

theorem isAsciiDigit_eq (c : Char) : isAsciiDigit c = c.isDigit := by
  simp [isAsciiDigit, Char.isDigit]
  rfl

/-- The digits of a number do not begin with a zero, unless it is the only one. -/
theorem head?_toDigits {n : Nat} (hn : n ≠ 0) : (Nat.toDigits 10 n).head? ≠ some '0' := by
  induction n using Nat.strongRecOn with
  | ind n ih =>
    rw [Nat.toDigits_eq_if (by decide)]
    split
    · next hsmall =>
      have hdigit : ∀ d : Nat, d < 10 → d ≠ 0 → [d.digitChar].head? ≠ some '0' := by decide
      exact hdigit n hsmall hn
    · next hlarge =>
      have hrest := ih (n / 10) (by omega) (by omega)
      rw [List.head?_append_of_ne_nil _ Nat.toDigits_ne_nil]
      exact hrest

theorem natOf_toDigits (n : Nat) : natOf (Nat.toDigits 10 n) = n := by
  have hfold : natOf = fun ds => Nat.ofDigitChars 10 ds 0 := by
    funext ds
    simp [natOf, Nat.ofDigitChars, Nat.mul_comm]
  rw [hfold]
  exact Nat.ofDigitChars_ten_toDigits

theorem length_toDigits_le {n k : Nat} (hk : 0 < k) (hn : n < Nat.pow 10 k) :
    (Nat.toDigits 10 n).length ≤ k :=
  (Nat.length_toDigits_le_iff (by decide) hk).mpr hn

/-- An integer that can be written has no more digits than can be read. -/
theorem length_toDigits_natAbs {n : Int} (hn : isTooLong n = false) :
    (Nat.toDigits 10 n.natAbs).length ≤ maxDigits :=
  length_toDigits_le (by decide) (Nat.not_le.mp (of_decide_eq_false hn))

/-- **A number is over**: neither a digit nor a point nor an exponent comes behind it. -/
def Over (s : List Char) : Prop := ∀ c ∈ s.head?, isAsciiDigit c = false ∧ c ∉ ['.', 'e', 'E']

theorem over_nil : Over [] := fun _ h => nomatch h

theorem over_cons {c : Char} (hc : isAsciiDigit c = false ∧ c ∉ ['.', 'e', 'E']) (s : List Char) :
    Over (c :: s) := by
  rintro _ ⟨⟩
  exact hc

variable {rest : List Char} (hrest : Over rest)
include hrest

theorem takeDigits_append {ds : List Char} (hds : ∀ c ∈ ds, isAsciiDigit c = true) :
    takeDigits (ds ++ rest) = (ds, rest) := by
  have htake : rest.takeWhile isAsciiDigit = [] := by
    cases rest with
    | nil => rfl
    | cons c rest => simp [(hrest c rfl).1]
  have hdrop : rest.dropWhile isAsciiDigit = rest := by
    cases rest with
    | nil => rfl
    | cons c rest => simp [(hrest c rfl).1]
  rw [takeDigits_eq, List.takeWhile_append_of_pos hds, List.dropWhile_append_of_pos hds, htake,
    hdrop, List.append_nil]

theorem takeWhole_toDigits (n : Nat) :
    takeWhole (Nat.toDigits 10 n ++ rest) = (Nat.toDigits 10 n, rest) := by
  have hdigits : ∀ c ∈ Nat.toDigits 10 n, isAsciiDigit c = true := fun c hc =>
    (isAsciiDigit_eq c).trans (Nat.isDigit_of_mem_toDigits (by decide) (by decide) hc)
  by_cases hn : n = 0
  · subst hn
    rfl
  · have hzero := head?_toDigits hn
    rw [← takeDigits_append hrest hdigits]
    unfold takeWhole
    split
    · next heq =>
      rw [← List.head?_append_of_ne_nil _ Nat.toDigits_ne_nil, heq] at hzero
      exact (hzero rfl).elim
    · rfl

theorem takeFraction_eq : takeFraction rest = ([], rest) := by
  unfold takeFraction
  split
  · exact absurd (hrest _ rfl).2 (by decide)
  · rfl

theorem takeExponent_eq : takeExponent rest = ([], rest) := by
  cases rest with
  | nil => rfl
  | cons c rest =>
    have hc := (hrest c rfl).2
    have hmark : ¬ (c = 'e' || c = 'E') = true := by
      simp only [List.mem_cons, not_or] at hc
      simp [hc.2.1, hc.2.2.1]
    unfold takeExponent
    exact if_neg hmark

/-- **A number without its sign is read back**, if it is not too long. -/
theorem readUnsigned_toDigits {n : Nat} (hlength : (Nat.toDigits 10 n).length ≤ maxDigits)
    (start : List Char) (negative : Bool) :
    readUnsigned start negative (Nat.toDigits 10 n ++ rest) =
      .ok (.int (if negative then -n else n), rest) := by
  have hne : (Nat.toDigits 10 n).isEmpty = false := by simp
  simp only [readUnsigned, takeWhole_toDigits hrest, takeFraction_eq hrest, takeExponent_eq hrest,
    hne, Bool.false_eq_true, if_false, List.isEmpty_nil, Bool.and_self, if_true,
    if_neg (Nat.not_lt.mpr hlength), natOf_toDigits]

/-- **An integer is read back.** -/
theorem readNumber_toString {n : Int} (hn : isTooLong n = false) :
    readNumber ((toString n).toList ++ rest) = .ok (.int n, rest) := by
  have hlength := length_toDigits_natAbs hn
  cases n with
  | ofNat m =>
    have hhead : (Nat.toDigits 10 m ++ rest).head? ≠ some '-' := by
      rw [List.head?_append_of_ne_nil _ Nat.toDigits_ne_nil]
      intro h
      exact absurd (Nat.isDigit_of_mem_toDigits (by decide) (by decide) (List.mem_of_head? h))
        (by decide)
    rw [show toString (Int.ofNat m) = Nat.repr m from rfl, Text.toList_repr]
    unfold readNumber
    split
    · next heq =>
      rw [heq] at hhead
      exact (hhead rfl).elim
    · exact readUnsigned_toDigits hrest hlength _ _
  | negSucc m =>
    have hread := readUnsigned_toDigits hrest (n := m + 1) hlength
    rw [Text.toList_toString_negSucc, List.cons_append, readNumber, hread]
    rfl

omit hrest

/-! ### Texts -/

/-- A mark behind a backslash stands for a character. -/
theorem readChars_unescape {e c : Char} (h : unescape? e = some c) (start s : List Char) :
    readChars start ('\\' :: e :: s) = (readChars start s).map fun (cs, r) => (c :: cs, r) := by
  have hu : e ≠ 'u' := by
    rintro rfl
    cases h
  rw [readChars]
  · simp only [h]
  · exact fun heq => (hu heq).elim

/-- A control character is written with four hexadecimal digits. -/
theorem readUnicode?_hexPadded {n : Nat} (hn : n < 0x20) {s : List Char} (hs : s ≠ []) :
    readUnicode? (Text.hexPadded 4 n ++ s) = some (Char.ofNat n, s) := by
  have hdigits : ∀ n < 0x20, (Text.hexPadded 4 n).length = 4 ∧
      natIn? 16 0 (Text.hexPadded 4 n) = some n := by decide
  obtain ⟨hlength, hvalue⟩ := hdigits n hn
  obtain ⟨a, b, c, d, hpadded⟩ := List.length_eq_four.mp hlength
  rw [hpadded] at hvalue ⊢
  have hhalf : isHighHalf n = false ∧ isLowHalf n = false := by
    simp [isHighHalf, isLowHalf]
    omega
  simp only [List.cons_append, List.nil_append, readUnicode?, hex4?, hvalue]
  split
  · next heq => cases heq
  · exact (hs rfl).elim
  · next heq =>
    cases heq
    simp [hhalf.1, charOf, hhalf.2]
  · next heq _ _ =>
    cases heq
    simp [charOf, hhalf.1, hhalf.2]

/-- **A character that is escaped is read back.** -/
theorem readChars_escaped (start : List Char) (c : Char) (s : List Char) (hs : s ≠ []) :
    readChars start (escaped c ++ s) = (readChars start s).map fun (cs, r) => (c :: cs, r) := by
  unfold escaped
  iterate 7
    split
    · next h =>
      subst h
      exact readChars_unescape rfl start s
  split
  · next hcontrol =>
    have hunicode := readUnicode?_hexPadded hcontrol hs
    rw [Char.ofNat_toNat] at hunicode
    rw [List.cons_append, List.cons_append, readChars, hunicode]
  · next hquote hbackslash _ _ _ _ _ hcontrol =>
    rw [List.singleton_append, readChars, if_neg hcontrol]
    · exact hquote
    all_goals
      intros
      exact hbackslash ‹c = '\\'›

/-- **A text is read back**, whatever is in it. -/
theorem readChars_flatMap_escaped (start cs rest : List Char) :
    readChars start (cs.flatMap escaped ++ '"' :: rest) = .ok (cs, rest) := by
  induction cs with
  | nil => rw [List.flatMap_nil, List.nil_append, readChars]
  | cons c cs ih =>
    rw [List.flatMap_cons, List.append_assoc, readChars_escaped _ _ _ (by simp), ih]
    rfl

theorem readString_stringText (s : String) (rest : List Char) :
    readString (s.toList.flatMap escaped ++ '"' :: rest) = .ok (s, rest) := by
  rw [readString, readChars_flatMap_escaped]
  simp [bind, Except.bind, pure, Except.pure]

/-! ### Blanks -/

/-- Nothing but blanks. -/
def Blank (s : List Char) : Prop := ∀ c ∈ s, isSpace c = true

theorem skip_of_head {c : Char} (hc : isSpace c = false) (s : List Char) :
    skip (c :: s) = c :: s := by
  simp [skip, hc]

theorem skip_append {b : List Char} (hb : Blank b) {c : Char} (hc : isSpace c = false)
    (s : List Char) : skip (b ++ c :: s) = c :: s := by
  rw [skip, List.dropWhile_append_of_pos hb]
  exact skip_of_head hc s

theorem blank_gap (pretty : Bool) (level : Nat) : Blank (gap pretty level) := by
  intro c hc
  unfold gap at hc
  split at hc
  · rcases List.mem_cons.mp hc with rfl | hc
    · decide
    · obtain rfl := List.eq_of_mem_replicate hc
      decide
  · cases hc

/-- What separates two items is a comma, and then blanks. -/
theorem exists_separator (pretty : Bool) (level : Nat) :
    ∃ b, Blank b ∧ separator pretty level = ',' :: b := by
  cases pretty with
  | true => exact ⟨gap true level, blank_gap true level, rfl⟩
  | false => exact ⟨[' '], by simp [Blank, isSpace], rfl⟩

theorem over_append {b : List Char} (hb : Blank b) {c : Char}
    (hc : isAsciiDigit c = false ∧ c ∉ ['.', 'e', 'E']) (s : List Char) : Over (b ++ c :: s) := by
  cases b with
  | nil => exact over_cons hc s
  | cons d b =>
    refine over_cons ?_ _
    have hd := hb d (by simp)
    simp only [isSpace, Bool.or_eq_true, decide_eq_true_eq] at hd
    rcases hd with ((rfl | rfl) | rfl) | rfl <;> decide

/-! ### What is read back -/

/-- **A text starts like a value**: with no blank, no bracket that closes, and no mark of an
encoding. -/
def Starts (s : List Char) : Prop :=
  ∃ c t, s = c :: t ∧ isSpace c = false ∧ c ∉ [']', '\x7d', Char.ofNat 0xFEFF]

theorem Starts.append {s : List Char} (h : Starts s) (t : List Char) : Starts (s ++ t) := by
  obtain ⟨c, u, rfl, hc⟩ := h
  exact ⟨c, u ++ t, rfl, hc⟩

theorem Starts.intercalate {s : List Char} (h : Starts s) (sep : List Char)
    (ts : List (List Char)) : Starts (sep.intercalate (s :: ts)) := by
  cases ts with
  | nil => rwa [List.intercalate_singleton]
  | cons t ts =>
    rw [List.intercalate_cons_cons, List.append_assoc]
    exact h.append _

/-- **A text is read as a document**, whatever comes behind it, if only a number is over there. -/
structure Reads (d : Document) (t : List Char) : Prop where
  starts : Starts t
  reads : ∀ fuel rest, t.length ≤ fuel → Over rest → readValue fuel (t ++ rest) = .ok (d, rest)

/-- A word is read back. -/
theorem reads_nil : Reads .nil "null".toList where
  starts := ⟨'n', _, rfl, by decide⟩
  reads fuel rest hfuel _ := by
    obtain ⟨fuel, rfl⟩ := Nat.exists_eq_add_one.mpr (Nat.lt_of_lt_of_le (by decide) hfuel)
    rfl

theorem reads_bool (b : Bool) : Reads (.bool b) (if b then "true" else "false").toList where
  starts := by
    cases b with
    | true => exact ⟨'t', _, rfl, by decide⟩
    | false => exact ⟨'f', _, rfl, by decide⟩
  reads fuel rest hfuel _ := by
    cases b with
    | true =>
      obtain ⟨fuel, rfl⟩ := Nat.exists_eq_add_one.mpr (Nat.lt_of_lt_of_le (by decide) hfuel)
      rfl
    | false =>
      obtain ⟨fuel, rfl⟩ := Nat.exists_eq_add_one.mpr (Nat.lt_of_lt_of_le (by decide) hfuel)
      rfl

/-- A text that begins like a number: with a digit, or with a sign and a digit. -/
def Numeral (t : List Char) : Prop :=
  ∃ c s, (t = c :: s ∨ t = '-' :: c :: s) ∧ isAsciiDigit c = true

theorem Numeral.append {t : List Char} (h : Numeral t) (s : List Char) : Numeral (t ++ s) := by
  obtain ⟨c, u, rfl | rfl, hc⟩ := h
  · exact ⟨c, u ++ s, .inl rfl, hc⟩
  · exact ⟨c, u ++ s, .inr rfl, hc⟩

theorem numeral_toString (n : Int) : Numeral (toString n).toList := by
  have hdigit (m : Nat) : ∃ c s, Nat.toDigits 10 m = c :: s ∧ isAsciiDigit c = true := by
    obtain ⟨c, s, hdigits⟩ := List.exists_cons_of_ne_nil (@Nat.toDigits_ne_nil m 10)
    have hmem : c ∈ Nat.toDigits 10 m := hdigits ▸ List.mem_cons_self
    exact ⟨c, s, hdigits, (isAsciiDigit_eq c).trans
      (Nat.isDigit_of_mem_toDigits (by decide) (by decide) hmem)⟩
  cases n with
  | ofNat m =>
    rw [show toString (Int.ofNat m) = Nat.repr m from rfl, Text.toList_repr]
    obtain ⟨c, s, hdigits, hc⟩ := hdigit m
    exact ⟨c, s, .inl hdigits, hc⟩
  | negSucc m =>
    rw [Text.toList_toString_negSucc]
    obtain ⟨c, s, hdigits, hc⟩ := hdigit (m + 1)
    exact ⟨c, s, .inr (by rw [hdigits]), hc⟩

/-- What begins like a number is read as one. -/
theorem readValue_numeral {t : List Char} (ht : Numeral t) (fuel : Nat) :
    readValue (fuel + 1) t = readNumber t := by
  obtain ⟨c, s, hcs, hc⟩ := ht
  unfold readValue
  split
  case h_10 => rfl
  all_goals
    rcases hcs with heq | heq
    all_goals
      cases heq
      try exact absurd hc (by decide)

/-- **An integer is read back.** -/
theorem reads_int {n : Int} (hn : isTooLong n = false) : Reads (.int n) (toString n).toList where
  starts := by
    obtain ⟨c, s, htext | htext, hc⟩ := numeral_toString n
    · refine ⟨c, s, htext, Bool.eq_false_iff.mpr fun hspace => ?_, fun hmem => ?_⟩
      · simp only [isSpace, Bool.or_eq_true, decide_eq_true_eq] at hspace
        rcases hspace with ((rfl | rfl) | rfl) | rfl <;> exact absurd hc (by decide)
      · simp only [List.mem_cons, List.not_mem_nil, or_false] at hmem
        rcases hmem with rfl | rfl | rfl <;> exact absurd hc (by decide)
    · exact ⟨'-', _, htext, by decide⟩
  reads fuel rest hfuel hrest := by
    have hpos := List.length_pos_of_ne_nil (Text.toList_toString_ne_nil n)
    obtain ⟨fuel, rfl⟩ := Nat.exists_eq_add_one.mpr (Nat.lt_of_lt_of_le hpos hfuel)
    rw [readValue_numeral ((numeral_toString n).append rest), readNumber_toString hrest hn]

/-- **A text is read back.** -/
theorem reads_str (s : String) : Reads (.str s) (stringText s) where
  starts := ⟨'"', _, rfl, by decide⟩
  reads fuel rest hfuel _ := by
    have hpos : 0 < (stringText s).length := by simp [stringText]
    obtain ⟨fuel, rfl⟩ := Nat.exists_eq_add_one.mpr (Nat.lt_of_lt_of_le hpos hfuel)
    rw [stringText, List.cons_append, List.append_assoc, List.singleton_append, readValue,
      readString_stringText]
    rfl

/-! ### Lists and mappings -/

section Containers

variable {pretty : Bool} {level : Nat} {rest : List Char}

theorem length_separator_pos (pretty : Bool) (level : Nat) :
    0 < (separator pretty level).length := by
  obtain ⟨b, -, hsep⟩ := exists_separator pretty level
  rw [hsep]
  exact Nat.zero_lt_succ _

/-- What comes behind an item ends a number. -/
theorem over_separator (pretty : Bool) (level : Nat) (s : List Char) :
    Over (separator pretty level ++ s) := by
  obtain ⟨b, -, hsep⟩ := exists_separator pretty level
  rw [hsep]
  exact over_cons (by decide) _

/-- What separates two items is skipped behind its comma. -/
theorem exists_skip_separator (pretty : Bool) (level : Nat) {s : List Char} (hs : Starts s) :
    ∃ r, skip (separator pretty level ++ s) = ',' :: r ∧ skip r = s := by
  obtain ⟨b, hb, hsep⟩ := exists_separator pretty level
  obtain ⟨c, t, rfl, hc, -⟩ := hs
  exact ⟨b ++ c :: t, by rw [hsep]; exact skip_of_head (by decide) _, skip_append hb hc t⟩

theorem readItems_last {fuel : Nat} {s : List Char} {d : Document} {b : List Char} (hb : Blank b)
    (h : readValue fuel s = .ok (d, b ++ ']' :: rest)) :
    readItems (fuel + 1) s = .ok ([d], rest) := by
  rw [readItems, h]
  simp only [bind, Except.bind, skip_append hb (show isSpace ']' = false by decide)]
  rfl

theorem readItems_more {fuel : Nat} {s t : List Char} {d : Document} {ds : List Document}
    (ht : Starts t) (h : readValue fuel s = .ok (d, separator pretty level ++ t))
    (hrest : readItems fuel t = .ok (ds, rest)) :
    readItems (fuel + 1) s = .ok (d :: ds, rest) := by
  obtain ⟨r, hsep, hr⟩ := exists_skip_separator pretty level ht
  rw [readItems, h]
  simp only [bind, Except.bind, hsep, hr, hrest]
  rfl

/-- **Items are read back**, up to the bracket behind them, if each of them is. -/
theorem readItems_intercalate {ds : List Document} {ts : List (List Char)}
    (hreads : List.Forall₂ Reads ds ts) (hne : ts ≠ []) {b : List Char} (hb : Blank b) {fuel : Nat}
    (hfuel : ((separator pretty level).intercalate ts).length < fuel) :
    readItems fuel ((separator pretty level).intercalate ts ++ (b ++ ']' :: rest)) =
      .ok (ds, rest) := by
  induction hreads generalizing fuel with
  | nil => exact (hne rfl).elim
  | @cons d t ds ts hd hrest ih =>
    obtain ⟨fuel, rfl⟩ := Nat.exists_eq_add_one.mpr (Nat.zero_lt_of_lt hfuel)
    cases hrest with
    | nil =>
      rw [List.intercalate_singleton] at hfuel ⊢
      exact readItems_last hb (hd.reads _ _ (by omega) (over_append hb (by decide) _))
    | @cons e u ds ts he hrest =>
      have hover := over_separator pretty level
      have hpos := length_separator_pos pretty level
      rw [List.intercalate_cons_cons] at hfuel ⊢
      simp only [List.length_append] at hfuel
      rw [List.append_assoc, List.append_assoc]
      exact readItems_more ((he.starts.intercalate _ _).append _)
        (hd.reads _ _ (by omega) (hover _)) (ih (by simp) (by omega))

/-- An entry of a mapping, if its value is written as `t`. -/
def entryText (name : String) (t : List Char) : List Char := stringText name ++ [':', ' '] ++ t

/-- An entry up to its value is read back. -/
theorem readEntries_entry {name : String} {t s : List Char} {d : Document} {fuel : Nat}
    (ht : Starts t) (h : readValue fuel (t ++ s) = .ok (d, s))
    (entries : List (Document × Document)) :
    readEntries (fuel + 1) entries (entryText name t ++ s) =
      match skip s with
      | '\x7d' :: rest => .ok (.mapping none (put (.str name) d entries), rest)
      | ',' :: rest => readEntries fuel (put (.str name) d entries) (skip rest)
      | rest => .error (.at .comma rest) := by
  obtain ⟨c, u, rfl, hc, -⟩ := ht
  have hskip : skip (' ' :: (c :: u ++ s)) = c :: u ++ s :=
    skip_append (b := [' ']) (by simp [Blank, isSpace]) hc (u ++ s)
  simp only [entryText, stringText, List.cons_append, List.append_assoc, List.nil_append]
    at h hskip ⊢
  rw [readEntries, readString_stringText]
  simp only [bind, Except.bind, skip_of_head (show isSpace ':' = false by decide), hskip, h]
  rfl

/-- What an entry is written as. -/
def EntryReads (e : String × Document) (u : List Char) : Prop :=
  ∃ t, u = entryText e.1 t ∧ Reads e.2 t

theorem EntryReads.starts {e : String × Document} {u : List Char} (h : EntryReads e u) :
    Starts u := by
  obtain ⟨t, rfl, -⟩ := h
  exact ⟨'"', _, rfl, by decide⟩

theorem length_lt_entryText (name : String) (t : List Char) :
    t.length < (entryText name t).length := by
  simp [entryText, stringText]
  omega

/-- **Entries are read back**, up to the bracket behind them, if each of them is and no two have one
name. They are put behind the entries read so far. -/
theorem readEntries_intercalate {es : List (String × Document)} {us : List (List Char)}
    (hreads : List.Forall₂ EntryReads es us) (hne : us ≠ []) {b : List Char} (hb : Blank b)
    {before : List (String × Document)} (hnames : ((before ++ es).map Prod.fst).Nodup) {fuel : Nat}
    (hfuel : ((separator pretty level).intercalate us).length < fuel) :
    readEntries fuel (named before)
        ((separator pretty level).intercalate us ++ (b ++ '\x7d' :: rest)) =
      .ok (.mapping none (named (before ++ es)), rest) := by
  induction hreads generalizing fuel before with
  | nil => exact (hne rfl).elim
  | @cons e u es us he hrest ih =>
    obtain ⟨fuel, rfl⟩ := Nat.exists_eq_add_one.mpr (Nat.zero_lt_of_lt hfuel)
    obtain ⟨t, rfl, ht⟩ := he
    have hshort := length_lt_entryText e.1 t
    have hnew : e.1 ∉ before.map Prod.fst := by
      rw [List.map_append, List.map_cons] at hnames
      exact fun hmem => (List.nodup_append.mp hnames).2.2 _ hmem _ List.mem_cons_self rfl
    cases hrest with
    | nil =>
      rw [List.intercalate_singleton] at hfuel ⊢
      rw [readEntries_entry ht.starts (ht.reads _ _ (by omega) (over_append hb (by decide) _)),
        skip_append hb (by decide), put_named _ hnew]
      rfl
    | @cons e' u' es us he' hrest =>
      have hpos := length_separator_pos pretty level
      have hover := over_separator pretty level
      rw [List.intercalate_cons_cons] at hfuel ⊢
      simp only [List.length_append] at hfuel
      rw [List.append_assoc, List.append_assoc,
        readEntries_entry ht.starts (ht.reads _ _ (by omega) (hover _)), put_named _ hnew]
      obtain ⟨r, hsep, hr⟩ := exists_skip_separator pretty level
        ((he'.starts.intercalate (separator pretty level) us).append (b ++ '\x7d' :: rest))
      have hrec := @ih (by simp) (before ++ [e]) (by simpa using hnames) fuel (by omega)
      rw [hsep]
      simp only [hr]
      simpa using hrec

/-- Brackets with nothing between them are read back. -/
theorem reads_noItems : Reads (.list none []) ['[', ']'] where
  starts := ⟨'[', _, rfl, by decide⟩
  reads fuel rest hfuel _ := by
    obtain ⟨fuel, rfl⟩ := Nat.exists_eq_add_one.mpr (Nat.zero_lt_of_lt hfuel)
    rfl

theorem reads_noEntries : Reads (.mapping none []) ['\x7b', '\x7d'] where
  starts := ⟨'\x7b', _, rfl, by decide⟩
  reads fuel rest hfuel _ := by
    obtain ⟨fuel, rfl⟩ := Nat.exists_eq_add_one.mpr (Nat.zero_lt_of_lt hfuel)
    rfl

/-- Texts with something between them start like the first one. -/
theorem starts_intercalate {α : Type} {R : α → List Char → Prop} {xs : List α}
    {ts : List (List Char)} (h : List.Forall₂ R xs ts) (hR : ∀ x t, R x t → Starts t)
    (hne : ts ≠ []) (sep s : List Char) : Starts (sep.intercalate ts ++ s) := by
  cases h with
  | nil => exact (hne rfl).elim
  | cons hhead _ => exact ((hR _ _ hhead).intercalate sep _).append s

/-- **A list is read back**, if its items are. -/
theorem reads_list {ds : List Document} {ts : List (List Char)} (hreads : List.Forall₂ Reads ds ts)
    (hne : ts ≠ []) {a b : List Char} (ha : Blank a) (hb : Blank b) :
    Reads (.list none ds)
      ('[' :: (a ++ (separator pretty level).intercalate ts ++ b ++ [']'])) where
  starts := ⟨'[', _, rfl, by decide⟩
  reads fuel rest hfuel _ := by
    obtain ⟨fuel, rfl⟩ := Nat.exists_eq_add_one.mpr (Nat.zero_lt_of_lt hfuel)
    simp only [List.length_cons, List.length_append] at hfuel
    have hitems := @readItems_intercalate pretty level rest ds ts hreads hne b hb fuel (by omega)
    obtain ⟨c, s, hbody, hc, hclose⟩ :=
      starts_intercalate hreads (fun _ _ h => h.starts) hne (separator pretty level)
        (b ++ ']' :: rest)
    rw [hbody] at hitems
    have htext : '[' :: (a ++ (separator pretty level).intercalate ts ++ b ++ [']']) ++ rest =
        '[' :: (a ++ c :: s) := by
      rw [← hbody]
      simp
    rw [htext, readValue, skip_append ha hc]
    split
    · next heq =>
      cases heq
      exact (hclose (by simp)).elim
    · rw [hitems]
      rfl

/-- **A mapping is read back**, if its entries are and no two have one name. -/
theorem reads_mapping {es : List (String × Document)} {us : List (List Char)}
    (hreads : List.Forall₂ EntryReads es us) (hne : us ≠ []) (hnames : (es.map Prod.fst).Nodup)
    {a b : List Char} (ha : Blank a) (hb : Blank b) :
    Reads (.mapping none (named es))
      ('\x7b' :: (a ++ (separator pretty level).intercalate us ++ b ++ ['\x7d'])) where
  starts := ⟨'\x7b', _, rfl, by decide⟩
  reads fuel rest hfuel _ := by
    obtain ⟨fuel, rfl⟩ := Nat.exists_eq_add_one.mpr (Nat.zero_lt_of_lt hfuel)
    simp only [List.length_cons, List.length_append] at hfuel
    have hentries := @readEntries_intercalate pretty level rest es us hreads hne b hb [] hnames fuel
      (by omega)
    obtain ⟨c, s, hbody, hc, hclose⟩ :=
      starts_intercalate hreads (fun _ _ h => h.starts) hne (separator pretty level)
        (b ++ '\x7d' :: rest)
    rw [hbody] at hentries
    have htext : '\x7b' :: (a ++ (separator pretty level).intercalate us ++ b ++ ['\x7d']) ++ rest =
        '\x7b' :: (a ++ c :: s) := by
      rw [← hbody]
      simp
    rw [htext, readValue, skip_append ha hc]
    split
    · next heq =>
      cases heq
      exact (hclose (by simp)).elim
    · exact hentries

end Containers

end Json

end Treewalk
