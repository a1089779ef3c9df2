import Mathlib.Data.List.TakeDrop
import Treewalk.Document.Json.Reader

/-!
# What a reading of JSON can fail with

The reader of JSON gives up in two ways. Nearly always it has a problem with the text. But a whole
number with more than 4300 digits is refused by the reader of numbers, and that is no problem with
the text that it reports (`Treewalk.Json.Failure.tooLong`).

Every function of the reader works on what is left of the text, so what it fails with is found in
the text that it was given. This is kept by each of them, whether it returns or fails
(`Treewalk.Json.Within`), and so it is said once, for what comes one after the other
(`Treewalk.Json.Within.bind`).

* **`Treewalk.Json.read_tooLong`**: a number that is refused stands in the text, digit by digit.
* **`Treewalk.Json.read_hasHugeInt`**: a document that is read holds no number that cannot be
  written again.
-/

namespace Treewalk

namespace Decimal

/-- A text holds as many decimal digits in a row. -/
def HasDigits (n : Nat) (s : List Char) : Prop :=
  ∃ ds : List Char, ds <:+: s ∧ ds.length = n ∧ ds.all isAsciiDigit = true

theorem HasDigits.mono {n : Nat} {s t : List Char} (h : HasDigits n s) (hs : s <:+: t) :
    HasDigits n t := by
  obtain ⟨ds, hds, hlength, hall⟩ := h
  exact ⟨ds, hds.trans hs, hlength, hall⟩

theorem toNat_of_isAsciiDigit {c : Char} (h : isAsciiDigit c = true) : c.toNat - 48 ≤ 9 := by
  simp only [isAsciiDigit, Bool.and_eq_true, decide_eq_true_eq] at h
  have hmost : c.toNat ≤ '9'.toNat := h.2
  simp at hmost
  omega

/-- The value of digits is less than the power of ten with as many zeros. -/
theorem natOf_lt {ds : List Char} (h : ds.all isAsciiDigit = true) : natOf ds < Nat.pow 10 ds.length := by
  suffices hfrom : ∀ (ds : List Char) (n : Nat), ds.all isAsciiDigit = true →
      ds.foldl (fun n c => n * 10 + (c.toNat - 48)) n < (n + 1) * 10 ^ ds.length by
    simpa [natOf] using hfrom ds 0 h
  intro ds
  induction ds with
  | nil => simp
  | cons c ds ih =>
    intro n hall
    simp only [List.all_cons, Bool.and_eq_true] at hall
    have hdigit := toNat_of_isAsciiDigit hall.1
    have hrest := ih (n * 10 + (c.toNat - 48)) hall.2
    calc (c :: ds).foldl (fun n c => n * 10 + (c.toNat - 48)) n
        < (n * 10 + (c.toNat - 48) + 1) * 10 ^ ds.length := hrest
      _ ≤ ((n + 1) * 10) * 10 ^ ds.length := Nat.mul_le_mul_right _ (by omega)
      _ = (n + 1) * 10 ^ (c :: ds).length := by
          rw [List.length_cons, Nat.pow_succ', Nat.mul_assoc]

theorem natOf_lt_of_length_le {ds : List Char} {k : Nat} (hall : ds.all isAsciiDigit = true)
    (hfew : ds.length ≤ k) : natOf ds < Nat.pow 10 k :=
  Nat.lt_of_lt_of_le (natOf_lt hall) (Nat.pow_le_pow_right (by decide) hfew)

/-- A number with few enough digits can be written again. -/
theorem isTooLong_of_natAbs_eq {n : Int} {ds : List Char} (hall : ds.all isAsciiDigit = true)
    (hfew : ds.length ≤ maxDigits) (hn : n.natAbs = natOf ds) : isTooLong n = false := by
  rw [isTooLong, hn]
  exact decide_eq_false (Nat.not_le_of_lt (natOf_lt_of_length_le hall hfew))

end Decimal

namespace Document

mutual

/-- Labels do not change which numbers a document holds. -/
theorem hasHugeInt_numberFrom (d : Document) (n : Nat) :
    (numberFrom d n).1.hasHugeInt = d.hasHugeInt := by
  match d with
  | .list label items => exact anyHuge_numberItems items (n + 1)
  | .mapping label entries => exact anyHugeEntry_numberEntries entries (n + 1)
  | .literal _ | .str _ | .date _ _ | .moment _ _ | .back _ _ => rfl

theorem anyHuge_numberItems (items : List Document) (n : Nat) :
    anyHuge (numberItems items n).1 = anyHuge items := by
  match items with
  | [] => rfl
  | d :: rest =>
    exact congrArg₂ or (hasHugeInt_numberFrom d n) (anyHuge_numberItems rest _)

theorem anyHugeEntry_numberEntries (entries : List (Document × Document)) (n : Nat) :
    anyHugeEntry (numberEntries entries n).1 = anyHugeEntry entries := by
  match entries with
  | [] => rfl
  | (k, v) :: rest =>
    exact congrArg₂ or (congrArg (k.hasHugeInt || ·) (hasHugeInt_numberFrom v n))
      (anyHugeEntry_numberEntries rest _)

end

theorem hasHugeInt_numbered (d : Document) : d.numbered.hasHugeInt = d.hasHugeInt :=
  hasHugeInt_numberFrom d 0

/-- What is put into a mapping is all that it gains. -/
theorem anyHugeEntry_put {key value : Document} {entries : List (Document × Document)}
    (hkey : key.hasHugeInt = false) (hvalue : value.hasHugeInt = false)
    (h : anyHugeEntry entries = false) : anyHugeEntry (put key value entries) = false := by
  induction entries with
  | nil => simp [put, anyHugeEntry, hkey, hvalue]
  | cons e rest ih =>
    obtain ⟨k, v⟩ := e
    simp only [anyHugeEntry, Bool.or_eq_false_iff] at h
    obtain ⟨⟨hk, hv⟩, hrest⟩ := h
    simp only [put]
    split
    · simp [anyHugeEntry, hk, hvalue, hrest]
    · simp [anyHugeEntry, hk, hv, ih hrest]

end Document

namespace Json

open Decimal

/-! ### What each function of the reader keeps -/

/-- What a reading at the front of a text comes to: what it gives is as `P` says, and what it leaves
is the end of the text. If it fails for a number with too many digits, the text holds them. -/
def Within {α : Type} (s : List Char) (P : α → Prop) : Except Failure (α × List Char) → Prop
  | .ok (a, rest) => P a ∧ rest <:+ s
  | .error (.at _ _) => True
  | .error (.tooLong n) => maxDigits < n ∧ HasDigits n s

namespace Within

variable {α β : Type} {s t : List Char} {P : α → Prop} {Q : β → Prop}
  {x : Except Failure (α × List Char)} {f : α × List Char → Except Failure (β × List Char)}

theorem mono (hx : Within s P x) (hs : s <:+ t) : Within t P x := by
  match x with
  | .ok (a, rest) => exact ⟨hx.1, hx.2.trans hs⟩
  | .error (.at _ _) => trivial
  | .error (.tooLong n) => exact ⟨hx.1, hx.2.mono hs.isInfix⟩

/-- What comes next reads what was left. -/
theorem bind (hx : Within s P x) (hf : ∀ a rest, P a → Within rest Q (f (a, rest))) :
    Within s Q (x >>= f) := by
  match x with
  | .ok (a, rest) => exact (hf a rest hx.1).mono hx.2
  | .error (.at _ _) => trivial
  | .error (.tooLong n) => exact hx

theorem map {g : α × List Char → β × List Char} (hx : Within s P x)
    (hg : ∀ a rest, P a → Q (g (a, rest)).1 ∧ (g (a, rest)).2 = rest) : Within s Q (x.map g) := by
  match x with
  | .ok (a, rest) =>
    obtain ⟨ha, hrest⟩ := hg a rest hx.1
    exact ⟨ha, hrest.symm ▸ hx.2⟩
  | .error (.at _ _) => trivial
  | .error (.tooLong n) => exact hx

end Within

theorem skip_suffix (s : List Char) : skip s <:+ s := List.dropWhile_suffix _

/-! ### Strings -/

theorem readUnicode?_suffix {s rest : List Char} {c : Char} (h : readUnicode? s = some (c, rest)) :
    rest <:+ s := by
  unfold readUnicode? at h
  repeat' split at h
  all_goals simp only [Option.some.injEq, Prod.mk.injEq, reduceCtorEq] at h
  all_goals
    obtain ⟨-, rfl⟩ := h
    simp [List.suffix_cons_iff]

/-- A character is put in front of what is read behind it. -/
theorem Within.cons {s t : List Char} {x : Except Failure (List Char × List Char)} (c : Char)
    (ht : t <:+ s) (h : Within t (fun _ => True) x) :
    Within s (fun _ => True) (x.map fun (cs, r) => (c :: cs, r)) :=
  (h.mono ht).map fun _ _ _ => ⟨trivial, rfl⟩

theorem readChars_within (start s : List Char) : Within s (fun _ => True) (readChars start s) := by
  fun_induction readChars start s with
  | case1 | case3 => trivial
  | case2 rest => exact ⟨trivial, List.suffix_cons _ _⟩
  | case4 rest h => trivial
  | case5 rest c after h ih =>
    exact Within.cons c ((readUnicode?_suffix h).trans (by simp [List.suffix_cons_iff])) ih
  | case6 => trivial
  | case7 e rest _ c _ ih => exact Within.cons c (by simp [List.suffix_cons_iff]) ih
  | case8 => trivial
  | case9 c rest _ _ _ _ _ ih => exact Within.cons c (List.suffix_cons _ _) ih

theorem readString_within (s : List Char) : Within s (fun _ => True) (readString s) :=
  (readChars_within _ s).bind fun _ _ _ => ⟨trivial, List.suffix_refl _⟩

/-! ### Numbers -/

theorem takeDigits_eq (s : List Char) :
    takeDigits s = (s.takeWhile isAsciiDigit, s.dropWhile isAsciiDigit) :=
  List.span_eq_takeWhile_dropWhile _ s

theorem takeDigits_suffix (s : List Char) : (takeDigits s).2 <:+ s := by
  rw [takeDigits_eq]
  exact List.dropWhile_suffix _

theorem takeWhole_append (s : List Char) : (takeWhole s).1 ++ (takeWhole s).2 = s := by
  unfold takeWhole
  split
  · rfl
  · rw [takeDigits_eq]
    exact List.takeWhile_append_dropWhile

theorem takeWhole_all (s : List Char) : (takeWhole s).1.all isAsciiDigit = true := by
  unfold takeWhole
  split
  · rfl
  · rw [takeDigits_eq]
    exact List.all_takeWhile

theorem takeFraction_suffix (s : List Char) : (takeFraction s).2 <:+ s := by
  unfold takeFraction
  split
  · next rest =>
    dsimp only
    split
    · exact List.suffix_refl _
    · exact (takeDigits_suffix rest).trans (List.suffix_cons _ _)
  · exact List.suffix_refl _

theorem takeExponent_suffix (s : List Char) : (takeExponent s).2 <:+ s := by
  unfold takeExponent
  split
  · next e rest =>
    split
    · split
      next sign unsigned hsign =>
      have hunsigned : unsigned <:+ rest := by
        split at hsign <;> cases hsign
        all_goals simp
      dsimp only
      split
      · exact List.suffix_refl _
      · exact (takeDigits_suffix unsigned).trans (hunsigned.trans (List.suffix_cons _ _))
    · exact List.suffix_refl _
  · exact List.suffix_refl _

/-- **A number is read, or it is refused for digits that the text holds.** -/
theorem readUnsigned_within (start : List Char) (negative : Bool) (s : List Char) :
    Within s (·.hasHugeInt = false) (readUnsigned start negative s) := by
  have happend := takeWhole_append s
  have hall := takeWhole_all s
  have hrest : (takeExponent (takeFraction (takeWhole s).2).2).2 <:+ s :=
    (takeExponent_suffix _).trans ((takeFraction_suffix _).trans ⟨_, happend⟩)
  unfold readUnsigned
  dsimp only
  split
  · trivial
  split
  · split
    · next hlong => exact ⟨hlong, _, ⟨[], _, happend⟩, rfl, hall⟩
    · next hlong =>
      refine ⟨isTooLong_of_natAbs_eq hall (Nat.le_of_not_lt hlong) ?_, hrest⟩
      cases negative <;> simp
  · split
    · exact ⟨rfl, hrest⟩
    · trivial

theorem readNumber_within (s : List Char) : Within s (·.hasHugeInt = false) (readNumber s) := by
  unfold readNumber
  split
  · exact (readUnsigned_within _ _ _).mono (List.suffix_cons _ _)
  · exact readUnsigned_within _ _ _

/-! ### Values -/

/-- The three functions that call each other, at one depth. -/
structure ReadsWithin (fuel : Nat) : Prop where
  value : ∀ s, Within s (·.hasHugeInt = false) (readValue fuel s)
  items : ∀ s, Within s (Document.anyHuge · = false) (readItems fuel s)
  entries : ∀ entries s, Document.anyHugeEntry entries = false →
    Within s (·.hasHugeInt = false) (readEntries fuel entries s)

namespace ReadsWithin

variable {fuel : Nat} (h : ReadsWithin fuel)
include h

theorem value_succ (s : List Char) : Within s (·.hasHugeInt = false) (readValue (fuel + 1) s) := by
  unfold readValue
  split
  case h_1 rest =>
    refine ((readString_within rest).bind fun text rest _ => ?_).mono (List.suffix_cons _ _)
    exact ⟨rfl, List.suffix_refl _⟩
  case h_2 rest =>
    refine Within.mono ?_ ((skip_suffix rest).trans (List.suffix_cons _ _))
    split
    · next heq => exact heq ▸ ⟨rfl, List.suffix_cons _ _⟩
    · exact h.entries [] _ rfl
  case h_3 rest =>
    refine Within.mono ?_ ((skip_suffix rest).trans (List.suffix_cons _ _))
    split
    · next heq => exact heq ▸ ⟨rfl, List.suffix_cons _ _⟩
    · exact (h.items _).bind fun items rest hitems => ⟨hitems, List.suffix_refl _⟩
  case h_10 => exact readNumber_within _
  all_goals exact ⟨rfl, by simp [List.suffix_cons_iff]⟩

theorem items_succ (s : List Char) :
    Within s (Document.anyHuge · = false) (readItems (fuel + 1) s) := by
  rw [readItems]
  refine (h.value s).bind fun d rest hd => ?_
  refine Within.mono ?_ (skip_suffix rest)
  dsimp only
  split
  · next heq => exact heq ▸ ⟨by simp [Document.anyHuge, hd], List.suffix_cons _ _⟩
  · next after heq =>
    rw [heq]
    refine Within.mono ?_ ((skip_suffix after).trans (List.suffix_cons _ _))
    refine (h.items _).bind fun items rest hitems => ⟨?_, List.suffix_refl _⟩
    simp [Document.anyHuge, hd, hitems]
  · trivial

theorem entries_succ {entries : List (Document × Document)} (s : List Char)
    (hentries : Document.anyHugeEntry entries = false) :
    Within s (·.hasHugeInt = false) (readEntries (fuel + 1) entries s) := by
  unfold readEntries
  split
  case h_2 => trivial
  next rest =>
  refine ((readString_within rest).bind fun name rest _ => ?_).mono (List.suffix_cons _ _)
  refine Within.mono ?_ (skip_suffix rest)
  dsimp only
  split
  case h_2 => trivial
  next after heq =>
  rw [heq]
  refine Within.mono ?_ ((skip_suffix after).trans (List.suffix_cons _ _))
  refine (h.value _).bind fun d rest hd => ?_
  have hput : Document.anyHugeEntry (Document.put (.str name) d entries) = false :=
    Document.anyHugeEntry_put rfl hd hentries
  refine Within.mono ?_ (skip_suffix rest)
  dsimp only
  split
  · next heq => exact heq ▸ ⟨hput, List.suffix_cons _ _⟩
  · next after heq =>
    rw [heq]
    refine Within.mono ?_ ((skip_suffix after).trans (List.suffix_cons _ _))
    exact h.entries _ _ hput
  · trivial

end ReadsWithin

/-- **Every reading stays within its text**, at every depth. -/
theorem readsWithin (fuel : Nat) : ReadsWithin fuel := by
  induction fuel with
  | zero =>
    constructor
    · exact fun s => by simp [readValue, Within]
    · exact fun s => by simp [readItems, Within]
    · exact fun entries s _ => by simp [readEntries, Within]
  | succ fuel ih => exact ⟨ih.value_succ, ih.items_succ, fun _ s => ih.entries_succ s⟩

/-! ### Whole texts -/

theorem readText_within (s : List Char) :
    match readText s with
    | .ok d => d.hasHugeInt = false
    | .error (.at _ _) => True
    | .error (.tooLong n) => maxDigits < n ∧ HasDigits n s := by
  cases s with
  | nil => trivial
  | cons c rest =>
  by_cases hmark : c = Char.ofNat 0xFEFF
  · rw [readText, if_pos hmark]
    trivial
  rw [readText, if_neg hmark]
  have hvalue := (readsWithin (2 * (c :: rest).length + 2)).value (skip (c :: rest))
  match readValue (2 * (c :: rest).length + 2) (skip (c :: rest)), hvalue with
  | .ok (d, after), hd =>
    simp only [bind, Except.bind]
    cases skip after with
    | nil => exact hd.1
    | cons => trivial
  | .error (.at _ _), _ => trivial
  | .error (.tooLong n), hn => exact ⟨hn.1, hn.2.mono (skip_suffix _).isInfix⟩

/-- **A number that is refused stands in the text**, with more digits than can be read. -/
theorem read_tooLong {s : String} {n : Nat} (h : read s = .error (.tooLong n)) :
    maxDigits < n ∧ HasDigits n s.toList := by
  have hwithin := readText_within s.toList
  unfold read at h
  split at h
  · cases h
  · cases h
  · next heq =>
    cases h
    rwa [heq] at hwithin

/-- **A document that is read can be written**: none of its numbers has too many digits. -/
theorem read_hasHugeInt {s : String} {d : Document} (h : read s = .ok d) :
    d.hasHugeInt = false := by
  have hwithin := readText_within s.toList
  unfold read at h
  split at h
  · next heq =>
    cases h
    rw [heq] at hwithin
    exact (Document.hasHugeInt_numbered _).trans hwithin
  · cases h
  · cases h

end Json

end Treewalk
