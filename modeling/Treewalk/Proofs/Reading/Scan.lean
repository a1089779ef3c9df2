import Mathlib
import Treewalk.Document.Format

/-!
# What a scan of YAML can fail with

Scanning a YAML text is a computation that moves forward in the text and may complain. All that it
complains about is a problem with the text, but for one thing: a numeric escape in quotes may stand
for no character, and then the conversion of its number is what fails.

What the functions keep is stated as a triple (`Treewalk.Yaml.Keeps`): if the state is as it should
be before, then it is so afterwards, and a failure that is no problem with the text is as it should
be. The triples of the small functions are specifications for the larger ones, so a function that
only puts others together needs no argument of its own.

* **`Treewalk.Yaml.Token.scan_mishap`**: what is wrong with a scan beyond a problem is an escape in
  the text, with a number behind the last character.
-/

namespace Treewalk.Yaml

open Std.Do

set_option mvcgen.warning false

/-! ### Triples -/

/-- Whether a refusal is a problem, or a mishap of the given sort. -/
def Refusal.Only (P : Mishap → Prop) : Refusal → Prop
  | .mishap m => P m
  | _ => True

@[simp]
theorem Refusal.only_problem (P : Mishap → Prop) (p : Problem) (line : Nat) :
    (problem p line).Only P :=
  trivial

/-- A computation keeps what holds of its state, and is refused by a mishap only as `P` says. -/
abbrev Keeps {σ α : Type} (I : σ → Prop) (P : Mishap → Prop) (x : StateT σ (Except Refusal) α) :
    Prop :=
  ⦃fun s => ⌜I s⌝⦄ x ⦃post⟨fun _ s => ⌜I s⌝, fun e => ⌜e.Only P⌝⟩⦄

/-- What a reading comes to: it gives what is as `Q` says, or it is refused by a problem, or by a
mishap as `P` says. -/
def Ends {α : Type} (Q : α → Prop) (P : Mishap → Prop) : Except Refusal α → Prop
  | .ok a => Q a
  | .error e => e.Only P

namespace Ends

variable {α β : Type} {Q : α → Prop} {R : β → Prop} {P : Mishap → Prop} {x : Except Refusal α}

theorem bind {f : α → Except Refusal β} (hx : Ends Q P x) (hf : ∀ a, Q a → Ends R P (f a)) :
    Ends R P (x >>= f) := by
  cases x with
  | ok a => exact hf a hx
  | error e => exact hx

theorem imp {Q' : α → Prop} {P' : Mishap → Prop} (hx : Ends Q P x) (hQ : ∀ a, Q a → Q' a)
    (hP : ∀ m, P m → P' m) : Ends Q' P' x := by
  match x with
  | .ok a => exact hQ a hx
  | .error (.problem _ _) | .error (.unacceptable _ _) => trivial
  | .error (.mishap m) => exact hP m hx

theorem of_mishap (h : ∀ m, x = .error (.mishap m) → P m) : Ends (fun _ => True) P x := by
  match x with
  | .ok _ | .error (.problem _ _) | .error (.unacceptable _ _) => trivial
  | .error (.mishap m) => exact h m rfl

/-- What has no complaint but problems may be a part of what has others. -/
theorem of_problems (hx : Ends Q (fun _ => False) x) : Ends Q P x :=
  hx.imp (fun _ => id) fun _ => False.elim

end Ends

/-- A triple says what a computation comes to in every state that is as it should be. -/
theorem triple_iff {σ α : Type} {I : σ → Prop} {Q : α → σ → Prop} {P : Mishap → Prop}
    {x : StateT σ (Except Refusal) α} :
    ⦃fun s => ⌜I s⌝⦄ x ⦃post⟨fun a s => ⌜Q a s⌝, fun e => ⌜e.Only P⌝⟩⦄ ↔
      ∀ s, I s → Ends (fun r => Q r.1 r.2) P (x s) := by
  refine forall_congr' fun s => imp_congr Iff.rfl ?_
  change ((wp (x s)).apply (fun r => ⌜Q r.1 r.2⌝, fun e => ⌜e.Only P⌝, PUnit.unit)).down ↔ _
  cases x s with
  | ok a => exact Iff.rfl
  | error e => exact Iff.rfl

@[spec high]
theorem throw_spec {σ α : Type} (e : Refusal) {Q : PostCond α (.arg σ (.except Refusal .pure))} :
    ⦃fun _ => Q.2.1 e⦄ (throw e : StateT σ (Except Refusal) α) ⦃Q⦄ :=
  fun _ h => h

/-! ### Moving forward -/

namespace Cursor

/-- What stands at the cursor is ahead of it, and behind that, what is ahead of the next. -/
theorem rest_eq_of_head {c : Cursor} {x : Char} (h : c.head = x) (hx : x ≠ endMark) :
    c.rest = x :: (c.forward 1).rest := by
  unfold head at h
  simp only [forward, next]
  cases hrest : c.rest with
  | nil =>
    rw [hrest] at h
    exact (hx h.symm).elim
  | cons y rest =>
    rw [hrest] at h
    cases h
    simp only
    split_ifs <;> rfl

/-- What is ahead is the end of the text. -/
def Ahead (source : Source) (c : Cursor) : Prop := c.rest <:+ source.toText.toList

/-- What is left to read is a part of what was left before, up to its end. -/
theorem next_suffix (c : Cursor) : c.next.rest <:+ c.rest := by
  unfold next
  split
  · exact List.suffix_refl _
  · next h => split_ifs <;> simp [h]

theorem forward_suffix (c : Cursor) (n : Nat) : (c.forward n).rest <:+ c.rest := by
  induction n generalizing c with
  | zero => exact List.suffix_refl _
  | succ n ih => exact (ih _).trans c.next_suffix

namespace Ahead

variable {source : Source} {c : Cursor} (h : c.Ahead source)
include h

theorem next : c.next.Ahead source := c.next_suffix.trans h

theorem forward (n : Nat) : (c.forward n).Ahead source := (c.forward_suffix n).trans h

end Ahead

end Cursor

/-- **A numeric escape of the text that stands for no character.** -/
def Escapes (source : Source) (m : Mishap) : Prop :=
  (m.kind = .overflow ∨ m.kind = .value) ∧ ∃ e ds,
    '\\' :: e :: ds <:+: source.toText.toList ∧ Lexeme.escapeLength? e = some ds.length ∧
      ds.all Lexeme.isHexDigit = true ∧ 0x110000 ≤ Lexeme.hexValue ds

/-- A scan moves forward in the text, and fails for an escape of it if not for a problem. -/
abbrev Scans {α : Type} (source : Source) (x : Scan α) : Prop :=
  Keeps (Cursor.Ahead source) (Escapes source) x

variable {source : Source}

namespace Scan

/-- A problem is found where the reader stands. -/
@[spec]
theorem fail_spec {α : Type} (p : Problem)
    {Q : PostCond α (.arg Cursor (.except Refusal .pure))} :
    ⦃fun c => Q.2.1 (.problem p (c.line + 1))⦄ (fail p : Scan α) ⦃Q⦄ :=
  fun _ h => h

/-- Behind the last character there is the one that ends the text. -/
@[spec]
theorem head_scans : Scans source head := by mvcgen [head]

@[spec]
theorem peek_scans (k : Nat) : Scans source (peek k) := by mvcgen [peek]

/-- To go forward is to leave characters behind. -/
@[spec]
theorem forward_scans (n : Nat) : Scans source (forward n) := by
  mvcgen [forward] with exact Cursor.Ahead.forward ‹_› _

@[spec]
theorem skip_scans (p : Char → Bool) : Scans source (skip p) := by
  mvcgen [skip] with exact Cursor.Ahead.forward ‹_› _

/-- Characters of one sort are taken up to the first that is none. -/
@[spec]
theorem take_scans (p : Char → Bool) : Scans source (take p) := by
  mvcgen [take] with exact Cursor.Ahead.forward ‹_› _

@[spec]
theorem lineBreak_scans : Scans source lineBreak := by
  mvcgen [lineBreak]
  · exact Cursor.Ahead.forward ‹_› _
  all_goals exact Cursor.Ahead.next ‹_›

@[spec]
theorem comment_scans : Scans source comment := by mvcgen [comment]

@[spec]
theorem restOfLine_scans : Scans source restOfLine := by mvcgen [restOfLine]

end Scan

namespace Lexeme

/-! ### Names and tags -/

@[spec]
theorem anchorName_scans : Scans source anchorName := by mvcgen [anchorName]

/-- Escaped octets in a tag have to be those of characters. -/
@[spec]
theorem uriOctets_scans (fuel : Nat) : Scans source (uriOctets fuel) := by
  induction fuel with
  | zero => mvcgen [uriOctets]
  | succ fuel ih => mvcgen [uriOctets, ih]

@[spec]
theorem uri_scans (fuel : Nat) : Scans source (uri fuel) := by
  induction fuel with
  | zero => mvcgen [uri]
  | succ fuel ih => mvcgen [uri, ih]

@[spec]
theorem someUri_scans : Scans source someUri := by mvcgen [someUri]

@[spec]
theorem handle_scans : Scans source handle := by mvcgen [handle]

@[spec]
theorem tag_scans : Scans source tag := by mvcgen [tag]

/-- The digits of a version are taken up to the first character that is none. -/
@[spec]
theorem versionNumber_scans : Scans source versionNumber := by mvcgen [versionNumber]

@[spec]
theorem directive_scans : Scans source directive := by mvcgen [directive]

/-! ### Quoted scalars -/

@[spec]
theorem quotedBreaks_scans (fuel : Nat) : Scans source (quotedBreaks fuel) := by
  induction fuel with
  | zero => mvcgen [quotedBreaks]
  | succ fuel ih => mvcgen [quotedBreaks, ih]

@[spec]
theorem quotedSpaces_scans : Scans source quotedSpaces := by mvcgen [quotedSpaces]

/-- A number behind the last character, at an escape in front of the cursor, is one of the text. -/
theorem escapes_of_take {c : Cursor} {e : Char} {count : Nat} {m : Mishap}
    (hm : m.kind = .overflow ∨ m.kind = .value) (he : escapeLength? e = some count)
    (hahead : '\\' :: e :: c.rest <:+ source.toText.toList)
    (hhex : (c.rest.take count).find? (fun d => !isHexDigit d) = none)
    (hlength : ¬ (c.rest.take count).length < count)
    (hcode : 0x110000 ≤ hexValue (c.rest.take count)) : Escapes source m := by
  refine ⟨hm, e, c.rest.take count, ?_, ?_, ?_, hcode⟩
  · have hfront : '\\' :: e :: c.rest.take count <+: '\\' :: e :: c.rest := by
      simp [List.take_prefix]
    exact hfront.isInfix.trans hahead.isInfix
  · have hmost : (c.rest.take count).length ≤ count := List.length_take_le _ _
    rw [he, show (c.rest.take count).length = count by omega]
  · simpa using hhex

/-- **An escape is read, or its number is refused**, if the escape begins in front of the cursor. -/
@[spec]
theorem escapedCode_scans (count : Nat) :
    ⦃fun c => ⌜∃ e, escapeLength? e = some count ∧ '\\' :: e :: c.rest <:+ source.toText.toList⌝⦄
      escapedCode count
      ⦃post⟨fun _ c => ⌜c.Ahead source⌝, fun e => ⌜e.Only (Escapes source)⌝⟩⦄ := by
  mvcgen [escapedCode]
  case vc3 hahead _ hhex _ hlength _ _ hcode =>
    obtain ⟨e, he, hahead⟩ := hahead
    exact escapes_of_take (.inl rfl) he hahead hhex hlength (Nat.le_trans (by decide) hcode)
  case vc4 hahead _ hhex _ hlength _ _ _ _ hcode =>
    obtain ⟨e, he, hahead⟩ := hahead
    exact escapes_of_take (.inr rfl) he hahead hhex hlength hcode
  case vc5 hahead _ _ _ _ _ _ _ _ _ =>
    obtain ⟨e, he, hahead⟩ := hahead
    exact .trans (by simp [List.suffix_cons_iff]) hahead

/-- Behind a backslash and the letter of an escape stands its number. -/
theorem ahead_escape {c : Cursor} {count : Nat} (h : c.Ahead source) (hmark : c.head = '\\')
    (he : escapeLength? (c.forward 1).head = some count) :
    ∃ e, escapeLength? e = some count ∧
      '\\' :: e :: ((c.forward 1).forward 1).rest <:+ source.toText.toList := by
  have hrest : c.rest = '\\' :: (c.forward 1).rest :=
    Cursor.rest_eq_of_head hmark (by decide)
  have hletter : (c.forward 1).rest = (c.forward 1).head :: ((c.forward 1).forward 1).rest := by
    refine Cursor.rest_eq_of_head rfl fun hend => ?_
    rw [hend] at he
    cases he
  refine ⟨_, he, ?_⟩
  rw [← hletter, ← hrest]
  exact h

/-- An escape in a quoted scalar is the one thing that can go wrong beyond a problem. -/
@[spec]
theorem quotedWord_scans (double : Bool) (fuel : Nat) : Scans source (quotedWord double fuel) := by
  induction fuel with
  | zero => mvcgen [quotedWord]
  | succ fuel ih =>
    -- the cursor is followed move by move, to know what stands in front of an escape's number
    mvcgen [quotedWord, ih, -Scan.head_scans, -Scan.peek_scans, -Scan.forward_scans, Scan.head,
      Scan.peek, Scan.forward]
    case vc4 hahead _ _ _ _ _ _ _ _ _ => exact (hahead.forward 1).forward 1
    case vc5 hahead _ _ hmark _ _ he _ _ =>
      exact ahead_escape hahead (by simpa using (Bool.and_eq_true_iff.mp hmark).2) he
    all_goals exact Cursor.Ahead.forward ‹_› _

@[spec]
theorem quotedRest_scans (double : Bool) (fuel : Nat) : Scans source (quotedRest double fuel) := by
  induction fuel with
  | zero => mvcgen [quotedRest]
  | succ fuel ih => mvcgen [quotedRest, ih]

@[spec]
theorem quotedScalar_scans (double : Bool) : Scans source (quotedScalar double) := by
  mvcgen [quotedScalar]

/-! ### Block scalars -/

@[spec]
theorem chomping?_scans : Scans source chomping? := by mvcgen [chomping?]

@[spec]
theorem increment?_scans : Scans source increment? := by mvcgen [increment?]

@[spec]
theorem blockIndicators_scans : Scans source blockIndicators := by mvcgen [blockIndicators]

@[spec]
theorem blockIndentation_scans (fuel widest : Nat) : Scans source (blockIndentation fuel widest) := by
  induction fuel generalizing widest with
  | zero => mvcgen [blockIndentation]
  | succ fuel ih => mvcgen [blockIndentation, ih]

@[spec]
theorem indentation_scans (indent : Nat) : Scans source (indentation indent) := by
  mvcgen [indentation]

@[spec]
theorem blockBreaks_scans (indent fuel : Nat) : Scans source (blockBreaks indent fuel) := by
  induction fuel with
  | zero => mvcgen [blockBreaks]
  | succ fuel ih => mvcgen [blockBreaks, ih]

@[spec]
theorem atBlockLine_scans (indent : Nat) : Scans source (atBlockLine indent) := by
  mvcgen [atBlockLine]

/-- The lines of a block are read as long as they are indented. -/
@[spec]
theorem blockLines_scans (isFolded : Bool) (chomping : Chomping) (indent fuel : Nat)
    (breaks : List Char) : Scans source (blockLines isFolded chomping indent fuel breaks) := by
  induction fuel generalizing breaks with
  | zero => mvcgen [blockLines]
  | succ fuel ih => mvcgen [blockLines, ih]

@[spec]
theorem blockScalar_scans (isFolded : Bool) (outer : Int) :
    Scans source (blockScalar isFolded outer) := by
  mvcgen [blockScalar]

/-! ### Plain scalars -/

@[spec]
theorem plainBreaks_scans (fuel : Nat) : Scans source (plainBreaks fuel) := by
  induction fuel with
  | zero => mvcgen [plainBreaks]
  | succ fuel ih => mvcgen [plainBreaks, ih]

@[spec]
theorem plainSpaces_scans : Scans source plainSpaces := by mvcgen [plainSpaces]

/-- A plain scalar goes on over lines that are indented. -/
@[spec]
theorem plainParts_scans (inFlow : Bool) (outer : Int) (fuel : Nat) (gap : List Char)
    (broken : Bool) : Scans source (plainParts inFlow outer fuel gap broken) := by
  induction fuel generalizing gap broken with
  | zero => mvcgen [plainParts]
  | succ fuel ih => mvcgen [plainParts, ih]

@[spec]
theorem plainScalar_scans (inFlow : Bool) (outer : Int) :
    Scans source (plainScalar inFlow outer) := by
  mvcgen [plainScalar]

end Lexeme

/-! ### Tokens -/

namespace Token

/-- A step of scanning moves forward in the text, and fails for an escape of it if not for a
problem. -/
abbrev Steps {α : Type} (source : Source) (x : Step α) : Prop :=
  Keeps (fun s => s.cursor.Ahead source) (Escapes source) x

namespace Step

/-- A lexeme is read at the cursor of the step. -/
@[spec]
theorem lex_steps {α : Type} {x : Scan α} (hx : Scans source x) : Steps source (lex x) := by
  refine triple_iff.mpr fun s hs => ?_
  have hscan := triple_iff.mp hx s.cursor hs
  rw [lex]
  match x s.cursor, hscan with
  | .ok _, h => exact h
  | .error _, h => exact h

@[spec]
theorem fail_spec {α : Type} (p : Problem)
    {Q : PostCond α (.arg Scanner (.except Refusal .pure))} :
    ⦃fun s => Q.2.1 (.problem p (s.cursor.line + 1))⦄ (fail p : Step α) ⦃Q⦄ :=
  fun _ h => h

@[spec]
theorem add_steps (kind : TokenKind) : Steps source (add kind) := by mvcgen [add]

@[spec]
theorem addMark_steps (kind : TokenKind) (length : Nat) : Steps source (addMark kind length) := by
  mvcgen [addMark]

@[spec]
theorem addLexeme_steps {α : Type} {x : Scan α} (hx : Scans source x) (kind : α → TokenKind) :
    Steps source (addLexeme x kind) := by
  mvcgen [addLexeme]

@[spec]
theorem allow_steps (b : Bool) : Steps source (allow b) := by mvcgen [allow]

/-- A key that has become impossible is forgotten, unless it was required. -/
@[spec]
theorem dropStale_steps : Steps source dropStale := by mvcgen [dropStale]

@[spec]
theorem dropKey_steps : Steps source dropKey := by mvcgen [dropKey]

@[spec]
theorem saveKey_steps : Steps source saveKey := by mvcgen [saveKey]

@[spec]
theorem unwindFrom_steps (column : Int) (fuel : Nat) : Steps source (unwindFrom column fuel) := by
  induction fuel with
  | zero => mvcgen [unwindFrom]
  | succ fuel ih => mvcgen [unwindFrom, ih]

/-- Blocks are closed that are indented further than the column. -/
@[spec]
theorem unwind_steps (column : Int) : Steps source (unwind column) := by mvcgen [unwind]

@[spec]
theorem openBlock_steps (column : Nat) : Steps source (openBlock column) := by mvcgen [openBlock]

@[spec]
theorem streamEnd_steps : Steps source streamEnd := by mvcgen [streamEnd]

@[spec]
theorem directive_steps : Steps source directive := by mvcgen [directive]

@[spec]
theorem documentMark_steps (kind : TokenKind) : Steps source (documentMark kind) := by
  mvcgen [documentMark]

@[spec]
theorem flowStart_steps (kind : TokenKind) : Steps source (flowStart kind) := by mvcgen [flowStart]

@[spec]
theorem flowEnd_steps (kind : TokenKind) : Steps source (flowEnd kind) := by mvcgen [flowEnd]

@[spec]
theorem flowEntry_steps : Steps source flowEntry := by mvcgen [flowEntry]

@[spec]
theorem blockEntry_steps : Steps source blockEntry := by mvcgen [blockEntry]

@[spec]
theorem key_steps : Steps source key := by mvcgen [key]

@[spec]
theorem insertAt_steps (k : Key) (kind : TokenKind) : Steps source (insertAt k kind) := by
  mvcgen [insertAt]

/-- A value may turn what stands in front of it into a key, and so open a block. -/
@[spec]
theorem value_steps : Steps source value := by mvcgen [value]

@[spec]
theorem keyLexeme_steps {α : Type} {x : Scan α} (hx : Scans source x) (kind : α → TokenKind) :
    Steps source (keyLexeme x kind) := by
  mvcgen [keyLexeme]

@[spec]
theorem blockScalar_steps (folded : Bool) : Steps source (blockScalar folded) := by
  mvcgen [blockScalar]

@[spec]
theorem plainScalar_steps : Steps source plainScalar := by mvcgen [plainScalar]

/-- Blanks, comments and line breaks stand between tokens. -/
@[spec]
theorem toNextToken_steps (fuel : Nat) : Steps source (toNextToken fuel) := by
  induction fuel with
  | zero => mvcgen [toNextToken]
  | succ fuel ih => mvcgen [toNextToken, ih]

/-- **A step of scanning** moves forward in the text, whatever token comes next. -/
theorem fetch_steps : Steps source fetch := by mvcgen [fetch]

end Step

/-- **Every run of scanning**, from a state that is as it should be. -/
theorem scanFrom_complaint (fuel : Nat) {s : Scanner} (hs : s.cursor.Ahead source) :
    ∀ e ∈ (scanFrom fuel s).complaint, e.Only (Escapes source) := by
  induction fuel generalizing s with
  | zero => simp [scanFrom]
  | succ fuel ih =>
    have hfetch := triple_iff.mp (Step.fetch_steps : Steps source _) s hs
    simp only [scanFrom]
    match Step.fetch s, hfetch with
    | .error e, he => simpa [Ends] using he
    | .ok (_, after), hafter =>
      have hstale := triple_iff.mp (Step.dropStale_steps : Steps source _) after hafter
      dsimp only
      split
      · simp
      · match Step.dropStale after, hstale with
        | .error e, he => simpa [Ends] using he
        | .ok (_, after), hafter => exact ih hafter

/-- **What is wrong with a scan beyond a problem** is an escape in the text that stands for no
character. -/
theorem scan_mishap {m : Mishap}
    (h : (scan source.toText.toList).complaint = some (.mishap m)) : Escapes source m := by
  have hstart : (Scanner.start source.toText.toList).cursor.Ahead source := List.suffix_refl _
  exact scanFrom_complaint _ hstart _ h

end Token

end Treewalk.Yaml
