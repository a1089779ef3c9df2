import Treewalk.Program.Printer
import Treewalk.Proofs.Location

/-!
# The layout of printed source

Printed source is put together line by line: a block cuts the text of every statement into lines,
indents the first one, and joins them again (`Treewalk.Text.relined`). Where a text is divided by
newlines only, and does not end in one, nothing happens to it on the way. All that is printed is of
this sort, if it comes from a tree with names of the usual form, with literals that source can say,
and with texts in which newlines, which are escaped, are the only boundaries of lines
(`Treewalk.Program.IsLegible`).

So the source of such a tree can be described without lines. This file gives its characters, one
equation for each kind of node (`Treewalk.Program.source_cond` and its siblings): the blanks stand
behind the newlines, and everything else is what the nodes below are printed as.
-/

namespace Treewalk

/-! ### Lines that are joined again -/

namespace Text

/-- **A text that only newlines divide.** -/
def OnlyNewlines (s : List Char) : Prop := ∀ c ∈ s, isLineBoundary c = true → c = '\n'

-- in terms of `List.all`: a quantifier over characters would be decided by trying all there are
instance (s : List Char) : Decidable (OnlyNewlines s) :=
  decidable_of_iff (s.all fun c => !isLineBoundary c || c == '\n')
    (by simp [OnlyNewlines, or_iff_not_imp_left])

/-- **A text that lines can be made of**: only newlines divide it, and it does not end in one. -/
structure Regular (s : List Char) : Prop where
  onlyNewlines : OnlyNewlines s
  getLast? : ∃ c, s.getLast? = some c ∧ c ≠ '\n'

variable {s t : List Char}

theorem OnlyNewlines.append (hs : OnlyNewlines s) (ht : OnlyNewlines t) : OnlyNewlines (s ++ t) := by
  intro c hc
  rcases List.mem_append.mp hc with h | h
  · exact hs c h
  · exact ht c h

theorem OnlyNewlines.cons {c : Char} (hc : isLineBoundary c = true → c = '\n')
    (hs : OnlyNewlines s) : OnlyNewlines (c :: s) :=
  fun d hd => (List.mem_cons.mp hd).elim (fun h => h ▸ hc) (hs d)

theorem OnlyNewlines.flatMap {α : Type} {l : List α} {f : α → List Char}
    (h : ∀ a ∈ l, OnlyNewlines (f a)) : OnlyNewlines (l.flatMap f) := by
  intro c hc
  obtain ⟨a, ha, hca⟩ := List.mem_flatMap.mp hc
  exact h a ha c hca

/-- Characters that end no line. -/
theorem OnlyNewlines.of_not (h : ∀ c ∈ s, isLineBoundary c = false) : OnlyNewlines s :=
  fun c hc hbreak => absurd hbreak (by simp [h c hc])

theorem Regular.append (hs : OnlyNewlines s) (ht : Regular t) : Regular (s ++ t) := by
  obtain ⟨c, hc, hne⟩ := ht.getLast?
  exact ⟨hs.append ht.onlyNewlines, c, by rw [List.getLast?_append, hc, Option.some_or], hne⟩

theorem Regular.cons {c : Char} (hc : isLineBoundary c = true → c = '\n') (hs : Regular s) :
    Regular (c :: s) :=
  .append (s := [c]) (.cons hc (.of_not (by simp))) hs

/-- A text that ends in a character which ends no line. -/
theorem Regular.snoc (hs : OnlyNewlines s) {c : Char} (hc : isLineBoundary c = false) :
    Regular (s ++ [c]) :=
  .append hs ⟨.of_not (by simpa using hc), c, rfl, fun h => absurd hc (by rw [h]; decide)⟩

theorem Regular.of_not (hne : s ≠ []) (h : ∀ c ∈ s, isLineBoundary c = false) : Regular s := by
  refine ⟨.of_not h, s.getLast hne, List.getLast?_eq_some_getLast hne, fun hlast => ?_⟩
  have hboundary := h _ (List.getLast_mem hne)
  rw [hlast] at hboundary
  exact absurd hboundary (by decide)

theorem linePartsFrom_ne_nil {ends : Char → Bool} (line : List Char) (hs : s ≠ []) :
    linePartsFrom ends line s ≠ [] := by
  fun_induction linePartsFrom ends line s with
  | case1 | case2 => exact absurd rfl hs
  | case3 | case4 => exact List.cons_ne_nil _ _
  | case5 line c rest _ _ ih =>
    cases rest with
    | nil => exact List.cons_ne_nil _ _
    | cons d rest => exact ih (List.cons_ne_nil _ _)

/-- **A text in lines of its own**: every boundary of lines is a newline, and there is none behind
the last line. -/
def relined : List Char → List Char
  | [] => []
  | '\r' :: '\n' :: rest => if rest = [] then [] else '\n' :: relined rest
  | c :: rest =>
    if isLineBoundary c then (if rest = [] then [] else '\n' :: relined rest)
    else c :: relined rest

/-- The lines of a text are joined again, after what has been read of the first one. -/
theorem intercalate_linePartsFrom (line s : List Char) :
    ['\n'].intercalate ((linePartsFrom isLineBoundary line s).map (·.1)) =
      line.reverse ++ relined s := by
  have hnext (first rest : List Char) (ih : ['\n'].intercalate
      ((linePartsFrom isLineBoundary [] rest).map (·.1)) = relined rest) :
      ['\n'].intercalate (first :: (linePartsFrom isLineBoundary [] rest).map (·.1)) =
        first ++ if rest = [] then [] else '\n' :: relined rest := by
    by_cases hrest : rest = []
    · subst hrest
      simp [linePartsFrom]
    · have hlines := @linePartsFrom_ne_nil rest isLineBoundary [] hrest
      rw [List.intercalate_cons_of_ne_nil (by simpa using hlines), ih, if_neg hrest]
      simp
  fun_induction linePartsFrom isLineBoundary line s with
  | case1 => rfl
  | case2 c line => simp [relined]
  | case3 line rest ih =>
    rw [relined]
    exact hnext _ rest ih
  | case4 line c rest hpair hc ih =>
    rw [relined.eq_3 c rest hpair, if_pos hc]
    exact hnext _ rest ih
  | case5 line c rest hpair hc ih =>
    rw [relined.eq_3 c rest hpair, if_neg hc, ih]
    simp

/-- **The lines of a text are joined again.** -/
theorem intercalate_splitLines (s : List Char) : ['\n'].intercalate (splitLines s) = relined s := by
  have h := intercalate_linePartsFrom [] s
  simpa [splitLines, linesOf, lineParts] using h

/-- Where newlines are the only boundaries, all that can be lost is a newline at the end. -/
theorem relined_of_onlyNewlines (hs : OnlyNewlines s) :
    relined s = if s.getLast? = some '\n' then s.dropLast else s := by
  induction s with
  | nil => rfl
  | cons c rest ih =>
    have hrest : OnlyNewlines rest := fun d hd => hs d (List.mem_cons_of_mem _ hd)
    have hpair : ∀ t, c = '\r' → rest = '\n' :: t → False := by
      rintro t rfl -
      exact absurd (hs '\r' List.mem_cons_self (by decide)) (by decide)
    rw [relined.eq_3 c rest hpair, ih hrest]
    rcases rest with _ | ⟨d, rest⟩
    · by_cases hc : isLineBoundary c = true
      · obtain rfl := hs c List.mem_cons_self hc
        rfl
      · have hne : c ≠ '\n' := by
          rintro rfl
          exact hc (by decide)
        simp [hc, hne]
    · have hlast : (c :: d :: rest).getLast? = (d :: rest).getLast? := List.getLast?_cons_cons
      rw [hlast, List.dropLast_cons_of_ne_nil (List.cons_ne_nil d rest)]
      by_cases hc : isLineBoundary c = true
      · obtain rfl := hs c List.mem_cons_self hc
        rw [if_pos hc, if_neg (List.cons_ne_nil d rest)]
        split <;> rfl
      · rw [if_neg hc]
        split <;> rfl

theorem Regular.relined_eq (hs : Regular s) : relined s = s := by
  obtain ⟨c, hc, hne⟩ := hs.getLast?
  rw [relined_of_onlyNewlines hs.onlyNewlines, if_neg (by rw [hc]; simpa using hne)]

/-- A character of names: an ASCII letter, a digit or an underscore. -/
def isNameChar (c : Char) : Bool := c.isAlphanum || c == '_'

/-- Line boundaries are control characters, or beyond ASCII. -/
theorem isLineBoundary_of_isNameChar {c : Char} (h : isNameChar c = true) :
    isLineBoundary c = false := by
  have hrange : 48 ≤ c.toNat ∧ c.toNat ≤ 122 := by
    have within {lo hi : UInt32} (h : lo ≤ c.val ∧ c.val ≤ hi) (hlo : 48 ≤ lo.toNat)
        (hhi : hi.toNat ≤ 122) : 48 ≤ c.toNat ∧ c.toNat ≤ 122 :=
      ⟨Nat.le_trans hlo (UInt32.le_iff_toNat_le.mp h.1),
        Nat.le_trans (UInt32.le_iff_toNat_le.mp h.2) hhi⟩
    rcases Bool.or_eq_true_iff.mp h with halphanum | hunderscore
    · rcases Bool.or_eq_true_iff.mp halphanum with halpha | hdigit
      · rcases Bool.or_eq_true_iff.mp halpha with hupper | hlower
        · exact within (of_decide_eq_true hupper) (by decide) (by decide)
        · obtain ⟨hle, hge⟩ := Bool.and_eq_true_iff.mp hlower
          exact within ⟨of_decide_eq_true hle, of_decide_eq_true hge⟩ (by decide) (by decide)
      · obtain ⟨hle, hge⟩ := Bool.and_eq_true_iff.mp hdigit
        exact within ⟨of_decide_eq_true hle, of_decide_eq_true hge⟩ (by decide) (by decide)
    · obtain rfl : c = '_' := by simpa using hunderscore
      decide
  simp only [isLineBoundary, inRanges, Bool.and_eq_false_iff, decide_eq_false_iff_not,
    Bool.or_eq_false_iff]
  omega

/-- The characters of an integer. -/
def isNumberChar (c : Char) : Bool := c.isDigit || c == '-'

theorem toList_repr (m : Nat) : (Nat.repr m).toList = Nat.toDigits 10 m := by
  rw [Nat.repr_eq_ofList_toDigits, String.toList_ofList]

theorem toList_toString_negSucc (m : Nat) :
    (toString (Int.negSucc m)).toList = '-' :: Nat.toDigits 10 (m + 1) := by
  rw [show toString (Int.negSucc m) = "-" ++ Nat.repr (m + 1) from rfl, String.toList_append,
    toList_repr]
  rfl

theorem isNumberChar_of_mem_toString {n : Int} {c : Char} (h : c ∈ (toString n).toList) :
    isNumberChar c = true := by
  have hdigits {m : Nat} (hm : c ∈ Nat.toDigits 10 m) : isNumberChar c = true := by
    simp [isNumberChar, Nat.isDigit_of_mem_toDigits (by decide) (by decide) hm]
  cases n with
  | ofNat m => exact hdigits (toList_repr m ▸ h)
  | negSucc m =>
    rw [toList_toString_negSucc] at h
    rcases List.mem_cons.mp h with rfl | h
    · rfl
    · exact hdigits h

theorem toList_toString_ne_nil (n : Int) : (toString n).toList ≠ [] := by
  cases n with
  | ofNat m =>
    rw [show toString (Int.ofNat m) = Nat.repr m from rfl, toList_repr]
    exact Nat.toDigits_ne_nil
  | negSucc m =>
    rw [toList_toString_negSucc]
    exact List.cons_ne_nil _ _

theorem isLineBoundary_of_isNumberChar {c : Char} (h : isNumberChar c = true) :
    isLineBoundary c = false := by
  rcases Bool.or_eq_true_iff.mp h with hdigit | hminus
  · exact isLineBoundary_of_isNameChar (by simp [isNameChar, Char.isAlphanum, hdigit])
  · obtain rfl : c = '-' := by simpa using hminus
    decide

/-- The source of a text is a text in quotes. -/
theorem toList_quoteDouble (s : String) :
    (quoteDouble s).toList = '"' :: (s.toList.flatMap quoteDouble.escape ++ ['"']) := by
  simp [quoteDouble]

/-- Several texts with something between them: the first, and each of the others with it in
front. -/
theorem toList_intercalate_cons (between first : String) (rest : List String) :
    (between.intercalate (first :: rest)).toList =
      first.toList ++ rest.flatMap fun s => between.toList ++ s.toList := by
  induction rest generalizing first with
  | nil => simp
  | cons second rest ih =>
    rw [String.intercalate_cons_cons, String.toList_append, ih]
    simp

end Text

open Text

/-! ### Trees that source can say -/

/-- The names that a node writes down. -/
def Node.names : Node → List String
  | .var _ name | .assign _ name _ | .call _ name _ => [name]
  | .define _ name params _ => name :: params
  | _ => []

/-- The words that mean something by themselves. -/
def keywords : List String := ["def", "if", "while", "else", "end", "nil", "true", "false"]

/-- **A name of the usual form**: letters, digits and underscores, not beginning with a digit, and
no keyword. -/
structure IsIdentifier (name : String) : Prop where
  ne_nil : name.toList ≠ []
  isNameChar : ∀ c ∈ name.toList, isNameChar c = true
  head : ∀ c, name.toList.head? = some c → c.isDigit = false
  notKeyword : name ∉ keywords

instance (name : String) : Decidable (IsIdentifier name) :=
  decidable_of_iff (name.toList ≠ [] ∧ name.toList.all isNameChar ∧
      name.toList.head?.all (!·.isDigit) ∧ name ∉ keywords)
    ⟨fun ⟨hne, hchars, hhead, hkeyword⟩ =>
        ⟨hne, List.all_eq_true.mp hchars, by simpa [Option.all_eq_true] using hhead, hkeyword⟩,
      fun h => ⟨h.ne_nil, List.all_eq_true.mpr h.isNameChar,
        by simpa [Option.all_eq_true] using h.head, h.notKeyword⟩⟩

/-- Keywords are words of letters. -/
theorem isNameChar_of_keyword :
    ∀ word ∈ keywords, word.toList ≠ [] ∧ word.toList.all isNameChar := by
  decide

/-- A name is no keyword. -/
theorem IsIdentifier.ne {name word : String} (h : IsIdentifier name) (hword : word ∈ keywords) :
    name ≠ word :=
  fun heq => h.notKeyword (heq ▸ hword)

theorem IsIdentifier.regular {name : String} (h : IsIdentifier name) : Regular name.toList :=
  .of_not h.ne_nil fun c hc => isLineBoundary_of_isNameChar (h.isNameChar c hc)

/-- **A node that source can say**: its names have the usual form, it is no number with a point, and
if it is a text then newlines are the only line boundaries in it. -/
structure Node.IsLegible (n : Node) : Prop where
  names : ∀ name ∈ n.names, IsIdentifier name
  literal : ∀ place x digits, n ≠ .literal place (.float x digits)
  text : ∀ place s, n = .string place s → OnlyNewlines s.toList

/-- **A program that source can say.** -/
def Program.IsLegible (p : Program) : Prop := ∀ n : Node, n.Occurs p.body → n.IsLegible

namespace Program

/-! ### The characters of source -/

section Source

variable (width level : Int)

/-- The blanks in front of a line. -/
def blanks : List Char := (indentation width level).toList

/-- The characters of a node as source. -/
def source (n : Node) : List Char := (printNode width level n).toList

/-- The characters of the lines of a body, each with the newline in front. -/
def sourceLines (ns : List Node) : List Char :=
  ns.flatMap fun n => '\n' :: (blanks width (level + 1) ++ source width (level + 1) n)

/-- The characters of a line with one word. -/
def wordLine (word : String) : List Char := '\n' :: (blanks width level ++ word.toList)

/-- The characters of arguments. -/
def sourceArgs : List Node → List Char
  | [] => []
  | a :: rest => source width level a ++ rest.flatMap fun b => ',' :: ' ' :: source width level b

variable {width level}

theorem toList_block (outer header : String) (lines : List String) :
    (block outer header lines).toList = header.toList ++
      ((lines.flatMap fun line => '\n' :: line.toList) ++
        '\n' :: (outer.toList ++ "end".toList)) := by
  rw [block, toList_intercalate_cons]
  simp

/-- **A statement is indented**, and put in lines of its own. -/
theorem toList_bodyLine (indent text : String) :
    (bodyLine indent text).toList = indent.toList ++ relined text.toList := by
  have hjoin := intercalate_splitLines text.toList
  unfold bodyLine
  cases hlines : splitLines text.toList with
  | nil =>
    rw [hlines] at hjoin
    simp [← hjoin]
  | cons first rest =>
    rw [hlines] at hjoin
    rw [← hjoin]
    simp [Function.comp_def]

theorem flatMap_printBody {ns : List Node}
    (h : ∀ n ∈ ns, relined (source width (level + 1) n) = source width (level + 1) n) :
    ((printBody width level ns).flatMap fun line => '\n' :: line.toList) =
      sourceLines width level ns := by
  induction ns with
  | nil => rfl
  | cons n rest ih =>
    have hn : relined (printNode width (level + 1) n).toList = source width (level + 1) n :=
      h n (by simp)
    rw [printBody, List.flatMap_cons, toList_bodyLine, hn, ih fun m hm => h m (by simp [hm])]
    rfl

theorem printAll_eq_map (ns : List Node) :
    printAll width level ns = ns.map (printNode width level) := by
  induction ns with
  | nil => rfl
  | cons n rest ih => rw [printAll, ih, List.map_cons]

theorem printBody_eq_map (ns : List Node) :
    printBody width level ns = ns.map fun n =>
      bodyLine (indentation width (level + 1)) (printNode width (level + 1) n) := by
  induction ns with
  | nil => rfl
  | cons n rest ih => rw [printBody, ih, List.map_cons]

theorem toList_printAll (args : List Node) :
    (", ".intercalate (printAll width level args)).toList = sourceArgs width level args := by
  cases args with
  | nil => rfl
  | cons a rest =>
    rw [printAll_eq_map, List.map_cons, toList_intercalate_cons, List.flatMap_map]
    rfl

theorem source_literal (place : Place) (v : Literal) :
    source width level (.literal place v) = v.printed.toList := rfl

theorem source_var (place : Place) (name : String) :
    source width level (.var place name) = name.toList := rfl

theorem source_string (place : Place) (s : String) : source width level (.string place s) =
    '"' :: (s.toList.flatMap quoteDouble.escape ++ ['"']) :=
  toList_quoteDouble s

theorem source_assign (place : Place) (name : String) (value : Node) :
    source width level (.assign place name value) =
      name.toList ++ ' ' :: '=' :: ' ' :: source width level value := by
  simp [source, printNode]

theorem source_call (place : Place) (name : String) (args : List Node) :
    source width level (.call place name args) =
      name.toList ++ '(' :: (sourceArgs width level args ++ [')']) := by
  simp [source, printNode, ← toList_printAll]

theorem source_cond {thenBody : List Node} {elseBody : Option (List Node)}
    (hthen : ∀ n ∈ thenBody, relined (source width (level + 1) n) = source width (level + 1) n)
    (helse : ∀ body ∈ elseBody, ∀ n ∈ body,
      relined (source width (level + 1) n) = source width (level + 1) n)
    (place : Place) (test : Node) :
    source width level (.cond place test thenBody elseBody) =
      "if".toList ++ ' ' :: (source width level test ++ sourceLines width level thenBody ++
        (match elseBody with
        | none => []
        | some body => wordLine width level "else" ++ sourceLines width level body) ++
        wordLine width level "end") := by
  rw [source]
  cases elseBody with
  | none =>
    rw [printNode, toList_block, List.append_nil, flatMap_printBody hthen]
    simp [wordLine, blanks, source]
  | some body =>
    rw [printNode, toList_block, List.flatMap_append, flatMap_printBody hthen, List.flatMap_cons,
      flatMap_printBody (helse body rfl)]
    simp [wordLine, blanks, source]

theorem source_loop {body : List Node}
    (h : ∀ n ∈ body, relined (source width (level + 1) n) = source width (level + 1) n)
    (place : Place) (test : Node) :
    source width level (.loop place test body) =
      "while".toList ++ ' ' :: (source width level test ++ sourceLines width level body ++
        wordLine width level "end") := by
  rw [source, printNode, toList_block, flatMap_printBody h]
  simp [wordLine, blanks, source]

/-- The heading of a definition looks like a call with variables for arguments. -/
theorem toList_heading (width level : Int) (place : Place) (name : String) (params : List String) :
    ("def " ++ name ++ "(" ++ ", ".intercalate params ++ ")").toList =
      "def".toList ++ ' ' :: source width level (.call place name (params.map (.var place))) := by
  have hparams : params = printAll width level (params.map (.var place)) := by
    rw [printAll_eq_map, List.map_map]
    exact (List.map_id params).symm
  rw [source_call, ← toList_printAll, ← hparams]
  simp

theorem source_define {body : List Node}
    (h : ∀ n ∈ body, relined (source width (level + 1) n) = source width (level + 1) n)
    (place : Place) (name : String) (params : List String) :
    source width level (.define place name params body) =
      "def".toList ++ ' ' :: (source width level (.call place name (params.map (.var place))) ++
        sourceLines width level body ++ wordLine width level "end") := by
  rw [source, printNode, toList_block, flatMap_printBody h, toList_heading width level place]
  simp [wordLine, blanks]

/-! ### Printed source has no other lines -/

theorem onlyNewlines_escape {s : List Char} (h : OnlyNewlines s) :
    OnlyNewlines (s.flatMap quoteDouble.escape) := by
  refine .flatMap fun c hc => ?_
  unfold quoteDouble.escape
  split
  · decide
  · split
    · decide
    · split
      · decide
      · exact .cons (h c hc) (.of_not (by simp))

theorem onlyNewlines_blanks : OnlyNewlines (blanks width level) := by
  intro c hc hboundary
  obtain rfl : c = ' ' := by
    simp only [blanks, indentation, String.toList_ofList] at hc
    exact List.eq_of_mem_replicate hc
  exact absurd hboundary (by decide)

theorem regular_wordLine {word : String} (h : Regular word.toList) :
    Regular (wordLine width level word) :=
  .cons (fun _ => rfl) (.append onlyNewlines_blanks h)

theorem onlyNewlines_sourceLines {ns : List Node}
    (h : ∀ n ∈ ns, Regular (source width (level + 1) n)) :
    OnlyNewlines (sourceLines width level ns) :=
  .flatMap fun n hn => .cons (fun _ => rfl) (onlyNewlines_blanks.append (h n hn).onlyNewlines)

/-- A call stands within a line if its arguments do. -/
theorem regular_source_call {args : List Node} (h : ∀ a ∈ args, Regular (source width level a))
    (place : Place) {name : String} (hname : Regular name.toList) :
    Regular (source width level (.call place name args)) := by
  have hargs : OnlyNewlines (sourceArgs width level args) := by
    cases args with
    | nil => exact .of_not (by simp [sourceArgs])
    | cons a rest =>
      refine (h a (by simp)).onlyNewlines.append (.flatMap fun b hb => ?_)
      exact .cons (by decide) (.cons (by decide) (h b (by simp [hb])).onlyNewlines)
  rw [source_call]
  exact .append hname.onlyNewlines (.cons (by decide) (.snoc hargs (by decide)))

theorem regular_keyword {word : String} (h : word ∈ keywords) : Regular word.toList := by
  obtain ⟨hne, hchars⟩ := isNameChar_of_keyword word h
  exact .of_not hne fun c hc => isLineBoundary_of_isNameChar (List.all_eq_true.mp hchars c hc)

/-- **What is printed of a tree that source can say stands in lines of its own.** -/
theorem regular_source {tree : List Node} (htree : ∀ n : Node, n.Occurs tree → n.IsLegible)
    (n : Node) (hn : n.Occurs tree) : ∀ level : Int, Regular (source width level n) := by
  induction n using Node.induction with
  | h n ih =>
    intro level
    have hchild (level : Int) {m : Node} (hm : m ∈ n.children) : Regular (source width level m) :=
      ih m hm (.child hn hm) level
    have hlegible := htree n hn
    have hname {name : String} (h : name ∈ n.names) : Regular name.toList :=
      (hlegible.names name h).regular
    cases n with
    | literal place v =>
      rw [source_literal]
      cases v with
      | nil => exact regular_keyword (by decide)
      | bool b => cases b <;> exact regular_keyword (by decide)
      | int n =>
        exact .of_not (toList_toString_ne_nil n) fun c hc =>
          isLineBoundary_of_isNumberChar (isNumberChar_of_mem_toString hc)
      | float x digits => exact absurd rfl (hlegible.literal place x digits)
    | string place s =>
      rw [source_string]
      exact .cons (by decide) (.snoc (onlyNewlines_escape (hlegible.text place s rfl)) (by decide))
    | var place name =>
      rw [source_var]
      exact hname (by simp [Node.names])
    | assign place name value =>
      rw [source_assign]
      refine .append (hname (by simp [Node.names])).onlyNewlines ?_
      exact .cons (by decide) (.cons (by decide) (.cons (by decide)
        (hchild level (by simp [Node.children, Node.parts]))))
    | cond place test thenBody elseBody =>
      have hthen (m : Node) (hm : m ∈ thenBody) : Regular (source width (level + 1) m) :=
        hchild (level + 1) (by simp [Node.children, Node.parts, hm])
      have helse (body : List Node) (hbody : body ∈ elseBody) (m : Node) (hm : m ∈ body) :
          Regular (source width (level + 1) m) :=
        hchild (level + 1) (by
          obtain rfl : elseBody = some body := hbody
          simp [Node.children, Node.parts, hm])
      rw [source_cond (fun m hm => (hthen m hm).relined_eq)
        (fun body hbody m hm => (helse body hbody m hm).relined_eq)]
      refine .append (regular_keyword (by decide)).onlyNewlines (.cons (by decide)
        (.append (.append (.append (hchild level (by simp [Node.children, Node.parts])).onlyNewlines
          (onlyNewlines_sourceLines hthen)) ?_) (regular_wordLine (regular_keyword (by decide)))))
      cases elseBody with
      | none => exact .of_not (by simp)
      | some body =>
        exact (regular_wordLine (regular_keyword (by decide))).onlyNewlines.append
          (onlyNewlines_sourceLines (helse body rfl))
    | loop place test body =>
      have hbody (m : Node) (hm : m ∈ body) : Regular (source width (level + 1) m) :=
        hchild (level + 1) (by simp [Node.children, Node.parts, hm])
      rw [source_loop fun m hm => (hbody m hm).relined_eq]
      exact .append (regular_keyword (by decide)).onlyNewlines (.cons (by decide)
        (.append (.append (hchild level (by simp [Node.children, Node.parts])).onlyNewlines
          (onlyNewlines_sourceLines hbody)) (regular_wordLine (regular_keyword (by decide)))))
    | define place name params body =>
      have hbody (m : Node) (hm : m ∈ body) : Regular (source width (level + 1) m) :=
        hchild (level + 1) hm
      have hparams : ∀ a ∈ params.map (Node.var place), Regular (source width level a) := by
        intro a ha
        obtain ⟨p, hp, rfl⟩ := List.mem_map.mp ha
        rw [source_var]
        exact hname (by simp [Node.names, hp])
      rw [source_define fun m hm => (hbody m hm).relined_eq]
      exact .append (regular_keyword (by decide)).onlyNewlines (.cons (by decide)
        (.append (.append (regular_source_call hparams place
          (hname (by simp [Node.names]))).onlyNewlines
          (onlyNewlines_sourceLines hbody)) (regular_wordLine (regular_keyword (by decide)))))
    | call place name args =>
      exact regular_source_call (fun a ha => hchild level ha) place (hname (by simp [Node.names]))

end Source

end Program

end Treewalk
