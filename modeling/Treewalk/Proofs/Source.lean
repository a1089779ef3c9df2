import Treewalk.Proofs.Layout
import Treewalk.Proofs.ReadBack
import Treewalk.Proofs.Termination

/-!
# Reading printed source

Source is printed for people, and nothing reads it again. That it could be read again is shown here
by a reader (`Treewalk.Source.read`) which undoes the printer: from the source of a program that
source can say it gives the nodes of the program, without their places. So two such programs that
are printed alike are the same, up to the places.

Any node may stand where a value is expected, so that a block of many lines can be the condition of
another, or an argument of a call. The reader copes with this because every node says by its first
word what it is, and by the character behind that word, if the word is a name; and because it can be
seen where a node is over (`Treewalk.Source.Stops`): what follows is a newline, a comma, a closing
parenthesis, or nothing. The blanks at the beginning of a line mean nothing to it, so the width of a
step does not matter either.

* **`Treewalk.Source.read_printStatements`**: the reader undoes the printer.
* **`Treewalk.Program.printed_injective`**: what printing loses are places.
-/

namespace Treewalk

open Text Program

/-- A node without its places. -/
def Node.unplaced (n : Node) : Node := n.mapPlace (fun _ _ => .nowhere) .nowhere

namespace Source

/-! ### The reader -/

/-- A character of words. -/
def isWordChar (c : Char) : Bool := isNameChar c || c == '-'

/-- The word at the beginning of a text, and what comes behind it. -/
def word (s : List Char) : String × List Char :=
  (String.ofList (s.takeWhile isWordChar), s.dropWhile isWordChar)

/-- A text in quotes, behind the first of them, and what comes behind it. -/
def readText : List Char → Option (List Char × List Char)
  | [] => none
  | '"' :: s => some ([], s)
  | '\\' :: c :: s => do
    let (t, s) ← readText s
    return ((if c = 'n' then '\n' else c) :: t, s)
  | c :: s => do
    let (t, s) ← readText s
    return (c :: t, s)

/-- The integer that a word is. -/
def intOf (w : String) : Int :=
  if w.toList.head? = some '-' then -(Nat.ofDigitChars 10 w.toList.tail 0 : Int)
  else (Nat.ofDigitChars 10 w.toList 0 : Int)

/-- The literal that a word is, if it is one. -/
def literal? (w : String) : Option Literal :=
  if w = "nil" then some .nil
  else if w = "true" then some (.bool true)
  else if w = "false" then some (.bool false)
  else if w.toList.head?.any isNumberChar then some (.int (intOf w))
  else none

section Reader

variable (node : List Char → Option (Node × List Char))

/-- The statements of a body, and the word behind them that is no statement. -/
def readBody : Nat → List Char → Option (List Node × String × List Char)
  | 0, _ => none
  | k + 1, s =>
    let line := (s.drop 1).dropWhile (· == ' ')
    let (w, rest) := word line
    if w = "end" ∨ w = "else" then some ([], w, rest)
    else do
      let (n, s) ← node line
      let (ns, stop, s) ← readBody k s
      return (n :: ns, stop, s)

/-- The arguments of a call, behind its opening parenthesis. -/
def readArgs : Nat → List Char → Option (List Node × List Char)
  | 0, _ => none
  | k + 1, s =>
    if s.head? = some ')' then some ([], s.drop 1)
    else do
      let (n, s) ← node (if s.head? = some ',' then s.drop 2 else s)
      let (ns, s) ← readArgs k s
      return (n :: ns, s)

/-- A definition with the heading and the body. -/
def definition (heading : Node) (body : List Node) : Node :=
  match heading with
  | .call place name args => .define place name (args.filterMap Node.callee?) body
  | n => n

/-- A node, behind its first word. -/
def readAfter (k : Nat) (w : String) (s : List Char) : Option (Node × List Char) :=
  if w = "" then do
    let (t, s) ← readText (s.drop 1)
    return (.string .nowhere (String.ofList t), s)
  else if w = "if" then do
    let (test, s) ← node (s.drop 1)
    let (thenBody, stop, s) ← readBody node k s
    if stop = "else" then
      let (elseBody, _, s) ← readBody node k s
      return (.cond .nowhere test thenBody (some elseBody), s)
    else return (.cond .nowhere test thenBody none, s)
  else if w = "while" then do
    let (test, s) ← node (s.drop 1)
    let (body, _, s) ← readBody node k s
    return (.loop .nowhere test body, s)
  else if w = "def" then do
    let (heading, s) ← node (s.drop 1)
    let (body, _, s) ← readBody node k s
    return (definition heading body, s)
  else
    match literal? w with
    | some v => some (.literal .nowhere v, s)
    | none =>
      if s.head? = some '(' then do
        let (args, s) ← readArgs node k (s.drop 1)
        return (.call .nowhere w args, s)
      else if s.head? = some ' ' then do
        let (value, s) ← node (s.drop 3)
        return (.assign .nowhere w value, s)
      else some (.var .nowhere w, s)

/-- The statements of a program. -/
def readStatements : Nat → List Char → Option (List Node)
  | _, [] => some []
  | 0, _ => none
  | k + 1, s => do
    let (n, s) ← node (if s.head? = some '\n' then s.drop 1 else s)
    let ns ← readStatements k s
    return n :: ns

end Reader

/-- **A node, and what comes behind it.** The number bounds how deep nodes lie within one another,
and how many stand side by side. -/
def readNode : Nat → List Char → Option (Node × List Char)
  | 0, _ => none
  | k + 1, s => readAfter (readNode k) k (word s).1 (word s).2

/-- **The statements of a program.** There are no more of them than characters. -/
def read (s : List Char) : Option (List Node) := readStatements (readNode s.length) s.length s

/-! ### Words -/

theorem word_append {w : String} {t : List Char} (hw : ∀ c ∈ w.toList, isWordChar c = true)
    (ht : ∀ c ∈ t.head?, isWordChar c = false) : word (w.toList ++ t) = (w, t) := by
  have htake : t.takeWhile isWordChar = [] := by
    cases t with
    | nil => rfl
    | cons c t => simp [ht c rfl]
  have hdrop : t.dropWhile isWordChar = t := by
    cases t with
    | nil => rfl
    | cons c t => simp [ht c rfl]
  rw [word, List.takeWhile_append_of_pos hw, List.dropWhile_append_of_pos hw, htake, hdrop,
    List.append_nil, String.ofList_toList]

/-- A character that was escaped is read back. -/
theorem readText_escape_append (c : Char) (s : List Char) :
    readText (quoteDouble.escape c ++ s) = (readText s).map fun r => (c :: r.1, r.2) := by
  have hmap : (readText s).map (fun r => (c :: r.1, r.2)) = do
      let (t, s) ← readText s
      return (c :: t, s) := by
    cases readText s <;> rfl
  rw [hmap]
  unfold quoteDouble.escape
  split
  · next h =>
    subst h
    rfl
  · split
    · next h =>
      subst h
      rfl
    · split
      · next h =>
        subst h
        rfl
      · next hbackslash hquote _ =>
        exact readText.eq_4 c s hquote fun _ _ h => absurd h hbackslash

/-- **A text is read back from its quotes.** -/
theorem readText_escape (s t : List Char) :
    readText (s.flatMap quoteDouble.escape ++ '"' :: t) = some (s, t) := by
  induction s with
  | nil => rfl
  | cons c s ih =>
    rw [List.flatMap_cons, List.append_assoc, readText_escape_append, ih, Option.map_some]

/-- **An integer is read back from its digits.** -/
theorem intOf_toString (n : Int) : intOf (toString n) = n := by
  cases n with
  | ofNat m =>
    have hhead : (Nat.toDigits 10 m).head? ≠ some '-' := fun h =>
      absurd (Nat.isDigit_of_mem_toDigits (by decide) (by decide) (List.mem_of_head? h)) (by decide)
    rw [intOf, show toString (Int.ofNat m) = Nat.repr m from rfl, toList_repr, if_neg hhead,
      Nat.ofDigitChars_ten_toDigits]
    rfl
  | negSucc m =>
    rw [intOf, toList_toString_negSucc, List.head?_cons, if_pos rfl, List.tail_cons,
      Nat.ofDigitChars_ten_toDigits]
    rfl

/-- A word that a number begins with is not a word of letters. -/
theorem literal?_toString (n : Int) : literal? (toString n) = some (.int n) := by
  have hhead : (toString n).toList.head?.any isNumberChar = true := by
    cases h : (toString n).toList with
    | nil => exact absurd h (toList_toString_ne_nil n)
    | cons c rest => exact isNumberChar_of_mem_toString (h ▸ List.mem_cons_self)
  have hne {w : String} (hw : w.toList.head?.any isNumberChar = false) : toString n ≠ w := by
    intro heq
    rw [heq, hw] at hhead
    cases hhead
  rw [literal?, if_neg (hne (by decide)), if_neg (hne (by decide)), if_neg (hne (by decide)),
    if_pos hhead, intOf_toString]

/-- **A literal is read back**, if it is no number with a point. -/
theorem literal?_printed {v : Literal} (hv : ∀ x digits, v ≠ .float x digits) :
    literal? v.printed = some v := by
  cases v with
  | nil => rfl
  | bool b => cases b <;> rfl
  | int n => exact literal?_toString n
  | float x digits => exact absurd rfl (hv x digits)

/-- What is no literal is not printed for one. -/
theorem printed_ne {v : Literal} (hv : ∀ x digits, v ≠ .float x digits) {w : String}
    (hw : literal? w = none) : v.printed ≠ w := by
  rintro rfl
  exact absurd ((literal?_printed hv).symm.trans hw) (by simp)

/-- A name is no literal. -/
theorem literal?_of_isIdentifier {name : String} (h : IsIdentifier name) : literal? name = none := by
  have hhead : ¬ name.toList.head?.any isNumberChar = true := by
    cases hlist : name.toList with
    | nil => exact absurd hlist h.ne_nil
    | cons c rest =>
      have hdigit : c.isDigit = false := h.head c (by rw [hlist, List.head?_cons])
      have hminus : c ≠ '-' := by
        rintro rfl
        exact absurd (h.isNameChar '-' (by rw [hlist]; exact List.mem_cons_self)) (by decide)
      simp [isNumberChar, hdigit, hminus]
  rw [literal?, if_neg (h.ne (by decide)), if_neg (h.ne (by decide)), if_neg (h.ne (by decide)),
    if_neg hhead]

/-! ### Where nodes begin and end -/

/-- **A node is over**: what comes behind it is nothing, a newline, a comma or a parenthesis. -/
def Stops (s : List Char) : Prop := ∀ c ∈ s.head?, c = '\n' ∨ c = ',' ∨ c = ')'

theorem stops_nil : Stops [] := fun _ h => nomatch h

theorem stops_cons {c : Char} (h : c = '\n' ∨ c = ',' ∨ c = ')') (s : List Char) : Stops (c :: s) := by
  rintro _ ⟨⟩
  exact h

theorem Stops.isWordChar {s : List Char} (h : Stops s) : ∀ c ∈ s.head?, isWordChar c = false := by
  intro c hc
  rcases h c hc with rfl | rfl | rfl <;> decide

theorem isWordChar_of_isNameChar {c : Char} (h : isNameChar c = true) : isWordChar c = true := by
  simp [isWordChar, h]

theorem isWordChar_of_isNumberChar {c : Char} (h : isNumberChar c = true) : isWordChar c = true := by
  rcases Bool.or_eq_true_iff.mp h with hdigit | hminus
  · simp [isWordChar, isNameChar, Char.isAlphanum, hdigit]
  · simp [isWordChar, hminus]

/-- **A text begins like a node**: not with a blank nor with something that ends a node, and its
first word does not end a body. -/
structure Opens (s : List Char) : Prop where
  head : ∃ c t, s = c :: t ∧ c ≠ ' ' ∧ c ≠ ',' ∧ c ≠ ')' ∧ c ≠ '\n'
  word {rest : List Char} : Stops rest →
    (word (s ++ rest)).1 ≠ "end" ∧ (word (s ++ rest)).1 ≠ "else"

/-- A text that begins with a word. -/
theorem Opens.of_word {w : String} {t : List Char} (hne : w.toList ≠ [])
    (hw : ∀ c ∈ w.toList, isWordChar c = true) (ht : ∀ c ∈ t.head?, isWordChar c = false)
    (hend : w ≠ "end" ∧ w ≠ "else") : Opens (w.toList ++ t) where
  head := by
    cases h : w.toList with
    | nil => exact absurd h hne
    | cons c rest =>
      have hc : isWordChar c = true := hw c (h ▸ List.mem_cons_self)
      refine ⟨c, rest ++ t, rfl, ?_⟩
      refine ⟨?_, ?_, ?_, ?_⟩ <;>
      · rintro rfl
        exact absurd hc (by decide)
  word {rest} hrest := by
    have hhead : ∀ c ∈ (t ++ rest).head?, isWordChar c = false := by
      cases t with
      | nil => exact hrest.isWordChar
      | cons d t => exact ht
    rwa [List.append_assoc, word_append hw hhead]

/-- A text that begins with a quote. -/
theorem Opens.of_quote (t : List Char) : Opens ('"' :: t) where
  head := ⟨'"', t, rfl, by decide⟩
  word _ := by
    have hword (s : List Char) : Source.word ('"' :: s) = ("", '"' :: s) :=
      word_append (w := "") (by simp) (by simp; decide)
    rw [List.cons_append, hword]
    change "" ≠ "end" ∧ "" ≠ "else"
    decide

/-- The words that source is made of. -/
theorem isWordChar_of_keyword {w : String} (h : w ∈ keywords) :
    ∀ c ∈ w.toList, isWordChar c = true := by
  intro c hc
  simp [isWordChar, List.all_eq_true.mp (isNameChar_of_keyword w h).2 c hc]

/-- A name can begin a node. -/
theorem Opens.of_name {name : String} (h : IsIdentifier name) {t : List Char}
    (ht : ∀ c ∈ t.head?, isWordChar c = false) : Opens (name.toList ++ t) :=
  .of_word h.ne_nil (fun c hc => isWordChar_of_isNameChar (h.isNameChar c hc)) ht
    ⟨h.ne (by decide), h.ne (by decide)⟩

theorem Opens.name {name : String} (h : IsIdentifier name) : Opens name.toList := by
  rw [← List.append_nil name.toList]
  exact .of_name h (by simp)

/-- A word that begins a block can begin a node. -/
theorem Opens.of_keyword {w : String} (h : w ∈ ["if", "while", "def"]) (t : List Char) :
    Opens (w.toList ++ ' ' :: t) := by
  have hkeyword : w ∈ keywords := by
    simp only [List.mem_cons, List.not_mem_nil, or_false] at h
    rcases h with rfl | rfl | rfl <;> decide
  refine .of_word ?_ (isWordChar_of_keyword hkeyword) (by simp; decide) ?_
  all_goals
    simp only [List.mem_cons, List.not_mem_nil, or_false] at h
    rcases h with rfl | rfl | rfl <;> decide

theorem isWordChar_printed {v : Literal} (hv : ∀ x digits, v ≠ .float x digits) :
    ∀ c ∈ v.printed.toList, isWordChar c = true := by
  cases v with
  | nil => exact isWordChar_of_keyword (by decide)
  | bool b => cases b <;> exact isWordChar_of_keyword (by decide)
  | int n => exact fun c hc => isWordChar_of_isNumberChar (isNumberChar_of_mem_toString hc)
  | float x digits => exact absurd rfl (hv x digits)

/-- A literal can begin a node, and is one. -/
theorem Opens.of_literal {v : Literal} (hv : ∀ x digits, v ≠ .float x digits) :
    Opens v.printed.toList := by
  have hnil : v.printed.toList ≠ [] := fun h =>
    @printed_ne v hv "" (by decide) (String.toList_injective h)
  rw [← List.append_nil v.printed.toList]
  exact .of_word hnil (isWordChar_printed hv) (by simp)
    ⟨printed_ne hv (by decide), printed_ne hv (by decide)⟩

section Printed

variable {width level : Int} {tree : List Node}

/-- **What is printed of a node begins like one.** -/
theorem opens_source (htree : ∀ n : Node, n.Occurs tree → n.IsLegible) {n : Node}
    (hn : n.Occurs tree) (level : Int) : Opens (source width level n) := by
  have hlegible := htree n hn
  have hlines (m : Node) (hm : m ∈ n.children) :
      relined (source width (level + 1) m) = source width (level + 1) m :=
    (regular_source htree m (.child hn hm) (level + 1)).relined_eq
  cases n with
  | literal place v => exact .of_literal fun x digits h => hlegible.literal place x digits (by rw [h])
  | string place s =>
    rw [source_string]
    exact .of_quote _
  | var place name =>
    rw [source_var]
    exact .name (hlegible.names name (by simp [Node.names]))
  | assign place name value =>
    rw [source_assign]
    exact .of_name (hlegible.names name (by simp [Node.names])) (by simp; decide)
  | cond place test thenBody elseBody =>
    rw [source_cond (fun m hm => hlines m (by simp [Node.children, Node.parts, hm]))]
    · exact .of_keyword (by decide) _
    · rintro body rfl m hm
      exact hlines m (by simp [Node.children, Node.parts, hm])
  | loop place test body =>
    rw [source_loop (fun m hm => hlines m (by simp [Node.children, Node.parts, hm]))]
    exact .of_keyword (by decide) _
  | define place name params body =>
    rw [source_define fun m (hm : m ∈ body) => hlines m hm]
    exact .of_keyword (by decide) _
  | call place name args =>
    rw [source_call]
    exact .of_name (hlegible.names name (by simp [Node.names])) (by simp; decide)

/-! ### Bodies and arguments are read back -/

theorem dropWhile_blanks {s : List Char} (h : ∀ c ∈ s.head?, c ≠ ' ') :
    (blanks width level ++ s).dropWhile (· == ' ') = s := by
  have hblanks : ∀ c ∈ blanks width level, (c == ' ') = true := by
    intro c hc
    simp only [blanks, indentation, String.toList_ofList] at hc
    simp [List.eq_of_mem_replicate hc]
  rw [List.dropWhile_append_of_pos hblanks]
  cases s with
  | nil => rfl
  | cons c s => simp [h c rfl]

/-- What follows a statement of a body is a newline. -/
theorem stops_sourceLines (width level : Int) (ns : List Node) (stop : String) (rest : List Char) :
    Stops (sourceLines width level ns ++ (wordLine width level stop ++ rest)) := by
  cases ns with
  | nil => exact stops_cons (by simp) _
  | cons n ns => exact stops_cons (by simp) _

variable {node : List Char → Option (Node × List Char)}

/-- **A body is read back**, if its statements are. -/
theorem readBody_sourceLines {ns : List Node}
    (hnode : ∀ n ∈ ns, ∀ rest, Stops rest →
      node (source width (level + 1) n ++ rest) = some (n.unplaced, rest))
    (hopens : ∀ n ∈ ns, Opens (source width (level + 1) n)) {stop : String}
    (hstop : stop = "end" ∨ stop = "else") {rest : List Char}
    (hrest : ∀ c ∈ rest.head?, isWordChar c = false) {k : Nat} (hk : ns.length < k) :
    readBody node k (sourceLines width level ns ++ (wordLine width level stop ++ rest)) =
      some (ns.map Node.unplaced, stop, rest) := by
  induction ns generalizing k with
  | nil =>
    obtain ⟨k, rfl⟩ := Nat.exists_eq_add_one.mpr (show 0 < k by simp at hk; omega)
    have hword : word (stop.toList ++ rest) = (stop, rest) :=
      word_append (by rcases hstop with rfl | rfl <;> exact isWordChar_of_keyword (by decide)) hrest
    have hline : ∀ c ∈ (stop.toList ++ rest).head?, c ≠ ' ' := by
      rcases hstop with rfl | rfl <;> simp
    simp only [sourceLines, List.flatMap_nil, List.nil_append, wordLine, List.cons_append,
      List.append_assoc, readBody, List.drop_succ_cons, List.drop_zero, dropWhile_blanks hline,
      hword, if_pos hstop, List.map_nil]
  | cons n ns ih =>
    obtain ⟨k, rfl⟩ := Nat.exists_eq_add_one.mpr (show 0 < k by simp at hk; omega)
    have hstops := stops_sourceLines width level ns stop rest
    obtain ⟨⟨c, t, hsource, hblank, -⟩, hword⟩ := hopens n (by simp)
    have hend := hword hstops
    have hline : ∀ d ∈ (source width (level + 1) n ++ (sourceLines width level ns ++
        (wordLine width level stop ++ rest))).head?, d ≠ ' ' := by
      rw [hsource]
      rintro _ ⟨⟩
      exact hblank
    have hlines : sourceLines width level (n :: ns) ++ (wordLine width level stop ++ rest) =
        '\n' :: (blanks width (level + 1) ++ (source width (level + 1) n ++
          (sourceLines width level ns ++ (wordLine width level stop ++ rest)))) := by
      simp [sourceLines]
    have hrec := ih (fun m hm => hnode m (by simp [hm])) (fun m hm => hopens m (by simp [hm]))
      (k := k) (by simp at hk; omega)
    rw [hlines, readBody, List.drop_succ_cons, List.drop_zero, dropWhile_blanks hline]
    simp only [if_neg (not_or.mpr hend), hnode n (by simp) _ hstops, Option.bind_eq_bind,
      Option.bind_some, hrec]
    rfl

/-- What follows an argument is a comma or a parenthesis. -/
theorem stops_argsBehind (width level : Int) (args : List Node) (t : List Char) :
    Stops ((args.flatMap fun b => ',' :: ' ' :: source width level b) ++ ')' :: t) := by
  cases args with
  | nil => exact stops_cons (by simp) _
  | cons a args => exact stops_cons (by simp) _

/-- Arguments behind the first are read back. -/
theorem readArgs_flatMap {args : List Node}
    (hnode : ∀ a ∈ args, ∀ rest, Stops rest →
      node (source width level a ++ rest) = some (a.unplaced, rest)) (t : List Char) {k : Nat}
    (hk : args.length < k) :
    readArgs node k ((args.flatMap fun b => ',' :: ' ' :: source width level b) ++ ')' :: t) =
      some (args.map Node.unplaced, t) := by
  induction args generalizing k with
  | nil =>
    obtain ⟨k, rfl⟩ := Nat.exists_eq_add_one.mpr (show 0 < k by simp at hk; omega)
    rfl
  | cons a args ih =>
    obtain ⟨k, rfl⟩ := Nat.exists_eq_add_one.mpr (show 0 < k by simp at hk; omega)
    have hrec := ih (fun b hb => hnode b (by simp [hb])) (k := k) (by simp at hk; omega)
    have ha := hnode a (by simp) _ (stops_argsBehind width level args t)
    have hargs : ((a :: args).flatMap fun b => ',' :: ' ' :: source width level b) ++ ')' :: t =
        ',' :: ' ' :: (source width level a ++
          ((args.flatMap fun b => ',' :: ' ' :: source width level b) ++ ')' :: t)) := by
      simp
    rw [hargs, readArgs, List.head?_cons, if_neg (by decide), if_pos rfl, List.drop_succ_cons,
      List.drop_succ_cons, List.drop_zero, ha]
    simp only [Option.bind_eq_bind, Option.bind_some, hrec]
    rfl

/-- **Arguments are read back**, if each of them is. -/
theorem readArgs_sourceArgs {args : List Node}
    (hnode : ∀ a ∈ args, ∀ rest, Stops rest →
      node (source width level a ++ rest) = some (a.unplaced, rest))
    (hopens : ∀ a ∈ args, Opens (source width level a)) (t : List Char) {k : Nat}
    (hk : args.length < k) :
    readArgs node k (sourceArgs width level args ++ ')' :: t) =
      some (args.map Node.unplaced, t) := by
  obtain ⟨k, rfl⟩ := Nat.exists_eq_add_one.mpr (show 0 < k by omega)
  cases args with
  | nil => rfl
  | cons a args =>
    have hrec := @readArgs_flatMap width level node args
      (fun b hb => hnode b (List.mem_cons_of_mem a hb)) t k (by simpa using hk)
    have ha := hnode a (by simp) _ (stops_argsBehind width level args t)
    obtain ⟨c, s, hsource, -, hcomma, hparen, -⟩ := (hopens a (by simp)).head
    rw [hsource, List.cons_append] at ha
    rw [sourceArgs, hsource, List.append_assoc, List.cons_append, readArgs, List.head?_cons,
      if_neg (by simpa using hparen), if_neg (by simpa using hcomma), ha]
    simp only [Option.bind_eq_bind, Option.bind_some, hrec]
    rfl

/-! ### Nodes are read back -/

/-- **A node is read back** from its source, whatever stands behind it. -/
def Reads (width level : Int) (n : Node) : Prop :=
  ∀ k rest, Stops rest → (source width level n).length ≤ k →
    readNode k (source width level n ++ rest) = some (n.unplaced, rest)

/-- **A node is read back as a part of others**: its source stands in lines of its own, begins like
a node, and is read back. -/
structure ReadsBack (width level : Int) (n : Node) : Prop where
  regular : Regular (source width level n)
  opens : Opens (source width level n)
  reads : Reads width level n

theorem readNode_of_word {w : String} {t : List Char} (hw : ∀ c ∈ w.toList, isWordChar c = true)
    (ht : ∀ c ∈ t.head?, isWordChar c = false) (k : Nat) :
    readNode (k + 1) (w.toList ++ t) = readAfter (readNode k) k w t := by
  rw [readNode, word_append hw ht]

/-- What is behind a name decides between a call, an assignment and a variable. -/
theorem readAfter_of_isIdentifier {name : String} (h : IsIdentifier name) (k : Nat) (s : List Char) :
    readAfter node k name s =
      if s.head? = some '(' then do
        let (args, s) ← readArgs node k (s.drop 1)
        return (.call .nowhere name args, s)
      else if s.head? = some ' ' then do
        let (value, s) ← node (s.drop 3)
        return (.assign .nowhere name value, s)
      else some (.var .nowhere name, s) := by
  have hnil : name ≠ "" := by
    rintro rfl
    exact h.ne_nil rfl
  rw [readAfter, if_neg hnil, if_neg (h.ne (by decide)), if_neg (h.ne (by decide)),
    if_neg (h.ne (by decide)), literal?_of_isIdentifier h]

theorem length_le_length_flatMap {α : Type} {f : α → List Char} {l : List α} {a : α} (h : a ∈ l) :
    (f a).length ≤ (l.flatMap f).length := by
  induction l with
  | nil => cases h
  | cons b l ih =>
    rw [List.flatMap_cons, List.length_append]
    rcases List.mem_cons.mp h with rfl | h
    · omega
    · have := ih h
      omega

theorem length_le_flatMap_of_ne_nil {α : Type} {f : α → List Char} {l : List α}
    (h : ∀ a ∈ l, f a ≠ []) : l.length ≤ (l.flatMap f).length := by
  induction l with
  | nil => exact Nat.zero_le _
  | cons b l ih =>
    have hb := List.length_pos_of_ne_nil (h b (by simp))
    have hl := ih fun a ha => h a (by simp [ha])
    rw [List.flatMap_cons, List.length_append, List.length_cons]
    omega

/-- The source of arguments is as long as each of them, and has a character for each at least. -/
theorem length_sourceArgs {args : List Node} (hopens : ∀ a ∈ args, Opens (source width level a)) :
    args.length ≤ (sourceArgs width level args).length ∧
      ∀ a ∈ args, (source width level a).length ≤ (sourceArgs width level args).length := by
  cases args with
  | nil => simp
  | cons a args =>
    have hcount : args.length ≤
        (args.flatMap fun b => ',' :: ' ' :: source width level b).length :=
      length_le_flatMap_of_ne_nil (by simp)
    have hfirst : 0 < (source width level a).length := by
      obtain ⟨c, s, hsource, -⟩ := (hopens a (by simp)).head
      simp [hsource]
    rw [sourceArgs, List.length_append, List.length_cons]
    refine ⟨by omega, fun b hb => ?_⟩
    rcases List.mem_cons.mp hb with rfl | hb
    · omega
    · have hle := length_le_length_flatMap (f := fun b => ',' :: ' ' :: source width level b) hb
      simp only [List.length_cons] at hle
      omega

theorem reads_var {name : String} (h : IsIdentifier name) (place : Place) :
    Reads width level (.var place name) := by
  intro k rest hrest hk
  rw [source_var] at hk ⊢
  have hpos := List.length_pos_of_ne_nil h.ne_nil
  obtain ⟨k, rfl⟩ := Nat.exists_eq_add_one.mpr (show 0 < k by omega)
  have hstop {c : Char} (hc : isWordChar c = false ∧ c ≠ '\n' ∧ c ≠ ',' ∧ c ≠ ')') :
      rest.head? ≠ some c := by
    intro heq
    rcases hrest c heq with rfl | rfl | rfl <;> simp at hc
  rw [readNode_of_word (fun c hc => isWordChar_of_isNameChar (h.isNameChar c hc)) hrest.isWordChar,
    readAfter_of_isIdentifier h, if_neg (hstop (by decide)), if_neg (hstop (by decide))]
  rfl

/-- **A call is read back**, if its arguments are. -/
theorem reads_call {name : String} (h : IsIdentifier name) {args : List Node}
    (hargs : ∀ a ∈ args, ReadsBack width level a) (place : Place) :
    Reads width level (.call place name args) := by
  intro k rest hrest hk
  have hopens (a : Node) (ha : a ∈ args) : Opens (source width level a) := (hargs a ha).opens
  rw [source_call] at hk ⊢
  obtain ⟨k, rfl⟩ := Nat.exists_eq_add_one.mpr (show 0 < k by simp at hk; omega)
  have hlength : (sourceArgs width level args).length < k := by
    simp only [List.length_append, List.length_cons, List.length_nil] at hk
    have hpos := List.length_pos_of_ne_nil h.ne_nil
    omega
  obtain ⟨hcount, hle⟩ := length_sourceArgs hopens
  have hnode (a : Node) (ha : a ∈ args) (rest : List Char) (hrest : Stops rest) :
      readNode k (source width level a ++ rest) = some (a.unplaced, rest) :=
    (hargs a ha).reads k rest hrest (Nat.le_trans (hle a ha) (by omega))
  have hread := readArgs_sourceArgs hnode hopens rest (k := k) (by omega)
  rw [List.append_assoc, List.cons_append, List.append_assoc, List.singleton_append,
    readNode_of_word (fun c hc => isWordChar_of_isNameChar (h.isNameChar c hc)) (by simp; decide),
    readAfter_of_isIdentifier h, List.head?_cons, if_pos rfl, List.drop_succ_cons, List.drop_zero,
    hread]
  simp [Node.unplaced, Node.mapPlace, Node.mapPlaceAll_eq_map]

/-- A literal is read back. -/
theorem reads_literal {v : Literal} (hv : ∀ x digits, v ≠ .float x digits) (place : Place) :
    Reads width level (.literal place v) := by
  intro k rest hrest hk
  rw [source_literal] at hk ⊢
  obtain ⟨c, t, hprinted, -⟩ := (Opens.of_literal hv).head
  obtain ⟨k, rfl⟩ : ∃ j, k = j + 1 := ⟨k - 1, by rw [hprinted, List.length_cons] at hk; omega⟩
  rw [readNode_of_word (isWordChar_printed hv) hrest.isWordChar, readAfter,
    if_neg (printed_ne hv (by decide)), if_neg (printed_ne hv (by decide)),
    if_neg (printed_ne hv (by decide)), if_neg (printed_ne hv (by decide)), literal?_printed hv]
  rfl

/-- A text is read back. -/
theorem reads_string (place : Place) (s : String) : Reads width level (.string place s) := by
  intro k rest _ hk
  rw [source_string] at hk ⊢
  obtain ⟨k, rfl⟩ : ∃ j, k = j + 1 := ⟨k - 1, by rw [List.length_cons] at hk; omega⟩
  have hread := readNode_of_word (w := "") (t := '"' :: (s.toList.flatMap quoteDouble.escape ++
    '"' :: rest)) (by simp) (by simp; decide) k
  rw [readAfter, if_pos rfl, List.drop_succ_cons, List.drop_zero, readText_escape] at hread
  rw [List.cons_append, List.append_assoc]
  simpa [Node.unplaced, Node.mapPlace] using hread

/-- An assignment is read back, if the value is. -/
theorem reads_assign {name : String} (h : IsIdentifier name) {value : Node}
    (hvalue : Reads width level value) (place : Place) :
    Reads width level (.assign place name value) := by
  intro k rest hrest hk
  rw [source_assign] at hk ⊢
  simp only [List.length_append, List.length_cons] at hk
  obtain ⟨k, rfl⟩ := Nat.exists_eq_add_one.mpr (show 0 < k by omega)
  have hread := hvalue k rest hrest (by omega)
  rw [List.append_assoc, List.cons_append, List.cons_append, List.cons_append,
    readNode_of_word (fun c hc => isWordChar_of_isNameChar (h.isNameChar c hc)) (by simp; decide),
    readAfter_of_isIdentifier h, List.head?_cons, if_neg (by decide), if_pos rfl,
    List.drop_succ_cons, List.drop_succ_cons, List.drop_succ_cons, List.drop_zero, hread]
  rfl

/-- A body is read back, if its statements are. -/
theorem readBody_of_readsBack {ns : List Node} (hns : ∀ n ∈ ns, ReadsBack width (level + 1) n)
    {stop : String} (hstop : stop = "end" ∨ stop = "else") {rest : List Char}
    (hrest : ∀ c ∈ rest.head?, isWordChar c = false) {k : Nat}
    (hk : (sourceLines width level ns).length < k) :
    readBody (readNode k) k (sourceLines width level ns ++ (wordLine width level stop ++ rest)) =
      some (ns.map Node.unplaced, stop, rest) := by
  have hcount : ns.length ≤ (sourceLines width level ns).length :=
    length_le_flatMap_of_ne_nil (by simp)
  refine readBody_sourceLines (fun n hn rest hrest => (hns n hn).reads k rest hrest ?_)
    (fun n hn => (hns n hn).opens) hstop hrest (by omega)
  have hle : _ ≤ (sourceLines width level ns).length := length_le_length_flatMap hn
  simp only [List.length_cons, List.length_append] at hle
  omega

/-- **A block is read**: the keyword, and then what is behind the blank. -/
theorem readNode_of_keyword {w : String} (h : w ∈ keywords) (k : Nat) (s : List Char) :
    readNode (k + 1) (w.toList ++ ' ' :: s) = readAfter (readNode k) k w (' ' :: s) :=
  readNode_of_word (isWordChar_of_keyword h) (by simp; decide) k

/-- A loop is read back, if its parts are. -/
theorem reads_loop {test : Node} {body : List Node} (htest : Reads width level test)
    (hbody : ∀ n ∈ body, ReadsBack width (level + 1) n) (place : Place) :
    Reads width level (.loop place test body) := by
  intro k rest hrest hk
  rw [source_loop fun n hn => (hbody n hn).regular.relined_eq] at hk ⊢
  simp only [List.length_append, List.length_cons, wordLine] at hk
  obtain ⟨k, rfl⟩ := Nat.exists_eq_add_one.mpr (show 0 < k by omega)
  have hhead := htest k _ (stops_sourceLines width level body "end" rest) (by omega)
  have hlines := readBody_of_readsBack hbody (.inl rfl) hrest.isWordChar (k := k) (by omega)
  simp only [List.append_assoc, List.cons_append]
  rw [readNode_of_keyword (by decide), readAfter, if_neg (by decide), if_neg (by decide),
    if_pos rfl, List.drop_succ_cons, List.drop_zero, hhead]
  simp only [Option.bind_eq_bind, Option.bind_some, hlines]
  simp [Node.unplaced, Node.mapPlace, Node.mapPlaceAll_eq_map]

/-- A conditional is read back, if its parts are. The word behind the first branch says whether
there is a second one. -/
theorem reads_cond {test : Node} {thenBody : List Node} {elseBody : Option (List Node)}
    (htest : Reads width level test) (hthen : ∀ n ∈ thenBody, ReadsBack width (level + 1) n)
    (helse : ∀ body ∈ elseBody, ∀ n ∈ body, ReadsBack width (level + 1) n) (place : Place) :
    Reads width level (.cond place test thenBody elseBody) := by
  intro k rest hrest hk
  rw [source_cond (fun n hn => (hthen n hn).regular.relined_eq)
    (fun body hbody n hn => (helse body hbody n hn).regular.relined_eq)] at hk ⊢
  simp only [List.length_append, List.length_cons, wordLine] at hk
  obtain ⟨k, rfl⟩ := Nat.exists_eq_add_one.mpr (show 0 < k by omega)
  have hhead (stop : String) (rest : List Char) :=
    htest k _ (stops_sourceLines width level thenBody stop rest) (by omega)
  have hfirst {stop : String} (hstop : stop = "end" ∨ stop = "else") {rest : List Char}
      (hrest : ∀ c ∈ rest.head?, isWordChar c = false) :=
    readBody_of_readsBack hthen hstop hrest (k := k) (by omega)
  cases elseBody with
  | none =>
    simp only [List.append_assoc, List.cons_append, List.nil_append]
    rw [readNode_of_keyword (by decide), readAfter, if_neg (by decide), if_pos rfl,
      List.drop_succ_cons, List.drop_zero, hhead]
    simp only [Option.bind_eq_bind, Option.bind_some, hfirst (.inl rfl) hrest.isWordChar]
    simp [Node.unplaced, Node.mapPlace, Node.mapPlaceAll_eq_map]
  | some body =>
    simp only [List.length_append, List.length_cons] at hk
    have hstops := stops_sourceLines width level body "end" rest
    have hsecond := readBody_of_readsBack (helse body rfl) (.inl rfl) hrest.isWordChar (k := k)
      (by omega)
    simp only [List.append_assoc, List.cons_append]
    rw [readNode_of_keyword (by decide), readAfter, if_neg (by decide), if_pos rfl,
      List.drop_succ_cons, List.drop_zero, hhead]
    simp only [Option.bind_eq_bind, Option.bind_some, hfirst (.inr rfl) hstops.isWordChar, hsecond]
    simp [Node.unplaced, Node.mapPlace, Node.mapPlaceAll_eq_map]

theorem definition_unplaced (place : Place) (name : String) (params : List String)
    (body : List Node) :
    definition (Node.call place name (params.map (.var place))).unplaced
      (body.map Node.unplaced) = (Node.define place name params body).unplaced := by
  have hparams : (params.map fun p => (Node.var place p).unplaced).filterMap Node.callee? =
      params := by
    rw [List.filterMap_map]
    exact List.filterMap_some
  simp only [Node.unplaced, Node.mapPlace, Node.mapPlaceAll_eq_map, List.map_map, definition,
    Node.define.injEq, true_and]
  exact ⟨hparams, rfl⟩

/-- A definition is read back, if its body is: its heading is read like a call. -/
theorem reads_define {name : String} (h : IsIdentifier name) {params : List String}
    (hparams : ∀ p ∈ params, IsIdentifier p) {body : List Node}
    (hbody : ∀ n ∈ body, ReadsBack width (level + 1) n) (place : Place) :
    Reads width level (.define place name params body) := by
  have hvar {p : String} (hp : p ∈ params) : ReadsBack width level (.var place p) :=
    ⟨(hparams p hp).regular, .name (hparams p hp), reads_var (hparams p hp) place⟩
  have hheading : Reads width level (.call place name (params.map (.var place))) := by
    refine reads_call h (fun a ha => ?_) place
    obtain ⟨p, hp, rfl⟩ := List.mem_map.mp ha
    exact hvar hp
  intro k rest hrest hk
  rw [source_define fun n hn => (hbody n hn).regular.relined_eq] at hk ⊢
  simp only [List.length_append, List.length_cons, wordLine] at hk
  obtain ⟨k, rfl⟩ := Nat.exists_eq_add_one.mpr (show 0 < k by omega)
  have hhead := hheading k _ (stops_sourceLines width level body "end" rest) (by omega)
  have hlines := readBody_of_readsBack hbody (.inl rfl) hrest.isWordChar (k := k) (by omega)
  simp only [List.append_assoc, List.cons_append]
  rw [readNode_of_keyword (by decide), readAfter, if_neg (by decide), if_neg (by decide),
    if_neg (by decide), if_pos rfl, List.drop_succ_cons, List.drop_zero, hhead]
  simp only [Option.bind_eq_bind, Option.bind_some, hlines, definition_unplaced]
  rfl

/-- **What is printed of a tree that source can say is read back.** -/
theorem readsBack_source (htree : ∀ n : Node, n.Occurs tree → n.IsLegible) (n : Node)
    (hn : n.Occurs tree) : ∀ level : Int, ReadsBack width level n := by
  induction n using Node.induction with
  | h n ih =>
    intro level
    refine ⟨regular_source htree n hn level, opens_source htree hn level, ?_⟩
    have hchild (level : Int) {m : Node} (hm : m ∈ n.children) : ReadsBack width level m :=
      ih m hm (.child hn hm) level
    have hlegible := htree n hn
    cases n with
    | literal place v =>
      exact reads_literal (fun x digits h => hlegible.literal place x digits (by rw [h])) place
    | string place s => exact reads_string place s
    | var place name => exact reads_var (hlegible.names name (by simp [Node.names])) place
    | assign place name value =>
      exact reads_assign (hlegible.names name (by simp [Node.names]))
        (hchild level (by simp [Node.children, Node.parts])).reads place
    | cond place test thenBody elseBody =>
      refine reads_cond (hchild level (by simp [Node.children, Node.parts])).reads
        (fun m hm => hchild (level + 1) (by simp [Node.children, Node.parts, hm])) ?_ place
      rintro body rfl m hm
      exact hchild (level + 1) (by simp [Node.children, Node.parts, hm])
    | loop place test body =>
      exact reads_loop (hchild level (by simp [Node.children, Node.parts])).reads
        (fun m hm => hchild (level + 1) (by simp [Node.children, Node.parts, hm])) place
    | define place name params body =>
      exact reads_define (hlegible.names name (by simp [Node.names]))
        (fun p hp => hlegible.names p (by simp [Node.names, hp]))
        (fun m hm => hchild (level + 1) hm) place
    | call place name args =>
      exact reads_call (hlegible.names name (by simp [Node.names]))
        (fun a ha => hchild level ha) place

/-! ### Programs are read back -/

/-- What follows a statement of a program is a newline, or nothing. -/
theorem stops_statements (width level : Int) (ns : List Node) :
    Stops (ns.flatMap fun n => '\n' :: source width level n) := by
  cases ns with
  | nil => exact stops_nil
  | cons n ns => exact stops_cons (by simp) _

/-- Statements are read back, if each of them is. -/
theorem readStatements_flatMap {ns : List Node}
    (hnode : ∀ n ∈ ns, ∀ rest, Stops rest →
      node (source width level n ++ rest) = some (n.unplaced, rest)) {k : Nat}
    (hk : ns.length ≤ k) :
    readStatements node k (ns.flatMap fun n => '\n' :: source width level n) =
      some (ns.map Node.unplaced) := by
  induction ns generalizing k with
  | nil => cases k <;> rfl
  | cons n ns ih =>
    obtain ⟨k, rfl⟩ := Nat.exists_eq_add_one.mpr (show 0 < k by simp at hk; omega)
    have hrec := ih (fun m hm => hnode m (by simp [hm])) (k := k) (by simpa using hk)
    have hstops := stops_statements width level ns
    rw [List.flatMap_cons, List.cons_append, readStatements]
    · rw [List.head?_cons, if_pos rfl, List.drop_succ_cons, List.drop_zero,
        hnode n (by simp) _ hstops]
      simp only [Option.bind_eq_bind, Option.bind_some, hrec]
      rfl
    · rintro ⟨⟩

/-- **The reader undoes the printer**, for programs that source can say: it gives the nodes without
their places. -/
theorem read_printStatements (width level : Int) {p : Program} (hp : p.IsLegible) :
    read (printStatements width level p.body).toList = some (p.body.map Node.unplaced) := by
  have hback (n : Node) (hn : n ∈ p.body) : ReadsBack width level n :=
    readsBack_source hp n (.top hn) level
  generalize p.body = nodes at hback
  cases nodes with
  | nil => rfl
  | cons n ns =>
    have htext : (printStatements width level (n :: ns)).toList =
        source width level n ++ ns.flatMap fun m => '\n' :: source width level m := by
      rw [printStatements, printAll_eq_map, List.map_cons, toList_intercalate_cons,
        List.flatMap_map]
      rfl
    obtain ⟨c, t, hsource, -, -, -, hnewline⟩ := (hback n (by simp)).opens.head
    have hcount : ns.length ≤ (ns.flatMap fun m => '\n' :: source width level m).length :=
      length_le_flatMap_of_ne_nil (by simp)
    have hstops := stops_statements width level ns
    rw [read, htext]
    generalize hk : (source width level n ++
      ns.flatMap fun m => '\n' :: source width level m).length = k
    rw [List.length_append] at hk
    have hfirst := (hback n (by simp)).reads k _ hstops (by omega)
    have hrest (m : Node) (hm : m ∈ ns) (rest : List Char) (hrest : Stops rest) :
        readNode k (source width level m ++ rest) = some (m.unplaced, rest) := by
      have hle := length_le_length_flatMap (f := fun m => '\n' :: source width level m) hm
      rw [List.length_cons] at hle
      exact (hback m (by simp [hm])).reads k rest hrest (by omega)
    obtain ⟨j, hj⟩ : ∃ j, k = j + 1 := ⟨k - 1, by rw [hsource, List.length_cons] at hk; omega⟩
    have hrec := readStatements_flatMap hrest (k := j)
      (by rw [hsource, List.length_cons] at hk; omega)
    rw [hsource, List.cons_append] at hfirst ⊢
    rw [congrArg (readStatements (readNode k)) hj, readStatements]
    · rw [List.head?_cons, if_neg (by simpa using hnewline), hfirst]
      simp only [Option.bind_eq_bind, Option.bind_some, hrec]
      rfl
    · rintro ⟨⟩

end Printed

end Source

namespace Program

/-- **Printing loses nothing but places.** Let two programs have names of the usual form, and
neither numbers with a point nor texts with other boundaries of lines than newlines. If they are
printed alike, then their nodes are the same, up to the files and the lines that they stand at. This
is so whatever the width of a step is, and even if the two are printed with different widths. -/
theorem printed_injective {width level width' level' : Int} {p p' : Program} {s : String}
    (hp : p.IsLegible) (hp' : p'.IsLegible) (h : p.printed width level = .ok s)
    (h' : p'.printed width' level' = .ok s) :
    p.body.map Node.unplaced = p'.body.map Node.unplaced := by
  have hprinted {width level : Int} {p : Program} (h : p.printed width level = .ok s) :
      printStatements width level p.body = s := by
    unfold printed at h
    split at h
    · cases h
    · exact Except.ok.inj h
  have hread := Source.read_printStatements width level hp
  have hread' := Source.read_printStatements width' level' hp'
  rw [hprinted h] at hread
  rw [hprinted h'] at hread'
  exact Option.some.inj (hread.symm.trans hread')

/-- A loop that is the condition of a branch, which calls something with a text in quotes. -/
def patience (line : Int) : Program :=
  ⟨"patience", [
    .cond ⟨.str "patience", .int line⟩
      (.loop ⟨.str "patience", .int line⟩ (.var .nowhere "busy") [])
      [.call ⟨.str "patience", .int (line + 3)⟩ "say" [.string .nowhere "\"done\"\n"]]
      none]⟩

theorem isLegible_patience (line : Int) : (patience line).IsLegible := by
  intro n hn
  simp only [patience, Node.occurs_cons, Node.children, Node.parts, Node.not_occurs_nil, or_false,
    Option.getD_none, List.append_nil] at hn
  rcases hn with rfl | rfl | rfl | rfl | rfl
  · exact ⟨by simp [Node.names], by simp, by simp⟩
  · exact ⟨by simp [Node.names], by simp, by simp⟩
  · exact ⟨by simp [Node.names]; decide, by simp, by simp⟩
  · exact ⟨by simp [Node.names]; decide, by simp, by simp⟩
  · refine ⟨by simp [Node.names], by simp, ?_⟩
    rintro _ _ ⟨⟩
    decide

theorem printed_injective_of_patience :
    (patience 1).printed 2 0 = .ok "if while busy\nend\n  say(\"\\\"done\\\"\\n\")\nend" ∧
      (patience 7).printed 2 0 = (patience 1).printed 2 0 ∧
      (patience 7).body.map Node.unplaced = (patience 1).body.map Node.unplaced := by
  have h : (patience 1).printed 2 0 =
      .ok "if while busy\nend\n  say(\"\\\"done\\\"\\n\")\nend" := rfl
  have h' : (patience 7).printed 2 0 = (patience 1).printed 2 0 := rfl
  exact ⟨h, h', printed_injective (isLegible_patience 7) (isLegible_patience 1) (h'.trans h) h⟩

end Program

end Treewalk
