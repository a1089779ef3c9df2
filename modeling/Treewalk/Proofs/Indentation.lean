import Treewalk.Proofs.Termination
import Treewalk.Proofs.Verbatim

/-!
# Indentation is a shift

The printer hands a level down to all that it prints, but a block puts blanks in front of the first
line of a statement only, because the other lines have theirs already. That the two fit together is
shown here, for nodes without boundaries of lines in their names, and with none but newlines in
their texts (`Treewalk.Node.IsTidy`).

* At a higher level such a node is printed as the same text, with the blanks of the level in front
  of each line but the first (`Treewalk.Text.hang`).
* A statement gets the blanks of one step for each block around it, and so do all of its lines:
  once, and wherever the blocks stand. They may be nested in conditions, in arguments and in values
  (`Treewalk.Node.Layer`).

Neither holds of a name with a newline in it: its second line is not indented. The law is
`Treewalk.Program.printed_shifted`.
-/

namespace Treewalk

open Text

/-! ### Blanks behind newlines -/

namespace Text

/-- Blanks, as many as given. -/
def spaces (k : Nat) : String := String.ofList (List.replicate k ' ')

/-- Lines that are put together again, with blanks in front of each but the first. -/
def hangLines (blanks : List Char) : List (List Char) → List Char
  | [] => []
  | first :: rest => first ++ rest.flatMap (blanks ++ ·)

/-- **A text with `k` blanks put in at the start of every line except the first.** -/
def hang (k : Nat) (text : String) : String :=
  String.ofList (hangLines (spaces k).toList (linesOf isLineBoundary true text.toList))

/-- A text with blanks put in behind every newline. -/
def shifted (blanks s : List Char) : List Char :=
  s.flatMap fun c => if c = '\n' then '\n' :: blanks else [c]

variable (blanks : List Char) {s t : List Char}

theorem shifted_append : shifted blanks (s ++ t) = shifted blanks s ++ shifted blanks t :=
  List.flatMap_append

theorem shifted_newline : shifted blanks ('\n' :: s) = '\n' :: (blanks ++ shifted blanks s) := by
  rw [shifted, List.flatMap_cons, if_pos rfl]
  rfl

theorem shifted_cons {c : Char} (hc : c ≠ '\n') :
    shifted blanks (c :: s) = c :: shifted blanks s := by
  rw [shifted, List.flatMap_cons, if_neg hc]
  rfl

/-- A single line is not shifted. -/
theorem shifted_of_not_mem (h : '\n' ∉ s) : shifted blanks s = s := by
  induction s with
  | nil => rfl
  | cons c rest ih =>
    obtain ⟨hc, hrest⟩ := not_or.mp (List.mem_cons.not.mp h)
    rw [shifted_cons blanks (Ne.symm hc), ih hrest]

/-- A word is not shifted, and what comes after it is. -/
theorem shifted_word {word : List Char} (h : '\n' ∉ word) :
    shifted blanks (word ++ ' ' :: s) = word ++ ' ' :: shifted blanks s := by
  rw [shifted_append, shifted_of_not_mem blanks h, shifted_cons blanks (by decide)]

theorem shifted_flatMap {α : Type} (l : List α) (f : α → List Char) :
    shifted blanks (l.flatMap f) = l.flatMap fun a => shifted blanks (f a) :=
  List.flatMap_assoc

/-- The lines of a text are put together again, after what has been read of the first one. -/
theorem hangLines_linePartsFrom (line : List Char) (hs : OnlyNewlines s)
    (hlast : s.getLast? ≠ some '\n') :
    hangLines blanks ((linePartsFrom isLineBoundary line s).map fun p => p.1 ++ p.2) =
      line.reverse ++ shifted blanks s := by
  fun_induction linePartsFrom isLineBoundary line s with
  | case1 => rfl
  | case2 c line => simp [hangLines, shifted]
  | case3 line rest ih => exact absurd (hs '\r' List.mem_cons_self (by decide)) (by decide)
  | case4 line c rest hpair hc ih =>
    obtain rfl := hs c List.mem_cons_self hc
    -- the newline is not the last character, so there is another line
    have hrest : rest ≠ [] := by
      rintro rfl
      exact hlast rfl
    have hlast : rest.getLast? ≠ some '\n' := by
      rwa [List.getLast?_cons_of_ne_nil hrest] at hlast
    have hrec := ih (fun d hd => hs d (List.mem_cons_of_mem _ hd)) hlast
    have hlines := @linePartsFrom_ne_nil rest isLineBoundary [] hrest
    obtain ⟨first, others, h⟩ := List.exists_cons_of_ne_nil hlines
    rw [h, List.reverse_nil, List.nil_append] at hrec
    rw [shifted_newline, ← hrec, h]
    simp [hangLines]
  | case5 line c rest hpair hc ih =>
    have hne : c ≠ '\n' := by
      rintro rfl
      exact hc (by decide)
    have hlast : rest.getLast? ≠ some '\n' := by
      cases rest with
      | nil => simp
      | cons d rest => rwa [List.getLast?_cons_cons] at hlast
    rw [ih (fun d hd => hs d (List.mem_cons_of_mem _ hd)) hlast, shifted_cons blanks hne]
    simp

/-- **Where lines stay as they are, a line starts behind each newline** and nowhere else. -/
theorem toList_hang {text : String} (h : relined text.toList = text.toList) (k : Nat) :
    (hang k text).toList = shifted (spaces k).toList text.toList := by
  obtain ⟨hnewlines, hlast⟩ := relined_eq_self_iff.mp h
  have hlines := hangLines_linePartsFrom (spaces k).toList [] hnewlines hlast
  rw [hang, String.toList_ofList]
  simpa [linesOf, lineParts] using hlines

end Text

/-! ### Tidy nodes -/

namespace Node

/-- **A node that is written without boundaries of lines** of its own: there are none in its names,
in a text there are newlines only, which are escaped, and an integer has a text. -/
structure IsNeat (n : Node) : Prop where
  names : ∀ name ∈ n.names, Decimal.InLine name.toList
  text : ∀ place s, n = .string place s → OnlyNewlines s.toList
  int : ∀ place i, n = .literal place (.int i) → Decimal.isTooLong i = false

/-- **A tidy node**: it is neat, and so are all nodes inside of it. -/
def IsTidy (n : Node) : Prop := ∀ m : Node, m.Occurs [n] → m.IsNeat

variable {m n : Node}

theorem IsTidy.isNeat (h : n.IsTidy) : n.IsNeat := h n (.top List.mem_cons_self)

theorem IsTidy.child (h : n.IsTidy) (hm : m ∈ n.children) : m.IsTidy := by
  intro k hk
  refine h k (hk.mono fun m' hm' => ?_)
  obtain rfl := List.mem_singleton.mp hm'
  exact .child (.top List.mem_cons_self) hm

theorem anyHuge_eq_false {ns : List Node} (h : ∀ n ∈ ns, n.hasHugeInt = false) :
    anyHuge ns = false := by
  induction ns with
  | nil => rfl
  | cons n rest ih =>
    rw [anyHuge, h n List.mem_cons_self, ih fun m hm => h m (List.mem_cons_of_mem _ hm)]
    rfl

/-- A tidy node has a text. -/
theorem IsTidy.hasHugeInt_eq_false (h : n.IsTidy) : n.hasHugeInt = false := by
  induction n using Node.induction with
  | h n ih =>
    have hchild (m : Node) (hm : m ∈ n.children) : m.hasHugeInt = false := ih m hm (h.child hm)
    cases n with
    | literal place v =>
      cases v with
      | int i => exact h.isNeat.int place i rfl
      | _ => rfl
    | string | var => rfl
    | assign place name value =>
      rw [hasHugeInt, hchild value (by simp [children, parts])]
    | cond place test thenBody elseBody =>
      have htest := hchild test (by simp [children, parts])
      have hthen := @anyHuge_eq_false thenBody fun m hm => hchild m (by simp [children, parts, hm])
      cases elseBody with
      | none => simp [hasHugeInt, htest, hthen]
      | some body =>
        have helse := @anyHuge_eq_false body fun m hm => hchild m (by simp [children, parts, hm])
        simp [hasHugeInt, htest, hthen, helse]
    | loop place test body =>
      have htest := hchild test (by simp [children, parts])
      have hbody := @anyHuge_eq_false body fun m hm => hchild m (by simp [children, parts, hm])
      simp [hasHugeInt, htest, hbody]
    | define place name params body =>
      rw [hasHugeInt]
      exact anyHuge_eq_false hchild
    | call place name args =>
      rw [hasHugeInt]
      exact anyHuge_eq_false hchild

/-- What a tidy node writes outside of its bodies has newlines only. -/
theorem IsTidy.outspoken (h : n.IsTidy) {s : String} (hs : s ∈ n.outspoken) :
    OnlyNewlines s.toList := by
  induction n using Node.induction with
  | h n ih =>
    have hchild (m : Node) (hm : m ∈ n.children) (hs : s ∈ m.outspoken) : OnlyNewlines s.toList :=
      ih m hm (h.child hm) hs
    have hname (hs : s ∈ n.names) : OnlyNewlines s.toList := .of_not (h.isNeat.names s hs)
    cases n with
    | literal place v => cases hs
    | string place t =>
      obtain rfl := List.mem_singleton.mp hs
      exact h.isNeat.text place _ rfl
    | var place name => exact hname hs
    | assign place name value =>
      rcases List.mem_cons.mp hs with rfl | hs
      · exact hname (by simp [names])
      · exact hchild value (by simp [children, parts]) hs
    | cond place test thenBody elseBody => exact hchild test (by simp [children, parts]) hs
    | loop place test body => exact hchild test (by simp [children, parts]) hs
    | define place name params body => exact hname hs
    | call place name args =>
      rcases List.mem_cons.mp hs with rfl | hs
      · exact hname (by simp [names])
      · rw [outspokenAll_eq_flatMap] at hs
        obtain ⟨a, ha, hs⟩ := List.mem_flatMap.mp hs
        exact hchild a ha hs

/-- A tidy node does not end in a newline. -/
theorem IsTidy.lastName (h : n.IsTidy) {name : String} (hname : name ∈ n.lastName?) :
    name.toList.getLast? ≠ some '\n' := by
  induction n using Node.induction with
  | h n ih =>
    cases n with
    | var place own =>
      obtain rfl : own = name := Option.some.inj hname
      intro hlast
      have hline := h.isNeat.names own (by simp [names]) '\n' (List.mem_of_getLast? hlast)
      exact absurd hline (by decide)
    | assign place own value =>
      have hvalue : value ∈ (assign place own value).children := by simp [children, parts]
      exact ih value hvalue (h.child hvalue) hname
    | _ => cases hname

/-- **A block leaves a tidy node as it is.** -/
theorem IsTidy.isSettled (h : n.IsTidy) : n.IsSettled :=
  ⟨fun _ hs => h.outspoken hs, fun _ hname => h.lastName hname⟩

end Node

namespace Program

variable {width level : Int} {n : Node}

theorem relined_source (h : n.IsTidy) (level : Int) :
    relined (source width level n) = source width level n :=
  (relined_source_iff n level).mpr h.isSettled

/-- A tidy node is printed as its source. -/
theorem printed_of_isTidy (h : n.IsTidy) (width level : Int) :
    n.printed width level = .ok (printNode width level n) := by
  rw [Node.printed, h.hasHugeInt_eq_false, if_neg Bool.false_ne_true]

/-! ### One level more -/

theorem newline_not_mem_of_inLine {s : List Char} (h : Decimal.InLine s) : '\n' ∉ s :=
  fun hmem => absurd (h '\n' hmem) (by decide)

theorem newline_not_mem_escaped (s : List Char) : '\n' ∉ s.flatMap quoteDouble.escape := by
  intro h
  obtain ⟨c, -, hc⟩ := List.mem_flatMap.mp h
  unfold quoteDouble.escape at hc
  split at hc
  · exact absurd hc (by decide)
  · split at hc
    · exact absurd hc (by decide)
    · split at hc
      · exact absurd hc (by decide)
      · next hne => exact hne (List.mem_singleton.mp hc).symm

theorem newline_not_mem_blanks : '\n' ∉ blanks width level := by
  intro h
  rw [blanks, indentation, String.toList_ofList] at h
  exact absurd (List.eq_of_mem_replicate h) (by decide)

section Shift

variable {k : Int}

/-- Arguments are shifted, if each of them is. -/
theorem sourceArgs_shifted {args : List Node}
    (h : ∀ a ∈ args, source width (level + k) a = shifted (blanks width level) (source width k a)) :
    sourceArgs width (level + k) args = shifted (blanks width level) (sourceArgs width k args) := by
  cases args with
  | nil => rfl
  | cons a rest =>
    rw [sourceArgs, sourceArgs, shifted_append, h a List.mem_cons_self, shifted_flatMap]
    refine congrArg _ (List.flatMap_congr fun b hb => ?_)
    rw [shifted_cons _ (by decide), shifted_cons _ (by decide), h b (List.mem_cons_of_mem _ hb)]

/-- A call is shifted, if its arguments are. -/
theorem source_call_shifted {name : String} {args : List Node} (hname : '\n' ∉ name.toList)
    (h : ∀ a ∈ args, source width (level + k) a = shifted (blanks width level) (source width k a))
    (place : Place) :
    source width (level + k) (.call place name args) =
      shifted (blanks width level) (source width k (.call place name args)) := by
  rw [source_call, source_call, shifted_append, shifted_of_not_mem _ hname,
    shifted_cons _ (by decide), shifted_append, sourceArgs_shifted h,
    shifted_of_not_mem (s := [')']) _ (by decide)]

variable (hlevel : 0 ≤ level) (hk : 0 ≤ k)
include hlevel hk

/-- The blanks of several levels. -/
theorem blanks_add : blanks width (level + k) = blanks width level ++ blanks width k := by
  simp only [blanks, indentation, String.toList_ofList, List.replicate_append_replicate]
  rw [Int.toNat_add hlevel hk, Nat.mul_add]

/-- A line that consists of one word is shifted. -/
theorem wordLine_shifted {word : String} (hword : '\n' ∉ word.toList) :
    wordLine width (level + k) word = shifted (blanks width level) (wordLine width k word) := by
  rw [wordLine, wordLine, shifted_newline, shifted_append,
    shifted_of_not_mem _ newline_not_mem_blanks, shifted_of_not_mem _ hword, blanks_add hlevel hk,
    List.append_assoc]

/-- **The lines of a body are shifted**, if the statements are. -/
theorem sourceLines_shifted {ns : List Node}
    (h : ∀ n ∈ ns, source width (level + (k + 1)) n =
      shifted (blanks width level) (source width (k + 1) n)) :
    sourceLines width (level + k) ns = shifted (blanks width level) (sourceLines width k ns) := by
  rw [sourceLines, sourceLines, shifted_flatMap, Int.add_assoc]
  refine List.flatMap_congr fun n hn => ?_
  rw [shifted_newline, shifted_append, shifted_of_not_mem _ newline_not_mem_blanks, h n hn,
    blanks_add hlevel (by omega), List.append_assoc]

end Shift

/-- **A tidy node is shifted.** It is printed at a higher level as it is printed at a lower one,
with the blanks of the difference behind each newline. The statements in it are printed at the
levels above, so the lower level has to vary in the induction. -/
theorem source_shifted (h : n.IsTidy) (hlevel : 0 ≤ level) : ∀ {k : Int}, 0 ≤ k →
    source width (level + k) n = shifted (blanks width level) (source width k n) := by
  induction n using Node.induction with
  | h n ih =>
    intro k hk
    have hchild (m : Node) (hm : m ∈ n.children) : source width (level + k) m =
        shifted (blanks width level) (source width k m) := ih m hm (h.child hm) hk
    have hlines {ns : List Node} (hns : ∀ m ∈ ns, m ∈ n.children) :
        sourceLines width (level + k) ns = shifted (blanks width level) (sourceLines width k ns) :=
      sourceLines_shifted hlevel hk fun m hm => ih m (hns m hm) (h.child (hns m hm)) (by omega)
    have hsettled {ns : List Node} (hns : ∀ m ∈ ns, m ∈ n.children) (level : Int) :
        ∀ m ∈ ns, relined (source width (level + 1) m) = source width (level + 1) m :=
      fun m hm => relined_source (h.child (hns m hm)) (level + 1)
    have hname {name : String} (hname : name ∈ n.names) : '\n' ∉ name.toList :=
      newline_not_mem_of_inLine (h.isNeat.names name hname)
    have hend : wordLine width (level + k) "end" =
        shifted (blanks width level) (wordLine width k "end") :=
      wordLine_shifted hlevel hk (by decide)
    cases n with
    | literal place v =>
      exact (shifted_of_not_mem _ (newline_not_mem_of_inLine v.inLine_printed)).symm
    | string place s =>
      rw [source_string, source_string, shifted_cons _ (by decide), shifted_append,
        shifted_of_not_mem _ (newline_not_mem_escaped _),
        shifted_of_not_mem (s := ['"']) _ (by decide)]
    | var place name =>
      rw [source_var, source_var, shifted_of_not_mem _ (hname (by simp [Node.names]))]
    | assign place name value =>
      rw [source_assign, source_assign, shifted_word _ (hname (by simp [Node.names])),
        shifted_cons _ (by decide), shifted_cons _ (by decide),
        hchild value (by simp [Node.children, Node.parts])]
    | cond place test thenBody elseBody =>
      have hthen : ∀ m ∈ thenBody, m ∈ (Node.cond place test thenBody elseBody).children :=
        fun m hm => by simp [Node.children, Node.parts, hm]
      have helse : ∀ body ∈ elseBody, ∀ m ∈ body,
          m ∈ (Node.cond place test thenBody elseBody).children := by
        rintro body rfl m hm
        simp [Node.children, Node.parts, hm]
      have hbranch (level : Int) := source_cond (hsettled hthen level)
        (fun body hbody => hsettled (helse body hbody) level) place test
      rw [hbranch, hbranch, hchild test (by simp [Node.children, Node.parts]), hlines hthen, hend,
        shifted_word _ (by decide), shifted_append, shifted_append, shifted_append]
      cases elseBody with
      | none => rfl
      | some body =>
        simp only [shifted_append, hlines (helse body rfl),
          wordLine_shifted hlevel hk (show '\n' ∉ "else".toList by decide)]
    | loop place test body =>
      have hbody : ∀ m ∈ body, m ∈ (Node.loop place test body).children :=
        fun m hm => by simp [Node.children, Node.parts, hm]
      rw [source_loop (hsettled hbody _), source_loop (hsettled hbody _),
        hchild test (by simp [Node.children, Node.parts]), hlines hbody, hend,
        shifted_word _ (by decide), shifted_append, shifted_append]
    | define place name params body =>
      have hbody : ∀ m ∈ body, m ∈ (Node.define place name params body).children := fun _ hm => hm
      have hparams : ∀ a ∈ params.map (Node.var place), source width (level + k) a =
          shifted (blanks width level) (source width k a) := by
        intro a ha
        obtain ⟨p, hp, rfl⟩ := List.mem_map.mp ha
        rw [source_var, source_var, shifted_of_not_mem _ (hname (by simp [Node.names, hp]))]
      rw [source_define (hsettled hbody _), source_define (hsettled hbody _),
        source_call_shifted (hname (by simp [Node.names])) hparams, hlines hbody, hend,
        shifted_word _ (by decide), shifted_append, shifted_append]
    | call place name args =>
      exact source_call_shifted (hname (by simp [Node.names])) hchild place

end Program

/-! ### What is around a node -/

namespace Node

/-- **A block without its statements.** -/
inductive Block where
  | thenBranch (place : Place) (test : Node) (elseBody : Option (List Node))
  | elseBranch (place : Place) (test : Node) (thenBody : List Node)
  | loop (place : Place) (test : Node)
  | define (place : Place) (name : String) (params : List String)

/-- The block with the given statements. -/
def Block.node (body : List Node) : Block → Node
  | .thenBranch place test elseBody => .cond place test body elseBody
  | .elseBranch place test thenBody => .cond place test thenBody (some body)
  | .loop place test => .loop place test body
  | .define place name params => .define place name params body

/-- **What is directly around a node**: it is a value, a condition, an argument among others, or a
statement of a block among others. -/
inductive Layer where
  | value (place : Place) (name : String)
  | branchTest (place : Place) (thenBody : List Node) (elseBody : Option (List Node))
  | loopTest (place : Place) (body : List Node)
  | argument (place : Place) (name : String) (before after : List Node)
  | statement (block : Block) (before after : List Node)

/-- A node with the layer around it. -/
def Layer.wrap (n : Node) : Layer → Node
  | .value place name => .assign place name n
  | .branchTest place thenBody elseBody => .cond place n thenBody elseBody
  | .loopTest place body => .loop place n body
  | .argument place name before after => .call place name (before ++ n :: after)
  | .statement block before after => block.node (before ++ n :: after)

/-- A layer is a block, or there is none in it. -/
def Layer.depth : Layer → Nat
  | .statement _ _ _ => 1
  | _ => 0

/-- **A node with layers around it**, the outermost first. -/
def wrapped (n : Node) : List Layer → Node
  | [] => n
  | layer :: inner => layer.wrap (wrapped n inner)

/-- **The block depth**: how many of the layers are blocks. -/
def blockDepth : List Layer → Nat
  | [] => 0
  | layer :: inner => layer.depth + blockDepth inner

variable {m n : Node}

/-- The nodes below a node are those that it is around. -/
theorem mem_children_iff : m ∈ n.children ↔ ∃ layer : Layer, n = layer.wrap m := by
  constructor
  · intro h
    cases n with
    | literal | string | var => cases h
    | assign place name value =>
      obtain rfl : m = value := by simpa [children, parts] using h
      exact ⟨.value place name, rfl⟩
    | cond place test thenBody elseBody =>
      simp only [children, parts, List.mem_cons, List.mem_append] at h
      rcases h with rfl | h | h
      · exact ⟨.branchTest place thenBody elseBody, rfl⟩
      · obtain ⟨before, after, rfl⟩ := List.append_of_mem h
        exact ⟨.statement (.thenBranch place test elseBody) before after, rfl⟩
      · cases elseBody with
        | none => cases h
        | some body =>
          obtain ⟨before, after, rfl⟩ := List.append_of_mem (show m ∈ body from h)
          exact ⟨.statement (.elseBranch place test thenBody) before after, rfl⟩
    | loop place test body =>
      simp only [children, parts, List.mem_cons] at h
      rcases h with rfl | h
      · exact ⟨.loopTest place body, rfl⟩
      · obtain ⟨before, after, rfl⟩ := List.append_of_mem h
        exact ⟨.statement (.loop place test) before after, rfl⟩
    | define place name params body =>
      obtain ⟨before, after, rfl⟩ := List.append_of_mem (show m ∈ body from h)
      exact ⟨.statement (.define place name params) before after, rfl⟩
    | call place name args =>
      obtain ⟨before, after, rfl⟩ := List.append_of_mem (show m ∈ args from h)
      exact ⟨.argument place name before after, rfl⟩
  · rintro ⟨layer, rfl⟩
    cases layer with
    | statement block before after =>
      cases block <;> simp [Layer.wrap, Block.node, children, parts]
    | _ => simp [Layer.wrap, children, parts]

theorem wrapped_concat (n : Node) (layers : List Layer) (layer : Layer) :
    n.wrapped (layers ++ [layer]) = (layer.wrap n).wrapped layers := by
  induction layers with
  | nil => rfl
  | cons outer inner ih => rw [List.cons_append, wrapped, wrapped, ih]

/-- **A node of a tree has all of the tree around it**, layer by layer. -/
theorem Occurs.exists_wrapped (h : m.Occurs [n]) : ∃ layers, n = m.wrapped layers := by
  induction h with
  | top hm => exact ⟨[], (List.mem_singleton.mp hm).symm⟩
  | child _ hm ih =>
    obtain ⟨layers, hn⟩ := ih
    obtain ⟨layer, rfl⟩ := mem_children_iff.mp hm
    exact ⟨layers ++ [layer], by rw [wrapped_concat, hn]⟩

theorem IsTidy.of_wrapped {layers : List Layer} (h : (n.wrapped layers).IsTidy) : n.IsTidy := by
  induction layers with
  | nil => exact h
  | cons layer inner ih => exact ih (h.child (mem_children_iff.mpr ⟨layer, rfl⟩))

end Node

namespace Program

open Node

/-! ### What is printed around a node -/

section Around

variable (width : Int)

/-- Every block is printed with a header and an end, and the statements matter for their own lines
only. -/
theorem exists_printNode_block (level : Int) (b : Block) :
    ∃ (header : String) (above below : List String), ∀ body : List Node,
      printNode width level (b.node body) = block (indentation width level) header
        (above ++ (printBody width level body ++ below)) := by
  cases b with
  | thenBranch place test elseBody =>
    exact ⟨"if " ++ printNode width level test, [], _, fun body => printNode_cond ..⟩
  | elseBranch place test thenBody =>
    refine ⟨"if " ++ printNode width level test,
      printBody width level thenBody ++ [indentation width level ++ "else"], [], fun body => ?_⟩
    rw [Block.node, printNode_cond, List.append_nil, List.append_assoc]
    rfl
  | loop place test =>
    refine ⟨"while " ++ printNode width level test, [], [], fun body => ?_⟩
    rw [Block.node, printNode, List.append_nil, List.nil_append]
  | define place name params =>
    refine ⟨"def " ++ name ++ "(" ++ ", ".intercalate params ++ ")", [], [], fun body => ?_⟩
    rw [Block.node, printNode, List.append_nil, List.nil_append]

/-- Other lines come first, or there are none: a newline is in front of both. -/
theorem exists_flatMap_newline (lines : List String) (s : List Char) :
    ∃ rest, (lines.flatMap fun line => '\n' :: line.toList) ++ '\n' :: s = '\n' :: rest := by
  cases lines with
  | nil => exact ⟨s, rfl⟩
  | cons line lines => exact ⟨_, rfl⟩

/-- **A statement has lines of its own**, with the blanks of its level in front. -/
theorem exists_source_statement (level : Int) (b : Block) (before after : List Node) :
    ∃ opening closing, ∀ n : Node,
      relined (source width (level + 1) n) = source width (level + 1) n →
        source width level (b.node (before ++ n :: after)) = opening ++ '\n' ::
          (blanks width (level + 1) ++ (source width (level + 1) n ++ '\n' :: closing)) := by
  obtain ⟨header, above, below, hblock⟩ := exists_printNode_block width level b
  obtain ⟨closing, hclosing⟩ := exists_flatMap_newline (printBody width level after ++ below)
    ((indentation width level).toList ++ "end".toList)
  refine ⟨header.toList ++
    (above ++ printBody width level before).flatMap fun line => '\n' :: line.toList,
    closing, fun n hn => ?_⟩
  have hline : (bodyLine (indentation width (level + 1)) (printNode width (level + 1) n)).toList =
      blanks width (level + 1) ++ source width (level + 1) n := by
    rw [toList_bodyLine]
    exact congrArg _ hn
  have hbody : printBody width level (before ++ n :: after) = printBody width level before ++
      bodyLine (indentation width (level + 1)) (printNode width (level + 1) n) ::
        printBody width level after := by
    simp only [printBody_eq_map, List.map_append, List.map_cons]
  rw [source, hblock, toList_block, hbody, ← hclosing]
  simp only [List.flatMap_append, List.flatMap_cons, List.append_assoc, List.cons_append, hline]

/-- The lines of a block come after its condition. -/
theorem exists_toList_block (level : Int) (word : String) (lines : List String) :
    ∃ after, ∀ test : Node,
      (block (indentation width level) (word ++ printNode width level test) lines).toList =
        word.toList ++ (source width level test ++ after) := by
  refine ⟨(lines.flatMap fun line => '\n' :: line.toList) ++
    '\n' :: ((indentation width level).toList ++ "end".toList), fun test => ?_⟩
  rw [toList_block, String.toList_append, List.append_assoc]
  rfl

/-- The other arguments come before an argument and after it. -/
theorem exists_sourceArgs (level : Int) (before after : List Node) : ∃ left right, ∀ n : Node,
    sourceArgs width level (before ++ n :: after) = left ++ (source width level n ++ right) := by
  cases before with
  | nil => exact ⟨[], after.flatMap fun b => ',' :: ' ' :: source width level b, fun n => rfl⟩
  | cons a before =>
    refine ⟨source width level a ++
      ((before.flatMap fun b => ',' :: ' ' :: source width level b) ++ [',', ' ']),
      after.flatMap fun b => ',' :: ' ' :: source width level b, fun n => ?_⟩
    rw [List.cons_append, sourceArgs, List.flatMap_append, List.flatMap_cons]
    simp

/-- **A layer is printed around a node**, which is printed at a level that is higher by one if the
layer is a block. -/
theorem exists_source_wrap (level : Int) (layer : Layer) : ∃ before after, ∀ n : Node,
    relined (source width (level + layer.depth) n) = source width (level + layer.depth) n →
      source width level (layer.wrap n) =
        before ++ (source width (level + layer.depth) n ++ after) := by
  cases layer with
  | value place name =>
    refine ⟨name.toList ++ [' ', '=', ' '], [], fun n _ => ?_⟩
    rw [Layer.wrap, source_assign]
    simp [Layer.depth]
  | branchTest place thenBody elseBody =>
    obtain ⟨after, htest⟩ := exists_toList_block width level "if " _
    refine ⟨"if ".toList, after, fun n _ => ?_⟩
    rw [Layer.wrap, source, printNode_cond, htest]
    simp only [Layer.depth, Int.natCast_zero, Int.add_zero]
  | loopTest place body =>
    obtain ⟨after, htest⟩ := exists_toList_block width level "while " _
    refine ⟨"while ".toList, after, fun n _ => ?_⟩
    rw [Layer.wrap, source, printNode, htest]
    simp only [Layer.depth, Int.natCast_zero, Int.add_zero]
  | argument place name before after =>
    obtain ⟨left, right, hargs⟩ := exists_sourceArgs width level before after
    refine ⟨name.toList ++ '(' :: left, right ++ [')'], fun n _ => ?_⟩
    rw [Layer.wrap, source_call, hargs]
    simp [Layer.depth]
  | statement block before after =>
    obtain ⟨opening, closing, h⟩ := exists_source_statement width level block before after
    refine ⟨opening ++ '\n' :: blanks width (level + 1), '\n' :: closing, fun n hn => ?_⟩
    simp only [Layer.depth, Int.natCast_one] at hn ⊢
    rw [Layer.wrap, h n hn]
    simp

/-- **A node is printed at the level of its block depth**, and what is around it stays the same
whatever it is. -/
theorem exists_source_wrapped (layers : List Layer) : ∀ level : Int, ∃ before after, ∀ n : Node,
    (n.wrapped layers).IsTidy → source width level (n.wrapped layers) =
      before ++ (source width (level + blockDepth layers) n ++ after) := by
  induction layers with
  | nil =>
    intro level
    refine ⟨[], [], fun n _ => ?_⟩
    simp [wrapped, blockDepth]
  | cons layer inner ih =>
    intro level
    obtain ⟨before, after, hlayer⟩ := exists_source_wrap width level layer
    obtain ⟨before', after', hinner⟩ := ih (level + layer.depth)
    refine ⟨before ++ before', after' ++ after, fun n hn => ?_⟩
    have hbelow : (n.wrapped inner).IsTidy := hn.child (mem_children_iff.mpr ⟨layer, rfl⟩)
    rw [wrapped, hlayer _ (relined_source hbelow _), hinner n hbelow, blockDepth, Int.natCast_add,
      Int.add_assoc]
    simp only [List.append_assoc]

end Around

/-! ### The law -/

/-- At a level a tidy node is printed as at the lowest, with the blanks of the level hung in. -/
theorem printNode_eq_hang {n : Node} (h : n.IsTidy) (width : Int) (level : Nat) :
    printNode width level n = hang (width.toNat * level) (printNode width 0 n) := by
  have hshift : source width (level + 0) n = shifted (blanks width level) (source width 0 n) :=
    source_shifted h (Int.natCast_nonneg level) (Int.le_refl 0)
  rw [Int.add_zero] at hshift
  rw [← String.toList_inj, toList_hang (relined_source h 0)]
  exact hshift

/-- **Indentation is a pure shift.** Let there be no boundaries of lines in the names of a node, and
none but newlines in its texts. Then its text at any level is its text at the lowest one, with the
blanks of the level at the start of every line except the first.

Every statement of a block stands in lines of its own, and these are indented by the blanks of its
depth, once: those of the level at which the whole is printed, and of one step for each block around
the statement. It does not matter what else is around them. -/
theorem printed_shifted (width : Int) (level : Nat) :
    (∀ n : Node, n.IsTidy → ∃ text, n.printed width 0 = .ok text ∧
      n.printed width level = .ok (hang (width.toNat * level) text)) ∧
    (∀ m n : Node, m.Occurs [n] → ∃ layers, n = m.wrapped layers) ∧
    ∀ (outer : List Layer) (block : Block) (before after : List Node), ∃ opening closing : String,
      ∀ n : Node, ((block.node (before ++ n :: after)).wrapped outer).IsTidy →
        ∃ text, n.printed width 0 = .ok text ∧
          ((block.node (before ++ n :: after)).wrapped outer).printed width level =
            .ok (opening ++ "\n" ++ spaces (width.toNat * (level + (blockDepth outer + 1))) ++
              hang (width.toNat * (level + (blockDepth outer + 1))) text ++ "\n" ++ closing) := by
  refine ⟨fun n hn => ⟨_, printed_of_isTidy hn width 0, ?_⟩, fun m n hm => hm.exists_wrapped,
    fun outer block before after => ?_⟩
  · rw [printed_of_isTidy hn, printNode_eq_hang hn]
  · obtain ⟨left, right, houter⟩ := exists_source_wrapped width outer level
    obtain ⟨opening, closing, hblock⟩ :=
      exists_source_statement width (level + blockDepth outer) block before after
    refine ⟨String.ofList (left ++ opening), String.ofList (closing ++ right), fun n hn => ?_⟩
    have hn' : n.IsTidy := hn.of_wrapped.child
      (mem_children_iff.mpr ⟨.statement block before after, rfl⟩)
    refine ⟨_, printed_of_isTidy hn' width 0, ?_⟩
    rw [printed_of_isTidy hn, ← printNode_eq_hang hn']
    have hdepth : (level : Int) + blockDepth outer + 1 = ↑(level + (blockDepth outer + 1)) := by
      omega
    have hwhole := houter _ hn
    rw [hblock n (relined_source hn' _), hdepth] at hwhole
    refine congrArg Except.ok (String.toList_inj.mp (hwhole.trans ?_))
    simp only [String.toList_append, String.toList_ofList, List.append_assoc, List.cons_append]
    rfl

/-- A value that is a branch: a loop is its condition, and a definition is a statement of it. -/
def errand : Node :=
  .assign .nowhere "plan" (.cond .nowhere
    (.loop .nowhere (.var .nowhere "busy") [.call .nowhere "wait" []])
    [.define .nowhere "call" ["who"] [.string .nowhere "it is\nme", .var .nowhere "who"]]
    (some [.literal .nowhere (.int 5)]))

/-- The errand in source. The loop ends where the value begins, since it is not in a block. -/
def errandText : String :=
  "\n".intercalate ["plan = if while busy", "  wait()", "end", "  def call(who)",
    "    \"it is\\nme\"", "    who", "  end", "else", "  5", "end"]

theorem isTidy_errand : errand.IsTidy := by
  intro n hn
  simp only [errand, Node.occurs_cons, children, parts, Node.not_occurs_nil, false_or, or_false,
    or_assoc, Option.getD_some, List.cons_append, List.nil_append] at hn
  rcases hn with rfl | rfl | rfl | rfl | rfl | rfl | rfl | rfl | rfl
  all_goals
    refine ⟨by decide, ?_, ?_⟩
    all_goals rintro _ _ ⟨⟩
  -- the one text and the one integer are left
  · decide
  · decide +kernel

theorem printed_shifted_of_errand :
    errand.IsTidy ∧ errand.printed 2 0 = .ok errandText ∧
      errand.printed 2 3 = .ok (hang 6 errandText) ∧
      ∃ opening closing, errand.printed 2 3 = .ok (opening ++ "\n" ++ spaces 8 ++
        hang 8 "def call(who)\n  \"it is\\nme\"\n  who\nend" ++ "\n" ++ closing) := by
  have htext : errand.printed 2 0 = .ok errandText := by decide +kernel
  obtain ⟨hshift, -, hstatement⟩ := printed_shifted 2 3
  obtain ⟨text, hlow, hhigh⟩ := hshift errand isTidy_errand
  obtain rfl : text = errandText := Except.ok.inj (hlow.symm.trans htext)
  obtain ⟨opening, closing, hcall⟩ := hstatement [.value .nowhere "plan"]
    (.thenBranch .nowhere (.loop .nowhere (.var .nowhere "busy") [.call .nowhere "wait" []])
      (some [.literal .nowhere (.int 5)])) [] []
  obtain ⟨text, hlow', hhigh'⟩ := hcall
    (.define .nowhere "call" ["who"] [.string .nowhere "it is\nme", .var .nowhere "who"])
    isTidy_errand
  obtain rfl : text = "def call(who)\n  \"it is\\nme\"\n  who\nend" :=
    Except.ok.inj (hlow'.symm.trans (by decide +kernel))
  exact ⟨isTidy_errand, htext, hhigh, opening, closing, hhigh'⟩

end Program

end Treewalk
