import Mathlib.Data.List.Forall2
import Treewalk.Proofs.Layout

/-!
# What a block does to its statements

A block puts every statement into lines of its own, with the blanks of the body in front. This file
says what is left of the statement then: its text with every boundary of lines turned into a
newline, and without a newline at its end. So it is printed as it is outside of a block exactly if
newlines are the only boundaries in it, and it does not end in one
(`Treewalk.Program.printBody_verbatim`).

Which boundaries there are depends on the names and the texts that the node writes outside of its
own bodies (`Treewalk.Node.outspoken`). Numbers have none, whatever their digits; newlines in texts
are escaped, but other boundaries are not; and the lines of a body have been put in order already.
-/

namespace Treewalk

open Text

/-! ### The text of a number stands in one line -/

namespace Decimal

theorem le_nine_of_mem_digitsOf {n d : Nat} (h : d ∈ digitsOf n) : d ≤ 9 := by
  obtain ⟨c, hc, rfl⟩ := List.mem_map.mp h
  have hdigit := Nat.isDigit_of_mem_toDigits (by decide) (by decide) hc
  have hmost : c.toNat ≤ '9'.toNat := (Char.isDigit_iff_toNat.mp hdigit).2
  have hnine : '9'.toNat = 57 := rfl
  omega

theorem le_nine_of_mem_searchDigits {low v high den : Nat} {point : Int} {closed : Bool}
    {fuel n d : Nat} (h : d ∈ (searchDigits low v high den point closed fuel n).digits) :
    d ≤ 9 := by
  induction fuel generalizing n with
  | zero =>
    obtain rfl : d = 0 := by simpa [searchDigits] using h
    omega
  | succ fuel ih =>
    simp only [searchDigits] at h
    split at h
    · -- the zeros behind the digits are gone, the digits are the same
      have hmem := List.mem_reverse.mp ((List.dropWhile_sublist _).mem (List.mem_reverse.mp h))
      exact le_nine_of_mem_digitsOf hmem
    · exact ih h

/-- The characters that numbers are written with. -/
def InLine (s : List Char) : Prop := ∀ c ∈ s, isLineBoundary c = false

-- in terms of `List.all`: a quantifier over characters would be decided by trying all there are
instance (s : List Char) : Decidable (InLine s) :=
  decidable_of_iff (s.all fun c => !isLineBoundary c) (by simp [InLine])

variable {d : Digits} (hd : ∀ n ∈ d.digits, n ≤ 9)
include hd

theorem digitChar_inLine : InLine (d.digits.map digitChar) := by
  intro c hc
  obtain ⟨n, hn, rfl⟩ := List.mem_map.mp hc
  have hall : ∀ n : Nat, n ≤ 9 → isLineBoundary (digitChar n) = false := by decide
  exact hall n (hd n hn)

theorem positional_inLine : InLine (positional d) := by
  have hdigits := digitChar_inLine hd
  have hzeros (k : Nat) : InLine (List.replicate k '0') := by
    intro c hc
    obtain rfl := List.eq_of_mem_replicate hc
    decide
  intro c hc
  simp only [positional] at hc
  split at hc
  · simp only [List.cons_append, List.mem_cons, List.mem_append] at hc
    rcases hc with rfl | rfl | hc | hc
    · decide
    · decide
    · exact hzeros _ c hc
    · exact hdigits c hc
  split at hc
  · simp only [List.mem_append, List.mem_cons, List.not_mem_nil, or_false] at hc
    rcases hc with (hc | hc) | rfl | rfl
    · exact hdigits c hc
    · exact hzeros _ c hc
    · decide
    · decide
  · simp only [List.mem_append, List.mem_cons] at hc
    rcases hc with hc | rfl | hc
    · exact hdigits c (List.mem_of_mem_take hc)
    · decide
    · exact hdigits c (List.mem_of_mem_drop hc)

theorem exponential_inLine (width : Nat) : InLine (exponential width d) := by
  have hdigits := digitChar_inLine hd
  have hexponent (e : Int) : InLine (exponentText width e) := by
    intro c hc
    simp only [exponentText, padded, List.mem_cons, List.mem_append] at hc
    rcases hc with rfl | hc | hc
    · split <;> decide
    · obtain rfl := List.eq_of_mem_replicate hc
      decide
    · have hdigit := Nat.isDigit_of_mem_toDigits (by decide) (by decide) hc
      exact isLineBoundary_of_isNumberChar (by simp [isNumberChar, hdigit])
  intro c hc
  simp only [exponential, List.mem_append, List.mem_cons] at hc
  rcases hc with (hc | hc) | rfl | hc
  · exact hdigits c (List.mem_of_mem_take hc)
  · split at hc
    · rcases List.mem_cons.mp hc with rfl | hc
      · decide
      · exact hdigits c (List.mem_of_mem_drop hc)
    · cases hc
  · decide
  · exact hexponent _ c hc

omit hd

/-- **A double is written in one line.** -/
theorem render_inLine (x : Float) : InLine (render x).toList := by
  intro c hc
  simp only [render, Layout.render] at hc
  split at hc
  · revert c
    change InLine _
    decide
  · split at hc
    all_goals
      revert c
      change InLine _
      decide
  · next b _ =>
    have hdigits : ∀ n ∈ (if b.mantissa = 0 then (⟨[0], 1⟩ : Digits) else shortest b).digits,
        n ≤ 9 := by
      split
      · simp
      · exact fun n hn => le_nine_of_mem_searchDigits hn
    generalize (if b.mantissa = 0 then (⟨[0], 1⟩ : Digits) else shortest b) = d at hc hdigits
    simp only [String.toList_append, String.toList_ofList, List.mem_append] at hc
    rcases hc with hc | hc
    · split at hc
      all_goals
        revert c
        change InLine _
        decide
    · split at hc
      · exact positional_inLine hdigits c hc
      · exact exponential_inLine hdigits _ c hc

end Decimal

/-! ### Texts that only newlines divide -/

namespace Text

variable {s t : List Char}

theorem onlyNewlines_nil : OnlyNewlines [] := .of_not (by simp)

theorem onlyNewlines_append : OnlyNewlines (s ++ t) ↔ OnlyNewlines s ∧ OnlyNewlines t :=
  ⟨fun h => ⟨fun c hc => h c (List.mem_append_left _ hc),
      fun c hc => h c (List.mem_append_right _ hc)⟩,
    fun h => h.1.append h.2⟩

theorem onlyNewlines_cons {c : Char} (hc : isLineBoundary c = true → c = '\n') :
    OnlyNewlines (c :: s) ↔ OnlyNewlines s :=
  ⟨fun h d hd => h d (List.mem_cons_of_mem _ hd), .cons hc⟩

theorem onlyNewlines_flatMap {α : Type} {l : List α} {f : α → List Char} :
    OnlyNewlines (l.flatMap f) ↔ ∀ a ∈ l, OnlyNewlines (f a) :=
  ⟨fun h _ ha c hc => h c (List.mem_flatMap.mpr ⟨_, ha, hc⟩), .flatMap⟩

/-- No boundary but newlines is left. -/
theorem onlyNewlines_relined (s : List Char) : OnlyNewlines (relined s) := by
  fun_induction relined s with
  | case1 | case2 | case4 => exact onlyNewlines_nil
  | case3 _ _ ih | case5 _ _ _ _ _ ih => exact .cons (fun _ => rfl) ih
  | case6 c rest _ hc ih => exact .cons (fun h => absurd h hc) ih

/-- **A text stays as it is** exactly when newlines are its only boundaries and it does not end in
one. -/
theorem relined_eq_self_iff : relined s = s ↔ OnlyNewlines s ∧ s.getLast? ≠ some '\n' := by
  constructor
  · intro h
    have hs : OnlyNewlines s := h ▸ onlyNewlines_relined s
    refine ⟨hs, fun hlast => ?_⟩
    rw [relined_of_onlyNewlines hs, if_pos hlast] at h
    have hlength := congrArg List.length h
    have hne : s ≠ [] := by
      rintro rfl
      cases hlast
    have := List.length_pos_iff.mpr hne
    rw [List.length_dropLast] at hlength
    omega
  · rintro ⟨hs, hlast⟩
    rw [relined_of_onlyNewlines hs, if_neg hlast]

/-- **What is escaped are newlines**, and no other boundary of lines. -/
theorem onlyNewlines_flatMap_escape :
    OnlyNewlines (s.flatMap quoteDouble.escape) ↔ OnlyNewlines s := by
  refine ⟨fun h c hc hboundary => ?_, Program.onlyNewlines_escape⟩
  by_contra hne
  have hself : quoteDouble.escape c = [c] := by
    have hbackslash : c ≠ '\\' := by
      rintro rfl
      exact absurd hboundary (by decide)
    have hquote : c ≠ '"' := by
      rintro rfl
      exact absurd hboundary (by decide)
    simp [quoteDouble.escape, hbackslash, hquote, hne]
  have hmem : c ∈ s.flatMap quoteDouble.escape :=
    List.mem_flatMap.mpr ⟨c, hc, hself ▸ List.mem_singleton_self c⟩
  exact hne (h c hmem hboundary)

end Text

/-! ### What a node writes outside of its bodies -/

namespace Literal

theorem inLine_printed (v : Literal) : Decimal.InLine v.printed.toList := by
  cases v with
  | nil => decide
  | bool b => cases b <;> decide
  | int n => exact fun c hc => isLineBoundary_of_isNumberChar (isNumberChar_of_mem_toString hc)
  | float x mark => exact Decimal.render_inLine x

end Literal

namespace Node

mutual

/-- **The names and the texts that a node writes outside of its bodies.** -/
def outspoken : Node → List String
  | .literal _ _ => []
  | .string _ s => [s]
  | .var _ name => [name]
  | .assign _ name value => name :: outspoken value
  | .cond _ test _ _ | .loop _ test _ => outspoken test
  | .define _ name params _ => name :: params
  | .call _ name args => name :: outspokenAll args

/-- What several nodes write outside of their bodies. -/
def outspokenAll : List Node → List String
  | [] => []
  | n :: rest => outspoken n ++ outspokenAll rest

end

/-- The name that a node ends in, if it ends in one. -/
def lastName? : Node → Option String
  | .var _ name => some name
  | .assign _ _ value => lastName? value
  | _ => none

/-- **A node that a block leaves as it is**: newlines, which are escaped in texts, are the only
boundaries of lines outside of its bodies, and it does not end in one. -/
structure IsSettled (n : Node) : Prop where
  outspoken : ∀ s ∈ n.outspoken, OnlyNewlines s.toList
  lastName : ∀ name ∈ n.lastName?, name.toList.getLast? ≠ some '\n'

theorem outspokenAll_eq_flatMap (ns : List Node) : outspokenAll ns = ns.flatMap outspoken := by
  induction ns with
  | nil => rfl
  | cons n rest ih => rw [outspokenAll, ih, List.flatMap_cons]

end Node

namespace Program

variable {width level : Int}

/-- **The lines of a body are divided by newlines only**, whatever is in them. -/
theorem onlyNewlines_of_mem_printBody {ns : List Node} {line : String}
    (h : line ∈ printBody width level ns) : OnlyNewlines line.toList := by
  induction ns with
  | nil => cases h
  | cons n rest ih =>
    rw [printBody] at h
    rcases List.mem_cons.mp h with rfl | h
    · rw [toList_bodyLine]
      exact onlyNewlines_blanks.append (onlyNewlines_relined _)
    · exact ih h

theorem onlyNewlines_block {header : String} {lines : List String}
    (hlines : ∀ line ∈ lines, OnlyNewlines line.toList) :
    OnlyNewlines (block (indentation width level) header lines).toList ↔
      OnlyNewlines header.toList := by
  rw [toList_block, onlyNewlines_append, and_iff_left]
  refine .append (.flatMap fun line hline => .cons (fun _ => rfl) (hlines line hline)) ?_
  exact .cons (fun _ => rfl) (onlyNewlines_blanks.append (by decide))

theorem getLast?_block (outer header : String) (lines : List String) :
    (block outer header lines).toList.getLast? = some 'd' := by
  rw [toList_block]
  simp [List.getLast?_append, List.getLast?_cons]

/-- Both forms of a conditional are blocks. -/
theorem printNode_cond (place : Place) (test : Node) (thenBody : List Node)
    (elseBody : Option (List Node)) :
    printNode width level (.cond place test thenBody elseBody) =
      block (indentation width level) ("if " ++ printNode width level test)
        (printBody width level thenBody ++
          match elseBody with
          | none => []
          | some body => (indentation width level ++ "else") :: printBody width level body) := by
  cases elseBody with
  | none => rw [printNode, List.append_nil]
  | some body => rw [printNode]

/-- The source of a call is divided by newlines only if its name and its arguments are. -/
theorem onlyNewlines_source_call {place : Place} {name : String} {args : List Node} :
    OnlyNewlines (source width level (.call place name args)) ↔
      OnlyNewlines name.toList ∧ ∀ a ∈ args, OnlyNewlines (source width level a) := by
  rw [source_call, onlyNewlines_append, onlyNewlines_cons (by decide), onlyNewlines_append,
    and_iff_left (b := OnlyNewlines [')']) (by decide)]
  refine and_congr_right fun _ => ?_
  cases args with
  | nil => simp [sourceArgs, onlyNewlines_nil]
  | cons a rest =>
    rw [sourceArgs, onlyNewlines_append, onlyNewlines_flatMap, List.forall_mem_cons]
    refine and_congr_right fun _ => forall_congr' fun b => imp_congr_right fun _ => ?_
    rw [onlyNewlines_cons (by decide), onlyNewlines_cons (by decide)]

/-- **The source of a node is divided by newlines only** if what it writes outside of its bodies is.
The bodies do not matter: their lines have been settled. -/
theorem onlyNewlines_source (n : Node) : ∀ level : Int,
    OnlyNewlines (source width level n) ↔ ∀ s ∈ n.outspoken, OnlyNewlines s.toList := by
  induction n using Node.induction with
  | h n ih =>
    intro level
    have hbody {ns : List Node} (line : String) (h : line ∈ printBody width level ns) :
        OnlyNewlines line.toList := onlyNewlines_of_mem_printBody h
    cases n with
    | literal place v =>
      rw [source_literal]
      simpa [Node.outspoken] using OnlyNewlines.of_not v.inLine_printed
    | string place s =>
      rw [source_string, onlyNewlines_cons (by decide), onlyNewlines_append,
        and_iff_left (b := OnlyNewlines ['"']) (by decide), onlyNewlines_flatMap_escape]
      simp [Node.outspoken]
    | var place name =>
      rw [source_var]
      simp [Node.outspoken]
    | assign place name value =>
      rw [source_assign, onlyNewlines_append, onlyNewlines_cons (by decide),
        onlyNewlines_cons (by decide), onlyNewlines_cons (by decide),
        ih value (by simp [Node.children, Node.parts]) level]
      simp [Node.outspoken]
    | cond place test thenBody elseBody =>
      have htest := ih test (by simp [Node.children, Node.parts]) level
      clear ih
      have hlines : ∀ line ∈ printBody width level thenBody ++
          (match elseBody with
          | none => []
          | some body => (indentation width level ++ "else") :: printBody width level body),
          OnlyNewlines line.toList := by
        intro line hline
        rcases List.mem_append.mp hline with h | h
        · exact hbody line h
        · cases elseBody with
          | none => cases h
          | some body =>
            rcases List.mem_cons.mp h with rfl | h
            · rw [String.toList_append]
              exact onlyNewlines_blanks.append (by decide)
            · exact hbody line h
      rw [source, printNode_cond, onlyNewlines_block hlines, String.toList_append,
        onlyNewlines_append,
        and_iff_right (a := OnlyNewlines "if ".toList) (by decide)]
      exact htest
    | loop place test body =>
      rw [source, printNode, onlyNewlines_block hbody, String.toList_append, onlyNewlines_append,
        and_iff_right (a := OnlyNewlines "while ".toList) (by decide)]
      exact ih test (by simp [Node.children, Node.parts]) level
    | define place name params body =>
      rw [source, printNode, onlyNewlines_block hbody, toList_heading width level place,
        onlyNewlines_append,
        and_iff_right (a := OnlyNewlines "def".toList) (by decide),
        onlyNewlines_cons (by decide), onlyNewlines_source_call]
      simp [Node.outspoken, source_var]
    | call place name args =>
      rw [onlyNewlines_source_call, Node.outspoken, List.forall_mem_cons,
        Node.outspokenAll_eq_flatMap]
      refine and_congr_right fun _ => ?_
      simp only [List.mem_flatMap, forall_exists_index, and_imp]
      constructor
      · intro h s a ha hs
        exact (ih a ha level).mp (h a ha) s hs
      · intro h a ha
        exact (ih a ha level).mpr fun s hs => h s a ha hs

/-- **The source of a node ends in a newline** only if a name does in which it ends. -/
theorem getLast?_source (n : Node) (level : Int) :
    (source width level n).getLast? = some '\n' ↔
      ∃ name ∈ n.lastName?, name.toList.getLast? = some '\n' := by
  induction n using Node.induction with
  | h n ih =>
    have hother {c : Char} (h : (source width level n).getLast? = some c) (hc : c ≠ '\n')
        (hname : n.lastName? = none) : (source width level n).getLast? = some '\n' ↔
          ∃ name ∈ n.lastName?, name.toList.getLast? = some '\n' := by
      simp [h, hc, hname]
    have hblock {header : String} {lines : List String}
        (h : printNode width level n = block (indentation width level) header lines) :
        (source width level n).getLast? = some 'd' := by
      rw [source, h, getLast?_block]
    cases n with
    | literal place v =>
      have hlast : (source width level (.literal place v)).getLast? ≠ some '\n' := by
        intro h
        exact absurd (v.inLine_printed '\n' (List.mem_of_getLast? h)) (by decide)
      simp [hlast, Node.lastName?]
    | string place s =>
      have hlast : (source width level (.string place s)).getLast? = some '"' := by
        rw [source_string]
        simp [List.getLast?_cons]
      exact hother hlast (by decide) rfl
    | var place name => simp [source_var, Node.lastName?]
    | assign place name value =>
      have hvalue := ih value (by simp [Node.children, Node.parts])
      rw [Node.lastName?, ← hvalue, source_assign]
      simp only [List.getLast?_append, List.getLast?_cons]
      -- an empty value would leave the blank before it
      cases (source width level value).getLast? <;> simp
    | cond place test thenBody elseBody => exact hother (hblock (printNode_cond ..)) (by decide) rfl
    | loop place test body => exact hother (hblock (printNode.eq_7 ..)) (by decide) rfl
    | define place name params body => exact hother (hblock (printNode.eq_8 ..)) (by decide) rfl
    | call place name args =>
      have hlast : (source width level (.call place name args)).getLast? = some ')' := by
        rw [source_call]
        simp [List.getLast?_append, List.getLast?_cons]
      exact hother hlast (by decide) rfl

/-- **A block leaves a node as it is** exactly if it is settled. -/
theorem relined_source_iff (n : Node) (level : Int) :
    relined (source width level n) = source width level n ↔ n.IsSettled := by
  rw [relined_eq_self_iff, onlyNewlines_source, Ne, getLast?_source]
  constructor
  · rintro ⟨honly, hlast⟩
    exact ⟨honly, fun name hname hnewline => hlast ⟨name, hname, hnewline⟩⟩
  · rintro ⟨honly, hlast⟩
    exact ⟨honly, fun ⟨name, hname, hnewline⟩ => hlast name hname hnewline⟩

/-- A line is the statement as it is printed by itself exactly if the statement is settled. -/
theorem bodyLine_eq_iff (indent : String) (n : Node) (level : Int) :
    bodyLine indent (printNode width level n) = indent ++ printNode width level n ↔
      n.IsSettled := by
  rw [← @relined_source_iff width n level, ← String.toList_inj, toList_bodyLine,
    String.toList_append, List.append_cancel_left_eq]
  rfl

/-- A text is settled if newlines are its only boundaries. -/
theorem isSettled_string {place : Place} {s : String} :
    (Node.string place s).IsSettled ↔ OnlyNewlines s.toList := by
  constructor
  · intro h
    exact h.outspoken s (by simp [Node.outspoken])
  · intro h
    exact ⟨by simpa [Node.outspoken] using h, by simp [Node.lastName?]⟩

variable (width level)

/-- **The statements of a block, verbatim or not.** A block has one entry for each of its
statements, in their order. Behind the blanks of the body it is the statement as it is printed by
itself, put in lines of its own; and it is the very same text exactly if newlines are the only
boundaries of lines in what the statement writes outside of its own bodies, and it does not end in a
newline.

So a text inside of a block is printed as it is anywhere else, whatever the level, exactly if it has
no boundaries but newlines. -/
theorem printBody_verbatim (ns : List Node) :
    List.Forall₂
      (fun n line =>
        line = indentation width (level + 1) ++
          String.ofList (relined (printNode width (level + 1) n).toList) ∧
        (line = indentation width (level + 1) ++ printNode width (level + 1) n ↔ n.IsSettled) ∧
        ∀ place s, n = .string place s → ∀ outer : Int,
          (line = indentation width (level + 1) ++ printNode width outer n ↔
            OnlyNewlines s.toList))
      ns (printBody width level ns) := by
  induction ns with
  | nil => exact .nil
  | cons n rest ih =>
    refine .cons ⟨?_, bodyLine_eq_iff _ n _, ?_⟩ ih
    · rw [← String.toList_inj, toList_bodyLine, String.toList_append, String.toList_ofList]
    · rintro place s rfl outer
      rw [← @isSettled_string place s]
      exact bodyLine_eq_iff _ _ _

/-- A carriage return is a boundary of lines, and no newline: in a block, it is replaced. -/
theorem carriageReturn_replaced :
    ¬∀ (width level : Int) (ns : List Node),
      List.Forall₂
        (fun n line =>
          line = indentation width (level + 1) ++ printNode width (level + 1) n)
        ns (printBody width level ns) := by
  intro h
  have hline := h 2 0 [.string .nowhere "a\rb"]
  rw [printBody, List.forall₂_cons] at hline
  exact absurd hline.1 (by decide)

end Program

end Treewalk
