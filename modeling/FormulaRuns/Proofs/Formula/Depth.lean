import FormulaRuns.Proofs.Formula.Completeness
import FormulaRuns.Proofs.Formula.Levels

/-!
How deep a tree can be that fits into a number of levels. A way down goes through one node for each
level that it enters, but also through the links of chains that it goes down on the left, and what
is below such a chain may begin the next level with a chain of its own (`Fits.opened_lt`,
`deepest`). References add three nodes at most; postfix operators add any number of them, so that
these are counted by the tokens they take (`Fits.counted_le`).
-/
namespace FormulaRuns

def Rule.opensLevel : Rule → Bool
  | paren | call | array | prefixed | binary => true
  | _ => false

namespace Tree

def steps (tree : Tree) : Path → List (Rule × Nat)
  | [] => []
  | index :: path =>
    match tree.rule?, tree.children[index]? with
    | some rule, some child => (rule, index) :: child.steps path
    | _, _ => []

@[simp] theorem steps_leaf (lexeme : Lexeme) (path : Path) : (leaf lexeme).steps path = [] := by
  cases path <;> rfl

theorem steps_child {rule : Rule} {children : List Tree} {index : Nat} {child : Tree}
    (found : children[index]? = some child) (path : Path) :
    (node rule children).steps (index :: path) = (rule, index) :: child.steps path := by
  simp only [steps, rule?, Tree.children, found]

theorem steps_node (rule : Rule) (children : List Tree) (path : Path) :
    (node rule children).steps path = [] ∨
      ∃ index child rest, path = index :: rest ∧ children[index]? = some child ∧
        (node rule children).steps path = (rule, index) :: child.steps rest := by
  cases path with
  | nil => exact .inl rfl
  | cons index rest =>
    cases found : children[index]? with
    | none => simp [steps, rule?, Tree.children, found]
    | some child => exact .inr ⟨index, child, rest, rfl, found, steps_child found rest⟩

theorem steps_postfixed (body : Tree) (op : Lexeme) (path : Path) :
    (node .postfixed [body, leaf op]).steps path = [] ∨
      (∃ rest, (node .postfixed [body, leaf op]).steps path = (.postfixed, 0) :: body.steps rest) ∨
      (node .postfixed [body, leaf op]).steps path = [(.postfixed, 1)] := by
  rcases steps_node .postfixed [body, leaf op] path with
    ends | ⟨index, child, rest, rfl, found, goes_on⟩
  · exact .inl ends
  · rw [goes_on]
    match index, found with
    | 0, rfl => exact .inr (.inl ⟨rest, rfl⟩)
    | 1, rfl => exact .inr (.inr (by simp))

theorem steps_binary (left right : Tree) (op : Lexeme) (path : Path) :
    (node .binary [left, leaf op, right]).steps path = [] ∨
      (∃ rest, (node .binary [left, leaf op, right]).steps path = (.binary, 0) :: left.steps rest) ∨
      (node .binary [left, leaf op, right]).steps path = [(.binary, 1)] ∨
      (∃ rest, (node .binary [left, leaf op, right]).steps path =
        (.binary, 2) :: right.steps rest) := by
  rcases steps_node .binary [left, leaf op, right] path with
    ends | ⟨index, child, rest, rfl, found, goes_on⟩
  · exact .inl ends
  · rw [goes_on]
    match index, found with
    | 0, rfl => exact .inr (.inl ⟨rest, rfl⟩)
    | 1, rfl => exact .inr (.inr (.inl (by simp)))
    | 2, rfl => exact .inr (.inr (.inr ⟨rest, rfl⟩))

theorem length_steps {tree subtree : Tree} {path : Path}
    (found : tree.subtreeAt path = some subtree) : (tree.steps path).length = path.length := by
  induction path generalizing tree with
  | nil => rfl
  | cons index path ih =>
    obtain ⟨child, child_found, inside⟩ := Option.bind_eq_some_iff.1 found
    cases tree with
    | leaf => simp [Tree.children] at child_found
    | node rule children =>
      rw [Tree.children] at child_found
      rw [steps_child child_found, List.length_cons, List.length_cons, ih inside]

mutual

def height : Tree → Nat
  | leaf _ => 1
  | node _ children => forestHeight children + 1

def forestHeight : List Tree → Nat
  | [] => 0
  | tree :: trees => max tree.height (forestHeight trees)

end

theorem height_pos (tree : Tree) : 0 < tree.height := by
  cases tree with
  | leaf => exact Nat.one_pos
  | node => exact Nat.succ_pos _

theorem exists_child_of_forestHeight {trees : List Tree} (nonempty : trees ≠ []) :
    ∃ (index : Nat) (tree : Tree), trees[index]? = some tree ∧
      tree.height = forestHeight trees := by
  induction trees with
  | nil => exact absurd rfl nonempty
  | cons tree trees ih =>
    rcases Nat.le_total (forestHeight trees) tree.height with first | later
    · exact ⟨0, tree, rfl, (Nat.max_eq_left first).symm⟩
    · by_cases last : trees = []
      · subst last
        exact ⟨0, tree, rfl, by simp [forestHeight]⟩
      · obtain ⟨index, child, found, same⟩ := ih last
        exact ⟨index + 1, child, found, by rw [same, forestHeight, Nat.max_eq_right later]⟩

theorem Production.ne_nil {rule : Rule} {children : List Tree}
    (production : Production rule children) : children ≠ [] := by
  cases production <;> exact List.cons_ne_nil _ _

theorem exists_leaf_at_height {tree : Tree} (grammatical : tree.Grammatical) :
    ∃ path lexeme, tree.subtreeAt path = some (leaf lexeme) ∧ path.length + 1 = tree.height := by
  induction tree using children_induction with
  | leaf lexeme => exact ⟨[], lexeme, rfl, rfl⟩
  | node rule children ih =>
    obtain ⟨production, parts⟩ := grammatical
    obtain ⟨index, child, found, tallest⟩ := exists_child_of_forestHeight production.ne_nil
    have member := List.mem_of_getElem? found
    have sound := forestGrammatical_iff.1 parts child member
    obtain ⟨path, lexeme, inside, long⟩ := ih child member sound
    refine ⟨index :: path, lexeme, ?_, ?_⟩
    · simp [subtreeAt, Tree.children, found, inside]
    · rw [height, List.length_cons, long, tallest]

section Counting

variable (counts : Rule → Bool)

def counted (tree : Tree) (path : Path) : Nat :=
  (tree.steps path).countP fun step => counts step.1

@[simp] theorem counted_leaf (lexeme : Lexeme) (path : Path) :
    (leaf lexeme).counted counts path = 0 := by
  simp [counted]

theorem counted_node_le {rule : Rule} {children : List Tree} {bound : Nat}
    (below : ∀ child ∈ children, ∀ path, child.counted counts path ≤ bound) (path : Path) :
    (node rule children).counted counts path ≤ (counts rule).toNat + bound := by
  rcases steps_node rule children path with ends | ⟨index, child, rest, rfl, found, goes_on⟩
  · simp [counted, ends]
  · have inside := below child (List.mem_of_getElem? found) rest
    rw [counted] at inside ⊢
    rw [goes_on, List.countP_cons]
    cases counts rule <;> simp <;> omega

/-- The nodes that count in a reference: at most its sheet, a range, and the sheet of its end. -/
def inReference : Nat :=
  (counts .sheetRef).toNat + ((counts .range).toNat + (counts .sheetRef).toNat)

theorem RangeEnd.counted_le {tree : Tree} (range_end : tree.RangeEnd) (path : Path) :
    tree.counted counts path ≤ (counts .sheetRef).toNat := by
  cases range_end with
  | atom => simp
  | elsewhere =>
    change _ ≤ (counts .sheetRef).toNat + 0
    exact counted_node_le counts (by simp) path

theorem SheetTarget.counted_le {tree : Tree} (target : tree.SheetTarget)
    (grammatical : tree.Grammatical) (path : Path) :
    tree.counted counts path ≤ (counts .range).toNat + (counts .sheetRef).toNat := by
  cases target with
  | atom => simp
  | range =>
    obtain ⟨production, -⟩ := grammatical
    cases production with
    | range _ _ range_end =>
      exact counted_node_le counts (by simpa using range_end.counted_le counts) path

theorem counted_reference_le {rule : Rule} {children : List Tree}
    (reference : rule = .range ∨ rule = .sheetRef) (grammatical : (node rule children).Grammatical)
    (path : Path) : (node rule children).counted counts path ≤ inReference counts := by
  rcases reference with rfl | rfl
  · have within := SheetTarget.range.counted_le counts grammatical path
    exact Nat.le_trans within (Nat.le_add_left _ _)
  · obtain ⟨production, parts⟩ := grammatical
    cases production with
    | sheetRef _ _ target =>
      have within := target.counted_le counts parts.2.2.1
      exact counted_node_le counts (by simpa using within) path

end Counting

/-- Of the steps that open a level, only those to a left operand. -/
def OnlyLefts (steps : List (Rule × Nat)) : Prop :=
  ∀ step ∈ steps, step.1.opensLevel → step = (.binary, 0)

theorem OnlyLefts.later {step : Rule × Nat} {steps : List (Rule × Nat)}
    (only_lefts : OnlyLefts (step :: steps)) : OnlyLefts steps :=
  (List.forall_mem_cons.1 only_lefts).2

theorem Fits.opened_le_links {room : Nat} {tree : Tree} (fits : tree.Fits room)
    (grammatical : tree.Grammatical) {path : Path} (only_lefts : OnlyLefts (tree.steps path)) :
    tree.counted Rule.opensLevel path ≤ tree.links := by
  induction fits generalizing path with
  | leaf => simp
  | reference children reference =>
    have none_opened := counted_reference_le Rule.opensLevel reference grammatical path
    exact Nat.le_trans none_opened (Nat.zero_le _)
  | @postfixed room body op no_links _ ih =>
    rcases steps_postfixed body op path with ends | ⟨rest, down⟩ | down
    · simp [counted, ends]
    · rw [down] at only_lefts
      have inside := ih grammatical.2.1 only_lefts.later
      rw [no_links, counted] at inside
      rw [counted, down, List.countP_cons_of_neg (by simp [Rule.opensLevel])]
      exact Nat.le_trans inside (Nat.zero_le _)
    · simp [counted, down, Rule.opensLevel]
  | @enclosed room rule children encloses _ ih =>
    rcases steps_node rule children path with ends | ⟨index, child, rest, -, -, down⟩
    · simp [counted, ends]
    · have opens : rule.opensLevel := by cases rule <;> first | rfl | cases encloses
      rw [down] at only_lefts
      obtain rfl := congrArg Prod.fst (only_lefts (rule, index) List.mem_cons_self opens)
      cases encloses
  | @binary room left right op _ _ _ left_ih _ =>
    rcases steps_binary left right op path with ends | ⟨rest, down⟩ | down | ⟨rest, down⟩
    · simp [counted, ends]
    · rw [down] at only_lefts
      have inside := left_ih grammatical.2.1 only_lefts.later
      rw [links_binary, counted, down, List.countP_cons_of_pos rfl]
      exact Nat.succ_le_succ inside
    · rw [down] at only_lefts
      cases only_lefts (.binary, 1) List.mem_cons_self rfl
    · rw [down] at only_lefts
      cases only_lefts (.binary, 2) List.mem_cons_self rfl

/-- What opens a level on a way down is no more than there is room for, but for the left operands
before the last other level: a chain counts its links, but not what they are put around. -/
theorem Fits.opened_lt {room : Nat} {tree : Tree} (fits : tree.Fits room)
    (grammatical : tree.Grammatical) {path : Path} {front back : List (Rule × Nat)}
    (split : tree.steps path = front ++ back) (only_lefts : OnlyLefts back) :
    tree.counted Rule.opensLevel path < room + front.count (.binary, 0) := by
  -- By induction on the steps in front: a level that is entered pays for each of them, and the count
  -- of left operands for those that stay on their level.
  induction front generalizing room tree path with
  | nil =>
    rw [List.nil_append] at split
    rw [← split] at only_lefts
    exact Nat.lt_of_le_of_lt (fits.opened_le_links grammatical only_lefts) fits.links_lt
  | cons step front ih =>
    cases fits with
    | leaf => simp at split
    | reference children reference =>
      have none_opened := counted_reference_le Rule.opensLevel reference grammatical path
      have free : inReference Rule.opensLevel = 0 := rfl
      omega
    | @postfixed room body op _ fits =>
      rcases steps_postfixed body op path with ends | ⟨rest, down⟩ | down
      · rw [ends] at split
        cases split
      · rw [down] at split
        obtain ⟨rfl, later⟩ := List.cons.inj split
        have inside := ih fits grammatical.2.1 later
        rw [counted] at inside ⊢
        rw [down, List.countP_cons_of_neg (by simp [Rule.opensLevel]),
          List.count_cons_of_ne (by simp)]
        exact inside
      · rw [counted, down]
        change 0 < _
        omega
    | @enclosed room rule children encloses fit =>
      rcases steps_node rule children path with ends | ⟨index, child, rest, -, found, down⟩
      · rw [ends] at split
        cases split
      · rw [down] at split
        obtain ⟨rfl, later⟩ := List.cons.inj split
        have member := List.mem_of_getElem? found
        have inside := ih (fit child member) (forestGrammatical_iff.1 grammatical.2 child member)
          later
        rw [counted] at inside ⊢
        rw [down, List.countP_cons, List.count_cons]
        split <;> omega
    | @binary room left right op enough left_fits right_fits =>
      rcases steps_binary left right op path with ends | ⟨rest, down⟩ | down | ⟨rest, down⟩
      · rw [ends] at split
        cases split
      · rw [down] at split
        obtain ⟨rfl, later⟩ := List.cons.inj split
        have inside := ih left_fits grammatical.2.1 later
        rw [counted] at inside ⊢
        rw [down, List.countP_cons_of_pos rfl, List.count_cons_self]
        omega
      · rw [counted, down]
        change 1 < _
        omega
      · rw [down] at split
        obtain ⟨rfl, later⟩ := List.cons.inj split
        have inside := ih right_fits grammatical.2.2.2.1 later
        rw [counted] at inside ⊢
        rw [down, List.countP_cons_of_pos rfl, List.count_cons_of_ne (by decide)]
        omega

def postfixOps (tree : Tree) : Nat := tree.leaves.countP (·.kind == .postfixOp)

theorem postfixOps_child_le {rule : Rule} {children : List Tree} {child : Tree}
    (member : child ∈ children) : child.postfixOps ≤ (node rule children).postfixOps := by
  have inside : child.leaves <:+: (node rule children).leaves := by
    rw [leaves, forestLeaves_eq_flatten]
    exact List.infix_of_mem_flatten (List.mem_map_of_mem member)
  exact inside.sublist.countP_le

theorem postfixOps_postfixed (body : Tree) {op : Lexeme} (postfix_op : op.kind = .postfixOp) :
    (node .postfixed [body, leaf op]).postfixOps = body.postfixOps + 1 := by
  simp [postfixOps, leaves, forestLeaves, postfix_op]

/-- The most nodes on a way down, references and postfix operators apart, where there are so many
levels further in: down a chain of as many links, and through brackets to the next level. -/
def deepest : Nat → Nat
  | 0 => 0
  | levels + 1 => levels + 1 + (1 + deepest levels)

theorem two_mul_deepest (levels : Nat) : 2 * deepest levels = levels * (levels + 3) := by
  induction levels with
  | zero => rfl
  | succ levels ih =>
    calc 2 * deepest (levels + 1)
      _ = 2 * (levels + 2) + 2 * deepest levels := by
        rw [deepest]
        omega
      _ = 2 * (levels + 2) + levels * (levels + 3) := by rw [ih]
      _ = (levels + 1) * (levels + 1 + 3) := by
        simp only [Nat.mul_add, Nat.add_mul]
        omega

theorem le_deepest (levels : Nat) : levels ≤ deepest levels := by
  cases levels with
  | zero => exact Nat.le_refl 0
  | succ levels => exact Nat.le_add_right _ _

section Counting

variable (counts : Rule → Bool)

/-- What counts on a way down a tree besides the levels: its references and postfix operators. -/
def beside (tree : Tree) : Nat := inReference counts + (counts .postfixed).toNat * tree.postfixOps

theorem beside_child_le {rule : Rule} {children : List Tree} {child : Tree}
    (member : child ∈ children) : child.beside counts ≤ (node rule children).beside counts :=
  Nat.add_le_add_left (Nat.mul_le_mul_left _ (postfixOps_child_le member)) _

theorem beside_postfixed (body : Tree) {op : Lexeme} (postfix_op : op.kind = .postfixOp) :
    (node .postfixed [body, leaf op]).beside counts =
      body.beside counts + (counts .postfixed).toNat := by
  rw [beside, beside, postfixOps_postfixed body postfix_op, Nat.mul_succ, Nat.add_assoc]

theorem Fits.above_next {room count side : Nat} {tree : Tree} (fits : tree.Fits room)
    (bounded : ∀ {levels}, levels + 1 = room →
      count + levels ≤ tree.links + deepest levels + side) :
    1 + count + room ≤ deepest room + side := by
  have few_links := fits.links_lt
  cases room with
  | zero => exact absurd few_links (Nat.not_lt_zero _)
  | succ levels =>
    have inside := bounded rfl
    rw [deepest]
    omega

-- The invariant: of the links that a chain may have here, the bound counts those that the tree has
-- and not those that could still be put around it.
theorem Fits.counted_add_le {levels : Nat} {tree : Tree} (fits : tree.Fits (levels + 1))
    (grammatical : tree.Grammatical) (path : Path) :
    tree.counted counts path + levels ≤ tree.links + deepest levels + tree.beside counts := by
  have enough := le_deepest levels
  generalize whole : levels + 1 = room at fits
  -- Left operands stay on a level and use up its links; all else below is on the next level.
  induction fits generalizing levels path with
  | leaf =>
    rw [counted_leaf]
    omega
  | reference children reference =>
    have few := counted_reference_le counts reference grammatical path
    rw [beside]
    omega
  | @postfixed room body op no_links _ ih =>
    obtain ⟨production, body_grammatical, -⟩ := grammatical
    cases production with
    | postfixed _ postfix_op =>
    rw [beside_postfixed counts body postfix_op, counted]
    rcases steps_postfixed body op path with ends | ⟨rest, down⟩ | down
    · rw [ends, List.countP_nil]
      omega
    · have inside := ih body_grammatical rest enough whole
      rw [down, List.countP_cons]
      rw [no_links, counted] at inside
      cases counts .postfixed <;> simp <;> omega
    · rw [down, List.countP_cons]
      cases counts .postfixed <;> simp <;> omega
  | @enclosed room rule children _ fit ih =>
    obtain rfl : levels = room := Nat.succ.inj whole
    rw [counted]
    rcases steps_node rule children path with ends | ⟨index, child, rest, -, found, down⟩
    · rw [ends, List.countP_nil]
      omega
    · have member := List.mem_of_getElem? found
      have next := (fit child member).above_next fun {next} inner =>
        ih child member (forestGrammatical_iff.1 grammatical.2 child member) rest
          (le_deepest next) inner
      have side : child.beside counts ≤ (node rule children).beside counts :=
        beside_child_le counts member
      rw [counted] at next
      rw [down, List.countP_cons]
      split <;> omega
  | @binary room left right op _ _ fit left_ih right_ih =>
    obtain rfl : levels = room := Nat.succ.inj whole
    obtain ⟨-, left_grammatical, -, right_grammatical, -⟩ := grammatical
    rw [links_binary, counted]
    rcases steps_binary left right op path with ends | ⟨rest, down⟩ | down | ⟨rest, down⟩
    · rw [ends, List.countP_nil]
      omega
    · have inside := left_ih left_grammatical rest enough rfl
      have side : left.beside counts ≤ (node .binary [left, .leaf op, right]).beside counts :=
        beside_child_le counts (by simp)
      rw [counted] at inside
      rw [down, List.countP_cons]
      split <;> omega
    · rw [down, List.countP_singleton]
      split <;> omega
    · have next := fit.above_next fun {next} inner =>
        right_ih right_grammatical rest (le_deepest next) inner
      have side : right.beside counts ≤ (node .binary [left, .leaf op, right]).beside counts :=
        beside_child_le counts (by simp)
      rw [counted] at next
      rw [down, List.countP_cons]
      split <;> omega

theorem Fits.counted_le {levels : Nat} {tree : Tree} (fits : tree.Fits (levels + 1))
    (grammatical : tree.Grammatical) (path : Path) :
    tree.counted counts path ≤ deepest levels + tree.beside counts := by
  have counted := fits.counted_add_le counts grammatical path
  have few_links := fits.links_lt
  omega

end Counting

end Tree

namespace Formula

variable {text : String} {formula : Formula} (parsed : Formula.parse text = .ok formula)
include parsed

theorem grammatical : formula.root.Grammatical := by
  obtain ⟨-, tokens, -, read⟩ := parse_eq_ok_iff.1 parsed
  exact (parseLexemes_sound read).2

theorem counted_le (counts : Rule → Bool) (path : Path) :
    formula.root.counted counts path ≤
      (counts .formula).toNat + (Tree.deepest nestingLimit + formula.root.beside counts) := by
  obtain ⟨equals, body, root, fits⟩ := exists_fits parsed
  have sound := grammatical parsed
  rw [root] at sound ⊢
  have side : body.beside counts ≤ (Tree.node .formula [.leaf equals, body]).beside counts :=
    Tree.beside_child_le counts (by simp)
  have below (rest : Path) := fits.counted_le counts sound.2.2.1 rest
  refine Tree.counted_node_le counts (fun child member rest => ?_) path
  rcases List.mem_pair.1 member with rfl | rfl
  · simp
  · exact Nat.le_trans (below rest) (Nat.add_le_add_left side _)

/-- No way down opens more levels than the limit, the left operands apart that it takes before the
last other level. -/
theorem opened_le_add_lefts {path : Path} {front back : List (Rule × Nat)}
    (split : formula.root.steps path = front ++ back) (only_lefts : Tree.OnlyLefts back) :
    formula.root.counted Rule.opensLevel path ≤ nestingLimit + front.count (.binary, 0) := by
  obtain ⟨equals, body, root, fits⟩ := exists_fits parsed
  have sound := grammatical parsed
  rw [root] at sound split ⊢
  rcases Tree.steps_node .formula [.leaf equals, body] path with
    ends | ⟨index, child, rest, -, found, down⟩
  · simp [Tree.counted, ends]
  · rw [down] at split
    rw [Tree.counted, down, List.countP_cons_of_neg (by simp [Rule.opensLevel])]
    rcases List.mem_pair.1 (List.mem_of_getElem? found) with rfl | rfl
    · simp
    · cases front with
      | nil =>
        rw [List.nil_append] at split
        rw [← split] at only_lefts
        have few := fits.opened_le_links sound.2.2.1 only_lefts.later
        exact Nat.le_of_lt_succ (Nat.lt_of_le_of_lt few fits.links_lt)
      | cons step front =>
        obtain ⟨rfl, later⟩ := List.cons.inj split
        have inside := fits.opened_lt sound.2.2.1 later only_lefts
        rw [Tree.counted] at inside
        rw [List.count_cons_of_ne (by simp)]
        omega

end Formula

end FormulaRuns
