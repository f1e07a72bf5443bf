import CodeTags.Proofs.LineCursor.Answers
import CodeTags.Proofs.LineIndex.Range
import CodeTags.Proofs.TokenStream

/-!
# The order of tokens

That a tree fits a text is told node by node: by the span of each node, by those of its children
and by each two neighbours among them. The leaves are then in order throughout the tree, also those
that have no common parent and those with leaves of no width between them, and so are the tokens.

* `SyntaxTree.Nested`: a tree that fits a text, node by node.
* `SyntaxTree.nested_iff_wellPlaced`: no two children overlap then, not only neighbours.
* `SyntaxNode.hasText`, `Token.forall₂_ofLeaf?`: each leaf with text has a token, and no other has.
* `tokens_of_nested`: the tokens of such a tree are in order, and a cursor that is asked about some
  of them in turn gives the line of each.
-/

namespace CodeTags

/-! ## Trees that fit a text -/

namespace SyntaxTree

/-- A tree that fits a text: each node begins and ends between characters of the text, its children
lie within it, and each of them ends before the next one begins. -/
inductive Nested (text : List Char) : SyntaxTree → Prop
  | node {label : SyntaxNode} {children : List SyntaxTree}
      (span : label.start ≤ label.stop)
      (aligned : IsBoundary text label.start ∧ IsBoundary text label.stop)
      (within : ∀ t ∈ children, label.start ≤ t.label.start ∧ t.label.stop ≤ label.stop)
      (apart : children.IsChain fun t u => t.label.stop ≤ u.label.start)
      (nested : ∀ t ∈ children, Nested text t) : Nested text (.node label children)

theorem WellPlaced.start_le_stop {text : List Char} {tree : SyntaxTree}
    (h : tree.WellPlaced text) : tree.label.start ≤ tree.label.stop := by
  obtain ⟨⟨piece, hpiece⟩, -, -, -⟩ := h
  exact hpiece.start_le_stop

/-- A tree between two others keeps them apart, because it does not end before it begins. -/
theorem pairwise_of_isChain {trees : List SyntaxTree}
    (hspan : ∀ t ∈ trees, t.label.start ≤ t.label.stop)
    (h : trees.IsChain fun t u => t.label.stop ≤ u.label.start) :
    trees.Pairwise fun t u => t.label.stop ≤ u.label.start := by
  induction trees with
  | nil => exact List.Pairwise.nil
  | cons t ts ih =>
    obtain ⟨-, hspan⟩ := List.forall_mem_cons.mp hspan
    have hlater := ih hspan h.of_cons
    refine List.pairwise_cons.mpr ⟨?_, hlater⟩
    cases ts with
    | nil => simp
    | cons u us =>
      have hnext := (List.isChain_cons_cons.mp h).1
      refine List.forall_mem_cons.mpr ⟨hnext, fun v hv => ?_⟩
      calc t.label.stop ≤ u.label.start := hnext
        _ ≤ u.label.stop := hspan u List.mem_cons_self
        _ ≤ v.label.start := (List.pairwise_cons.mp hlater).1 v hv

theorem nested_iff_wellPlaced {text : List Char} {tree : SyntaxTree} :
    tree.Nested text ↔ tree.WellPlaced text := by
  constructor
  · intro h
    induction h with
    | node span aligned within apart _ ih =>
      exact .node (exists_isPieceAt_iff.mpr ⟨span, aligned⟩) within
        (pairwise_of_isChain (fun t ht => (ih t ht).start_le_stop) apart) ih
  · intro h
    induction h with
    | node piece within ordered _ ih =>
      obtain ⟨span, aligned⟩ := exists_isPieceAt_iff.mp piece
      exact .node span aligned within ordered.isChain ih

end SyntaxTree

/-! ## Leaves with text -/

/-- The leaf is not missing, and it has a width. -/
def SyntaxNode.hasText (leaf : SyntaxNode) : Bool := !leaf.missing && leaf.start != leaf.stop

theorem SyntaxNode.hasText_iff {leaf : SyntaxNode} :
    leaf.hasText = true ↔ leaf.missing = false ∧ leaf.start ≠ leaf.stop := by
  simp [hasText]

theorem Token.ofLeaf?_of_not_hasText {leaf : SyntaxNode} (h : ¬leaf.hasText = true)
    (source : List Char) : ofLeaf? source leaf = none := by
  rw [SyntaxNode.hasText_iff, not_and_or, Bool.not_eq_false, not_not] at h
  exact if_pos h

/-- Each leaf with text has its token, in the order of the leaves. -/
theorem Token.forall₂_ofLeaf? {source : List Char} {leaves : List SyntaxNode}
    (h : ∀ leaf ∈ leaves, ∃ piece, IsPieceAt source leaf.start leaf.stop piece) :
    List.Forall₂ (fun leaf token => ofLeaf? source leaf = some token)
      (leaves.filter (·.hasText)) (leaves.filterMap (ofLeaf? source)) := by
  induction leaves with
  | nil => exact .nil
  | cons leaf leaves ih =>
    obtain ⟨⟨piece, hpiece⟩, h⟩ := List.forall_mem_cons.mp h
    by_cases htext : leaf.hasText = true
    · have htoken := (ofLeaf?_eq_some_iff hpiece).mpr ⟨SyntaxNode.hasText_iff.mp htext, rfl⟩
      rw [List.filter_cons_of_pos htext, List.filterMap_cons_some htoken]
      exact .cons htoken (ih h)
    · rw [List.filter_cons_of_neg htext,
        List.filterMap_cons_none (ofLeaf?_of_not_hasText htext source)]
      exact ih h

/-! ## Tokens -/

/-- **The order of tokens.** Let each node of a tree begin and end between characters of the source,
its children lie within it, and none of them end behind the beginning of the next one. Then each
token begins before all later ones, and it ends before they begin or where they begin, so that no
two tokens share a byte. The leaves that are not missing and have a width have one token each, with
their bytes and in their order, and there are no other tokens. A cursor that is asked about the
places of tokens in turn, of all of them or of some, has never gone too far: it gives each its own
line. -/
theorem tokens_of_nested {source : String} {tree : SyntaxTree} (h : tree.Nested source.toList) :
    let tokens := (TokenStream.ofTree source tree).toList
    (tokens.Pairwise fun a b => a.offset < b.offset) ∧
    (tokens.Pairwise fun a b => a.stop ≤ b.offset) ∧
    List.Forall₂ (fun leaf token => token.offset = leaf.start ∧ token.stop = leaf.stop ∧
        IsPieceAt source.toList leaf.start leaf.stop token.text.toList)
      (tree.leaves.filter (·.hasText)) tokens ∧
    ∀ asked, asked.Sublist (tokens.map (·.offset)) →
      (LineIndex.ofText source).cursor.linesOf asked = asked.map (lineNumberAt source) := by
  intro tokens
  have hplaced := SyntaxTree.nested_iff_wellPlaced.mp h
  have htokens : tokens = tree.leaves.filterMap (Token.ofLeaf? source.toList) :=
    TokenStream.toList_ofTree source tree
  have hranges : tokens.Pairwise fun a b => a.offset < a.stop ∧ a.stop ≤ b.offset :=
    htokens ▸ hplaced.pairwise_ranges
  have hpieces : ∀ leaf ∈ tree.leaves,
      ∃ piece, IsPieceAt source.toList leaf.start leaf.stop piece :=
    fun leaf hleaf => (hplaced.of_mem_leaves hleaf).2.2
  have hsorted : (tokens.map (·.offset)).Pairwise (· ≤ ·) :=
    List.pairwise_map.mpr (htokens ▸ hplaced.pairwise_tokens)
  refine ⟨hranges.imp fun hab => Nat.lt_of_lt_of_le hab.1 hab.2, hranges.imp And.right, ?_,
    fun asked hasked => ?_⟩
  · rw [htokens]
    refine (Token.forall₂_ofLeaf? hpieces).imp fun leaf token htoken => ?_
    obtain ⟨hstart, hstop, -, hpiece⟩ := Token.range_of_ofLeaf? htoken
    exact ⟨hstart, hstop, hpiece⟩
  · rw [LineCursor.linesOf_of_sorted _ (hsorted.sublist hasked)]
    exact List.map_congr_left fun offset _ => line_advance_cursor source offset

/-- A call on two lines. Its first name has two bytes, and behind the comma stand a missing name and
a node that has no bytes. -/
def twoLineCall : SyntaxTree :=
  .node ⟨"expression_statement", true, false, 0, 8⟩
    [.node ⟨"call_expression", true, false, 0, 7⟩
      [.node ⟨"identifier", true, false, 0, 2⟩ [],
       .node ⟨"argument_list", true, false, 2, 7⟩
        [.node ⟨"(", false, false, 2, 3⟩ [], .node ⟨"identifier", true, false, 3, 4⟩ [],
          .node ⟨",", false, false, 4, 5⟩ [], .node ⟨"identifier", true, true, 5, 5⟩ [],
          .node ⟨"ERROR", true, false, 6, 6⟩ [.node ⟨"comment", true, false, 6, 6⟩ []],
          .node ⟨")", false, false, 6, 7⟩ []]],
     .node ⟨";", false, false, 7, 8⟩ []]

theorem tokens_of_nested_of_two_line_call :
    let source := "é(x,\n);"
    let tokens := (TokenStream.ofTree source twoLineCall).toList
    twoLineCall.Nested source.toList ∧
      tokens.map (fun t => (t.offset, t.stop)) =
        [(0, 2), (2, 3), (3, 4), (4, 5), (6, 7), (7, 8)] ∧
      (tokens.Pairwise fun a b => a.stop ≤ b.offset) ∧
      (LineIndex.ofText source).cursor.linesOf (tokens.map (·.offset)) = [1, 1, 1, 1, 2, 2] := by
  intro source tokens
  have hnested : twoLineCall.Nested source.toList :=
    SyntaxTree.nested_iff_wellPlaced.mpr (by decide +kernel)
  have htokens : tokens.map (fun t => (t.offset, t.stop)) =
      [(0, 2), (2, 3), (3, 4), (4, 5), (6, 7), (7, 8)] := by
    show (TokenStream.ofTree source twoLineCall).toList.map _ = _
    rw [TokenStream.toList_ofTree]
    decide +kernel
  obtain ⟨-, hapart, -, hlines⟩ := tokens_of_nested hnested
  have hoffsets : tokens.map (·.offset) = [0, 2, 3, 4, 6, 7] := by
    have h := congrArg (List.map Prod.fst) htokens
    rwa [List.map_map] at h
  refine ⟨hnested, htokens, hapart, ?_⟩
  rw [hlines _ (List.Sublist.refl _), hoffsets]
  decide

end CodeTags
