import CodeTags.Proofs.TokenStream

/-!
# Walking a tree from leaf to leaf

A token stream keeps the trees that are still to be walked. The same tokens come from a cursor that
moves in the tree, from a node to its first child, its next sibling or its parent, and also from the
list of all nodes with their depths.

* `TreeCursor`, `TreeWalk`: the cursor and its moves, and the walk that asks it for one token after
  the other. `TreeCursor.ahead` are the trees that the walk has not been to.
* `TreeCursor.descend_spec`, `TreeWalk.ahead_advance`: going down passes no leaf, and going on
  passes the one leaf where the cursor is.
* `TreeWalk.next_spec`, `TreeWalk.answerAt_eq`: a call gives the token of the next leaf that has
  one, and so each call the next of them.
* `flatLeaves_preorder`: the leaves are the nodes behind which the list goes no deeper.
* `tokens_of_tree`: the tokens of a tree, in all these ways.
-/

namespace CodeTags

open SyntaxTree

/-! ## A cursor -/

/-- A place in a tree: the tree there, the trees to its right under the same parent, and the trees
above it, the nearest one first, each with those to its right. -/
structure TreeCursor where
  here : SyntaxTree
  right : List SyntaxTree
  above : List (SyntaxTree × List SyntaxTree)

namespace TreeCursor

/-- The place of the first child. The node itself is then the nearest one above. -/
def firstChild? : TreeCursor → Option TreeCursor
  | ⟨.node _ [], _, _⟩ => none
  | ⟨.node label (t :: ts), right, above⟩ => some ⟨t, ts, (.node label (t :: ts), right) :: above⟩

/-- The place of the next node to the right under the same parent. -/
def nextSibling? : TreeCursor → Option TreeCursor
  | ⟨_, [], _⟩ => none
  | ⟨_, t :: ts, above⟩ => some ⟨t, ts, above⟩

/-- The place of the node above. -/
def parent? : TreeCursor → Option TreeCursor
  | ⟨_, _, []⟩ => none
  | ⟨_, _, (t, ts) :: above⟩ => some ⟨t, ts, above⟩

/-- The trees to the right of the place, of its parent and so on up to the root. -/
def behind (c : TreeCursor) : List SyntaxTree := c.right ++ c.above.flatMap (·.2)

/-- The tree at the place and those behind it. -/
def ahead (c : TreeCursor) : List SyntaxTree := c.here :: c.behind

theorem firstChild?_eq_some {c d : TreeCursor} (h : c.firstChild? = some d) :
    ∃ label t ts, c.here = .node label (t :: ts) ∧ d.here = t ∧ d.behind = ts ++ c.behind := by
  obtain ⟨⟨label, children⟩, right, above⟩ := c
  cases children with
  | nil => simp [firstChild?] at h
  | cons t ts =>
    obtain rfl := Option.some.inj h
    exact ⟨label, t, ts, rfl, rfl, by simp [behind]⟩

theorem firstChild?_eq_none {c : TreeCursor} (h : c.firstChild? = none) :
    c.here = .node c.here.label [] := by
  obtain ⟨⟨label, children⟩, right, above⟩ := c
  cases children with
  | nil => rfl
  | cons t ts => simp [firstChild?] at h

theorem nextSibling?_eq_some {c d : TreeCursor} (h : c.nextSibling? = some d) :
    d.ahead = c.behind := by
  obtain ⟨here, right, above⟩ := c
  cases right with
  | nil => simp [nextSibling?] at h
  | cons t ts =>
    obtain rfl := Option.some.inj h
    simp [ahead, behind]

/-- Without a sibling to its right, what is behind a node is what is behind its parent. -/
theorem parent?_eq_some {c d : TreeCursor} (h : c.nextSibling? = none) (hd : c.parent? = some d) :
    c.above.length = d.above.length + 1 ∧ d.behind = c.behind := by
  obtain ⟨here, right, above⟩ := c
  cases right with
  | cons t ts => simp [nextSibling?] at h
  | nil =>
    cases above with
    | nil => simp [parent?] at hd
    | cons p above =>
      obtain rfl := Option.some.inj hd
      simp [behind]

theorem behind_eq_nil {c : TreeCursor} (h : c.nextSibling? = none) (hd : c.parent? = none) :
    c.behind = [] := by
  obtain ⟨here, right, above⟩ := c
  cases right with
  | cons t ts => simp [nextSibling?] at h
  | nil =>
    cases above with
    | nil => rfl
    | cons p above => simp [parent?] at hd

/-- Goes to the first child as long as there is one. -/
def descend (c : TreeCursor) : TreeCursor :=
  match _h : c.firstChild? with
  | some d => d.descend
  | none => c
termination_by c.here.weight
decreasing_by
  obtain ⟨label, t, ts, hhere, rfl, -⟩ := firstChild?_eq_some _h
  simp only [hhere, weight, forestWeight]
  omega

/-- Going down ends at a leaf, and no leaf is passed on the way. -/
theorem descend_spec (c : TreeCursor) :
    c.descend.here = .node c.descend.here.label [] ∧
      forestLeaves c.ahead = c.descend.here.label :: forestLeaves c.descend.behind ∧
      forestWeight c.descend.behind < forestWeight c.ahead := by
  fun_induction descend c with
  | case1 c d h ih =>
    obtain ⟨label, t, ts, hhere, rfl, hbehind⟩ := firstChild?_eq_some h
    obtain ⟨hleaf, hleaves, hweight⟩ := ih
    refine ⟨hleaf, ?_, ?_⟩
    · rw [← hleaves, ahead, ahead, hhere, hbehind]
      simp [forestLeaves, leaves]
    · refine Nat.lt_trans hweight ?_
      rw [ahead, ahead, hhere, hbehind]
      simp only [forestWeight, weight, forestWeight_append]
      omega
  | case2 c h =>
    have hleaf := firstChild?_eq_none h
    refine ⟨hleaf, ?_, ?_⟩
    · rw [ahead, hleaf]
      rfl
    · rw [ahead, forestWeight]
      have := c.here.weight_pos
      omega

end TreeCursor

/-! ## A walk -/

/-- A walk through a tree over a source. It is finished when the cursor is back at the root. -/
structure TreeWalk where
  source : List Char
  cursor : TreeCursor
  finished : Bool

namespace TreeWalk

/-- The walk at its beginning, at the root. -/
def ofTree (source : String) (tree : SyntaxTree) : TreeWalk :=
  ⟨source.toList, ⟨tree, [], []⟩, false⟩

/-- Goes to the next sibling, or to that of the nearest node above which has one. -/
def advance (w : TreeWalk) : TreeWalk :=
  match _h : w.cursor.nextSibling? with
  | some c => { w with cursor := c }
  | none =>
    match _hc : w.cursor.parent? with
    | some c => advance { w with cursor := c }
    | none => { w with finished := true }
termination_by w.cursor.above.length
decreasing_by
  obtain ⟨hlength, -⟩ := TreeCursor.parent?_eq_some _h _hc
  exact hlength ▸ Nat.lt_succ_self _

/-- The trees that the walk has not been to. -/
def ahead (w : TreeWalk) : List SyntaxTree := if w.finished then [] else w.cursor.ahead

/-- Going on leaves the trees behind the place. -/
theorem ahead_advance {w : TreeWalk} (h : w.finished = false) :
    w.advance.ahead = w.cursor.behind ∧ w.advance.source = w.source := by
  fun_induction advance w with
  | case1 w c hsibling =>
    rw [ahead, if_neg (by simp [h])]
    exact ⟨TreeCursor.nextSibling?_eq_some hsibling, rfl⟩
  | case2 w hsibling c hparent ih =>
    obtain ⟨hahead, hsource⟩ := ih h
    exact ⟨hahead.trans (TreeCursor.parent?_eq_some hsibling hparent).2, hsource⟩
  | case3 w hsibling hparent =>
    rw [TreeCursor.behind_eq_nil hsibling hparent]
    exact ⟨rfl, rfl⟩

/-- The token of the next leaf that has one, and the walk behind that leaf. -/
def next (w : TreeWalk) : Option Token × TreeWalk :=
  if _h : w.finished = true then (none, w)
  else
    let leaf := w.cursor.descend
    let later := advance { w with cursor := leaf }
    match Token.ofLeaf? w.source leaf.here.label with
    | some token => (some token, later)
    | none => later.next
termination_by forestWeight w.ahead
decreasing_by
  have hahead := (ahead_advance (w := { w with cursor := w.cursor.descend }) (by simpa using _h)).1
  rw [hahead, ahead, if_neg _h]
  exact w.cursor.descend_spec.2.2

/-- The tokens of the leaves that the walk has not been to. -/
def tokensAhead (w : TreeWalk) : List Token :=
  (forestLeaves w.ahead).filterMap (Token.ofLeaf? w.source)

/-- First comes the token of the leaf below the cursor, if it has one, and then those behind it. -/
theorem tokensAhead_eq {w : TreeWalk} (h : w.finished = false) :
    w.tokensAhead = (Token.ofLeaf? w.source w.cursor.descend.here.label).toList ++
      (advance { w with cursor := w.cursor.descend }).tokensAhead := by
  obtain ⟨hahead, hsource⟩ := ahead_advance (w := { w with cursor := w.cursor.descend }) h
  rw [tokensAhead, tokensAhead, hahead, hsource, ahead, if_neg (by simp [h]),
    w.cursor.descend_spec.2.1, List.filterMap_cons]
  cases Token.ofLeaf? w.source w.cursor.descend.here.label <;> rfl

/-- A call gives the first token ahead and leaves the others. -/
theorem next_spec (w : TreeWalk) :
    w.next.1 = w.tokensAhead.head? ∧ w.next.2.tokensAhead = w.tokensAhead.tail := by
  -- A leaf without a token adds nothing to the tokens ahead, so a call that goes on sees the same.
  fun_induction next w with
  | case1 w h => simp [tokensAhead, ahead, h, forestLeaves]
  | case2 w h leaf later token htoken =>
    rw [tokensAhead_eq (by simpa using h), htoken]
    exact ⟨rfl, rfl⟩
  | case3 w h leaf later htoken ih =>
    rw [tokensAhead_eq (by simpa using h), htoken]
    exact ih

/-- What call number `n` gives, counted from 0. -/
def answerAt : Nat → TreeWalk → Option Token
  | 0, w => w.next.1
  | n + 1, w => answerAt n w.next.2

theorem answerAt_eq (n : Nat) (w : TreeWalk) : answerAt n w = w.tokensAhead[n]? := by
  induction n generalizing w with
  | zero => rw [answerAt, w.next_spec.1, List.head?_eq_getElem?]
  | succ n ih => rw [answerAt, ih, w.next_spec.2, List.getElem?_tail]

end TreeWalk

/-! ## A list of nodes -/

/-- The nodes that are not followed by a deeper one, of a list of nodes with their depths. -/
def flatLeaves : List (Nat × SyntaxNode) → List SyntaxNode
  | [] => []
  | n :: rest => if rest.head?.any (n.1 < ·.1) then flatLeaves rest else n.2 :: flatLeaves rest

mutual

/-- Behind a tree the list goes no deeper than its root. -/
theorem flatLeaves_preorder_append {depth : Nat} {rest : List (Nat × SyntaxNode)}
    (h : ∀ n ∈ rest.head?, n.1 ≤ depth) : (t : SyntaxTree) →
    flatLeaves (t.preorder depth ++ rest) = t.leaves ++ flatLeaves rest
  | .node label [] => by
    have hrest : rest.head?.any (depth < ·.1) = false := by
      cases hhead : rest.head? with
      | none => rfl
      | some n => simpa using h n hhead
    simp [preorder, forestPreorder, leaves, flatLeaves, hrest]
  | .node label (t :: ts) => by
    -- The node behind the root is its first child.
    have hdeeper :
        (forestPreorder (depth + 1) (t :: ts) ++ rest).head?.any (depth < ·.1) = true := by
      obtain ⟨child, children⟩ := t
      simp [forestPreorder, preorder]
    rw [preorder, List.cons_append, flatLeaves, if_pos hdeeper,
      flatLeaves_forestPreorder_append (fun n hn => Nat.le_succ_of_le (h n hn)) (t :: ts)]
    rfl

theorem flatLeaves_forestPreorder_append {depth : Nat} {rest : List (Nat × SyntaxNode)}
    (h : ∀ n ∈ rest.head?, n.1 ≤ depth) : (ts : List SyntaxTree) →
    flatLeaves (forestPreorder depth ts ++ rest) = forestLeaves ts ++ flatLeaves rest
  | [] => rfl
  | t :: ts => by
    have hrest : ∀ n ∈ (forestPreorder depth ts ++ rest).head?, n.1 ≤ depth := by
      cases ts with
      | nil => exact h
      | cons u us =>
        obtain ⟨label, children⟩ := u
        simp [forestPreorder, preorder]
    rw [forestPreorder, List.append_assoc, flatLeaves_preorder_append hrest t,
      flatLeaves_forestPreorder_append h ts, forestLeaves, List.append_assoc]

end

/-- The leaves are the nodes behind which the list goes no deeper. -/
theorem flatLeaves_preorder (depth : Nat) (t : SyntaxTree) :
    flatLeaves (t.preorder depth) = t.leaves := by
  have hend : ∀ n ∈ ([] : List (Nat × SyntaxNode)).head?, n.1 ≤ depth := by simp
  have h := flatLeaves_preorder_append hend t
  rwa [List.append_nil, flatLeaves, List.append_nil] at h

/-! ## Tokens -/

/-- What call number `n` of a stream gives, counted from 0. A stream that is over stays as it is. -/
def TokenStream.answerAt : Nat → TokenStream → Option Token
  | 0, s => s.next?.map (·.1)
  | n + 1, s =>
    match s.next? with
    | some (_, later) => answerAt n later
    | none => answerAt n s

theorem TokenStream.answerAt_eq (n : Nat) (s : TokenStream) : s.answerAt n = s.toList[n]? := by
  induction n generalizing s with
  | zero =>
    rw [answerAt, toList]
    split
    · next h => rw [h]; rfl
    · next h => rw [h]; rfl
  | succ n ih =>
    rw [answerAt]
    split
    · next h => rw [ih, toList.eq_def s, h, List.getElem?_cons_succ]
    · next h => rw [ih, toList.eq_def s, h]; rfl

/-- **The tokens of a tree.** Whatever the tree is and whatever the source, the leaves from left to
right are the nodes behind which the list of all nodes goes no deeper. A stream gives the tokens of
those that have one: each call gives the next of them, and when there is none, this and every later
call gives nothing. A cursor that goes down to a leaf and on to the next node gives the same. A leaf
has a token if it is not missing, begins and ends at different bytes and lies on whole characters of
the source, and then its token begins at the same byte and has the text of the leaf. -/
theorem tokens_of_tree (source : String) (tree : SyntaxTree) :
    let tokens := tree.leaves.filterMap (Token.ofLeaf? source.toList)
    tree.leaves = flatLeaves (tree.preorder 0) ∧
    (TokenStream.ofTree source tree).toList = tokens ∧
    (∀ n, (TokenStream.ofTree source tree).answerAt n = tokens[n]?) ∧
    (∀ n, (TreeWalk.ofTree source tree).answerAt n = tokens[n]?) ∧
    ∀ leaf token, Token.ofLeaf? source.toList leaf = some token ↔
      leaf.missing = false ∧ leaf.start ≠ leaf.stop ∧
        ∃ piece, IsPieceAt source.toList leaf.start leaf.stop piece ∧
          token = ⟨leaf.start, .ofLeaf leaf piece, String.ofList piece⟩ := by
  intro tokens
  have htokens : (TokenStream.ofTree source tree).toList = tokens :=
    TokenStream.toList_ofTree source tree
  refine ⟨(flatLeaves_preorder 0 tree).symm, htokens, fun n => ?_, fun n => ?_,
    fun leaf token => Token.ofLeaf?_eq_some_iff_exists⟩
  · rw [TokenStream.answerAt_eq, htokens]
  · rw [TreeWalk.answerAt_eq]
    simp [TreeWalk.tokensAhead, TreeWalk.ahead, TreeWalk.ofTree, TreeCursor.ahead,
      TreeCursor.behind, forestLeaves, tokens]

end CodeTags
