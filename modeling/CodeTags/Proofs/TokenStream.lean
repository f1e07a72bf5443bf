import CodeTags.Proofs.LineIndex
import CodeTags.TokenStream

/-!
# Tokens and leaves

* `TokenStream.toList_eq`: a stream gives the tokens of the leaves that are still to come, in order.
* `SyntaxTree.WellPlaced`: a tree over a text, with each node on whole characters, within its
  parent, and behind the nodes to its left.
* `WellPlaced.pairwise_leaves`: the leaves of such a tree stand one behind the other.
* `Token.ofLeaf?_eq_some_iff`: the token of such a leaf, if it has text. It is a name if the leaf is
  one (`SyntaxNode.IsName`).
* `Token.range_of_ofLeaf?`, `WellPlaced.pairwise_ranges`: a token has the bytes of its leaf, so the
  tokens stand one behind the other as well.
-/

namespace CodeTags

/-! ## All tokens of a stream -/

namespace TokenStream

variable {source : List Char} {trees later : List SyntaxTree} {token : Token}

theorem filterMap_of_nextAmong? (h : nextAmong? source trees = some (token, later)) :
    (SyntaxTree.forestLeaves trees).filterMap (Token.ofLeaf? source) =
      token :: (SyntaxTree.forestLeaves later).filterMap (Token.ofLeaf? source) := by
  fun_induction nextAmong? source trees with
  | case1 => exact absurd h (by simp)
  | case2 leaf rest found hleaf =>
    obtain ⟨rfl, rfl⟩ := Prod.mk.inj (Option.some.inj h)
    simp [SyntaxTree.forestLeaves, SyntaxTree.leaves, hleaf]
  | case3 leaf rest hleaf ih =>
    simp [SyntaxTree.forestLeaves, SyntaxTree.leaves, hleaf, ih h]
  | case4 l t ts rest ih =>
    rw [← ih h]
    simp [SyntaxTree.forestLeaves, SyntaxTree.leaves]

theorem filterMap_of_nextAmong?_none (h : nextAmong? source trees = none) :
    (SyntaxTree.forestLeaves trees).filterMap (Token.ofLeaf? source) = [] := by
  fun_induction nextAmong? source trees with
  | case1 => rfl
  | case2 leaf rest found hleaf => exact absurd h (by simp)
  | case3 leaf rest hleaf ih =>
    simpa [SyntaxTree.forestLeaves, SyntaxTree.leaves, hleaf] using ih h
  | case4 l t ts rest ih =>
    simpa [SyntaxTree.forestLeaves, SyntaxTree.leaves] using ih h

/-- A stream gives the tokens of the leaves that are still to come. -/
theorem toList_eq (s : TokenStream) :
    s.toList = (SyntaxTree.forestLeaves s.pending).filterMap (Token.ofLeaf? s.source) := by
  induction hn : s.weight using Nat.strongRecOn generalizing s with
  | ind n ih =>
    rw [toList]
    split
    · next h =>
      exact (filterMap_of_nextAmong?_none (Option.map_eq_none_iff.mp h)).symm
    · next token later h =>
      obtain ⟨⟨token', trees⟩, hnext, heq⟩ := Option.map_eq_some_iff.mp h
      obtain ⟨rfl, rfl⟩ := Prod.mk.inj heq
      rw [filterMap_of_nextAmong? hnext, ih _ (hn ▸ weight_lt_of_next? h) _ rfl]

/-- The tokens of a tree are those of its leaves. -/
theorem toList_ofTree (source : String) (tree : SyntaxTree) :
    (ofTree source tree).toList = tree.leaves.filterMap (Token.ofLeaf? source.toList) := by
  rw [toList_eq, ofTree, SyntaxTree.forestLeaves, SyntaxTree.forestLeaves, List.append_nil]

end TokenStream

/-! ## Places -/

/-- The bytes from `start` up to `stop` of a text are the characters `piece`. -/
def IsPieceAt (text : List Char) (start stop : Nat) (piece : List Char) : Prop :=
  ∃ before behind, text = before ++ piece ++ behind ∧ byteLength before = start ∧
    byteLength before + byteLength piece = stop

theorem dropBytes?_eq_some {n : Nat} {cs ds : List Char} (h : dropBytes? n cs = some ds) :
    ∃ before, cs = before ++ ds ∧ byteLength before = n := by
  fun_induction dropBytes? n cs with
  | case1 cs => exact ⟨[], Option.some.inj h, rfl⟩
  | case2 n => exact absurd h (by simp)
  | case3 n c cs hsize ih =>
    obtain ⟨before, rfl, hlength⟩ := ih h
    exact ⟨c :: before, rfl, by rw [byteLength_cons, hlength]; omega⟩
  | case4 n c cs hsize => exact absurd h (by simp)

theorem takeBytes?_eq_some {n : Nat} {cs ds : List Char} (h : takeBytes? n cs = some ds) :
    (∃ behind, cs = ds ++ behind) ∧ byteLength ds = n := by
  fun_induction takeBytes? n cs generalizing ds with
  | case1 cs =>
    obtain rfl := Option.some.inj h
    exact ⟨⟨cs, rfl⟩, rfl⟩
  | case2 n => exact absurd h (by simp)
  | case3 n c cs hsize ih =>
    obtain ⟨ds, htake, rfl⟩ := Option.map_eq_some_iff.mp h
    obtain ⟨⟨behind, rfl⟩, hlength⟩ := ih htake
    exact ⟨⟨behind, rfl⟩, by rw [byteLength_cons, hlength]; omega⟩
  | case4 n c cs hsize => exact absurd h (by simp)

/-- Cutting a text at two bytes gives the piece between them, if they lie between characters. -/
theorem slice?_eq_some_iff {text piece : List Char} {start stop : Nat} :
    slice? text start stop = some piece ↔ IsPieceAt text start stop piece := by
  constructor
  · intro h
    rw [slice?] at h
    split at h
    · next hle =>
      obtain ⟨rest, hdrop, htake⟩ := Option.bind_eq_some_iff.mp h
      obtain ⟨before, rfl, hbefore⟩ := dropBytes?_eq_some hdrop
      obtain ⟨⟨behind, rfl⟩, hpiece⟩ := takeBytes?_eq_some htake
      exact ⟨before, behind, by rw [List.append_assoc], hbefore, by omega⟩
    · exact absurd h (by simp)
  · rintro ⟨before, behind, rfl, rfl, rfl⟩
    exact slice?_append before piece behind

theorem IsPieceAt.unique {text piece piece' : List Char} {start stop : Nat}
    (h : IsPieceAt text start stop piece) (h' : IsPieceAt text start stop piece') :
    piece = piece' :=
  Option.some.inj ((slice?_eq_some_iff.mpr h).symm.trans (slice?_eq_some_iff.mpr h'))

theorem IsPieceAt.start_le_stop {text piece : List Char} {start stop : Nat}
    (h : IsPieceAt text start stop piece) : start ≤ stop := by
  obtain ⟨before, behind, rfl, rfl, rfl⟩ := h
  exact Nat.le_add_right _ _

namespace SyntaxTree

/-- The node at the root. -/
def label : SyntaxTree → SyntaxNode
  | node label _ => label

/-- A tree over a text: each node lies on whole characters of the text and within its parent, and
ends before the nodes to its right begin. -/
inductive WellPlaced (text : List Char) : SyntaxTree → Prop
  | node {label : SyntaxNode} {children : List SyntaxTree}
      (piece : ∃ cs, IsPieceAt text label.start label.stop cs)
      (within : ∀ t ∈ children, label.start ≤ t.label.start ∧ t.label.stop ≤ label.stop)
      (ordered : children.Pairwise fun t u => t.label.stop ≤ u.label.start)
      (placed : ∀ t ∈ children, WellPlaced text t) : WellPlaced text (.node label children)

theorem wellPlaced_node_iff {text : List Char} {label : SyntaxNode} {children : List SyntaxTree} :
    (node label children).WellPlaced text ↔
      (slice? text label.start label.stop).isSome = true ∧
      (∀ t ∈ children, label.start ≤ t.label.start ∧ t.label.stop ≤ label.stop) ∧
      (children.Pairwise fun t u => t.label.stop ≤ u.label.start) ∧
      ∀ t ∈ children, t.WellPlaced text := by
  rw [Option.isSome_iff_exists]
  simp only [slice?_eq_some_iff]
  constructor
  · rintro ⟨piece, within, ordered, placed⟩
    exact ⟨piece, within, ordered, placed⟩
  · rintro ⟨piece, within, ordered, placed⟩
    exact ⟨piece, within, ordered, placed⟩

mutual

/-- Whether a tree is one over the text can be told by walking it. -/
instance decidableWellPlaced (text : List Char) : (t : SyntaxTree) → Decidable (t.WellPlaced text)
  | node _ children =>
    have := decidableForestWellPlaced text children
    decidable_of_iff _ wellPlaced_node_iff.symm

/-- The same for several trees. -/
def decidableForestWellPlaced (text : List Char) :
    (ts : List SyntaxTree) → Decidable (∀ t ∈ ts, t.WellPlaced text)
  | [] => isTrue fun _ ht => absurd ht List.not_mem_nil
  | t :: ts =>
    have := decidableWellPlaced text t
    have := decidableForestWellPlaced text ts
    decidable_of_iff _ List.forall_mem_cons.symm

end

theorem mem_forestLeaves {leaf : SyntaxNode} {trees : List SyntaxTree} :
    leaf ∈ forestLeaves trees ↔ ∃ t ∈ trees, leaf ∈ t.leaves := by
  induction trees with
  | nil => simp [forestLeaves]
  | cons t ts ih => simp [forestLeaves, ih]

theorem leaves_node (label : SyntaxNode) (children : List SyntaxTree) :
    (node label children).leaves = if children = [] then [label] else forestLeaves children := by
  cases children <;> simp [leaves, forestLeaves]

/-- A leaf lies within the tree, on whole characters of the text. -/
theorem WellPlaced.of_mem_leaves {text : List Char} {tree : SyntaxTree} (h : tree.WellPlaced text)
    {leaf : SyntaxNode} (hleaf : leaf ∈ tree.leaves) :
    tree.label.start ≤ leaf.start ∧ leaf.stop ≤ tree.label.stop ∧
      ∃ cs, IsPieceAt text leaf.start leaf.stop cs := by
  induction h with
  | @node label children piece within ordered placed ih =>
    rw [leaves_node] at hleaf
    split at hleaf
    · obtain rfl := List.mem_singleton.mp hleaf
      exact ⟨Nat.le_refl _, Nat.le_refl _, piece⟩
    · obtain ⟨t, ht, hleaf⟩ := mem_forestLeaves.mp hleaf
      obtain ⟨hstart, hstop, hpiece⟩ := ih t ht hleaf
      obtain ⟨hwithin, hwithin'⟩ := within t ht
      exact ⟨Nat.le_trans hwithin hstart, Nat.le_trans hstop hwithin', hpiece⟩

theorem pairwise_forestLeaves {R : SyntaxNode → SyntaxNode → Prop} {trees : List SyntaxTree}
    (heach : ∀ t ∈ trees, t.leaves.Pairwise R)
    (hacross : trees.Pairwise fun t u => ∀ a ∈ t.leaves, ∀ b ∈ u.leaves, R a b) :
    (forestLeaves trees).Pairwise R := by
  induction trees with
  | nil => exact List.Pairwise.nil
  | cons t ts ih =>
    obtain ⟨ht, hts⟩ := List.pairwise_cons.mp hacross
    rw [forestLeaves, List.pairwise_append]
    refine ⟨heach t List.mem_cons_self, ih (fun u hu => heach u (List.mem_cons_of_mem _ hu)) hts,
      fun a ha b hb => ?_⟩
    obtain ⟨u, hu, hb⟩ := mem_forestLeaves.mp hb
    exact ht u hu a ha b hb

/-- The leaves stand one behind the other. -/
theorem WellPlaced.pairwise_leaves {text : List Char} {tree : SyntaxTree}
    (h : tree.WellPlaced text) : tree.leaves.Pairwise fun a b => a.stop ≤ b.start := by
  induction h with
  | @node label children piece within ordered placed ih =>
    rw [leaves_node]
    split
    · exact List.pairwise_singleton _ _
    · refine pairwise_forestLeaves ih (List.Pairwise.imp_of_mem (fun {t u} ht hu htu => ?_) ordered)
      intro a ha b hb
      obtain ⟨-, ha, -⟩ := (placed t ht).of_mem_leaves ha
      obtain ⟨hb, -, -⟩ := (placed u hu).of_mem_leaves hb
      exact Nat.le_trans ha (Nat.le_trans htu hb)

end SyntaxTree

/-! ## The tokens of leaves -/

/-- The leaf is a name in the source: it stands for nothing that is missing, it has a width, and the
grammar gives it a kind of names. -/
structure SyntaxNode.IsName (leaf : SyntaxNode) : Prop where
  present : leaf.missing = false
  wide : leaf.start ≠ leaf.stop
  named : leaf.named = true
  kind : leaf.kind ∈ TokenClass.nameKinds.map (·.1)

namespace TokenClass

/-- Exactly the kinds of names make a name: the other tests give other classes. -/
theorem isName_ofKind {kind : String} :
    (ofKind kind).isName = true ↔ kind ∈ nameKinds.map (·.1) := by
  have hmem : kind ∈ nameKinds.map (·.1) ↔ (nameKinds.lookup kind).isSome = true := by
    simp only [List.mem_map, List.lookup_isSome_iff, beq_iff_eq, eq_comm (a := kind)]
  rw [hmem, ofKind]
  cases nameKinds.lookup kind with
  | some k => exact iff_of_true rfl rfl
  | none =>
    refine iff_of_false ?_ (by decide)
    dsimp only
    repeat' split
    all_goals decide

theorem isName_ofLeaf {leaf : SyntaxNode} {cs : List Char} :
    (ofLeaf leaf cs).isName = true ↔ leaf.named = true ∧ leaf.kind ∈ nameKinds.map (·.1) := by
  rw [ofLeaf]
  split
  · next h => simp [h, isName_ofKind]
  · next h =>
    have hmarks : (ofText cs).isName = false := by
      rw [ofText]
      split <;> rfl
    simp [h, hmarks]

end TokenClass

/-- The token of a leaf with this text. -/
theorem Token.ofLeaf?_eq_some_iff {source piece : List Char} {leaf : SyntaxNode} {token : Token}
    (h : IsPieceAt source leaf.start leaf.stop piece) :
    ofLeaf? source leaf = some token ↔ (leaf.missing = false ∧ leaf.start ≠ leaf.stop) ∧
      token = ⟨leaf.start, .ofLeaf leaf piece, String.ofList piece⟩ := by
  rw [ofLeaf?, slice?_eq_some_iff.mpr h]
  split
  · next hnone =>
    refine iff_of_false (by simp) fun hsome => ?_
    rcases hnone with hmissing | hnarrow
    · exact absurd (hsome.1.1.symm.trans hmissing) (by decide)
    · exact hsome.1.2 hnarrow
  · next hsome =>
    rw [not_or, Bool.not_eq_true] at hsome
    rw [Option.map_some, Option.some.injEq, eq_comm]
    exact (and_iff_right hsome).symm

/-- A leaf has a token if it is not missing, has a width and lies on whole characters. The token
begins where the leaf does and has its text. -/
theorem Token.ofLeaf?_eq_some_iff_exists {source : List Char} {leaf : SyntaxNode} {token : Token} :
    ofLeaf? source leaf = some token ↔ leaf.missing = false ∧ leaf.start ≠ leaf.stop ∧
      ∃ piece, IsPieceAt source leaf.start leaf.stop piece ∧
        token = ⟨leaf.start, .ofLeaf leaf piece, String.ofList piece⟩ := by
  constructor
  · intro h
    obtain ⟨piece, hpiece⟩ : ∃ piece, IsPieceAt source leaf.start leaf.stop piece := by
      rw [ofLeaf?] at h
      split at h
      · exact absurd h (by simp)
      · obtain ⟨piece, hslice, -⟩ := Option.map_eq_some_iff.mp h
        exact ⟨piece, slice?_eq_some_iff.mp hslice⟩
    obtain ⟨⟨hpresent, hwide⟩, rfl⟩ := (ofLeaf?_eq_some_iff hpiece).mp h
    exact ⟨hpresent, hwide, piece, hpiece, rfl⟩
  · rintro ⟨hpresent, hwide, piece, hpiece, rfl⟩
    exact (ofLeaf?_eq_some_iff hpiece).mpr ⟨⟨hpresent, hwide⟩, rfl⟩

/-- The byte behind a token. -/
def Token.stop (token : Token) : Nat := token.offset + byteLength token.text.toList

/-- The token of a leaf has the bytes of the leaf, and there are some. -/
theorem Token.range_of_ofLeaf? {source : List Char} {leaf : SyntaxNode} {token : Token}
    (h : ofLeaf? source leaf = some token) :
    token.offset = leaf.start ∧ token.stop = leaf.stop ∧ leaf.start < leaf.stop ∧
      IsPieceAt source leaf.start leaf.stop token.text.toList := by
  obtain ⟨-, hwide, piece, hpiece, rfl⟩ := ofLeaf?_eq_some_iff_exists.mp h
  have hlt : leaf.start < leaf.stop := Nat.lt_of_le_of_ne hpiece.start_le_stop hwide
  rw [stop, String.toList_ofList]
  obtain ⟨before, behind, -, hstart, hstop⟩ := id hpiece
  exact ⟨rfl, by rw [← hstart, hstop], hlt, hpiece⟩

/-- The tokens of the leaves of such a tree stand one behind the other. -/
theorem SyntaxTree.WellPlaced.pairwise_ranges {text : List Char} {tree : SyntaxTree}
    (h : tree.WellPlaced text) :
    (tree.leaves.filterMap (Token.ofLeaf? text)).Pairwise fun a b =>
      a.offset < a.stop ∧ a.stop ≤ b.offset := by
  refine List.pairwise_filterMap.mpr (h.pairwise_leaves.imp ?_)
  intro leaf leaf' hbefore token htoken token' htoken'
  obtain ⟨hstart, hstop, hwide, -⟩ := Token.range_of_ofLeaf? htoken
  obtain ⟨hstart', -, -, -⟩ := Token.range_of_ofLeaf? htoken'
  rw [hstart, hstop, hstart']
  exact ⟨hwide, hbefore⟩

theorem SyntaxTree.WellPlaced.pairwise_tokens {text : List Char} {tree : SyntaxTree}
    (h : tree.WellPlaced text) :
    (tree.leaves.filterMap (Token.ofLeaf? text)).Pairwise fun a b => a.offset ≤ b.offset :=
  h.pairwise_ranges.imp fun ⟨hwide, hbefore⟩ => Nat.le_trans (Nat.le_of_lt hwide) hbefore

end CodeTags
