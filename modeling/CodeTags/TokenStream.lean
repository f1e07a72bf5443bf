import CodeTags.Token

/-!
# Token streams

The tokens of a syntax tree one at a time, from left to right.

* `TokenStream.next?`: the next token and the stream after it.
* `TokenStream.toList`: all tokens that are still to come.
* `TokenStream.weight_lt_of_next?`: each step leaves fewer nodes, so every stream ends.
-/

namespace CodeTags

/-- The trees that are still to be walked, the next one first, over their source. -/
structure TokenStream where
  source : List Char
  pending : List SyntaxTree

namespace TokenStream

/-- All tokens of a tree over a source. -/
def ofTree (source : String) (tree : SyntaxTree) : TokenStream := ⟨source.toList, [tree]⟩

/-- The number of nodes that are still to be walked. -/
def weight (s : TokenStream) : Nat := SyntaxTree.forestWeight s.pending

/-- The first token among some trees, and the trees behind it. -/
def nextAmong? (source : List Char) : List SyntaxTree → Option (Token × List SyntaxTree)
  | [] => none
  | .node leaf [] :: later =>
    match Token.ofLeaf? source leaf with
    | some token => some (token, later)
    | none => nextAmong? source later
  | .node _ (t :: ts) :: later => nextAmong? source (t :: ts ++ later)
termination_by trees => SyntaxTree.forestWeight trees
decreasing_by all_goals simp [SyntaxTree.forestWeight, SyntaxTree.weight] <;> omega

/-- The next token and the stream behind it. -/
def next? (s : TokenStream) : Option (Token × TokenStream) :=
  (nextAmong? s.source s.pending).map fun r => (r.1, { s with pending := r.2 })

theorem forestWeight_lt_of_nextAmong? {source : List Char} {trees later : List SyntaxTree}
    {token : Token} (h : nextAmong? source trees = some (token, later)) :
    SyntaxTree.forestWeight later < SyntaxTree.forestWeight trees := by
  fun_induction nextAmong? source trees with
  | case1 => simp at h
  | case2 leaf rest found =>
    obtain ⟨-, rfl⟩ := Prod.mk.inj (Option.some.inj h)
    simp [SyntaxTree.forestWeight, SyntaxTree.weight]
  | case3 leaf rest _ ih =>
    have := ih h
    simp [SyntaxTree.forestWeight, SyntaxTree.weight]
    omega
  | case4 l t ts rest ih =>
    have := ih h
    simp [SyntaxTree.forestWeight, SyntaxTree.weight] at this ⊢
    omega

theorem weight_lt_of_next? {s t : TokenStream} {token : Token} (h : s.next? = some (token, t)) :
    t.weight < s.weight := by
  obtain ⟨⟨k, later⟩, hr, he⟩ := Option.map_eq_some_iff.mp h
  obtain ⟨-, rfl⟩ := Prod.mk.inj he
  exact forestWeight_lt_of_nextAmong? hr

/-- The tokens that are still to come. -/
def toList (s : TokenStream) : List Token :=
  match _h : s.next? with
  | none => []
  | some (token, later) => token :: later.toList
termination_by s.weight
decreasing_by exact weight_lt_of_next? _h

end TokenStream

end CodeTags
