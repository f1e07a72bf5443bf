import CodeTags.Proofs.LineCursor
import CodeTags.Proofs.ReferenceScan
import CodeTags.Proofs.TokenStream

/-!
# What a scan of a source gives

The references of a source are the names among the leaves of its tree, each once for a line.

* `SyntaxNode.Names`: a leaf names a symbol on a line.
* `recordsFrom_eq_filterMap`: tokens that come one behind the other are recorded with their own
  lines, although the cursor never goes back.
* `mem_entries_scanTokens_ofTree`: the entries of a scan through a tree over the text.
* `scanSource_of_wellPlaced`: all that a scan gives, and that a name in one piece stands in its
  image.
-/

namespace CodeTags

/-! ## Symbols in names -/

theorem trim_isInfix {α : Type} (p : α → Bool) (xs : List α) : trim p xs <:+: xs := by
  have hsuffix := List.dropWhile_suffix p (l := xs)
  exact (List.IsPrefix.isInfix ⟨_, trimEnd_append_self p _⟩).trans hsuffix.isInfix

/-- The symbol of a text without blanks stands in the text. -/
theorem isInfix_of_symbolOf? {strip : Bool} {name symbol : String}
    (h : symbolOf? strip name = some symbol) (hname : ∀ c ∈ name.toList, isBlank c = false) :
    symbol.toList <:+: name.toList := by
  have hbare : name.toList.filter (!isBlank ·) = name.toList :=
    List.filter_eq_self.mpr fun c hc => by rw [hname c hc]; rfl
  obtain ⟨-, hsymbol⟩ := symbolOf?_eq_some_iff.mp h
  rw [hsymbol, hbare]
  split
  · exact trim_isInfix _ _
  · exact List.infix_rfl

/-! ## Names -/

/-- The leaf is a name in the text, and it gives this symbol on this line. -/
structure SyntaxNode.Names (leaf : SyntaxNode) (text : String) (strip : Bool) (symbol : String)
    (line : Nat) : Prop where
  isName : leaf.IsName
  symbol : ∃ piece, IsPieceAt text.toList leaf.start leaf.stop piece ∧
    symbolOf? strip (String.ofList piece) = some symbol
  line : line = lineNumberAt text leaf.start

/-- A symbol without blanks in its name stands in the text of its line. -/
theorem SyntaxNode.Names.isInfix_lineAt {leaf : SyntaxNode} {text symbol : String} {strip : Bool}
    {line : Nat} (h : leaf.Names text strip symbol line) {piece : List Char}
    (hpiece : IsPieceAt text.toList leaf.start leaf.stop piece)
    (hblank : ∀ c ∈ piece, isBlank c = false) : symbol.toList <:+: (lineAt text line).toList := by
  obtain ⟨piece', hpiece', hsymbol⟩ := h.symbol
  obtain rfl := hpiece'.unique hpiece
  have hin := isInfix_of_symbolOf? hsymbol (by rwa [String.toList_ofList])
  rw [String.toList_ofList] at hin
  obtain ⟨before, behind, htext, hstart, hstop⟩ := hpiece
  have hwide : piece' ≠ [] := by
    rintro rfl
    rw [byteLength_nil, Nat.add_zero] at hstop
    exact h.isName.wide (hstart.symm.trans hstop)
  obtain ⟨front, c, rfl⟩ : ∃ front c, piece' = front ++ [c] :=
    ⟨_, _, (List.dropLast_concat_getLast hwide).symm⟩
  have hc : c ≠ '\r' := by
    rintro rfl
    exact absurd (hblank '\r' (by simp)) (by simp [isBlank_return])
  have hnewline : '\n' ∉ front ++ [c] := fun hmem =>
    absurd (hblank '\n' hmem) (by simp [isBlank_newline])
  have hline := CodeTags.isInfix_lineAt htext hnewline hc
  rw [hstart, ← h.line] at hline
  exact hin.trans hline

/-! ## Records -/

/-- What a token records if it is looked at on its own: its symbol with its line. -/
def recordOf? (text : String) (options : ScanOptions) (token : Token) :
    Option (TagKey × String) :=
  if token.tokenClass.isName then
    (symbolOf? options.strip token.text).map fun symbol =>
      (⟨lineNumberAt text token.offset, symbol, .reference⟩,
        lineAt text (lineNumberAt text token.offset))
  else none

/-- Tokens that begin one behind the other record what each records on its own. -/
theorem recordsFrom_eq_filterMap {text : String} {options : ScanOptions} {cursor : LineCursor}
    {tokens : List Token} (hsorted : tokens.Pairwise fun a b => a.offset ≤ b.offset)
    (hcursor : ∀ t ∈ tokens, (cursor.advance t.offset).line = lineNumberAt text t.offset) :
    recordsFrom (.ofText text) text options cursor tokens =
      tokens.filterMap (recordOf? text options) := by
  induction tokens generalizing cursor with
  | nil => rfl
  | cons token tokens ih =>
    obtain ⟨hbehind, hsorted⟩ := List.pairwise_cons.mp hsorted
    obtain ⟨hline, hcursor⟩ := List.forall_mem_cons.mp hcursor
    -- No later token is before the place to which the cursor has gone.
    have hnext : ∀ t ∈ tokens,
        ((cursor.advance token.offset).advance t.offset).line = lineNumberAt text t.offset := by
      intro t ht
      rw [LineCursor.advance_advance, Nat.max_eq_right (hbehind t ht)]
      exact hcursor t ht
    rw [recordsFrom, List.filterMap_cons, recordOf?]
    split
    · rw [LineCursor.lineOf]
      dsimp only
      cases symbolOf? options.strip token.text with
      | some symbol => simp only [Option.map_some, hline, lineText_eq_lineAt, ih hsorted hnext]
      | none => exact ih hsorted hnext
    · exact ih hsorted hcursor

theorem recordOf?_eq_some_iff {text : String} {options : ScanOptions} {token : Token}
    {e : TagKey × String} : recordOf? text options token = some e ↔
      token.tokenClass.isName = true ∧ symbolOf? options.strip token.text = some e.1.symbol ∧
        e.1.kind = .reference ∧ e.1.line = lineNumberAt text token.offset ∧
        e.2 = lineAt text e.1.line := by
  obtain ⟨⟨line, symbol, kind⟩, image⟩ := e
  rw [recordOf?]
  split
  · next hname =>
    rw [Option.map_eq_some_iff]
    constructor
    · rintro ⟨_, hsymbol, heq⟩
      obtain ⟨hkey, rfl⟩ := Prod.mk.inj heq
      obtain ⟨rfl, rfl, rfl⟩ := TagKey.mk.inj hkey
      exact ⟨hname, hsymbol, rfl, rfl, rfl⟩
    · rintro ⟨-, hsymbol, hkind, hline, himage⟩
      dsimp only at hsymbol hkind hline himage
      exact ⟨symbol, hsymbol, by rw [hkind, himage, hline]⟩
  · next hname => exact iff_of_false (by simp) fun h => hname h.1

/-- Through a tree over the text a scan finds exactly the names among its leaves, each with the text
of its line. -/
theorem mem_entries_scanTokens_ofTree {text : String} {tree : SyntaxTree}
    (h : tree.WellPlaced text.toList) (path : String) (options : ScanOptions)
    {e : TagKey × String} :
    e ∈ (scanTokens path text (TokenStream.ofTree text tree).toList options).entries ↔
      e.1.kind = .reference ∧
        (∃ leaf ∈ tree.leaves, leaf.Names text options.strip e.1.symbol e.1.line) ∧
        e.2 = lineAt text e.1.line := by
  have himages : ∀ e ∈ (tree.leaves.filterMap (Token.ofLeaf? text.toList)).filterMap
      (recordOf? text options), e.2 = lineAt text e.1.line := by
    intro e he
    obtain ⟨token, -, hrecord⟩ := List.mem_filterMap.mp he
    exact (recordOf?_eq_some_iff.mp hrecord).2.2.2.2
  rw [scanTokens_eq_foldl, TokenStream.toList_ofTree,
    recordsFrom_eq_filterMap h.pairwise_tokens fun t _ => line_advance_cursor text t.offset,
    TagSet.mem_entries_foldl_insert (fun key => lineAt text key.line) himages, List.mem_filterMap]
  constructor
  · rintro ⟨token, htoken, hrecord⟩
    obtain ⟨leaf, hleaf, hof⟩ := List.mem_filterMap.mp htoken
    obtain ⟨-, -, piece, hpiece⟩ := h.of_mem_leaves hleaf
    obtain ⟨⟨hpresent, hwide⟩, rfl⟩ := (Token.ofLeaf?_eq_some_iff hpiece).mp hof
    obtain ⟨hname, hsymbol, hkind, hline, himage⟩ := recordOf?_eq_some_iff.mp hrecord
    obtain ⟨hnamed, hnameKind⟩ := TokenClass.isName_ofLeaf.mp hname
    exact ⟨hkind, ⟨leaf, hleaf, ⟨hpresent, hwide, hnamed, hnameKind⟩, ⟨piece, hpiece, hsymbol⟩,
      hline⟩, himage⟩
  · rintro ⟨hkind, ⟨leaf, hleaf, hname, ⟨piece, hpiece, hsymbol⟩, hline⟩, himage⟩
    refine ⟨_, List.mem_filterMap.mpr ⟨leaf, hleaf,
      (Token.ofLeaf?_eq_some_iff hpiece).mpr ⟨⟨hname.present, hname.wide⟩, rfl⟩⟩, ?_⟩
    have hclass : (TokenClass.ofLeaf leaf piece).isName = true :=
      TokenClass.isName_ofLeaf.mpr ⟨hname.named, hname.kind⟩
    exact recordOf?_eq_some_iff.mpr ⟨hclass, hsymbol, hkind, hline, himage⟩

/-- **What a scan gives.** With a tree over the text a scan always succeeds, under the path that is
given. It has one reference for each symbol and line such that some leaf names the symbol on the
line, and none besides; its image is the text of the line. If the name is in one piece, the symbol
stands in the image. -/
theorem scanSource_of_wellPlaced {trees : TreeSource} {grammar : Grammar} {text : String}
    {tree : SyntaxTree} (htree : trees grammar text = .ok tree)
    (hplaced : tree.WellPlaced text.toList) (path : String) (options : ScanOptions) :
    ∃ tags, scanSource trees path text grammar options = .ok tags ∧ tags.path = path ∧
      (tags.toList.map fun t => (t.symbol, t.line)).Nodup ∧
      (∀ t, t ∈ tags.toList ↔ t.kind = .reference ∧ t.path = path ∧
        (∃ leaf ∈ tree.leaves, leaf.Names text options.strip t.symbol t.line) ∧
        t.image = lineAt text t.line) ∧
      ∀ t ∈ tags.toList, ∀ leaf ∈ tree.leaves, leaf.Names text options.strip t.symbol t.line →
        ∀ piece, IsPieceAt text.toList leaf.start leaf.stop piece →
          (∀ c ∈ piece, isBlank c = false) → t.symbol.toList <:+: t.image.toList := by
  let tags := scanTokens path text (TokenStream.ofTree text tree).toList options
  have hpath : tags.path = path := path_scanTokens path text _ options
  have horder : tags.InOrder := inOrder_scanTokens path text _ options
  have hentries : ∀ e : TagKey × String, e ∈ tags.entries ↔ e.1.kind = .reference ∧
      (∃ leaf ∈ tree.leaves, leaf.Names text options.strip e.1.symbol e.1.line) ∧
      e.2 = lineAt text e.1.line := fun e => mem_entries_scanTokens_ofTree hplaced path options
  have hmem : ∀ t, t ∈ tags.toList ↔ t.kind = .reference ∧ t.path = path ∧
      (∃ leaf ∈ tree.leaves, leaf.Names text options.strip t.symbol t.line) ∧
      t.image = lineAt text t.line := by
    intro t
    rw [TagSet.mem_toList_iff, hentries, hpath, and_left_comm]
    rfl
  refine ⟨tags, by rw [scanSource, htree]; rfl, hpath, ?_, hmem, ?_⟩
  · refine TagSet.nodup_toList_of_kind horder (k := .reference) fun e he => ?_
    exact ((hentries e).mp he).1
  · intro t ht leaf hleaf hnames piece hpiece hblank
    obtain ⟨-, -, -, himage⟩ := (hmem t).mp ht
    rw [himage]
    exact hnames.isInfix_lineAt hpiece hblank

/-- A tree over a text of two lines, in which a name stands on both, twice on the second, and the
last leaf stands for a missing name. -/
def twoLinesTree : SyntaxTree :=
  .node ⟨"translation_unit", true, false, 0, 20⟩
    [.node ⟨"declaration", true, false, 0, 7⟩
      [.node ⟨"primitive_type", true, false, 0, 3⟩ [], .node ⟨"identifier", true, false, 4, 6⟩ [],
        .node ⟨";", false, false, 6, 7⟩ []],
     .node ⟨"assignment_expression", true, false, 9, 20⟩
      [.node ⟨"identifier", true, false, 9, 11⟩ [], .node ⟨"=", false, false, 12, 13⟩ [],
        .node ⟨"identifier", true, false, 14, 15⟩ [], .node ⟨"+", false, false, 16, 17⟩ [],
        .node ⟨"identifier", true, false, 18, 20⟩ []],
     .node ⟨"identifier", true, true, 20, 20⟩ []]

/-- The text of the tree. -/
def twoLines : String := "int é;\r\né = x + é"

theorem wellPlaced_twoLinesTree : twoLinesTree.WellPlaced twoLines.toList := by decide +kernel

theorem scanSource_of_wellPlaced_of_two_lines :
    twoLinesTree.WellPlaced twoLines.toList ∧
    ∃ tags, scanSource (fun _ _ => .ok twoLinesTree) "x.c" twoLines .c ⟨false⟩ = .ok tags ∧
      (tags.toList.map fun t => (t.symbol, t.line)).Nodup ∧
      tags.entries = [(⟨1, "é", .reference⟩, "int é;"), (⟨2, "x", .reference⟩, "é = x + é"),
        (⟨2, "é", .reference⟩, "é = x + é")] := by
  obtain ⟨tags, hscan, -, hnodup, -⟩ :=
    @scanSource_of_wellPlaced (fun _ _ => .ok twoLinesTree) .c _ _ rfl wellPlaced_twoLinesTree
      "x.c" ⟨false⟩
  refine ⟨wellPlaced_twoLinesTree, tags, hscan, hnodup, ?_⟩
  rw [← Except.ok.inj hscan]
  dsimp only
  rw [TokenStream.toList_ofTree]
  decide +kernel

end CodeTags
