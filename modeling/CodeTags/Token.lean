import CodeTags.SyntaxTree
import CodeTags.Text.Alphabetic
import CodeTags.Text.Slice

/-!
# Tokens

The leaves of a syntax tree as pieces of the source, each with a class.

* `TokenClass.ofLeaf`: the class of a leaf, from its kind or, if the grammar does not name it, from
  its first character.
* `Token.ofLeaf?`: the token of a leaf, if the leaf has text.
-/

namespace CodeTags

/-- What a name is the name of. -/
inductive NameKind where
  | plain
  | typeName
  | field
  | namespaceName
  | label
  | builtin
deriving DecidableEq, Repr

/-- The class of a token. -/
inductive TokenClass where
  | name (kind : NameKind)
  | keyword
  | punctuation
  | literal
  | comment
  | text
deriving DecidableEq, Repr

/-- A piece of a source with the byte at which it begins. -/
structure Token where
  offset : Nat
  tokenClass : TokenClass
  text : String
deriving DecidableEq, Repr

namespace TokenClass

/-- The class is one of the names. -/
def isName : TokenClass → Bool
  | name _ => true
  | _ => false

/-- The kinds of nodes that are names. -/
def nameKinds : List (String × NameKind) :=
  [("identifier", .plain), ("type_identifier", .typeName), ("field_identifier", .field),
   ("property_identifier", .field), ("private_property_identifier", .field),
   ("shorthand_property_identifier", .field),
   ("shorthand_property_identifier_pattern", .field), ("shorthand_field_identifier", .field),
   ("namespace_identifier", .namespaceName), ("package_identifier", .namespaceName),
   ("statement_identifier", .label), ("label_name", .label), ("self", .builtin),
   ("this", .builtin), ("super", .builtin)]

/-- The kinds of nodes that are words for types of the language. -/
def keywordKinds : List String :=
  ["primitive_type", "integral_type", "floating_point_type", "boolean_type", "void_type",
   "predefined_type"]

/-- A kind that contains one of these is a literal. -/
def literalFragments : List String :=
  ["string", "char", "number", "integer", "float", "literal", "escape"]

/-- The kinds of nodes that are literal words. -/
def literalKinds : List String := ["true", "false", "null", "none", "nil"]

/-- The text `part` begins at some place of a text. -/
def beginsSomewhere (part : List Char) : List Char → Bool
  | [] => part.isEmpty
  | c :: cs => part.isPrefixOf (c :: cs) || beginsSomewhere part cs

/-- One text stands somewhere in another. -/
def occursIn (part whole : String) : Bool := beginsSomewhere part.toList whole.toList

/-- The class of a leaf that the grammar names. Exact kinds come before parts of kinds, and a
comment before a literal. -/
def ofKind (kind : String) : TokenClass :=
  match nameKinds.lookup kind with
  | some k => name k
  | none =>
    if keywordKinds.contains kind then keyword
    else if occursIn "comment" kind then comment
    else if literalFragments.any (occursIn · kind) || literalKinds.contains kind then literal
    else text

/-- The class of a leaf that the grammar does not name: a word, or marks. -/
def ofText (cs : List Char) : TokenClass :=
  if cs.head?.any fun c => isAlphabetic c || c == '_' then keyword else punctuation

/-- The class of a leaf with this text. -/
def ofLeaf (leaf : SyntaxNode) (cs : List Char) : TokenClass :=
  if leaf.named then ofKind leaf.kind else ofText cs

end TokenClass

/-- The token of a leaf. A leaf that stands for something missing, that has no width, or whose bytes
are no piece of the source gives none. -/
def Token.ofLeaf? (source : List Char) (leaf : SyntaxNode) : Option Token :=
  if leaf.missing ∨ leaf.start = leaf.stop then none
  else
    (slice? source leaf.start leaf.stop).map fun cs =>
      ⟨leaf.start, TokenClass.ofLeaf leaf cs, String.ofList cs⟩

end CodeTags
