import CodeTags.Tag

/-!
# The tags of one file

A set of tags of one file, at most one for each key, kept in the order of a listing.

* `insert`: adds a tag; for a key that is there already the new image takes the place of the old.
* `merge`: adds all tags of another set.
* `get?`, `contains`, `size`, `toList`: look into the set.
-/

namespace CodeTags

/-- The tags of the file at `path`: the image for each key, in the order of the keys. -/
structure TagSet where
  path : String
  entries : List (TagKey × String)
deriving DecidableEq, Repr

namespace TagSet

/-- No tags. -/
def empty (path : String) : TagSet := ⟨path, []⟩

/-- Puts an image at its place among images in the order of their keys. -/
def insertEntry (key : TagKey) (image : String) :
    List (TagKey × String) → List (TagKey × String)
  | [] => [(key, image)]
  | e :: es =>
    if key.Before e.1 then (key, image) :: e :: es
    else if key = e.1 then (key, image) :: es
    else e :: insertEntry key image es

/-- Records an image for a key in place of the one that may be there. -/
def insert (s : TagSet) (key : TagKey) (image : String) : TagSet :=
  { s with entries := insertEntry key image s.entries }

/-- Records all images of another set. -/
def merge (s other : TagSet) : TagSet :=
  other.entries.foldl (fun s e => s.insert e.1 e.2) s

/-- The image recorded for a key. -/
def get? (s : TagSet) (key : TagKey) : Option String :=
  (s.entries.find? (·.1 == key)).map (·.2)

/-- The key has an image. -/
def contains (s : TagSet) (key : TagKey) : Bool := (s.get? key).isSome

/-- The number of keys with an image. -/
def size (s : TagSet) : Nat := s.entries.length

/-- No key has an image. -/
def isEmpty (s : TagSet) : Bool := s.entries.isEmpty

/-- The tags in the order of a listing. -/
def toList (s : TagSet) : List Tag := s.entries.map fun e => e.1.toTag s.path e.2

@[simp] theorem path_insert (s : TagSet) (key : TagKey) (image : String) :
    (s.insert key image).path = s.path := rfl

@[simp] theorem path_merge (s other : TagSet) : (s.merge other).path = s.path := by
  unfold merge
  induction other.entries generalizing s with
  | nil => rfl
  | cons e es ih => simp [ih]

@[simp] theorem length_toList (s : TagSet) : s.toList.length = s.size := by
  simp [toList, size]

end TagSet

end CodeTags
