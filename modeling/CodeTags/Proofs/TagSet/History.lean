import CodeTags.Batch
import CodeTags.Proofs.TagSet.Order
import Mathlib.Data.List.Dedup

/-!
# Histories of a set of tags

A set comes about by recording images and by merging other sets, which have come about so too. What
it holds in the end is only a matter of the last image that was written for each key.

* `TagHistory`: what was done to a set, with `tags`, the set itself, and `writes`, the images in the
  order in which they were written.
* `IsLastWrite`, `lastImage?`: the last image that was written for a key.
* `TagHistory.inOrder_tags`: whatever was done, the set is in order.
* `TagHistory.get?_tags`: a lookup gives the last image.
* `TagHistory.tags_of_writes`: the set and its batch, by what was written.
-/

namespace CodeTags

/-- What is done to a set of tags, beginning with no tags of the file at a path. A set that is
merged into it has a history of its own, and may be that of another file. -/
inductive TagHistory where
  | new (path : String)
  | insert (earlier : TagHistory) (key : TagKey) (image : String)
  | merge (earlier other : TagHistory)

namespace TagHistory

/-- The set in the end. -/
def tags : TagHistory → TagSet
  | new path => .empty path
  | insert earlier key image => earlier.tags.insert key image
  | merge earlier other => earlier.tags.merge other.tags

/-- The path of the file it begins with. -/
def path : TagHistory → String
  | new path => path
  | insert earlier _ _ => earlier.path
  | merge earlier _ => earlier.path

/-- The images with their keys in the order in which they are written. A merge writes what was
written to the other set. -/
def writes : TagHistory → List (TagKey × String)
  | new _ => []
  | insert earlier key image => earlier.writes ++ [(key, image)]
  | merge earlier other => earlier.writes ++ other.writes

end TagHistory

/-! ## Last writes -/

/-- The image was written for the key, and after it no other one. -/
def IsLastWrite (writes : List (TagKey × String)) (key : TagKey) (image : String) : Prop :=
  ∃ before after, writes = before ++ (key, image) :: after ∧ ∀ w ∈ after, w.1 ≠ key

/-- The image that was written last for a key. -/
def lastImage? (writes : List (TagKey × String)) (key : TagKey) : Option String :=
  (writes.reverse.find? (·.1 == key)).map (·.2)

theorem lastImage?_append (writes writes' : List (TagKey × String)) (key : TagKey) :
    lastImage? (writes ++ writes') key = (lastImage? writes' key).or (lastImage? writes key) := by
  rw [lastImage?, List.reverse_append, List.find?_append, Option.map_or]
  rfl

theorem lastImage?_singleton (key key' : TagKey) (image : String) :
    lastImage? [(key, image)] key' = if key' = key then some image else none := by
  by_cases h : key' = key
  · simp [lastImage?, h]
  · simp [lastImage?, h, Ne.symm h]

theorem lastImage?_eq_some_iff {writes : List (TagKey × String)} {key : TagKey} {image : String} :
    lastImage? writes key = some image ↔ IsLastWrite writes key image := by
  rw [lastImage?, Option.map_eq_some_iff]
  constructor
  · rintro ⟨⟨key', image⟩, hfind, rfl⟩
    obtain ⟨hkey, later, earlier, hwrites, hlater⟩ := List.find?_eq_some_iff_append.mp hfind
    obtain rfl : key' = key := by simpa using hkey
    refine ⟨earlier.reverse, later.reverse, ?_, fun w hw => ?_⟩
    · rw [← List.reverse_reverse writes, hwrites]
      simp
    · simpa using hlater w (List.mem_reverse.mp hw)
  · rintro ⟨before, after, rfl, hafter⟩
    refine ⟨(key, image), List.find?_eq_some_iff_append.mpr ⟨by simp, after.reverse,
      before.reverse, by simp, fun w hw => ?_⟩, rfl⟩
    simpa using hafter w (List.mem_reverse.mp hw)

theorem lastImage?_eq_none_iff {writes : List (TagKey × String)} {key : TagKey} :
    lastImage? writes key = none ↔ ∀ w ∈ writes, w.1 ≠ key := by
  simp [lastImage?]

/-! ## The set in the end -/

namespace TagHistory

theorem path_tags (h : TagHistory) : h.tags.path = h.path := by
  induction h with
  | new path => rfl
  | insert earlier key image ih => exact ih
  | merge earlier other ih _ => rw [tags, TagSet.path_merge, ih, path]

/-- Recording and merging keep the order, so each set is in order. -/
theorem inOrder_tags (h : TagHistory) : h.tags.InOrder := by
  induction h with
  | new path => exact TagSet.inOrder_empty path
  | insert earlier key image ih => exact ih.insert key image
  | merge earlier other ih _ => exact ih.merge other.tags

/-- A lookup gives the image that was written last. -/
theorem get?_tags (h : TagHistory) (key : TagKey) : h.tags.get? key = lastImage? h.writes key := by
  induction h with
  | new path => rfl
  | insert earlier key' image ih =>
    rw [tags, TagSet.get?_insert, writes, lastImage?_append, lastImage?_singleton, ih]
    split <;> rfl
  | merge earlier other ih ih' =>
    rw [tags, TagSet.get?_merge other.inOrder_tags, writes, lastImage?_append, ih, ih']

/-- A merge writes the entries that the other set has in the end. -/
theorem get?_tags_merge (h other : TagHistory) (key : TagKey) :
    (h.merge other).tags.get? key = lastImage? (h.writes ++ other.tags.entries) key := by
  rw [tags, TagSet.merge, TagSet.get?_foldl_insert, get?_tags, lastImage?_append]
  rfl

/-- The keys of the set are those that were written. -/
theorem mem_keys_tags (h : TagHistory) {key : TagKey} :
    key ∈ h.tags.entries.map (·.1) ↔ key ∈ h.writes.map (·.1) := by
  have hentry : key ∈ h.tags.entries.map (·.1) ↔ h.tags.get? key ≠ none := by
    rw [Option.ne_none_iff_exists', List.mem_map]
    constructor
    · rintro ⟨⟨_, image⟩, he, rfl⟩
      exact ⟨image, h.inOrder_tags.mem_entries_iff.mp he⟩
    · rintro ⟨image, himage⟩
      exact ⟨_, h.inOrder_tags.mem_entries_iff.mpr himage, rfl⟩
  rw [hentry, get?_tags, Ne, lastImage?_eq_none_iff, List.mem_map]
  simp

/-- There are as many entries as keys that were written. -/
theorem size_tags (h : TagHistory) : h.tags.size = (h.writes.map (·.1)).dedup.length := by
  -- Both lists hold the keys that were written, each once.
  have hnodup : (h.tags.entries.map (·.1)).Nodup := List.pairwise_map.mpr h.inOrder_tags.pairwise_ne
  have hperm : (h.tags.entries.map (·.1)).Perm (h.writes.map (·.1)).dedup := by
    refine (List.perm_ext_iff_of_nodup hnodup (List.nodup_dedup _)).mpr fun key => ?_
    rw [List.mem_dedup, mem_keys_tags]
  rw [← hperm.length_eq, List.length_map, TagSet.size]

theorem tags_eq_iff {h h' : TagHistory} : h.tags = h'.tags ↔
    h.tags.path = h'.tags.path ∧ ∀ key, h.tags.get? key = h'.tags.get? key := by
  constructor
  · intro heq
    rw [heq]
    exact ⟨rfl, fun _ => rfl⟩
  · rintro ⟨hpath, hget⟩
    exact h.inOrder_tags.eq_of_get?_eq h'.inOrder_tags hpath hget

/-- **What a set holds.** Whatever images were recorded in it and whatever sets were merged into it,
its tags are listed by line, then by the bytes of the symbol, a reference before a definition, and
no key comes twice. A lookup gives the last image that was written for its key, and nothing if there
is none; for a merge this is the last one among the entries of the other set, if it has the key.
There are as many tags as keys that were written. The tags that are listed are just those last
images with their keys, under the path with which the set began. Two sets are the same if their
paths and all their lookups are, so that where the last writes are the same, the sets are the same
and their batches are, byte by byte. -/
theorem tags_of_writes (h : TagHistory) :
    h.tags.toList.Pairwise Tag.ListedBefore ∧ (h.tags.toList.map (·.key)).Nodup ∧
    (∀ key image, h.tags.get? key = some image ↔ IsLastWrite h.writes key image) ∧
    (∀ key, h.tags.get? key = none ↔ ∀ w ∈ h.writes, w.1 ≠ key) ∧
    (∀ other key image, (h.merge other).tags.get? key = some image ↔
      IsLastWrite (h.writes ++ other.tags.entries) key image) ∧
    h.tags.size = (h.writes.map (·.1)).dedup.length ∧
    h.tags.path = h.path ∧
    (∀ t, t ∈ h.tags.toList ↔ t.path = h.path ∧ IsLastWrite h.writes t.key t.image) ∧
    ∀ h' : TagHistory,
      (h.tags = h'.tags ↔
        h.tags.path = h'.tags.path ∧ ∀ key, h.tags.get? key = h'.tags.get? key) ∧
      (h.path = h'.path →
        (∀ key image, IsLastWrite h.writes key image ↔ IsLastWrite h'.writes key image) →
        h.tags = h'.tags ∧
          Utf8.encode h.tags.batch.toList = Utf8.encode h'.tags.batch.toList) := by
  refine ⟨h.inOrder_tags.listed, ?_, fun key image => ?_, fun key => ?_, fun other key image => ?_,
    h.size_tags, h.path_tags, fun t => ?_, fun h' => ⟨tags_eq_iff, fun hpath hlast => ?_⟩⟩
  · rw [TagSet.toList, List.map_map]
    exact List.pairwise_map.mpr h.inOrder_tags.pairwise_ne
  · rw [get?_tags, lastImage?_eq_some_iff]
  · rw [get?_tags, lastImage?_eq_none_iff]
  · rw [get?_tags_merge, lastImage?_eq_some_iff]
  · rw [h.inOrder_tags.mem_toList_iff_get?, path_tags, get?_tags, lastImage?_eq_some_iff]
  · have htags : h.tags = h'.tags := by
      refine tags_eq_iff.mpr ⟨by rw [path_tags, path_tags, hpath], fun key => ?_⟩
      apply Option.ext
      intro image
      rw [get?_tags, get?_tags, lastImage?_eq_some_iff, lastImage?_eq_some_iff, hlast]
    rw [htags]
    exact ⟨rfl, rfl⟩

/-- A merged set has its own last image, and an image written after the merge takes its place. -/
example : (insert (merge (insert (new "a.c") ⟨1, "x", .reference⟩ "1")
      (insert (insert (new "b.c") ⟨1, "x", .reference⟩ "2") ⟨1, "x", .definition⟩ "3"))
    ⟨1, "x", .definition⟩ "4").tags =
    ⟨"a.c", [(⟨1, "x", .reference⟩, "2"), (⟨1, "x", .definition⟩, "4")]⟩ := by decide +kernel

end TagHistory

end CodeTags
