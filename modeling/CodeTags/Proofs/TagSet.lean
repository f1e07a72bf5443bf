import CodeTags.ReplyLine
import CodeTags.TagSet

/-!
# What a set of tags holds

* `get?_insert`, `get?_foldl_insert`: a lookup gives the image that was recorded last.
* `TagSet.All`: something holds of every entry; recording and merging keep it.
* `TagKey.OnOneLine`: the texts of an entry hold no line feed.
* `get?_foldl_insertDefinition`: of several definitions with one key the last one counts.
-/

namespace CodeTags

namespace TagSet

/-! ## Lookups -/

theorem find?_insertEntry_self (key : TagKey) (image : String) (es : List (TagKey × String)) :
    (insertEntry key image es).find? (·.1 == key) = some (key, image) := by
  induction es with
  | nil => simp [insertEntry]
  | cons e es ih =>
    rw [insertEntry]
    split
    · simp
    · split
      · simp
      · next h => simp [Ne.symm h, ih]

theorem find?_insertEntry_ne {key key' : TagKey} (h : key' ≠ key) (image : String)
    (es : List (TagKey × String)) :
    (insertEntry key image es).find? (·.1 == key') = es.find? (·.1 == key') := by
  induction es with
  | nil => simp [insertEntry, Ne.symm h]
  | cons e es ih =>
    rw [insertEntry]
    split
    · simp [Ne.symm h]
    · split
      · next he => simp [← he, Ne.symm h]
      · rw [List.find?_cons, List.find?_cons, ih]

theorem get?_insert (s : TagSet) (key key' : TagKey) (image : String) :
    (s.insert key image).get? key' = if key' = key then some image else s.get? key' := by
  by_cases h : key' = key
  · rw [if_pos h, h, get?, insert, find?_insertEntry_self]
    rfl
  · rw [if_neg h, get?, insert, find?_insertEntry_ne h]
    rfl

/-- Of several images for one key the last one counts. -/
theorem get?_foldl_insert (es : List (TagKey × String)) (s : TagSet) (key : TagKey) :
    (es.foldl (fun s e => s.insert e.1 e.2) s).get? key =
      ((es.reverse.find? (·.1 == key)).map (·.2)).or (s.get? key) := by
  induction es generalizing s with
  | nil => simp
  | cons e es ih =>
    rw [List.foldl_cons, ih, get?_insert, List.reverse_cons, List.find?_append]
    cases es.reverse.find? (·.1 == key) with
    | some _ => simp
    | none =>
      by_cases h : key = e.1
      · simp [h]
      · simp [h, Ne.symm h]

/-! ## All entries -/

/-- Something holds of every key together with its image. -/
def All (P : TagKey → String → Prop) (s : TagSet) : Prop := ∀ e ∈ s.entries, P e.1 e.2

variable {P : TagKey → String → Prop} {s : TagSet}

theorem mem_insertEntry {e : TagKey × String} {key : TagKey} {image : String}
    {es : List (TagKey × String)} (h : e ∈ insertEntry key image es) :
    e = (key, image) ∨ e ∈ es := by
  induction es with
  | nil => exact .inl (List.mem_singleton.mp h)
  | cons a es ih =>
    rw [insertEntry] at h
    split at h
    · exact List.mem_cons.mp h
    · split at h
      · exact (List.mem_cons.mp h).imp_right (List.mem_cons_of_mem _)
      · rcases List.mem_cons.mp h with rfl | h
        · exact .inr List.mem_cons_self
        · exact (ih h).imp_right (List.mem_cons_of_mem _)

theorem All.imp {Q : TagKey → String → Prop} (hs : s.All P)
    (h : ∀ key image, P key image → Q key image) : s.All Q :=
  fun e he => h e.1 e.2 (hs e he)

theorem all_empty (path : String) : (empty path).All P := by
  intro e he
  exact absurd he List.not_mem_nil

theorem All.insert (hs : s.All P) {key : TagKey} {image : String} (h : P key image) :
    (s.insert key image).All P := by
  intro e he
  rcases mem_insertEntry he with rfl | he
  · exact h
  · exact hs e he

theorem All.foldl_insert {es : List (TagKey × String)} (hes : ∀ e ∈ es, P e.1 e.2)
    (hs : s.All P) : (es.foldl (fun s e => s.insert e.1 e.2) s).All P := by
  induction es generalizing s with
  | nil => exact hs
  | cons e es ih =>
    have hall := hs.insert (hes e List.mem_cons_self)
    exact ih (fun a ha => hes a (List.mem_cons_of_mem _ ha)) hall

theorem All.merge (hs : s.All P) {other : TagSet} (ho : other.All P) :
    (s.merge other).All P := hs.foldl_insert ho

theorem path_foldl_insert (es : List (TagKey × String)) (s : TagSet) :
    (es.foldl (fun s e => s.insert e.1 e.2) s).path = s.path := by
  induction es generalizing s with
  | nil => rfl
  | cons e es ih => rw [List.foldl_cons, ih, path_insert]

end TagSet

/-- Neither the symbol nor the image holds a line feed. -/
def TagKey.OnOneLine (key : TagKey) (image : String) : Prop :=
  '\n' ∉ key.symbol.toList ∧ '\n' ∉ image.toList

/-! ## Definitions -/

/-- The key under which a definition is recorded. -/
def Definition.key (d : Definition) : TagKey := ⟨d.line, d.symbol, .definition⟩

namespace TagSet

theorem foldl_insertDefinition (ds : List Definition) (s : TagSet) :
    ds.foldl insertDefinition s =
      (ds.map fun d => (d.key, d.image)).foldl (fun s e => s.insert e.1 e.2) s := by
  rw [List.foldl_map]
  rfl

theorem path_foldl_insertDefinition (ds : List Definition) (s : TagSet) :
    (ds.foldl insertDefinition s).path = s.path := by
  rw [foldl_insertDefinition, path_foldl_insert]

theorem All.foldl_insertDefinition {P : TagKey → String → Prop} {s : TagSet} (hs : s.All P)
    {ds : List Definition} (h : ∀ d ∈ ds, P d.key d.image) :
    (ds.foldl insertDefinition s).All P := by
  rw [TagSet.foldl_insertDefinition]
  refine hs.foldl_insert fun e he => ?_
  obtain ⟨d, hd, rfl⟩ := List.mem_map.mp he
  exact h d hd

/-- Of several definitions with one key the last one counts. -/
theorem get?_foldl_insertDefinition (ds : List Definition) (s : TagSet) (key : TagKey) :
    (ds.foldl insertDefinition s).get? key =
      ((ds.reverse.find? (·.key == key)).map (·.image)).or (s.get? key) := by
  rw [foldl_insertDefinition, get?_foldl_insert, ← List.map_reverse, List.find?_map,
    Option.map_map]
  rfl

end TagSet

end CodeTags
