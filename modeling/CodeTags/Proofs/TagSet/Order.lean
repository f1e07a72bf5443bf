import CodeTags.Proofs.TagSet
import CodeTags.Proofs.Text.Utf8

/-!
# The order of a set of tags

* `TagSet.InOrder`: each entry comes before the later ones. The empty set is in order, and recording
  and merging keep it so.
* `InOrder.mem_entries_iff`, `InOrder.mem_toList_iff_get?`: in such a set the entries, and the tags
  that are listed, are what the lookups give.
* `InOrder.eq_of_get?_eq`: so the lookups and the path make up the set.
* `get?_merge`: after a merge the images of the other set count.
* `mem_entries_foldl_insert`: what a set holds after some recordings.
* `Tag.ListedBefore`: the order of a batch, with symbols compared byte by byte.
-/

namespace CodeTags

theorem TagKey.Before.ne {a b : TagKey} (h : a.Before b) : a ≠ b := by
  rintro rfl
  exact before_irrefl a h

theorem TagKey.before_iff_not_of_ne {a b : TagKey} (h : a ≠ b) : a.Before b ↔ ¬b.Before a := by
  constructor
  · exact fun hab hba => before_irrefl a (hab.trans hba)
  · rcases before_trichotomy a b with hab | hab | hab
    · exact fun _ => hab
    · exact absurd hab h
    · exact absurd hab

namespace TagSet

/-- Each entry comes before all that follow it. -/
def InOrder (s : TagSet) : Prop := s.entries.Pairwise fun a b => a.1.Before b.1

variable {s : TagSet}

/-! ## Operations -/

theorem inOrder_empty (path : String) : (empty path).InOrder := List.Pairwise.nil

theorem pairwise_insertEntry {es : List (TagKey × String)}
    (h : es.Pairwise fun a b => a.1.Before b.1) (key : TagKey) (image : String) :
    (insertEntry key image es).Pairwise fun a b => a.1.Before b.1 := by
  induction es with
  | nil => exact List.pairwise_singleton _ _
  | cons e es ih =>
    obtain ⟨he, hes⟩ := List.pairwise_cons.mp h
    rw [insertEntry]
    split
    · next hbefore =>
      refine List.pairwise_cons.mpr ⟨fun a ha => ?_, h⟩
      rcases List.mem_cons.mp ha with rfl | ha
      · exact hbefore
      · exact hbefore.trans (he a ha)
    · split
      · next heq =>
        refine List.pairwise_cons.mpr ⟨fun a ha => ?_, hes⟩
        exact heq ▸ he a ha
      · next hnot hne =>
        refine List.pairwise_cons.mpr ⟨fun a ha => ?_, ih hes⟩
        rcases mem_insertEntry ha with rfl | ha
        · exact (TagKey.before_iff_not_of_ne (Ne.symm hne)).mpr hnot
        · exact he a ha

theorem InOrder.insert (h : s.InOrder) (key : TagKey) (image : String) :
    (s.insert key image).InOrder := pairwise_insertEntry h key image

theorem InOrder.foldl_insert (h : s.InOrder) (es : List (TagKey × String)) :
    (es.foldl (fun s e => s.insert e.1 e.2) s).InOrder := by
  induction es generalizing s with
  | nil => exact h
  | cons e es ih => exact ih (h.insert e.1 e.2)

theorem InOrder.merge (h : s.InOrder) (other : TagSet) : (s.merge other).InOrder :=
  h.foldl_insert other.entries

theorem InOrder.foldl_insertDefinition (h : s.InOrder) (ds : List Definition) :
    (ds.foldl insertDefinition s).InOrder := by
  rw [TagSet.foldl_insertDefinition]
  exact h.foldl_insert _

/-! ## Entries and lookups -/

theorem InOrder.pairwise_ne (h : s.InOrder) : s.entries.Pairwise fun a b => a.1 ≠ b.1 :=
  h.imp TagKey.Before.ne

/-- Where no key comes twice, looking for a key finds the entry with it. -/
theorem find?_eq_some_iff_mem {es : List (TagKey × String)}
    (h : es.Pairwise fun a b => a.1 ≠ b.1) {key : TagKey} {e : TagKey × String} :
    es.find? (·.1 == key) = some e ↔ e ∈ es ∧ e.1 = key := by
  induction es with
  | nil => simp
  | cons a es ih =>
    obtain ⟨ha, hes⟩ := List.pairwise_cons.mp h
    rw [List.mem_cons]
    by_cases heq : a.1 = key
    · have hnot : e ∈ es → e.1 ≠ key := fun hmem hkey => ha e hmem (heq.trans hkey.symm)
      rw [List.find?_cons_of_pos (by simpa using heq), Option.some.injEq]
      constructor
      · rintro rfl
        exact ⟨.inl rfl, heq⟩
      · rintro ⟨rfl | hmem, hkey⟩
        · rfl
        · exact absurd hkey (hnot hmem)
    · have hne : e = a → e.1 ≠ key := fun hea => hea ▸ heq
      rw [List.find?_cons_of_neg (by simpa using heq), ih hes]
      constructor
      · exact fun ⟨hmem, hkey⟩ => ⟨.inr hmem, hkey⟩
      · rintro ⟨hea | hmem, hkey⟩
        · exact absurd hkey (hne hea)
        · exact ⟨hmem, hkey⟩

/-- In a set in order the entries are what the lookups give. -/
theorem InOrder.mem_entries_iff (h : s.InOrder) {key : TagKey} {image : String} :
    (key, image) ∈ s.entries ↔ s.get? key = some image := by
  rw [get?, Option.map_eq_some_iff]
  constructor
  · exact fun hmem => ⟨_, (find?_eq_some_iff_mem h.pairwise_ne).mpr ⟨hmem, rfl⟩, rfl⟩
  · rintro ⟨⟨_, _⟩, hfind, rfl⟩
    obtain ⟨hmem, rfl⟩ := (find?_eq_some_iff_mem h.pairwise_ne).mp hfind
    exact hmem

/-- Entries in order are determined by what they hold. -/
theorem eq_of_pairwise_of_mem_iff {es fs : List (TagKey × String)}
    (hes : es.Pairwise fun a b => a.1.Before b.1) (hfs : fs.Pairwise fun a b => a.1.Before b.1)
    (h : ∀ e, e ∈ es ↔ e ∈ fs) : es = fs := by
  have hne : ∀ a b : TagKey × String, a.1.Before b.1 → a ≠ b := fun a b hab heq =>
    hab.ne (congrArg Prod.fst heq)
  refine List.Perm.eq_of_pairwise (fun a b _ _ hab hba => ?_) hes hfs
    ((List.perm_ext_iff_of_nodup (hes.imp (hne _ _)) (hfs.imp (hne _ _))).mpr h)
  exact absurd (hab.trans hba) (TagKey.before_irrefl _)

/-- Sets in order with the same lookups are the same. -/
theorem InOrder.eq_of_get?_eq {t : TagSet} (hs : s.InOrder) (ht : t.InOrder)
    (hpath : s.path = t.path) (h : ∀ key, s.get? key = t.get? key) : s = t := by
  have hentries : s.entries = t.entries := by
    refine eq_of_pairwise_of_mem_iff hs ht fun e => ?_
    rw [hs.mem_entries_iff, ht.mem_entries_iff, h]
  obtain ⟨_, _⟩ := s
  obtain ⟨_, _⟩ := t
  rw [mk.injEq]
  exact ⟨hpath, hentries⟩

/-- After a merge the images of the other set count. -/
theorem get?_merge {other : TagSet} (ho : other.InOrder) (s : TagSet) (key : TagKey) :
    (s.merge other).get? key = (other.get? key).or (s.get? key) := by
  have hreverse : other.entries.reverse.find? (·.1 == key) =
      other.entries.find? (·.1 == key) := by
    refine Option.ext fun e => ?_
    rw [find?_eq_some_iff_mem ho.pairwise_ne,
      find?_eq_some_iff_mem (List.pairwise_reverse.mpr (ho.pairwise_ne.imp Ne.symm)),
      List.mem_reverse]
  rw [merge, get?_foldl_insert, hreverse]
  rfl

/-- Where each key comes with one image only, recording entries keeps all of them. -/
theorem mem_entries_foldl_insert (image : TagKey → String) {es : List (TagKey × String)}
    (h : ∀ e ∈ es, e.2 = image e.1) (path : String) {e : TagKey × String} :
    e ∈ (es.foldl (fun s e => s.insert e.1 e.2) (empty path)).entries ↔ e ∈ es := by
  constructor
  · have hall := (all_empty path).foldl_insert (P := fun key image => (key, image) ∈ es)
      fun e he => he
    exact hall e
  · intro he
    have hlook := get?_foldl_insert es (empty path) e.1
    cases hfind : es.reverse.find? (·.1 == e.1) with
    | none =>
      have hne := List.find?_eq_none.mp hfind e (List.mem_reverse.mpr he)
      exact absurd (beq_self_eq_true e.1) hne
    | some e' =>
      have he' : e' ∈ es := List.mem_reverse.mp (List.mem_of_find?_eq_some hfind)
      have hkey : e'.1 = e.1 := by simpa using List.find?_some hfind
      rw [hfind, Option.map_some, Option.some_or, h e' he', hkey, ← h e he] at hlook
      exact ((inOrder_empty path).foldl_insert es).mem_entries_iff.mpr hlook

/-! ## Tags -/

theorem mem_toList_iff {t : Tag} :
    t ∈ s.toList ↔ t.path = s.path ∧ (t.key, t.image) ∈ s.entries := by
  rw [toList, List.mem_map]
  constructor
  · rintro ⟨e, he, rfl⟩
    exact ⟨rfl, he⟩
  · rintro ⟨hpath, he⟩
    exact ⟨_, he, by rw [← hpath]; rfl⟩

/-- A set in order lists what the lookups give, and nothing else. -/
theorem InOrder.mem_toList_iff_get? (h : s.InOrder) {t : Tag} :
    t ∈ s.toList ↔ t.path = s.path ∧ s.get? t.key = some t.image := by
  rw [mem_toList_iff, h.mem_entries_iff]

/-- If all tags are of one kind, no two have the same symbol and line. -/
theorem nodup_toList_of_kind (h : s.InOrder) {k : TagKind}
    (hk : s.All fun key _ => key.kind = k) :
    (s.toList.map fun t => (t.symbol, t.line)).Nodup := by
  rw [toList, List.map_map]
  refine List.pairwise_map.mpr (h.pairwise_ne.imp_of_mem fun {e e'} he he' hne heq => hne ?_)
  have hkind : e.1.kind = e'.1.kind := (hk e he).trans (hk e' he').symm
  obtain ⟨hsymbol, hline⟩ := Prod.mk.inj heq
  exact (TagKey.mk.injEq ..).mpr ⟨hline, hsymbol, hkind⟩

end TagSet

/-- The order of a batch: by line number, then by the bytes of the symbol, and where both are the
same, a reference before a definition. -/
def Tag.ListedBefore (t u : Tag) : Prop :=
  t.line < u.line ∨
    t.line = u.line ∧
      (Utf8.encode t.symbol.toList < Utf8.encode u.symbol.toList ∨
        t.symbol = u.symbol ∧ t.kind = .reference ∧ u.kind = .definition)

theorem TagKey.Before.listedBefore {a b : TagKey} (h : a.Before b)
    (path path' image image' : String) :
    (a.toTag path image).ListedBefore (b.toTag path' image') := by
  refine h.imp_right (And.imp_right (Or.imp_left fun hsymbol => ?_))
  exact Utf8.encode_lt_encode (String.lt_iff.mp hsymbol)

theorem TagSet.InOrder.listed {s : TagSet} (h : s.InOrder) :
    s.toList.Pairwise Tag.ListedBefore :=
  List.pairwise_map.mpr (h.imp fun hab => hab.listedBefore _ _ _ _)

end CodeTags
