import CodeTags.FileName
import CodeTags.Proofs.Text.Lines

/-!
# Names of files

The name of a file is the last part of its path, and its extension follows the last dot of the name.
What is in front of that part makes no difference, and neither do slashes and single dots behind it.

* `IsLastPart`: a part with nothing but empty parts and single dots behind it;
  `fileName?_eq_some_iff`: it is the name of the file unless it is two dots.
* `IsExtension`: what follows the last dot of a name, if something does.
* `nameExtension?_eq_some_iff`, `extension?_eq_some_iff`: which extensions names and paths have.
* `extension?_of_stem`, `not_mem_of_extension?`: which texts are the extension of a path.
* `fileName?_append_of_lastPart`, `fileName?_append_slash`, `fileName?_foldl_append`: what can be put
  in front of a path and behind it.
-/

namespace CodeTags

/-- The part counts as the last one of the path: behind it are only empty parts and single dots. -/
def IsLastPart (path part : List Char) : Prop :=
  part ≠ [] ∧ part ≠ ['.'] ∧
    ∃ front back, fieldsOf '/' path = front ++ part :: back ∧ ∀ p ∈ back, p = [] ∨ p = ['.']

/-- The extension of a name: what follows its last dot, if that dot neither begins nor ends the
name. -/
def IsExtension (name extension : List Char) : Prop :=
  '.' ∉ extension ∧ extension ≠ [] ∧ ∃ stem, stem ≠ [] ∧ name = stem ++ '.' :: extension

theorem getLast?_pathParts_eq_some_iff {path part : List Char} :
    (pathParts path).getLast? = some part ↔ IsLastPart path part := by
  rw [pathParts, getLast?_trimEnd_eq_some_iff, IsLastPart, ← and_assoc]
  simp

theorem fileName?_eq_some_iff {path name : List Char} :
    fileName? path = some name ↔ IsLastPart path name ∧ name ≠ ['.', '.'] := by
  rw [fileName?, Option.filter_eq_some_iff, getLast?_pathParts_eq_some_iff, bne_iff_ne]

theorem nameExtension?_of_stem {stem extension : List Char} (hstem : stem ≠ [])
    (hdot : '.' ∉ extension) : nameExtension? (stem ++ '.' :: extension) = some extension := by
  have hrun : ∀ c ∈ extension.reverse, (c != '.') = true := fun c hc =>
    bne_iff_ne.mpr fun heq => hdot (heq ▸ List.mem_reverse.mp hc)
  have hreverse : (stem ++ '.' :: extension).reverse =
      extension.reverse ++ '.' :: stem.reverse := by simp
  obtain ⟨c, cs, hcs⟩ := List.exists_cons_of_ne_nil (mt List.reverse_eq_nil_iff.mp hstem)
  rw [nameExtension?, hreverse, List.dropWhile_append_of_pos hrun,
    List.takeWhile_append_of_pos hrun, hcs]
  simp

/-- Also a name that ends with a dot has an extension, which is empty. -/
theorem nameExtension?_eq_some_iff {name extension : List Char} :
    nameExtension? name = some extension ↔
      '.' ∉ extension ∧ ∃ stem, stem ≠ [] ∧ name = stem ++ '.' :: extension := by
  constructor
  · intro h
    rw [nameExtension?] at h
    split at h
    · next c d rest hrest =>
      obtain rfl := Option.some.inj h
      have hc : c = '.' := by
        have := List.head?_dropWhile_not (· != '.') name.reverse
        rw [hrest] at this
        simpa using this
      have hname := List.takeWhile_append_dropWhile (p := (· != '.')) (l := name.reverse)
      rw [hrest, hc] at hname
      refine ⟨fun hmem => ?_, (d :: rest).reverse, by simp, ?_⟩
      · have := List.all_eq_true.mp List.all_takeWhile '.' (List.mem_reverse.mp hmem)
        simp at this
      · rw [← List.reverse_inj]
        refine hname.symm.trans ?_
        simp
    · cases h
  · rintro ⟨hdot, stem, hstem, rfl⟩
    exact nameExtension?_of_stem hstem hdot

theorem extension?_eq_some_iff {path extension : String} :
    extension? path = some extension ↔
      ∃ name, IsLastPart path.toList name ∧ name ≠ ['.', '.'] ∧
        nameExtension? name = some extension.toList := by
  rw [extension?, Option.map_eq_some_iff]
  constructor
  · rintro ⟨cs, hcs, rfl⟩
    obtain ⟨name, hname, hextension⟩ := Option.bind_eq_some_iff.mp hcs
    obtain ⟨hlast, hdots⟩ := fileName?_eq_some_iff.mp hname
    exact ⟨name, hlast, hdots, by rw [hextension, String.toList_ofList]⟩
  · rintro ⟨name, hlast, hdots, hextension⟩
    refine ⟨extension.toList, ?_, String.ofList_toList⟩
    rw [fileName?_eq_some_iff.mpr ⟨hlast, hdots⟩, Option.bind_some, hextension]

/-- A name of two parts around a dot ends with the second as its extension. -/
theorem extension?_of_stem {stem extension : List Char} (hstem : stem ≠ []) (hdot : '.' ∉ stem)
    (hslash : '/' ∉ stem) (hdot' : '.' ∉ extension) (hslash' : '/' ∉ extension) :
    extension? (String.ofList (stem ++ '.' :: extension)) = some (String.ofList extension) := by
  have hname : '/' ∉ stem ++ '.' :: extension := by simp [hslash, hslash']
  have hextension := nameExtension?_of_stem hstem hdot'
  obtain ⟨c, cs, rfl⟩ := List.exists_cons_of_ne_nil hstem
  have hc : c ≠ '.' := fun heq => hdot (heq ▸ List.mem_cons_self)
  rw [extension?_eq_some_iff, String.toList_ofList, String.toList_ofList]
  refine ⟨_, ⟨by simp, by simp, [], [], fieldsOf_of_not_mem hname, by simp⟩, ?_, hextension⟩
  simp [hc]

/-- The extension of a path is part of its last part. -/
theorem not_mem_of_extension? {path extension : String} (h : extension? path = some extension) :
    '/' ∉ extension.toList := by
  obtain ⟨name, ⟨-, -, front, back, hfields, -⟩, -, hname⟩ := extension?_eq_some_iff.mp h
  obtain ⟨-, stem, -, rfl⟩ := nameExtension?_eq_some_iff.mp hname
  have hfield : stem ++ '.' :: extension.toList ∈ fieldsOf '/' path.toList := by simp [hfields]
  exact fun hmem => not_mem_of_mem_fieldsOf hfield (by simp [hmem])

/-! ## What does not count -/

/-- Whatever is in front of a slash, the last part stays the last. -/
theorem fileName?_append_of_lastPart (dir : List Char) {path part : List Char}
    (h : IsLastPart path part) : fileName? (dir ++ '/' :: path) = fileName? path := by
  have hlast : (pathParts (dir ++ '/' :: path)).getLast? = (pathParts path).getLast? := by
    rw [getLast?_pathParts_eq_some_iff.mpr h, getLast?_pathParts_eq_some_iff]
    obtain ⟨hne, hdot, front, back, hfields, hback⟩ := h
    refine ⟨hne, hdot, fieldsOf '/' dir ++ front, back, ?_, hback⟩
    rw [fieldsOf_append_sep, hfields, List.append_assoc]
  rw [fileName?, fileName?, hlast]

/-- A slash at the end of a path changes nothing, and neither does a single dot behind it. -/
theorem fileName?_append_slash (path : List Char) {tail : List Char}
    (h : tail = ['/'] ∨ tail = ['/', '.']) : fileName? (path ++ tail) = fileName? path := by
  have hparts : pathParts (path ++ tail) = pathParts path := by
    rcases h with rfl | rfl <;>
    · rw [pathParts, fieldsOf_append_sep]
      exact trimEnd_append_of_forall (by decide) _
  rw [fileName?, fileName?, hparts]

/-- Any number of both can be put at the end. -/
theorem fileName?_foldl_append (path : String) {tails : List String}
    (h : ∀ tail ∈ tails, tail = "/" ∨ tail = "/.") :
    fileName? (tails.foldl (· ++ ·) path).toList = fileName? path.toList := by
  induction tails generalizing path with
  | nil => rfl
  | cons tail tails ih =>
    obtain ⟨htail, htails⟩ := List.forall_mem_cons.mp h
    rw [List.foldl_cons, ih _ htails, String.toList_append]
    exact fileName?_append_slash _ (htail.imp (congrArg String.toList) (congrArg String.toList))

end CodeTags
