/-
  Visuara.Common.Path
  ───────────────────
  **`std::path::Path` ON UNIX.**

  A path is a string; `/` separates, and what stands between separators is a
  piece.  Joining concatenates the pieces of a relative path (`pieces_join`),
  unless the second path is absolute and takes over.  A direct child of a
  directory is said by the components alone (`IsChild`), with no look at any
  file system.
-/
import Mathlib.Data.List.Basic

namespace Visuara.Path

/-! ## §1. Pieces and components. -/

/-- What stands between the separators. -/
def pieces (p : String) : List String := (p.toList.splitOn '/').map String.ofList

inductive Component where
  | rootDir
  | curDir
  | parentDir
  | normal (name : String)
  deriving DecidableEq, Repr

/-- The component a piece stands for; empty pieces and dots stand for none. -/
def component? (piece : String) : Option Component :=
  if piece = "" ∨ piece = "." then none
  else if piece = ".." then some .parentDir
  else some (.normal piece)

/-- `Path::is_absolute`. -/
def isAbsolute (p : String) : Bool := p.toList.head? == some '/'

/-- `Path::components`: a dot is kept only where the path begins with it. -/
def components (p : String) : List Component :=
  (if isAbsolute p then [.rootDir] else if (pieces p).head? = some "." then [.curDir] else [])
    ++ (pieces p).filterMap component?

/-- `Path::join`. -/
def join (dir p : String) : String :=
  if isAbsolute p then p
  else if dir = "" ∨ dir.toList.getLast? = some '/' then dir ++ p
  else dir ++ "/" ++ p

/-- `Path::file_name`. -/
def fileName (p : String) : Option String :=
  match (components p).getLast? with
  | some (.normal name) => some name
  | _ => none

/-- `rsplit_file_at_dot`: what stands before and after the last dot. -/
def rsplitFileAtDot (file : String) : Option String × Option String :=
  if file = ".." then (some file, none)
  else
    match file.toList.reverse.dropWhile (· ≠ '.') with
    | [] => (none, some file)
    | _ :: before =>
      if before = [] then (some file, none)
      else (some (String.ofList before.reverse),
        some (String.ofList (file.toList.reverse.takeWhile (· ≠ '.')).reverse))

/-- `Path::file_stem`. -/
def fileStem (p : String) : Option String :=
  (fileName p).bind fun name => (rsplitFileAtDot name).1.or (rsplitFileAtDot name).2

/-- `Path::extension`. -/
def extension (p : String) : Option String :=
  (fileName p).bind fun name => (rsplitFileAtDot name).1.bind fun _ => (rsplitFileAtDot name).2

/-! ## §2. Joining. -/

theorem pieces_sep (p q : String) : pieces (p ++ "/" ++ q) = pieces p ++ pieces q := by
  have hchars : (p ++ "/" ++ q).toList = p.toList ++ '/' :: q.toList := by simp
  rw [pieces, hchars, List.splitOn_append_cons_self, List.map_append]
  rfl

theorem pieces_empty : pieces "" = [""] := by decide

/-- A path that ends with a separator. -/
theorem eq_sep_of_getLast {p : String} (h : p.toList.getLast? = some '/') : ∃ q, p = q ++ "/" := by
  obtain ⟨l, hl⟩ := List.getLast?_eq_some_iff.mp h
  refine ⟨String.ofList l, ?_⟩
  apply String.toList_injective
  rw [hl]
  simp

/-- **A relative path continues the directory**, piece by piece; the directory
may end with a separator, which is an empty piece. -/
theorem pieces_join (dir : String) {p : String} (hp : isAbsolute p = false) :
    pieces (join dir p) = pieces dir ++ pieces p
      ∨ ∃ init, pieces dir = init ++ [""] ∧ pieces (join dir p) = init ++ pieces p := by
  rw [join, hp, if_neg Bool.false_ne_true]
  by_cases hd : dir = "" ∨ dir.toList.getLast? = some '/'
  · rw [if_pos hd]
    right
    rcases hd with rfl | hd
    · exact ⟨[], pieces_empty, by simp⟩
    · obtain ⟨q, rfl⟩ := eq_sep_of_getLast hd
      refine ⟨pieces q, ?_, pieces_sep q p⟩
      have hempty := pieces_sep q ""
      rwa [String.append_empty, pieces_empty] at hempty
  · rw [if_neg hd]
    exact .inl (pieces_sep dir p)

theorem isAbsolute_append {dir q : String} (h : dir ≠ "") :
    isAbsolute (dir ++ q) = isAbsolute dir := by
  have hne : dir.toList ≠ [] := by
    intro hnil
    exact h (String.toList_injective (by rw [hnil]; rfl))
  obtain ⟨c, cs, hcs⟩ := List.exists_cons_of_ne_nil hne
  simp [isAbsolute, hcs]

theorem isAbsolute_join {dir p : String} (hp : isAbsolute p = false) :
    isAbsolute (join dir p) = isAbsolute dir := by
  rw [join, hp, if_neg Bool.false_ne_true]
  by_cases hd : dir = ""
  · subst hd
    rw [if_pos (.inl rfl), String.empty_append, hp]
    rfl
  · split
    · exact isAbsolute_append hd
    · rw [String.append_assoc, isAbsolute_append hd]

/-! ## §3. Direct children. -/

/-- The components that lead anywhere. -/
def steps (p : String) : List Component := (components p).filter (· ≠ .curDir)

theorem steps_eq (p : String) : steps p
    = (if isAbsolute p then [.rootDir] else []) ++ (pieces p).filterMap component? := by
  have hbody : ((pieces p).filterMap component?).filter (· ≠ .curDir)
      = (pieces p).filterMap component? := by
    rw [List.filter_eq_self]
    intro c hc
    obtain ⟨piece, -, hpiece⟩ := List.mem_filterMap.mp hc
    unfold component? at hpiece
    split at hpiece
    · exact absurd hpiece.symm (Option.some_ne_none c)
    · split at hpiece <;> injection hpiece with hpiece <;> subst hpiece <;> simp
  rw [steps, components, List.filter_append, hbody]
  congr 1
  split
  · rfl
  · split <;> rfl

/-- **Joining a relative path adds its steps.** -/
theorem steps_join (dir : String) {p : String} (hp : isAbsolute p = false) :
    steps (join dir p) = steps dir ++ steps p := by
  have hpieces : (pieces (join dir p)).filterMap component?
      = (pieces dir).filterMap component? ++ (pieces p).filterMap component? := by
    rcases pieces_join dir hp with h | ⟨init, hdir, h⟩
    · rw [h, List.filterMap_append]
    · rw [h, hdir, List.filterMap_append, List.filterMap_append]
      simp [component?]
  rw [steps_eq, steps_eq dir, steps_eq p, isAbsolute_join hp, hpieces, hp, List.append_assoc]
  rfl

/-- `p` is an entry of the directory `dir` itself. -/
def IsChild (dir p : String) : Prop := ∃ name, steps p = steps dir ++ [.normal name]

instance (dir p : String) : Decidable (IsChild dir p) :=
  match h : (steps p).getLast? with
  | some (.normal name) => decidable_of_iff (steps p = steps dir ++ [.normal name]) (by
      refine ⟨fun heq => ⟨name, heq⟩, fun ⟨name', heq⟩ => ?_⟩
      rw [heq, List.getLast?_append_cons] at h
      simp_all)
  | none | some .rootDir | some .curDir | some .parentDir => isFalse (by
      rintro ⟨name, heq⟩
      rw [heq] at h
      simp at h)

/-- A name without separators that is not a dot component. -/
structure Plain (name : String) : Prop where
  ne_empty : name ≠ ""
  ne_dot : name ≠ "."
  ne_dots : name ≠ ".."
  no_sep : '/' ∉ name.toList

instance (name : String) : Decidable (Plain name) :=
  decidable_of_iff (name ≠ "" ∧ name ≠ "." ∧ name ≠ ".." ∧ '/' ∉ name.toList)
    ⟨fun ⟨h, h', h'', hs⟩ => ⟨h, h', h'', hs⟩, fun h => ⟨h.ne_empty, h.ne_dot, h.ne_dots, h.no_sep⟩⟩

variable {name : String}

theorem Plain.pieces (h : Plain name) : pieces name = [name] := by
  rw [Path.pieces, List.splitOn_eq_singleton h.no_sep]
  simp

theorem Plain.relative (h : Plain name) : isAbsolute name = false := by
  rw [isAbsolute]
  by_contra habs
  simp only [Bool.not_eq_false, beq_iff_eq] at habs
  exact h.no_sep (List.mem_of_mem_head? habs)

theorem Plain.steps (h : Plain name) : steps name = [.normal name] := by
  rw [steps_eq, h.relative, h.pieces]
  simp [component?, h.ne_empty, h.ne_dot, h.ne_dots]

theorem Plain.isChild (h : Plain name) (dir : String) : IsChild dir (join dir name) :=
  ⟨name, by rw [steps_join dir h.relative, h.steps]⟩

/-! ## §4. Names made from names. -/

/-- No piece holds a separator. -/
theorem no_sep_of_mem_splitOn {l piece : List Char} (h : piece ∈ l.splitOn '/') : '/' ∉ piece := by
  induction l generalizing piece with
  | nil =>
    rw [List.splitOn_nil, List.mem_singleton] at h
    rw [h]
    exact List.not_mem_nil
  | cons c l ih =>
    rw [List.splitOn_cons_eq_if_modifyHead] at h
    split at h
    · rcases List.mem_cons.mp h with rfl | h
      · exact List.not_mem_nil
      · exact ih h
    next hc =>
      obtain ⟨first, rest, hl⟩ := List.exists_cons_of_ne_nil (List.splitOn_ne_nil '/' l)
      rw [hl] at h ih
      rcases List.mem_cons.mp h with rfl | h
      · intro hm
        rcases List.mem_cons.mp hm with rfl | hm
        · exact hc rfl
        · exact ih List.mem_cons_self hm
      · exact ih (List.mem_cons_of_mem _ h)

/-- The name of a file is a piece of its path that stands for itself. -/
theorem piece_of_fileName {p : String} (h : fileName p = some name) :
    name ∈ pieces p ∧ component? name = some (.normal name) := by
  have hlast : (components p).getLast? = some (.normal name) := by
    unfold fileName at h
    split at h
    next heq =>
      injection h with h
      rw [heq, h]
    next => exact absurd h.symm (Option.some_ne_none name)
  have hmem : Component.normal name ∈ (pieces p).filterMap component? := by
    rcases List.mem_append.mp (List.mem_of_getLast? hlast) with h | h
    · split at h
      · simp at h
      · split at h <;> simp at h
    · exact h
  obtain ⟨piece, hpiece, hname⟩ := List.mem_filterMap.mp hmem
  obtain rfl : piece = name := by
    unfold component? at hname
    split at hname
    · exact absurd hname.symm (Option.some_ne_none _)
    · split at hname
      · simp at hname
      · injection hname with hname
        injection hname
  exact ⟨hpiece, hname⟩

theorem no_sep_of_fileName {p : String} (h : fileName p = some name) : '/' ∉ name.toList := by
  obtain ⟨chars, hchars, rfl⟩ := List.mem_map.mp (piece_of_fileName h).1
  rw [String.toList_ofList]
  exact no_sep_of_mem_splitOn hchars

/-- **The name of a file is plain.** -/
theorem plain_fileName {p : String} (h : fileName p = some name) : Plain name := by
  have hname := (piece_of_fileName h).2
  refine ⟨?_, ?_, ?_, no_sep_of_fileName h⟩
  all_goals
    rintro rfl
    exact absurd hname (by decide)

/-- The two parts of a name hold only characters of the name. -/
theorem mem_rsplitFileAtDot {file part : String} {c : Char} (hc : c ∈ part.toList)
    (h : (rsplitFileAtDot file).1 = some part ∨ (rsplitFileAtDot file).2 = some part) :
    c ∈ file.toList := by
  unfold rsplitFileAtDot at h
  split at h
  · obtain rfl : file = part := by simpa using h
    exact hc
  · split at h
    · obtain rfl : file = part := by simpa using h
      exact hc
    next x before heq =>
      split at h
      · obtain rfl : file = part := by simpa using h
        exact hc
      · have hsub : ∀ a ∈ x :: before, a ∈ file.toList := by
          intro a ha
          rw [← heq] at ha
          exact List.mem_reverse.mp ((List.dropWhile_sublist _).subset ha)
        rcases h with h | h
        · injection h with h
          rw [← h, String.toList_ofList, List.mem_reverse] at hc
          exact hsub c (List.mem_cons_of_mem _ hc)
        · injection h with h
          rw [← h, String.toList_ofList, List.mem_reverse] at hc
          exact List.mem_reverse.mp ((List.takeWhile_sublist _).subset hc)

theorem no_sep_of_fileStem {p stem : String} (h : fileStem p = some stem) : '/' ∉ stem.toList := by
  obtain ⟨name, hname, hstem⟩ := Option.bind_eq_some_iff.mp h
  intro hm
  refine no_sep_of_fileName hname (mem_rsplitFileAtDot hm ?_)
  rcases Option.or_eq_some_iff.mp hstem with h | ⟨-, h⟩
  · exact .inl h
  · exact .inr h

theorem no_sep_of_extension {p ext : String} (h : extension p = some ext) : '/' ∉ ext.toList := by
  obtain ⟨name, hname, hext⟩ := Option.bind_eq_some_iff.mp h
  obtain ⟨-, -, hext⟩ := Option.bind_eq_some_iff.mp hext
  intro hm
  exact no_sep_of_fileName hname (mem_rsplitFileAtDot hm (.inr hext))

end Visuara.Path
