import Mathlib.Data.List.Basic
import QueryLayout.FileTree

namespace QueryLayout

/-- The directory that a location is counted from: one above the current directory, or else the root. -/
def Location.base : Location → Option Nat
  | .below up _ => some up
  | .rooted _ => none

theorem Location.eq_of_names {first second : Location} (base : first.base = second.base)
    (names : first.names = second.names) : first = second := by
  cases first <;> cases second <;> simp_all [Location.base, Location.names]

theorem Location.isInside_iff {inner outer : Location} :
    inner.isInside outer ↔ inner.base = outer.base ∧ outer.names <+: inner.names ∧ outer.names ≠ inner.names := by
  cases inner <;> cases outer <;> simp [Location.isInside, Location.base, Location.names, and_assoc]

theorem Location.names_of_isInside {inner outer : Location} (inside : inner.isInside outer) : inner.names ≠ [] := by
  obtain ⟨_, begins, differs⟩ := Location.isInside_iff.mp inside
  intro empty
  rw [empty, List.prefix_nil] at begins
  exact differs (begins.trans empty.symm)

theorem Location.enter_base (location : Location) (name : List Char) :
    (location.enter name).base = location.base := by
  cases location <;> rfl

theorem Location.enter_names (location : Location) (name : List Char) :
    (location.enter name).names = location.names ++ [name] := by
  cases location <;> rfl

theorem Location.isInside_enter {location other : Location} {name : List Char}
    (inside : (location.enter name).isInside other) : other = location ∨ location.isInside other := by
  rw [Location.isInside_iff, Location.enter_base, Location.enter_names, List.prefix_concat_iff] at inside
  obtain ⟨base, whole | begins, differs⟩ := inside
  · exact absurd whole differs
  · by_cases same : other.names = location.names
    · exact Or.inl (Location.eq_of_names base.symm same)
    · exact Or.inr (Location.isInside_iff.mpr ⟨base, begins, same⟩)

theorem Location.leave_names (location : Location) : location.leave.names = location.names.dropLast := by
  cases location with
  | below up names => cases names <;> rfl
  | rooted names => rfl

theorem Location.leave_base {location : Location} (named : location.names ≠ []) :
    location.leave.base = location.base := by
  cases location with
  | below up names =>
    cases names with
    | nil => exact absurd rfl named
    | cons => rfl
  | rooted names => rfl

theorem Location.isInside_leave {location other : Location} (inside : location.leave.isInside other) :
    location.isInside other := by
  have named : location.names ≠ [] := by
    intro empty
    exact Location.names_of_isInside inside (by rw [Location.leave_names, empty, List.dropLast_nil])
  rw [Location.isInside_iff, Location.leave_base named, Location.leave_names] at inside
  obtain ⟨base, begins, _⟩ := inside
  refine Location.isInside_iff.mpr ⟨base, begins.trans (List.dropLast_prefix _), fun same => ?_⟩
  have short := begins.length_le
  rw [same, List.length_dropLast] at short
  have some := List.length_pos_iff.mpr named
  omega

/-- Whatever a walk passes is a directory: all that lies above the location where it ends. -/
theorem FileTree.walk_above {tree : FileTree} {start location : Location} {names : List (List Char)}
    (above : ∀ other, start.isInside other → tree.node? other = some .directory)
    (walked : tree.walk start names = .ok location) :
    ∀ other, location.isInside other → tree.node? other = some .directory := by
  fun_induction FileTree.walk tree start names with
  | case1 =>
    cases walked
    exact above
  | case2 | case3 | case4 | case6 => cases walked
  | case5 start later directory _ ih =>
    exact ih (fun other inside => above other (Location.isInside_leave inside)) walked
  | case7 start name later directory _ _ _ ih =>
    refine ih (fun other inside => ?_) walked
    rcases Location.isInside_enter inside with rfl | inside
    · exact directory
    · exact above other inside

theorem FileTree.locate_above {tree : FileTree} {path : Path} {location : Location}
    (located : tree.locate path = .ok location) :
    ∀ other, location.isInside other → tree.node? other = some .directory := by
  unfold FileTree.locate at located
  split at located
  · cases located
  refine FileTree.walk_above (fun other inside => ?_) located
  have empty : path.origin.names = [] := by
    cases start : path.start <;> simp [Path.origin, start, Location.names]
  exact absurd empty (Location.names_of_isInside inside)

theorem lookup_setNode_self (location : Location) (node : FileNode) (nodes : List (Location × FileNode)) :
    (setNode location node nodes).lookup location = some node := by
  induction nodes with
  | nil => simp [setNode]
  | cons entry later ih =>
    obtain ⟨other, old⟩ := entry
    unfold setNode
    split
    · simp
    · rename_i differs
      rw [List.lookup_cons, beq_false_of_ne (Ne.symm differs), ih]

theorem lookup_setNode_of_ne {location other : Location} (differs : other ≠ location) (node : FileNode)
    (nodes : List (Location × FileNode)) : (setNode location node nodes).lookup other = nodes.lookup other := by
  induction nodes with
  | nil => simp [setNode, differs]
  | cons entry later ih =>
    obtain ⟨first, old⟩ := entry
    unfold setNode
    split
    · subst first
      simp [List.lookup_cons, beq_false_of_ne differs]
    · rw [List.lookup_cons, List.lookup_cons, ih]

theorem any_setNode (p : Location → Bool) (location : Location) (node : FileNode)
    (nodes : List (Location × FileNode)) :
    (setNode location node nodes).any (fun entry => p entry.1) =
      (p location || nodes.any fun entry => p entry.1) := by
  induction nodes with
  | nil => simp [setNode]
  | cons entry later ih =>
    obtain ⟨other, old⟩ := entry
    unfold setNode
    split
    · subst other
      simp
    · rw [List.any_cons, List.any_cons, ih, Bool.or_left_comm]

theorem FileTree.node?_set_self {tree : FileTree} {location : Location} (named : location.names ≠ [])
    (node : FileNode) : (tree.set location node).node? location = some node := by
  simp [FileTree.node?, FileTree.set, named, lookup_setNode_self]

/-- A new node leaves all others as they are, provided that it stands in a directory. -/
theorem FileTree.node?_set_of_ne {tree : FileTree} {location other : Location} (differs : other ≠ location)
    (above : location.isInside other → tree.node? other = some .directory) (node : FileNode) :
    (tree.set location node).node? other = tree.node? other := by
  simp only [FileTree.node?, FileTree.set, lookup_setNode_of_ne differs,
    any_setNode (fun entry => entry.isInside other)] at above ⊢
  cases inside : location.isInside other with
  | false => rfl
  | true =>
    have directory := above inside
    split
    · rfl
    · rename_i named
      rw [if_neg named] at directory
      cases found : tree.nodes.lookup other with
      | some => rfl
      | none =>
        rw [found] at directory
        simpa using directory

/-- To write a file is to change the content at one location. -/
theorem FileTree.write_eq_ok {tree after : FileTree} {path : Path} {content : List UInt8}
    (written : tree.write path content = .ok after) :
    ∃ location, tree.locate path = .ok location ∧ after.node? location = some (.file content) ∧
      (∀ other, other ≠ location → after.node? other = tree.node? other) ∧ after.access = tree.access := by
  unfold FileTree.write at written
  cases located : tree.locate path with
  | error => simp [located, bind, Except.bind] at written
  | ok location =>
    simp only [located, bind, Except.bind] at written
    split at written
    · cases written
    · rename_i notDirectory
      generalize (if (tree.node? location).isSome then location else location.leave) = changed at written
      split at written
      · cases written
        have named : location.names ≠ [] := by
          intro empty
          apply notDirectory
          simp [FileTree.node?, empty]
        refine ⟨location, rfl, FileTree.node?_set_self named _, fun other differs => ?_, rfl⟩
        exact FileTree.node?_set_of_ne differs (FileTree.locate_above located other) _
      · cases written

theorem mem_of_mem_fields {cut : Char → Bool} {text field : List Char} {c : Char}
    (isField : field ∈ fields cut text) (member : c ∈ field) : c ∈ text := by
  induction text generalizing field with
  | nil =>
    simp only [fields, List.mem_singleton] at isField
    subst field
    cases member
  | cons first rest ih =>
    unfold fields at isField
    split at isField
    · rcases List.mem_cons.mp isField with rfl | later
      · cases member
      · exact List.mem_cons_of_mem _ (ih later member)
    · split at isField
      · simp only [List.mem_singleton] at isField
        subst field
        exact List.mem_cons.mpr (Or.inl (List.mem_singleton.mp member))
      · rename_i found
        rcases List.mem_cons.mp isField with rfl | later
        · rcases List.mem_cons.mp member with rfl | inside
          · exact List.mem_cons_self
          · exact List.mem_cons_of_mem _ (ih (by simp [found]) inside)
        · exact List.mem_cons_of_mem _ (ih (by simp [found, later]) member)

theorem mem_intercalate {c mark : Char} {parts : List (List Char)} (member : c ∈ [mark].intercalate parts) :
    c = mark ∨ ∃ part ∈ parts, c ∈ part := by
  induction parts with
  | nil => cases member
  | cons part later ih =>
    cases later with
    | nil => exact Or.inr ⟨part, List.mem_singleton_self part, by simpa using member⟩
    | cons next parts =>
      rw [List.intercalate_cons_cons] at member
      simp only [List.mem_append, List.mem_singleton] at member
      rcases member with (inside | rfl) | later
      · exact Or.inr ⟨part, List.mem_cons_self, inside⟩
      · exact Or.inl rfl
      · exact (ih later).imp_right fun ⟨other, isPart, inside⟩ => ⟨other, List.mem_cons_of_mem _ isPart, inside⟩

/-- A path is written with the characters of its text, dots and slashes. -/
theorem Path.mem_text_ofText {text : List Char} {c : Char} (member : c ∈ (Path.ofText text).text) :
    c = '.' ∨ c = '/' ∨ c ∈ text := by
  unfold Path.text at member
  split at member
  · exact Or.inl (List.mem_singleton.mp member)
  · rcases List.mem_append.mp member with atStart | inNames
    · have slashes : ∀ start : PathStart, c ∈ start.text → c = '/' := by
        intro start
        cases start <;> simp [PathStart.text]
      exact Or.inr (Or.inl (slashes _ atStart))
    · rcases mem_intercalate inNames with slash | ⟨name, isName, inside⟩
      · exact Or.inr (Or.inl slash)
      · exact Or.inr (Or.inr (mem_of_mem_fields (List.mem_of_mem_filter isName) inside))

end QueryLayout
