import ComputeMesh.Lib.Text

/-!
# POSIX paths and a tree of files

An absolute path is the list of its components.  A text is read into components the way `PurePosixPath` does it: empty
components and single dots vanish, double dots stay.  A tree gives each path its directory, file or symbolic link.

* `parts_slash`, `parts_rstripSlash` — the components of a text with a slash in it;
* `resolve` — `Path.resolve()`, which follows links; `resolve_eq_self` — **a path on which no link lies resolves to itself**;
* `mkdirs`, `FileTree.put` — the changes, which make no link.
-/

namespace ComputeMesh.PosixPath

open ComputeMesh.Text List

/-- An absolute path, by its components. -/
abbrev Path := List String

/-- `PurePosixPath(text).is_absolute()`. -/
def isAbsolute (text : String) : Bool := startsWith text "/"

/-- Whether a component is kept. -/
def kept (c : String) : Bool := c != "" && c != "."

/-- `PurePosixPath(text).parts` of a text that is not absolute. -/
def parts (text : String) : List String := ((text.toList.splitOn '/').map String.ofList).filter kept

/-- `text.rstrip("/")`. -/
def rstripSlash (text : String) : String := String.ofList (text.toList.rdropWhile (· == '/'))

theorem parts_slash (a b : String) : parts (a ++ "/" ++ b) = parts a ++ parts b := by
  have hlist : (a ++ "/" ++ b).toList = a.toList ++ '/' :: b.toList := by simp
  rw [parts, hlist, splitOn_append_cons_self, map_append, filter_append]
  rfl

@[simp] theorem parts_empty : parts "" = [] := by decide

theorem parts_name {name : String} (hslash : '/' ∉ name.toList) (hkept : kept name = true) : parts name = [name] := by
  rw [parts, splitOn_eq_singleton hslash]
  simp [hkept]

theorem parts_append_slashes (a : String) (n : ℕ) : parts (a ++ String.ofList (List.replicate n '/')) = parts a := by
  induction n with
  | zero => simp
  | succ n ih =>
    have htext : a ++ String.ofList (replicate (n + 1) '/') = a ++ String.ofList (replicate n '/') ++ "/" ++ "" := by
      apply String.toList_inj.mp
      simp [replicate_succ']
    rw [htext, parts_slash, ih, parts_empty, append_nil]

@[simp] theorem parts_rstripSlash (text : String) : parts (rstripSlash text) = parts text := by
  have hsplit : text.toList = text.toList.rdropWhile (· == '/') ++ (text.toList.reverse.takeWhile (· == '/')).reverse := by
    rw [rdropWhile, ← reverse_append, takeWhile_append_dropWhile, reverse_reverse]
  have hslashes : (text.toList.reverse.takeWhile (· == '/')).reverse
      = replicate (text.toList.reverse.takeWhile (· == '/')).length '/' := by
    rw [eq_replicate_iff]
    refine ⟨length_reverse, ?_⟩
    intro c hc
    simpa using mem_takeWhile_imp (mem_reverse.mp hc)
  have htext : text
      = rstripSlash text ++ String.ofList (replicate (text.toList.reverse.takeWhile (· == '/')).length '/') := by
    apply String.toList_inj.mp
    rw [String.toList_append, rstripSlash, String.toList_ofList, String.toList_ofList, ← hslashes]
    exact hsplit
  calc parts (rstripSlash text) = parts (rstripSlash text
          ++ String.ofList (replicate (text.toList.reverse.takeWhile (· == '/')).length '/')) :=
        (parts_append_slashes _ _).symm
    _ = parts text := by rw [← htext]

/-! ### Directories that contain one another -/

/-- Neither directory contains the other. -/
def Apart (p q : Path) : Prop := ¬p <+: q ∧ ¬q <+: p

theorem apart_of_length {p q : Path} (hlength : p.length = q.length) (hne : p ≠ q) : Apart p q :=
  ⟨fun h => hne (h.eq_of_length hlength), fun h => hne (h.eq_of_length hlength.symm).symm⟩

/-! ### The tree -/

inductive Node
  | directory
  | file (data : List UInt8)
  | link (target : String)
  deriving DecidableEq

/-- What stands at each path; the root is a directory without being listed. -/
abbrev FileTree := Path → Option Node

namespace FileTree

/-- `Path.is_symlink()`. -/
def isLink (t : FileTree) (p : Path) : Bool :=
  match t p with
  | some (.link _) => true
  | _ => false

/-- `Path.exists()` of a path on which no link lies. -/
def isPresent (t : FileTree) (p : Path) : Bool := decide (p = []) || (t p).isSome

/-- The tree with this node at the path, or nothing. -/
def put (t : FileTree) (p : Path) (node : Option Node) : FileTree := fun q => if q = p then node else t q

variable {t : FileTree}

theorem isLink_put {p q : Path} {node : Option Node} (hnode : ∀ target, node ≠ some (.link target))
    (h : (t.put p node).isLink q = true) : t.isLink q = true := by
  unfold isLink put at h
  split at h
  · rename_i target hlink
    split at hlink
    · exact absurd hlink (hnode target)
    · simp [isLink, hlink]
  · cases h

/-- Where the components lead as far as no link is met: the place, or the link with what is left. -/
def walk (t : FileTree) : Path → List String → Path ⊕ (Path × String × String × List String)
  | place, [] => .inl place
  | place, c :: rest =>
    if c = ".." then walk t place.dropLast rest
    else
      match t (place ++ [c]) with
      | some (.link target) => .inr (place, c, target, rest)
      | _ => walk t (place ++ [c]) rest

/-- Follow at most so many links; a longer chain is a loop, and its path is left as it is. -/
def follow (t : FileTree) : ℕ → Path → List String → Path
  | 0, place, rest =>
    match t.walk place rest with
    | .inl found => found
    | .inr (at_, c, _, left) => at_ ++ c :: left
  | n + 1, place, rest =>
    match t.walk place rest with
    | .inl found => found
    | .inr (at_, _, target, left) => follow t n (if isAbsolute target then [] else at_) (parts target ++ left)

/-- `Path.resolve()`. -/
def resolve (t : FileTree) (p : Path) : Path := t.follow 40 [] p

/-- No link lies on the way from this directory along the components. -/
def Plain (t : FileTree) (dir : Path) (rest : List String) : Prop :=
  ∀ q, q <+: rest → q ≠ [] → t.isLink (dir ++ q) = false

theorem walk_eq {rest : List String} (hdots : ".." ∉ rest) (dir : Path) (h : t.Plain dir rest) :
    t.walk dir rest = .inl (dir ++ rest) := by
  induction rest generalizing dir with
  | nil => simp [walk]
  | cons c rest ih =>
    have hc : c ≠ ".." := fun hc => hdots (by simp [hc])
    have hhere : t.isLink (dir ++ [c]) = false := h [c] (by simp) (by simp)
    have hnext : t.Plain (dir ++ [c]) rest := by
      intro q hq hne
      have := h (c :: q) (cons_prefix_cons.mpr ⟨rfl, hq⟩) (by simp)
      simpa using this
    rw [walk, if_neg hc]
    split
    · rename_i target hlink
      simp [isLink, hlink] at hhere
    · rw [ih (fun hmem => hdots (by simp [hmem])) _ hnext]
      simp

/-- **A path on which no link lies resolves to itself.** -/
theorem resolve_eq_self {p : Path} (hdots : ".." ∉ p) (h : t.Plain [] p) : t.resolve p = p := by
  rw [resolve, follow, walk_eq hdots [] h]
  rfl

/-- `Path.mkdir(parents=True, exist_ok=True)`: nothing if something on the way is no directory. -/
def mkdirs (t : FileTree) : Path → List String → Option FileTree
  | _, [] => some t
  | place, c :: rest =>
    match t (place ++ [c]) with
    | none => mkdirs (t.put (place ++ [c]) (some .directory)) (place ++ [c]) rest
    | some .directory => mkdirs t (place ++ [c]) rest
    | some _ => none

theorem isLink_mkdirs {t' : FileTree} {place : Path} {rest : List String} (h : t.mkdirs place rest = some t')
    {q : Path} (hlink : t'.isLink q = true) : t.isLink q = true := by
  induction rest generalizing t place with
  | nil =>
    cases h
    exact hlink
  | cons c rest ih =>
    rw [mkdirs] at h
    split at h
    · exact isLink_put (by simp) (ih h)
    · exact ih h
    · cases h

end FileTree

end ComputeMesh.PosixPath
