import ClientGen.File.Tree
import ClientGen.Proofs.Success

/-!
# What writing leaves alone

Where a path leads is a matter of its names only: a walk through a tree may stop on the way, but if
it does not, it ends where the names say (`Path.target`).  So an operation on a path changes one
place, and the frame of an operation can be written down without a tree: the places whose files it
writes, and the places where it makes directories, which it does only where nothing stands.

Directories stay whatever is written, so a path that led somewhere before leads there afterwards.

## Main definitions

* `Path.target`, `Path.IsOnWay` — the place that a path leads to, and the places on the way.
* `Tree.Frame` — a tree after another one, save for files at some places and new directories at
  others.

## Main results

* `Tree.Frame.of_makeDirectories`, `Tree.write_spec` — what the operations change.
* `Tree.Frame.place_eq_ok` — paths lead where they led before.
-/

namespace ClientGen

/-- The place that a path leads to, if nothing stands in the way. -/
def Path.target (path : Path) : Place :=
  path.place.foldl Tree.step []

/-- The path leads to the place, or passes it. -/
def Path.IsOnWay (path : Path) (place : Place) : Prop :=
  ∃ names, names <+: path.names ∧ place = (Path.mk path.root names).target

namespace Tree

variable {tree before after : Tree} {place : Place} {path : Path}

/-! ## Places of paths -/

theorem eq_foldl_of_walk {names : List String} {start : Place}
    (h : tree.walk start names = .ok place) : place = names.foldl step start := by
  induction names generalizing start with
  | nil => exact (Except.ok.inj h).symm
  | cons name rest ih =>
    rw [walk] at h
    split at h
    · exact ih h
    · simp at h
    · simp at h

/-- **A path that leads somewhere leads where its names say.** -/
theorem eq_target_of_place (h : tree.place path = .ok place) : place = path.target :=
  eq_foldl_of_walk h

/-- A name that does not lead back is one step further. -/
theorem foldl_step_eq_append {names : List String} (h : ".." ∉ names) :
    names.foldl step place = place ++ names := by
  induction names generalizing place with
  | nil => simp
  | cons name rest ih =>
    obtain ⟨hname, hrest⟩ := not_or.1 (List.mem_cons.not.1 h)
    have hstep : step place name = place ++ [name] := if_pos (by simpa using Ne.symm hname)
    rw [List.foldl_cons, hstep, ih hrest, List.append_assoc, List.singleton_append]

/-- Below a directory, names that do not lead back are added to its place. -/
theorem target_join {directory inner : Path} (hroot : inner.root = "") (h : ".." ∉ inner.names) :
    (directory.join inner).target = directory.target ++ inner.names := by
  have hplace : (directory.join inner).place = directory.place ++ inner.names := by
    rw [Path.join, hroot, if_pos (by rfl), Path.place, Path.place]
    split <;> simp
  rw [Path.target, hplace, List.foldl_append, foldl_step_eq_append h]
  rfl

/-- Around the root there are directories only, so anything else that is put is found. -/
theorem node?_put (h : tree.node? place ≠ some .directory) (node : FileNode) (other : Place) :
    (tree.put place node).node? other = if other = place then some node else tree.node? other := by
  have hinner : isOuter place = false := by
    cases houter : isOuter place with
    | false => rfl
    | true => exact absurd (if_pos houter) h
  unfold node? put
  split
  · rename_i houter
    rw [if_neg]
    rintro rfl
    simp [hinner] at houter
  · split
    · rename_i heq
      rw [heq, Entries.lookup_put_self]
    · rename_i hne
      rw [Entries.lookup_put_of_ne hne]

/-- What is put where no directory stands leaves all directories alone. -/
theorem directory_put (h : tree.node? place ≠ some .directory) (node : FileNode) {other : Place}
    (hother : tree.node? other = some .directory) :
    (tree.put place node).node? other = some .directory := by
  rw [node?_put h, if_neg]
  · exact hother
  · rintro rfl
    exact h hother

/-! ## Frames -/

/-- The second tree is the first one, save for files that were written at some places and for
directories that were made at others, where nothing stood. -/
structure Frame (written made : Place → Prop) (before after : Tree) : Prop where
  directory : ∀ place, before.node? place = some .directory → after.node? place = some .directory
  node : ∀ place, ¬ written place → after.node? place = before.node? place ∨
    (made place ∧ before.node? place = none ∧ after.node? place = some .directory)

namespace Frame

variable {written made written' made' : Place → Prop}

theorem refl (tree : Tree) : Frame written made tree tree where
  directory _ h := h
  node _ _ := .inl rfl

theorem trans {middle : Tree} (h : Frame written made before middle)
    (h' : Frame written made middle after) : Frame written made before after where
  directory place hplace := h'.directory place (h.directory place hplace)
  node place hplace := by
    rcases h'.node place hplace with hsame' | ⟨hmade', hnone', hdirectory'⟩
    · rw [hsame']
      exact h.node place hplace
    · rcases h.node place hplace with hsame | ⟨-, -, hdirectory⟩
      · exact .inr ⟨hmade', hsame ▸ hnone', hdirectory'⟩
      · rw [hnone'] at hdirectory
        simp at hdirectory

theorem mono (h : Frame written made before after)
    (hwritten : ∀ place, written place → written' place)
    (hmade : ∀ place, made place → made' place) : Frame written' made' before after where
  directory := h.directory
  node place hplace :=
    (h.node place fun hold => hplace (hwritten place hold)).imp_right fun hnew =>
      ⟨hmade place hnew.1, hnew.2⟩

/-- A file that nothing is written over stays. -/
theorem file {bytes : List UInt8} (h : Frame written made before after) (hplace : ¬ written place)
    (hfile : before.node? place = some (.file bytes)) : after.node? place = some (.file bytes) := by
  rcases h.node place hplace with hsame | ⟨-, hnone, -⟩
  · rw [hsame, hfile]
  · rw [hfile] at hnone
    simp at hnone

theorem walk_eq_ok (h : Frame written made before after) {start : Place} {names : List String}
    (hwalk : before.walk start names = .ok place) : after.walk start names = .ok place := by
  induction names generalizing start with
  | nil => exact hwalk
  | cons name rest ih =>
    rw [walk] at hwalk ⊢
    cases hnode : before.node? start with
    | none => simp [hnode] at hwalk
    | some node =>
      cases node with
      | file bytes => simp [hnode] at hwalk
      | directory =>
        rw [hnode] at hwalk
        rw [h.directory start hnode]
        exact ih hwalk

/-- **A path leads where it led before.** -/
theorem place_eq_ok (h : Frame written made before after) (hplace : before.place path = .ok place) :
    after.place path = .ok place :=
  h.walk_eq_ok hplace

/-- A directory that is made stands where the path leads, and nothing stood there. -/
theorem of_makeDirectory (h : tree.makeDirectory path = .ok after) :
    Frame (fun _ => False) (· = path.target) tree after := by
  unfold makeDirectory at h
  cases hplace : tree.place path with
  | error obstacle => simp [hplace] at h
  | ok place =>
    obtain rfl := eq_target_of_place hplace
    simp only [hplace] at h
    cases hnode : tree.node? path.target with
    | none =>
      simp only [hnode, Except.ok.injEq] at h
      subst h
      have hne : tree.node? path.target ≠ some .directory := by simp [hnode]
      -- The only place that changes is the one that held nothing before.
      refine ⟨fun _ hdirectory => directory_put hne _ hdirectory, fun place _ => ?_⟩
      rw [node?_put hne]
      split
      · rename_i heq
        exact .inr ⟨heq, heq ▸ hnode, rfl⟩
      · exact .inl rfl
    | some node =>
      cases node with
      | file bytes => simp [hnode] at h
      | directory =>
        simp only [hnode, Except.ok.injEq] at h
        subst h
        exact refl tree

/-- Making a directory and those around it makes no others. -/
theorem of_makeAll {root : String} {names : List String}
    (h : tree.makeAll root names = .ok after) :
    Frame (fun _ => False) (Path.mk root names.reverse).IsOnWay tree after := by
  induction names generalizing after with
  | nil =>
    obtain rfl := Except.ok.inj h
    exact refl tree
  | cons name outer ih =>
    have hself : ∀ {first last : Tree},
        first.makeDirectory ⟨root, (name :: outer).reverse⟩ = .ok last →
        Frame (fun _ => False) (Path.mk root (name :: outer).reverse).IsOnWay first last :=
      fun hmake => (of_makeDirectory hmake).mono (fun _ h => h)
        fun _ hplace => ⟨_, List.prefix_rfl, hplace⟩
    unfold makeAll at h
    dsimp only at h
    split at h
    · -- A directory around it is missing, so that is made first.
      obtain ⟨middle, hmiddle, hlast⟩ := bind_eq_ok.1 h
      refine ((ih hmiddle).mono (fun _ h => h) ?_).trans (hself hlast)
      rintro place ⟨names, hnames, hplace⟩
      refine ⟨names, hnames.trans ?_, hplace⟩
      rw [List.reverse_cons]
      exact List.prefix_append _ _
    · exact hself h

/-- **The directories that are made lie on the way of the path**, and nothing stood there. -/
theorem of_makeDirectories (h : tree.makeDirectories path = .ok after) :
    Frame (fun _ => False) path.IsOnWay tree after := by
  have hframe := of_makeAll h
  rwa [List.reverse_reverse] at hframe

end Frame

/-- **A file that is written stands where the path leads**, and nothing else changes. -/
theorem write_spec {text : String} (h : tree.write path text = .ok after) :
    Frame (· = path.target) (fun _ => False) tree after ∧
      after.place path = .ok path.target ∧
      after.node? path.target = some (.file (encode text)) := by
  unfold write at h
  cases hplace : tree.place path with
  | error obstacle => simp [hplace] at h
  | ok place =>
    obtain rfl := eq_target_of_place hplace
    simp only [hplace] at h
    split at h
    · simp at h
    · rename_i hnot
      obtain rfl := Except.ok.inj h
      have hnode : tree.node? path.target ≠ some .directory := by simpa [isDirectory] using hnot
      have hput := node?_put hnode (.file (encode text))
      have hframe : Frame (· = path.target) (fun _ => False) tree
          (tree.put path.target (.file (encode text))) :=
        ⟨fun _ hdirectory => directory_put hnode _ hdirectory,
          fun place hne => .inl (by rw [hput, if_neg hne])⟩
      exact ⟨hframe, hframe.place_eq_ok hplace, by rw [hput, if_pos rfl]⟩

/-- The bytes of a file that a path leads to. -/
theorem bytes_eq_ok {bytes : List UInt8} (hplace : tree.place path = .ok place)
    (hnode : tree.node? place = some (.file bytes)) : tree.bytes path = .ok bytes := by
  rw [Tree.bytes, hplace]
  simp only [hnode]

/-- What can be read is there. -/
theorem contains_of_bytes {bytes : List UInt8} (h : tree.bytes path = .ok bytes) :
    tree.contains path = true := by
  unfold Tree.bytes at h
  unfold contains
  split at h
  · simp at h
  · rename_i hplace
    rw [hplace]
    split at h <;> simp_all

end Tree

end ClientGen
