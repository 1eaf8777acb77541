import ClientGen.Generation.Delivery
import ClientGen.Proofs.File.Tree
import ClientGen.Proofs.Text.Code

/-!
# Where generated files go

The files of a manifest are written below a directory.  Each of them goes to a place of its own
below that of the directory, if its path is local: relative, and without a step back.  Then nothing
but these places is written to, whatever the tree and the directory are, and wherever writing stops;
on the way to the directory only directories are made.  And if writing does not stop, every file is
there at the end with its content, as none of the files behind it is written over it.

## Main definitions

* `Path.IsLocal` — a text is the path of a file below any directory.
* `Path.Encloses` — the places inside a directory.
* `Manifest.IsLocal` — all files have local paths, each its own.

## Main results

* `Manifest.IsLocal.frame_of_write` — nothing is written elsewhere.
* `Manifest.IsLocal.bytes_of_write` — what has been written is there.
-/

namespace ClientGen

/-- The text is the path of a file below any directory, written as paths are. -/
structure Path.IsLocal (path : String) : Prop where
  root : (Path.ofText path).root = ""
  names : (Path.ofText path).names ≠ []
  up : ".." ∉ (Path.ofText path).names
  text : (Path.ofText path).text = path

/-- The place of a local path below a directory. -/
def Path.below (directory : Path) (path : String) : Place :=
  directory.target ++ (Path.ofText path).names

/-- The place lies inside the directory. -/
def Path.Encloses (directory : Path) (place : Place) : Prop :=
  ∃ names, names ≠ [] ∧ ".." ∉ names ∧ place = directory.target ++ names

namespace Path

variable {directory : Path} {path other : String}

theorem ofText_of_not_mem (hslash : '/' ∉ path.toList) (hempty : path ≠ "") (hhere : path ≠ ".") :
    ofText path = ⟨"", [path]⟩ := by
  have hroot : rootOf path.toList = "" := by
    have hnone : path.toList.takeWhile (· == '/') = [] := by
      cases hchars : path.toList with
      | nil => rfl
      | cons c rest =>
        rw [hchars] at hslash
        have hne : c ≠ '/' := by
          rintro rfl
          exact hslash List.mem_cons_self
        simp [hne]
    rw [rootOf, hnone]
    rfl
  rw [ofText, hroot, Text.pieces_of_not_mem hslash]
  simp [hempty, hhere]

/-- A text without a slash is the path of a file, if it is a name of its own. -/
theorem isLocal_of_not_mem (hslash : '/' ∉ path.toList) (hempty : path ≠ "") (hhere : path ≠ ".")
    (hup : path ≠ "..") : IsLocal path := by
  have hpath := ofText_of_not_mem hslash hempty hhere
  constructor
  · rw [hpath]
  · simp [hpath]
  · simpa [hpath] using Ne.symm hup
  · rw [hpath]
    exact String.empty_append

theorem IsLocal.encloses_below (h : IsLocal path) : directory.Encloses (directory.below path) :=
  ⟨_, h.names, h.up, rfl⟩

theorem IsLocal.target_join (h : IsLocal path) :
    (directory.join (.ofText path)).target = directory.below path :=
  Tree.target_join h.root h.up

/-- Local paths lead to different places. -/
theorem IsLocal.below_injective (h : IsLocal path) (h' : IsLocal other)
    (heq : directory.below path = directory.below other) : path = other := by
  have hnames : (Path.ofText path).names = (Path.ofText other).names :=
    List.append_cancel_left heq
  rw [← h.text, ← h'.text, Path.text, Path.text, h.root, h'.root, hnames]

/-- On the way to a file below a directory lies what lies on the way to the directory, and after
that places below it. -/
theorem IsLocal.isOnWay_parent (h : IsLocal path) {place : Place}
    (hplace : (directory.join (.ofText path)).parent.IsOnWay place) :
    directory.IsOnWay place ∨ directory.Encloses place := by
  obtain ⟨names, hnames, hplace⟩ := hplace
  have hjoin : directory.join (.ofText path)
      = ⟨directory.root, directory.names ++ (Path.ofText path).names⟩ := by
    rw [join, h.root, if_pos (by rfl)]
  rw [hjoin] at hnames hplace
  replace hnames : names <+: directory.names ++ (Path.ofText path).names :=
    hnames.trans (List.dropLast_prefix _)
  -- The place is on the way to the directory, or it lies in it.
  rcases List.prefix_or_prefix_of_prefix hnames (List.prefix_append _ _) with hshort | ⟨more, rfl⟩
  · exact .inl ⟨names, hshort, hplace⟩
  · have hmore : more <+: (Path.ofText path).names := (List.prefix_append_right_inj _).1 hnames
    have hup : ".." ∉ more := fun hmem => h.up (hmore.subset hmem)
    have hinner : (directory.join ⟨"", more⟩).target = directory.target ++ more :=
      Tree.target_join rfl hup
    have htarget : place = directory.target ++ more := hplace.trans hinner
    by_cases hnil : more = []
    · refine .inl ⟨directory.names, List.prefix_rfl, ?_⟩
      rw [htarget, hnil, List.append_nil]
    · exact .inr ⟨more, hnil, hup, htarget⟩

end Path

namespace Manifest

/-- All files have local paths, and no two of them the same. -/
structure IsLocal (manifest : Manifest) : Prop where
  paths : ∀ path ∈ manifest.paths, Path.IsLocal path
  nodup : manifest.paths.Nodup

variable {manifest : Manifest} {tree after : Tree} {directory : Path} {place : Place}

/-- What is written when some files are. -/
def Writes (directory : Path) (files : List (String × String)) (place : Place) : Prop :=
  ∃ file ∈ files, place = directory.below file.1

/-- Directories are made on the way to a directory and below it. -/
def Makes (directory : Path) (place : Place) : Prop :=
  directory.IsOnWay place ∨ directory.Encloses place

/-- Making the directory of a file makes none elsewhere. -/
theorem frame_of_makeDirectories {path : String} {files : List (String × String)}
    (h : Path.IsLocal path)
    (hmake : tree.makeDirectories (directory.join (.ofText path)).parent = .ok after) :
    Tree.Frame (Writes directory files) (Makes directory) tree after :=
  (Tree.Frame.of_makeDirectories hmake).mono (fun _ h => h.elim) fun _ hplace =>
    h.isOnWay_parent hplace

/-- Writing a file of a list. -/
theorem frame_of_write {file : String × String} {files : List (String × String)}
    (h : Path.IsLocal file.1) (hmem : file ∈ files)
    (hwrite : tree.write (directory.join (.ofText file.1)) file.2 = .ok after) :
    Tree.Frame (Writes directory files) (Makes directory) tree after := by
  refine (Tree.write_spec hwrite).1.mono (fun place hplace => ?_) fun _ h => h.elim
  exact ⟨file, hmem, hplace.trans h.target_join⟩

/-- **Writing local files writes nothing elsewhere**, wherever it stops. -/
theorem frame_of_writeFiles {files all : List (String × String)}
    (h : ∀ file ∈ files, Path.IsLocal file.1 ∧ file ∈ all) :
    Tree.Frame (Writes directory all) (Makes directory) tree
      (writeFiles directory tree files).1 := by
  induction files generalizing tree with
  | nil => exact .refl tree
  | cons file rest ih =>
    obtain ⟨⟨hlocal, hmem⟩, hrest⟩ := List.forall_mem_cons.1 h
    unfold writeFiles
    dsimp only
    split
    · exact .refl tree
    · rename_i made hmade
      have hdirectories : Tree.Frame (Writes directory all) (Makes directory) tree made :=
        frame_of_makeDirectories hlocal hmade
      split
      · exact hdirectories
      · rename_i written hwritten
        exact (hdirectories.trans (frame_of_write hlocal hmem hwritten)).trans (ih hrest)

/-- **Local files that have been written are there.** -/
theorem writeFiles_spec {files : List (String × String)}
    (hlocal : ∀ file ∈ files, Path.IsLocal file.1) (hnodup : (Entries.keys files).Nodup)
    (h : writeFiles directory tree files = (after, none)) {file : String × String}
    (hmem : file ∈ files) :
    after.place (directory.join (.ofText file.1)) = .ok (directory.below file.1) ∧
      after.node? (directory.below file.1) = some (.file (Tree.encode file.2)) := by
  induction files generalizing tree with
  | nil => simp at hmem
  | cons first rest ih =>
    obtain ⟨hfirst, hrest⟩ := List.forall_mem_cons.1 hlocal
    obtain ⟨hfresh, hothers⟩ := List.nodup_cons.1 hnodup
    unfold writeFiles at h
    dsimp only at h
    split at h
    · simp at h
    · split at h
      · simp at h
      · rename_i written hwritten
        rcases List.mem_cons.1 hmem with rfl | hmem
        · obtain ⟨-, hplace, hnode⟩ := Tree.write_spec hwritten
          rw [hfirst.target_join] at hplace hnode
          have hframe : Tree.Frame (Writes directory rest) (Makes directory) written
              (writeFiles directory written rest).1 :=
            frame_of_writeFiles fun other hother => ⟨hrest other hother, hother⟩
          rw [h] at hframe
          refine ⟨hframe.place_eq_ok hplace, hframe.file ?_ hnode⟩
          rintro ⟨other, hother, heq⟩
          have hsame := hfirst.below_injective (hrest other hother) heq
          exact hfresh (List.mem_map.2 ⟨other, hother, hsame.symm⟩)
        · exact ih hrest hothers h hmem

theorem mem_files {file : String × String} : file ∈ manifest.files ↔ file ∈ manifest.entries :=
  (List.mergeSort_perm _ _).mem_iff

theorem IsLocal.of_mem_files (h : manifest.IsLocal) {file : String × String}
    (hmem : file ∈ manifest.files) : Path.IsLocal file.1 :=
  h.paths _ (List.mem_map.2 ⟨file, hmem, rfl⟩)

/-- **Nothing is written elsewhere**: whatever stands at a place that is none of the files' stays,
and where nothing stood there is nothing, or a directory on the way to a file. -/
theorem IsLocal.frame_of_write (h : manifest.IsLocal) (tree : Tree) (directory : Path) :
    Tree.Frame (Writes directory manifest.files) (Makes directory) tree
      (manifest.write tree directory).1 :=
  frame_of_writeFiles fun _ hmem => ⟨h.of_mem_files hmem, hmem⟩

/-- **What has been written is there**, below the directory and with its content. -/
theorem IsLocal.bytes_of_write (h : manifest.IsLocal)
    (hwrite : manifest.write tree directory = (after, none)) {file : String × String}
    (hmem : file ∈ manifest.files) :
    after.place (directory.join (.ofText file.1)) = .ok (directory.below file.1) ∧
      after.bytes (directory.join (.ofText file.1)) = .ok (Tree.encode file.2) := by
  obtain ⟨hplace, hnode⟩ :=
    writeFiles_spec (fun other hother => h.of_mem_files hother) h.nodup hwrite hmem
  exact ⟨hplace, Tree.bytes_eq_ok hplace hnode⟩

end Manifest

end ClientGen
