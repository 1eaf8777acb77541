import ClientGen.Proofs.File.Text
import ClientGen.Proofs.File.Tree
import ClientGen.Proofs.Json.Limits
import ClientGen.Proofs.Model.Form
import ClientGen.Source.Basic

/-!
# What loading a model from a file can end in

Whoever loads a model is promised the model, a fault in words, or that nothing stands at the path.
The promise is kept for directories, for files without JSON, for documents that are no objects, and
for objects of the form of a document, whatever their texts mean.  It is broken in four ways: names
that are too long, bytes that are no text, texts beyond the limits of the reader, and nodes of a
kind that cannot be read where they stand, end loading without words.

## Main definitions

* `Source.IsPromised` — an outcome that was promised.
* `Source.IsUndecodable`, `Source.Exceeds`, `Source.Holds` — what stands at a path.

## Main results

* `loadModel_outcome` — what loading a model from a file can end in, and when.
-/

namespace ClientGen

namespace Source

/-- A model, a fault of the source in words, or nothing at the path. -/
def IsPromised (outcome : Except Failure Model) : Prop :=
  ∀ failure, outcome = .error failure →
    (∃ path, failure = .fileNotFound path) ∨ ∃ fault, failure = .source fault

/-- A file stands at the path whose bytes are no text. -/
def IsUndecodable (tree : Tree) (path : Path) : Prop :=
  ∃ bytes, tree.bytes path = .ok bytes ∧ Tree.textOf bytes = .error .encoding

/-- A file stands at the path whose text goes beyond the limits of the reader. -/
def Exceeds (limits : Json.Limits) (tree : Tree) (path : Path) (excess : Json.Excess) : Prop :=
  ∃ bytes text, tree.bytes path = .ok bytes ∧ Tree.textOf bytes = .ok text ∧
    Json.parse text limits = .error (.excess excess)

/-- A file stands at the path whose text is that of a document. -/
def Holds (tree : Tree) (path : Path) (document : Json) : Prop :=
  ∃ bytes text, tree.bytes path = .ok bytes ∧ Tree.textOf bytes = .ok text ∧
    Json.parse text = .ok document

variable {tree : Tree} {path : Path} {limits : Limits}

/-! ## Files -/

theorem textOf_eq_error {bytes : List UInt8} {value : Malformed}
    (h : Tree.textOf bytes = .error value) : value = .encoding := by
  rcases bind_eq_error.1 h with h | ⟨_, -, h⟩
  · unfold Tree.decode at h
    split at h
    · cases h
    · exact (Except.error.inj h).symm
  · exact absurd h pure_ne_error

theorem readFile_of_isTooLong (h : tree.isTooLong limits.names path = true) :
    readFile tree path limits = .error (.malformed .content) := by
  rw [readFile, h]
  rfl

section

variable (hshort : tree.isTooLong limits.names path = false)

include hshort

theorem readFile_of_not_contains (h : tree.contains path = false) :
    readFile tree path limits = .error (.fileNotFound path.text) := by
  rw [readFile, hshort, h]
  rfl

theorem readFile_of_unreadable {fault : FileFault} (hthere : tree.contains path = true)
    (h : tree.bytes path = .error fault) :
    readFile tree path limits = .error (.source (.unreadable path.text fault)) := by
  rw [readFile, hshort, hthere]
  simp [h, throw_eq_error]

theorem readFile_of_isUndecodable (h : IsUndecodable tree path) :
    readFile tree path limits = .error (.malformed .encoding) := by
  obtain ⟨bytes, hbytes, htext⟩ := h
  rw [readFile, hshort, Tree.contains_of_bytes hbytes]
  simp [bind, Except.bind, hbytes, htext, formed, Except.mapError]

/-- A text is read, and what it holds must be an object. -/
theorem readFile_of_text {bytes : List UInt8} {text : String} (hbytes : tree.bytes path = .ok bytes)
    (htext : Tree.textOf bytes = .ok text) :
    readFile tree path limits = match Json.parse text limits.text with
      | .error (.fault fault) => .error (.source (.badSyntax path.text fault))
      | .error (.excess excess) => .error (.malformed excess.malformed)
      | .ok document => expectObject document path.text := by
  rw [readFile, hshort, Tree.contains_of_bytes hbytes]
  rcases hparse : Json.parse text limits.text with (fault | excess) | document <;>
    simp [bind, Except.bind, hbytes, htext, hparse, formed, Except.mapError, throw_eq_error]

theorem readFile_of_exceeds {excess : Json.Excess} (h : Exceeds limits.text tree path excess) :
    readFile tree path limits = .error (.malformed excess.malformed) := by
  obtain ⟨bytes, text, hbytes, htext, hparse⟩ := h
  rw [readFile_of_text hshort hbytes htext, hparse]

theorem readFile_of_holds {document : Json} (h : Holds tree path document)
    (hwithin : ∀ excess, ¬ Exceeds limits.text tree path excess) :
    readFile tree path limits = expectObject document path.text := by
  obtain ⟨bytes, text, hbytes, htext, hparse⟩ := h
  rw [readFile_of_text hshort hbytes htext]
  rcases Json.parse_limits text limits.text with hsame | ⟨excess, hexcess⟩
  · rw [hsame, hparse]
  · exact absurd ⟨bytes, text, hbytes, htext, hexcess⟩ (hwithin excess)

/-- **What reading a file ends in**: an object that it holds, or a failure, which has words unless
the bytes are no text or the text exceeds the limits. -/
theorem readFile_cases (h : tree.contains path = true) :
    (∃ fields, Holds tree path (.obj fields) ∧ ∀ excess, ¬ Exceeds limits.text tree path excess) ∨
    (∃ fault, readFile tree path limits = .error (.source fault)) ∨
    IsUndecodable tree path ∨ ∃ excess, Exceeds limits.text tree path excess := by
  cases hbytes : tree.bytes path with
  | error fault => exact .inr (.inl ⟨_, readFile_of_unreadable hshort h hbytes⟩)
  | ok bytes =>
    cases htext : Tree.textOf bytes with
    | error value =>
      obtain rfl := textOf_eq_error htext
      exact .inr (.inr (.inl ⟨bytes, hbytes, htext⟩))
    | ok text =>
      by_cases hexcess : ∃ excess, Exceeds limits.text tree path excess
      · exact .inr (.inr (.inr hexcess))
      have hwithin := not_exists.1 hexcess
      have hread := readFile_of_text hshort hbytes htext
      rcases Json.parse_limits text limits.text with hsame | ⟨excess, hparse⟩
      · cases hparse : Json.parse text with
        | ok document =>
          have hholds : Holds tree path document := ⟨bytes, text, hbytes, htext, hparse⟩
          cases document with
          | obj fields => exact .inl ⟨fields, hholds, hwithin⟩
          | _ => exact .inr (.inl ⟨_, readFile_of_holds hshort hholds hwithin⟩)
        | error refusal =>
          rw [hsame, hparse] at hread
          cases refusal with
          | fault fault => exact .inr (.inl ⟨_, hread⟩)
          | excess excess =>
            exact absurd ⟨bytes, text, hbytes, htext, hsame.trans hparse⟩ (hwithin excess)
      · exact absurd ⟨bytes, text, hbytes, htext, hparse⟩ (hwithin excess)

end

end Source

/-! ## Models -/

section

variable {tree : Tree} {network : Network} {source : String} {limits : Source.Limits}
  {fields : List (String × Json)} (hlocal : Source.isRemote source = false)

include hlocal

theorem loadModel_of_error {failure : Failure}
    (h : Source.readFile tree (.ofText source) limits = .error failure) :
    loadModel tree network source limits = .error failure := by
  have hdocument : Source.document tree network source limits = .error failure := by
    rw [Source.document, hlocal, if_neg Bool.false_ne_true, h]
  exact bind_eq_error.2 (.inl hdocument)

/-- A fault of a model names its source. -/
theorem loadModel_of_readFile
    (h : Source.readFile tree (.ofText source) limits = .ok fields) :
    loadModel tree network source limits = match Model.ofDocument (.obj fields) with
      | .error (.model fault) => .error (.source (.invalidModel source fault))
      | result => result := by
  have hdocument : Source.document tree network source limits = .ok fields := by
    rw [Source.document, hlocal, if_neg Bool.false_ne_true, h]
  rw [loadModel, hdocument]
  rfl

/-- The model in a file that can be read. -/
theorem loadModel_of_file {model : Model} {bytes : List UInt8} {text : String}
    (hshort : tree.isTooLong limits.names (.ofText source) = false)
    (hbytes : tree.bytes (.ofText source) = .ok bytes) (htext : Tree.textOf bytes = .ok text)
    (hparse : Json.parse text limits.text = .ok (.obj fields))
    (hmodel : Model.ofDocument (.obj fields) = .ok model) :
    loadModel tree network source limits = .ok model := by
  have hread : Source.readFile tree (.ofText source) limits = .ok fields := by
    rw [Source.readFile_of_text hshort hbytes htext, hparse]
    rfl
  rw [loadModel_of_readFile hlocal hread, hmodel]

section

variable (hshort : tree.isTooLong limits.names (.ofText source) = false)

include hshort

variable (network) in
/-- **An object is loaded as its form allows**: a model has the form of a document, and what has not
this form ends in a fault of the model or without words. -/
theorem loadModel_cases (h : Source.Holds tree (.ofText source) (.obj fields))
    (hwithin : ∀ excess, ¬ Source.Exceeds limits.text tree (.ofText source) excess) :
    (∃ model, loadModel tree network source limits = .ok model ∧ Document.IsDocument fields) ∨
    (∃ fault, loadModel tree network source limits
      = .error (.source (.invalidModel source fault))) ∨
    ∃ value, loadModel tree network source limits = .error (.malformed value) ∧
      ¬ Document.IsDocument fields := by
  rw [loadModel_of_readFile hlocal (Source.readFile_of_holds hshort h hwithin)]
  have hreads := Document.reads_ofDocument fields
  generalize Model.ofDocument (.obj fields) = result at hreads
  cases hreads with
  | ok hform model => exact .inl ⟨model, rfl, hform⟩
  | model fault => exact .inr (.inl ⟨fault, rfl⟩)
  | malformed hform value => exact .inr (.inr ⟨value, rfl, hform⟩)

variable (network) in
/-- Where something stands, loading ends as promised, or without words for one of three reasons. -/
theorem loadModel_of_contains (h : tree.contains (.ofText source) = true) :
    (∃ model, loadModel tree network source limits = .ok model) ∨
    (∃ fault, loadModel tree network source limits = .error (.source fault)) ∨
    ∃ value, loadModel tree network source limits = .error (.malformed value) ∧
      (Source.IsUndecodable tree (.ofText source) ∨
        (∃ excess, Source.Exceeds limits.text tree (.ofText source) excess) ∨
        ∃ fields, Source.Holds tree (.ofText source) (.obj fields) ∧
          ¬ Document.IsDocument fields) := by
  rcases Source.readFile_cases hshort h with
    ⟨fields, hholds, hwithin⟩ | ⟨fault, hread⟩ | hbytes | ⟨excess, hexcess⟩
  · rcases loadModel_cases network hlocal hshort hholds hwithin with
      ⟨model, hloaded, -⟩ | ⟨fault, hloaded⟩ | ⟨value, hloaded, hform⟩
    · exact .inl ⟨model, hloaded⟩
    · exact .inr (.inl ⟨_, hloaded⟩)
    · exact .inr (.inr ⟨value, hloaded, .inr (.inr ⟨fields, hholds, hform⟩)⟩)
  · exact .inr (.inl ⟨fault, loadModel_of_error hlocal hread⟩)
  · exact .inr (.inr ⟨_, loadModel_of_error hlocal
      (Source.readFile_of_isUndecodable hshort hbytes), .inl hbytes⟩)
  · exact .inr (.inr ⟨_, loadModel_of_error hlocal
      (Source.readFile_of_exceeds hshort hexcess), .inr (.inl ⟨excess, hexcess⟩)⟩)

variable (network) in
/-- Loading keeps the promise if none of the reasons holds. -/
theorem isPromised_loadModel (hdecodable : ¬ Source.IsUndecodable tree (.ofText source))
    (hwithin : ∀ excess, ¬ Source.Exceeds limits.text tree (.ofText source) excess)
    (hform : ∀ fields, Source.Holds tree (.ofText source) (.obj fields) →
      Document.IsDocument fields) :
    Source.IsPromised (loadModel tree network source limits) := by
  intro failure hfailure
  by_cases hthere : tree.contains (.ofText source) = true
  · rcases loadModel_of_contains network hlocal hshort hthere with
      ⟨model, hloaded⟩ | ⟨fault, hloaded⟩ |
        ⟨value, -, hbytes | ⟨excess, hexcess⟩ | ⟨fields, hholds, hnot⟩⟩
    · cases hfailure.symm.trans hloaded
    · exact .inr ⟨fault, Except.error.inj (hfailure.symm.trans hloaded)⟩
    · exact absurd hbytes hdecodable
    · exact absurd hexcess (hwithin excess)
    · exact absurd (hform fields hholds) hnot
  · rw [Bool.not_eq_true] at hthere
    have hmissing : loadModel tree network source limits = _ :=
      loadModel_of_error hlocal (Source.readFile_of_not_contains hshort hthere)
    exact .inl ⟨_, Except.error.inj (hfailure.symm.trans hmissing)⟩

end

variable (tree network limits) in
/-- **Nothing is found** exactly if nothing stands at the path and no name is too long. -/
theorem loadModel_fileNotFound_iff :
    (∃ missing, loadModel tree network source limits = .error (.fileNotFound missing)) ↔
      tree.isTooLong limits.names (.ofText source) = false ∧
        tree.contains (.ofText source) = false := by
  constructor
  · rintro ⟨missing, hfound⟩
    cases hshort : tree.isTooLong limits.names (.ofText source) with
    | true =>
      cases hfound.symm.trans (loadModel_of_error hlocal (Source.readFile_of_isTooLong hshort))
    | false =>
      refine ⟨rfl, ?_⟩
      rw [← Bool.not_eq_true]
      intro hthere
      rcases loadModel_of_contains network hlocal hshort hthere with
        ⟨model, hloaded⟩ | ⟨fault, hloaded⟩ | ⟨value, hloaded, -⟩ <;>
        cases hfound.symm.trans hloaded
  · rintro ⟨hshort, hmissing⟩
    exact ⟨_, loadModel_of_error hlocal (Source.readFile_of_not_contains hshort hmissing)⟩

end

/-- **What loading a model from a file ends in**, for a reader and a system with any limits.
Nothing is found exactly if nothing stands at the path and no name on the way is too long.  The
outcome is one that was promised unless a name is too long, the bytes are no text, the text goes
beyond the limits, or the document lacks the form of one.  The first three of these always end
loading without words; a document without the form is never a model, but ends loading with a fault
of the model or without words. -/
theorem loadModel_outcome (tree : Tree) (network : Network) (limits : Source.Limits)
    {source : String} (hlocal : Source.isRemote source = false) :
    let path := Path.ofText source
    let outcome := loadModel tree network source limits
    ((∃ missing, outcome = .error (.fileNotFound missing)) ↔
      tree.isTooLong limits.names path = false ∧ tree.contains path = false) ∧
    (tree.isTooLong limits.names path = true → outcome = .error (.malformed .content)) ∧
    (tree.isTooLong limits.names path = false →
      (¬ Source.IsUndecodable tree path →
        (∀ excess, ¬ Source.Exceeds limits.text tree path excess) →
        (∀ fields, Source.Holds tree path (.obj fields) → Document.IsDocument fields) →
        Source.IsPromised outcome) ∧
      (Source.IsUndecodable tree path → outcome = .error (.malformed .encoding)) ∧
      (∀ excess, Source.Exceeds limits.text tree path excess →
        outcome = .error (.malformed excess.malformed)) ∧
      ((∀ excess, ¬ Source.Exceeds limits.text tree path excess) →
        ∀ fields, Source.Holds tree path (.obj fields) → ¬ Document.IsDocument fields →
          (∃ fault, outcome = .error (.source (.invalidModel source fault))) ∨
          ∃ value, outcome = .error (.malformed value))) := by
  intro path outcome
  refine ⟨loadModel_fileNotFound_iff tree network limits hlocal, fun h =>
    loadModel_of_error hlocal (Source.readFile_of_isTooLong h), fun hshort =>
    ⟨isPromised_loadModel network hlocal hshort, fun h => ?_, fun excess h => ?_, ?_⟩⟩
  · exact loadModel_of_error hlocal (Source.readFile_of_isUndecodable hshort h)
  · exact loadModel_of_error hlocal (Source.readFile_of_exceeds hshort h)
  · intro hwithin fields hholds hnot
    rcases loadModel_cases network hlocal hshort hholds hwithin with
      ⟨model, -, hform⟩ | hfault | ⟨value, hloaded, -⟩
    · exact absurd hform hnot
    · exact .inl hfault
    · exact .inr ⟨value, hloaded⟩

namespace Source.Sample

/-- A document with a shape that is null. -/
def document : List (String × Json) :=
  [("shapes", .obj [("a#S", .null)])]

def text : String := "\x7b\"shapes\": \x7b\"a#S\": null\x7d\x7d"

/-- Its file, one whose bytes are no text, and one with brackets within brackets. -/
def tree : Tree where
  nodes := [(["m.json"], .file (Tree.encode text)), (["bytes.json"], .file [0xff]),
    (["deep.json"], .file (Tree.encode "[[]]"))]

def offline : Network := fun _ => .disconnected

/-- Limits that take one bracket at a time. -/
def narrow : Limits where
  text := { depth := some 1 }

theorem readFile_document : readFile tree (.ofText "m.json") = .ok document := by
  have hpath : Path.ofText "m.json" = ⟨"", ["m.json"]⟩ := by decide
  have hbytes : tree.bytes (.ofText "m.json") = .ok (Tree.encode text) := by
    rw [hpath]
    rfl
  have htext : Tree.textOf (Tree.encode text) = .ok text := Tree.textOf_encode (by decide)
  have hparse : Json.parse text { digits := some 4300, depth := some 980 }
      = .ok (.obj document) := by
    rw [Json.parse, text]
    simp only [String.reduceToList]
    rfl
  rw [readFile_of_text (by decide) hbytes htext, hparse]
  rfl

theorem exceeds_deep : Exceeds narrow.text tree (.ofText "deep.json") .depth := by
  have hpath : Path.ofText "deep.json" = ⟨"", ["deep.json"]⟩ := by decide
  have hbytes : tree.bytes (.ofText "deep.json") = .ok (Tree.encode "[[]]") := by
    rw [hpath]
    rfl
  have htext : Tree.textOf (Tree.encode "[[]]") = .ok "[[]]" := Tree.textOf_encode (by decide)
  have hparse : Json.parse "[[]]" { depth := some 1 } = .error (.excess .depth) := by
    rw [Json.parse]
    simp only [String.reduceToList]
    rfl
  exact ⟨_, _, hbytes, htext, hparse⟩

end Source.Sample

/-- A file of another encoding, and a text of too many brackets. -/
theorem loadModel_outcome_unworded :
    Source.isRemote "bytes.json" = false ∧ Source.isRemote "deep.json" = false ∧
    loadModel Source.Sample.tree Source.Sample.offline "bytes.json"
      = .error (.malformed .encoding) ∧
    loadModel Source.Sample.tree Source.Sample.offline "deep.json" Source.Sample.narrow
      = .error (.malformed .endless) := by
  have hpath : Path.ofText "bytes.json" = ⟨"", ["bytes.json"]⟩ := by decide
  have hlocal : Source.isRemote "bytes.json" = false := by decide
  have hbytes : Source.Sample.tree.bytes (.ofText "bytes.json") = .ok [0xff] := by
    rw [hpath]
    rfl
  have htext : Tree.textOf [0xff] = .error .encoding := by decide +kernel
  exact ⟨hlocal, by decide,
    ((loadModel_outcome Source.Sample.tree Source.Sample.offline {} hlocal).2.2
      (by decide)).2.1 ⟨[0xff], hbytes, htext⟩,
    ((loadModel_outcome Source.Sample.tree Source.Sample.offline Source.Sample.narrow
      (by decide)).2.2 (by decide)).2.2.1 _ Source.Sample.exceeds_deep⟩

/-- A shape that is null ends loading without words, although a file is there. -/
theorem loadModel_not_promised :
    Source.isRemote "m.json" = false ∧
    Source.Sample.tree.contains (.ofText "m.json") = true ∧
    ¬ Source.IsPromised (loadModel Source.Sample.tree Source.Sample.offline "m.json") := by
  have hlocal : Source.isRemote "m.json" = false := by decide
  have hmodel : Model.ofDocument (.obj Source.Sample.document) = .error (.malformed .part) := rfl
  have hloaded : loadModel Source.Sample.tree Source.Sample.offline "m.json" = _ :=
    loadModel_of_readFile hlocal Source.Sample.readFile_document
  rw [hmodel] at hloaded
  refine ⟨hlocal, by decide, fun hpromised => ?_⟩
  rcases hpromised _ hloaded with ⟨path, heq⟩ | ⟨fault, heq⟩
  · cases heq
  · cases heq

end ClientGen
