import PipeShell.Proofs.Machine.Growth
import PipeShell.Proofs.Machine.StandardInput

/-!
# Standard error, and what capturing leaves alone

What is complained of is collected where standard error is a file that is written at its end.
Neither this nor keeping a captured text changes a directory, a link or who may use a directory, so
paths lead where they led, and a temporary file can be made as long as it could be.

## Main definitions

* `FileTree.SameShape`: two trees whose paths lead to the same
* `CollectsErrors`: standard error is a file, written at its end

## Main results

* `FileTree.SameShape.find_eq`: paths lead to the same in trees of the same shape
* `SameShape.temporaryFault?_eq`: a temporary file can be made in both or in neither
* `CollectsErrors.complain`: what is complained of is collected
-/

namespace PipeShell

namespace Machine

/-! ## Trees of the same shape -/

namespace FileTree

/-- The two have the same directories, with the same entries and permission bits, and the same
links. -/
structure SameShape (t t' : FileTree) : Prop where
  directory : ∀ id, t'.directory? id = t.directory? id
  mode : ∀ id, t.isDirectory id = true → t'.mode id = t.mode id
  link : ∀ id, t'.target? id = t.target? id

namespace SameShape

variable {t t' t'' : FileTree}

theorem refl (t : FileTree) : t.SameShape t := ⟨fun _ => rfl, fun _ _ => rfl, fun _ => rfl⟩

theorem isDirectory (h : t.SameShape t') (id : NodeId) : t'.isDirectory id = t.isDirectory id := by
  rw [FileTree.isDirectory, FileTree.isDirectory, h.directory]

theorem trans (h : t.SameShape t') (h' : t'.SameShape t'') : t.SameShape t'' where
  directory id := (h'.directory id).trans (h.directory id)
  mode id hid := (h'.mode id (by rw [h.isDirectory, hid])).trans (h.mode id hid)
  link id := (h'.link id).trans (h.link id)

theorem allows (h : t.SameShape t') {id : NodeId} (hid : t.isDirectory id = true) (p : Permission) :
    t'.allows id p = t.allows id p := by
  rw [FileTree.allows, FileTree.allows, h.mode id hid]

/-- Changing the bytes of a file. -/
theorem modifyData (t : FileTree) (id : NodeId) (f : Array UInt8 → Array UInt8) :
    t.SameShape (t.modifyData id f) := by
  have hcontent : ∀ other, (∃ data data', t.content? other = some (.file data) ∧
      (t.modifyData id f).content? other = some (.file data')) ∨
        (t.modifyData id f).content? other = t.content? other := by
    intro other
    by_cases hid : id = other
    · subst hid
      rcases hnode : t.nodes[id]? with _ | ⟨_ | _ | _ | _ | _, mode⟩ <;>
        simp [content?, FileTree.modifyData, Array.getElem?_modify, hnode]
    · exact .inr (content?_modifyData_ne f hid)
  have hmode : ∀ other, (t.modifyData id f).mode other = t.mode other := by
    intro other
    rcases hnode : t.nodes[other]? with _ | ⟨_ | _ | _ | _ | _, mode⟩ <;>
      by_cases hid : id = other <;>
      simp [FileTree.mode, FileTree.modifyData, Array.getElem?_modify, hnode, hid]
  refine ⟨fun other => ?_, fun other _ => hmode other, fun other => ?_⟩
  · rcases hcontent other with ⟨data, data', hdata, hdata'⟩ | hsame
    · simp [directory?, hdata, hdata']
    · simp [directory?, hsame]
  · rcases hcontent other with ⟨data, data', hdata, hdata'⟩ | hsame
    · simp [target?, hdata, hdata']
    · simp [target?, hsame]

/-- Adding a file that no directory names. -/
theorem allocate (t : FileTree) (data : Array UInt8) (mode : Nat) :
    t.SameShape (t.allocate ⟨.file data, mode⟩).2 := by
  have hnodes : ∀ other, (t.allocate ⟨.file data, mode⟩).2.nodes[other]? =
      if other = t.nodes.size then some ⟨.file data, mode⟩ else t.nodes[other]? :=
    fun other => Array.getElem?_push
  refine ⟨fun other => ?_, fun other hother => ?_, fun other => ?_⟩
  · by_cases hid : other = t.nodes.size
    · subst hid
      simp [directory?, content?, hnodes]
    · simp [directory?, content?, hnodes, hid]
  · by_cases hid : other = t.nodes.size
    · subst hid
      simp [FileTree.isDirectory, directory?, content?] at hother
    · simp [FileTree.mode, hnodes, hid]
  · by_cases hid : other = t.nodes.size
    · subst hid
      simp [target?, content?, hnodes]
    · simp [target?, content?, hnodes, hid]

/-- One name leads to the same, if what is behind it does. -/
theorem walk_cons_eq (h : t.SameShape t') {ending : Ending} {links : Nat} {part : String}
    {rest : List String} (current : NodeId)
    (hrest : ∀ id, t'.walk ending links rest id = t.walk ending links rest id)
    (hlinks : ∀ fewer, links = fewer + 1 → ∀ parts id,
      t'.walk ending fewer parts id = t.walk ending fewer parts id) :
    t'.walk ending links (part :: rest) current = t.walk ending links (part :: rest) current := by
  rw [FileTree.walk, FileTree.walk, h.directory]
  cases hdirectory : t.directory? current with
  | none => rfl
  | some directory =>
    have hid : t.isDirectory current = true := by simp [FileTree.isDirectory, hdirectory]
    simp only [h.allows hid, h.link, hrest]
    rcases links with _ | fewer
    · rfl
    · simp only [hlinks fewer rfl]

/-- Names lead to the same. -/
theorem walk_eq (h : t.SameShape t') (ending : Ending) (links : Nat) (parts : List String)
    (current : NodeId) :
    t'.walk ending links parts current = t.walk ending links parts current := by
  induction links using Nat.strongRecOn generalizing parts current with
  | ind links ihlinks =>
    induction parts generalizing current with
    | nil => rw [FileTree.walk, FileTree.walk]
    | cons part rest ihrest =>
      exact h.walk_cons_eq current ihrest fun fewer hfewer => ihlinks fewer (by omega)

theorem find_eq (h : t.SameShape t') (cwd : NodeId) (follow : Bool) (path : String) :
    t'.find cwd follow path = t.find cwd follow path := by
  simp only [FileTree.find, FileTree.resolve, h.walk_eq]

theorem isAttached (h : t.SameShape t') (id : NodeId) : t'.isAttached id = t.isAttached id := by
  simp only [FileTree.isAttached, FileTree.entries, h.directory]

end SameShape

end FileTree

/-- Paths lead to the same on both machines, and the environment is the same. -/
structure SameShape (m m' : Machine) : Prop where
  tree : m.tree.SameShape m'.tree
  environment : m'.environment = m.environment

namespace SameShape

variable {m m' m'' : Machine}

theorem refl (m : Machine) : m.SameShape m := ⟨.refl _, rfl⟩

theorem trans (h : m.SameShape m') (h' : m'.SameShape m'') : m.SameShape m'' :=
  ⟨h.tree.trans h'.tree, h'.environment.trans h.environment⟩

/-- A temporary file can be made in both or in neither. -/
theorem temporaryFault?_eq (h : m.SameShape m') (cwd : NodeId) :
    m'.temporaryFault? cwd = m.temporaryFault? cwd := by
  have hdirectory : m'.temporaryDirectory = m.temporaryDirectory := by
    rw [temporaryDirectory, temporaryDirectory, h.environment]
  simp only [temporaryFault?, hdirectory, h.tree.find_eq]
  generalize (if m.temporaryDirectory.isEmpty = true then Except.ok cwd
    else m.tree.find cwd true m.temporaryDirectory) = place
  rcases place with cause | id
  · rfl
  · cases hid : m.tree.isDirectory id with
    | false => simp [h.tree.isDirectory, hid]
    | true => simp only [h.tree.isDirectory, h.tree.isAttached, h.tree.allows hid]

theorem wrote {file : Nat} {bytes : Bytes} (h : m.Wrote file bytes m') : m.SameShape m' := by
  cases h with
  | nothing => exact refl m
  | file opened leads content start_eq => exact ⟨.modifyData m.tree _ _, rfl⟩
  | pipe f leads => exact ⟨.refl _, rfl⟩

theorem complain (m : Machine) (text : String) : m.SameShape (m.complain text) := by
  unfold Machine.complain Machine.write
  split
  · exact refl m
  · exact wrote (m.wrote_writeFile _ _)

theorem complainOf (m : Machine) (promptText : String) (copied : Heredoc.Copied) :
    m.SameShape (m.complainOf promptText copied) := by
  unfold Machine.complainOf
  dsimp only
  split
  · exact complain m _
  · exact (complain m _).trans (complain _ _)

theorem openNameless (m : Machine) (data : Array UInt8) : m.SameShape (m.openNameless data).2 :=
  ⟨.allocate m.tree data _, rfl⟩

theorem setInput (m : Machine) (i : Input) : m.SameShape (m.setInput i) := by
  rcases m.setInput_cases i with hsame | ⟨_, -, hmoved⟩ | ⟨_, _, hemptied⟩
  · rw [hsame]
    exact refl m
  · rw [hmoved]
    exact ⟨.refl _, rfl⟩
  · rw [hemptied]
    exact ⟨.refl _, rfl⟩

theorem nextDelay (m : Machine) : m.SameShape m.nextDelay := ⟨.refl _, rfl⟩

/-- Capturing leads no path elsewhere. -/
theorem capture (m : Machine) (cwd : NodeId) (promptText delimiter : String) :
    m.SameShape (capture cwd promptText delimiter m).2 := by
  unfold Machine.capture hold
  split
  · rename_i hheld
    split at hheld
    · cases hheld
      exact ((nextDelay m).trans (complainOf _ _ _)).trans (setInput _ _)
    · cases hheld
      exact ((complainOf m _ _).trans (openNameless _ _)).trans (setInput _ _)

end SameShape

/-! ## Standard error -/

/-- What is said about why reading was cut short. -/
def complaintOf : Option Errno → Bytes
  | none => []
  | some cause => Text.Utf8.encode ("heredoc: " ++ cause.systemMessage ++ "\n")

/-- Standard error is the open file `file` on the node `id`, which holds `log`, and is written at
its end. -/
structure CollectsErrors (m : Machine) (file : Nat) (id : NodeId) (log : Bytes) : Prop where
  descriptor : m.descriptors.get? 2 = some file
  opened : ∃ f, m.files[file]? = some f ∧ f.writable = true ∧ f.target = .node id ∧
    (f.appends = true ∨ f.offset = log.length)
  content : m.tree.content? id = some (.file log.toArray)

namespace CollectsErrors

variable {m : Machine} {file : Nat} {id : NodeId} {log : Bytes}

theorem target?_eq (h : m.CollectsErrors file id log) : m.target? file = some (.node id) := by
  obtain ⟨f, hfile, -, htarget, -⟩ := h.opened
  rw [target?, hfile, Option.map_some, htarget]

/-- What is written to standard error is collected, and that works. -/
theorem writeChunk (h : m.CollectsErrors file id log) (bytes : Bytes) :
    (m.writeChunk file bytes).1 = .all ∧
      (m.writeChunk file bytes).2.CollectsErrors file id (log ++ bytes) := by
  obtain ⟨hfd, ⟨f, hfile, hwritable, htarget, hend⟩, hcontent⟩ := h
  have hstart : (if f.appends = true then log.toArray.size else f.offset) = log.length := by
    rcases hend with happends | hoffset
    · simp [happends]
    · simp [hoffset]
  have hchunk : m.writeChunk file bytes = (.all, ({ m with
      tree := m.tree.modifyData id (overlay · log.length bytes.toArray) } : Machine).seek file
        (log.length + bytes.length)) := by
    unfold Machine.writeChunk
    simp only [hfile, hwritable, htarget, hcontent, hstart]
    simp
  rw [hchunk]
  refine ⟨rfl, hfd, ⟨{ f with offset := log.length + bytes.length }, ?_, hwritable, htarget,
    .inr (by simp)⟩, ?_⟩
  · simp [seek, Array.getElem?_modify, hfile]
  · rw [seek, FileTree.content?_modifyData_self _ hcontent]
    simp [overlay]

theorem write (h : m.CollectsErrors file id log) (bytes : Bytes) :
    (m.write 2 bytes).1 = .ok () ∧ (m.write 2 bytes).2.CollectsErrors file id (log ++ bytes) := by
  obtain ⟨hall, hcollected⟩ := h.writeChunk bytes
  have hwrite : m.write 2 bytes = (.ok (), (m.writeChunk file bytes).2) := by
    rw [Machine.write, h.descriptor]
    dsimp only
    rw [writeFile, ← Prod.eta (m.writeChunk file bytes), hall]
  rw [hwrite]
  exact ⟨rfl, hcollected⟩

/-- What is complained of is collected. -/
theorem complain (h : m.CollectsErrors file id log) (text : String) :
    (m.complain text).CollectsErrors file id (log ++ Text.Utf8.encode text) :=
  (h.write _).2

theorem complainOf (h : m.CollectsErrors file id log) (promptText : String)
    (copied : Heredoc.Copied) :
    (m.complainOf promptText copied).CollectsErrors file id
      (log ++ Text.Utf8.encode (String.join (List.replicate copied.prompts promptText)) ++
        complaintOf copied.failure) := by
  have hprompts := h.complain (String.join (List.replicate copied.prompts promptText))
  unfold Machine.complainOf
  cases copied.failure with
  | none =>
    rw [complaintOf, List.append_nil]
    exact hprompts
  | some cause => exact hprompts.complain _

theorem openNameless (h : m.CollectsErrors file id log) (data : Array UInt8) :
    (m.openNameless data).2.CollectsErrors file id log := by
  obtain ⟨hfd, ⟨f, hfile, hf⟩, hcontent⟩ := h
  refine ⟨hfd, ⟨f, ?_, hf⟩, FileTree.content?_allocate _ hcontent⟩
  have hlt : file < m.files.size := (Array.getElem?_eq_some_iff.mp hfile).1
  simpa [Machine.openNameless, addFile, Array.getElem?_push, Nat.ne_of_lt hlt] using hfile

theorem nextDelay (h : m.CollectsErrors file id log) : m.nextDelay.CollectsErrors file id log :=
  ⟨h.descriptor, h.opened, h.content⟩

/-- A script is read from another open file. -/
theorem descriptor_ne (h : m.CollectsErrors file id log) {source : Nat} {target : Target}
    {script : Bytes} {pos : Nat} (hinput : m.InputAt source target script pos) :
    m.descriptors.get? 0 ≠ some file := by
  obtain ⟨led, hled, hne⟩ := hinput.apart 2 (by simp) file h.descriptor
  obtain rfl : Target.node id = led := Option.some.inj (h.target?_eq.symm.trans hled)
  rw [hinput.descriptor]
  rintro ⟨⟩
  obtain rfl : Target.node id = target :=
    Option.some.inj (h.target?_eq.symm.trans hinput.target?_eq)
  exact hne rfl

/-- Reading from another open file disturbs nothing. -/
theorem setInput (h : m.CollectsErrors file id log) (hother : m.descriptors.get? 0 ≠ some file)
    (i : Input) : (m.setInput i).CollectsErrors file id log := by
  obtain ⟨hfd, ⟨f, hfile, hf⟩, hcontent⟩ := h
  refine ⟨by rw [descriptors_setInput, hfd], ⟨f, ?_, hf⟩, by rw [tree_setInput, hcontent]⟩
  rw [getElem?_files_setInput hother, hfile]

end CollectsErrors

end Machine

end PipeShell
