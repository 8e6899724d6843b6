import PipeShell.Machine.Binding
import PipeShell.Machine.Layout
import PipeShell.Machine.Stream
import PipeShell.Proofs.Machine.Growth
import PipeShell.Proofs.Reading.Lines

/-!
# The shell's standard input

A script is read from descriptor 0, which leads to a file that holds it, or to a pipe in which the
rest of it waits and that nobody writes to any more. As long as standard output and standard error
lead elsewhere, writing to them leaves both the position and the script alone. Opening files for a
redirection, and writing to them, leaves the position alone; the script it may change, since what is
opened may be the very file that is being read, or the other end of the pipe. Only reading moves the
position.

## Main definitions

* `Target.inlet`: where that is written which is read from a target
* `InputAt`: descriptor 0 is at a position in a script, with where it leads
* `StandsAt`: the same with where it leads left open

## Main results

* `InputAt.input_eq`: what is read then
* `InputAt.complain`: writing to standard error disturbs nothing
* `InputAt.openKeeping`, `InputAt.writeFile`: redirections leave the position alone
* `InputAt.setInput`: reading moves the position
* `InputAt.capture`: capturing takes the lines up to the delimiter
-/

namespace PipeShell.Machine

/-! ## What a node holds -/

namespace FileTree

variable {t : FileTree} {id other : NodeId} {data : Array UInt8}

theorem content?_modifyData_ne (f : Array UInt8 → Array UInt8) (h : other ≠ id) :
    (t.modifyData other f).content? id = t.content? id := by
  simp [content?, modifyData, Array.getElem?_modify, h]

theorem content?_modifyData_self (f : Array UInt8 → Array UInt8)
    (h : t.content? id = some (.file data)) :
    (t.modifyData id f).content? id = some (.file (f data)) := by
  obtain ⟨⟨content, mode⟩, hnode, rfl⟩ := Option.map_eq_some_iff.mp h
  simp [content?, modifyData, Array.getElem?_modify, hnode]

theorem content?_allocate {c : Content} (node : Node) (h : t.content? id = some c) :
    (t.allocate node).2.content? id = some c := by
  obtain ⟨old, hnode, rfl⟩ := Option.map_eq_some_iff.mp h
  have hlt : id < t.nodes.size := (Array.getElem?_eq_some_iff.mp hnode).1
  simp [content?, allocate, Array.getElem?_push_lt hlt, Array.getElem?_eq_getElem hlt] at hnode ⊢
  rw [hnode]

/-- Changing a directory leaves files alone. -/
theorem content?_modifyEntries (f : List (String × NodeId) → List (String × NodeId))
    (h : t.content? id = some (.file data)) :
    (t.modifyEntries other f).content? id = some (.file data) := by
  unfold modifyEntries
  split
  · rename_i parent entries hdir
    -- A directory is not a file, so the node is another one.
    have hne : other ≠ id := by
      rintro rfl
      simp [directory?, h] at hdir
    simpa [content?, setContent, Array.getElem?_modify, hne] using h
  · exact h

/-- Making a new node leaves files alone. -/
theorem content?_insert (name : String) (node : Node) (h : t.content? id = some (.file data)) :
    (t.insert other name node).2.content? id = some (.file data) :=
  content?_modifyEntries _ (content?_allocate node h)

/-- Opening a node for writing leaves files alone. -/
theorem content?_openForWriting {cwd : NodeId} {path : String} {mode : Nat} {alsoRead : Bool}
    {tree : FileTree} (h : t.content? id = some (.file data))
    (hopen : t.openForWriting cwd path mode alsoRead = .ok (other, tree)) :
    tree.content? id = some (.file data) := by
  unfold openForWriting at hopen
  split at hopen
  · cases hopen
  · split at hopen
    · cases hopen
    · split at hopen
      · cases hopen
      · obtain rfl : _ = tree := congrArg Prod.snd (Except.ok.inj hopen)
        exact content?_insert _ _ h
  · split at hopen
    · cases hopen
    · split at hopen
      · cases hopen
      · cases hopen
        exact h

/-- Opening a node may empty it, but what is a file stays one. -/
theorem content?_openNode {cwd : NodeId} {path : String} {access : Access} {mode : Nat}
    {tree : FileTree} (h : t.content? id = some (.file data))
    (hopen : t.openNode cwd path access mode = .ok (other, tree)) :
    ∃ data', tree.content? id = some (.file data') := by
  unfold openNode at hopen
  cases access with
  | read =>
    cases hread : t.openForReading cwd path with
    | error cause => simp [hread, Except.map] at hopen
    | ok node =>
      obtain ⟨rfl, rfl⟩ : node = other ∧ t = tree := by simpa [hread, Except.map] using hopen
      exact ⟨data, h⟩
  | overwrite =>
    cases hwrite : t.openForWriting cwd path mode false with
    | error cause => simp [hwrite, Except.map] at hopen
    | ok opened =>
      obtain ⟨node, tree'⟩ := opened
      obtain ⟨rfl, rfl⟩ : node = other ∧ (tree'.modifyData node fun _ => #[]) = tree := by
        simpa [hwrite, Except.map] using hopen
      have hfile := content?_openForWriting h hwrite
      -- It may be the very file that is emptied.
      by_cases hid : node = id
      · subst hid
        exact ⟨_, content?_modifyData_self _ hfile⟩
      · exact ⟨data, by rw [content?_modifyData_ne _ hid, hfile]⟩
  | append => exact ⟨data, content?_openForWriting h hopen⟩
  | both => exact ⟨data, content?_openForWriting h hopen⟩

end FileTree

/-! ## What writing leaves alone -/

namespace Wrote

variable {m after : Machine} {file : Nat} {bytes : Bytes}

/-- What is written to an open file changes no node but the one that this leads to. -/
theorem content?_eq (h : m.Wrote file bytes after) {id : NodeId}
    (hne : m.target? file ≠ some (.node id)) : after.tree.content? id = m.tree.content? id := by
  cases h with
  | nothing => rfl
  | file opened leads content start_eq =>
    refine FileTree.content?_modifyData_ne _ ?_
    rintro rfl
    apply hne
    rw [target?, opened, Option.map_some, leads]
  | pipe f leads => rfl

/-- It changes no pipe but the one that this leads to. -/
theorem pipes_eq (h : m.Wrote file bytes after) {pipe : Nat}
    (hne : m.target? file ≠ some (.writer pipe)) : after.pipes[pipe]? = m.pipes[pipe]? := by
  cases h with
  | nothing => rfl
  | file opened leads content start_eq => rfl
  | @pipe written f leads =>
    have hwritten : written ≠ pipe := by
      rintro rfl
      exact hne leads
    rw [Array.getElem?_modify, if_neg hwritten]

/-- It moves no position but its own. -/
theorem files_eq (h : m.Wrote file bytes after) {other : Nat} (hne : other ≠ file) :
    after.files[other]? = m.files[other]? := by
  cases h with
  | nothing => rfl
  | file opened leads content start_eq => rw [seek, Array.getElem?_modify, if_neg hne.symm]
  | pipe f leads => rfl

/-- It makes no node. -/
theorem size_nodes_eq (h : m.Wrote file bytes after) :
    after.tree.nodes.size = m.tree.nodes.size := by
  cases h with
  | nothing => rfl
  | file opened leads content start_eq => rw [seek, FileTree.modifyData, Array.size_modify]
  | pipe f leads => rfl

/-- What is a file stays one. -/
theorem exists_content? (h : m.Wrote file bytes after) {id : NodeId} {data : Array UInt8}
    (hcontent : m.tree.content? id = some (.file data)) :
    ∃ data', after.tree.content? id = some (.file data') := by
  cases h with
  | nothing => exact ⟨data, hcontent⟩
  | @file f written _ _ opened leads content start_eq =>
    by_cases hid : written = id
    · subst hid
      exact ⟨_, FileTree.content?_modifyData_self _ hcontent⟩
    · exact ⟨data, by rw [seek, FileTree.content?_modifyData_ne _ hid, hcontent]⟩
  | pipe f leads => exact ⟨data, hcontent⟩

/-- What waits in a pipe stays something that waits there. -/
theorem exists_pipes (h : m.Wrote file bytes after) {pipe : Nat} {waiting : Array UInt8}
    (hpipe : m.pipes[pipe]? = some waiting) : ∃ waiting', after.pipes[pipe]? = some waiting' := by
  cases h with
  | nothing => exact ⟨waiting, hpipe⟩
  | file opened leads content start_eq => exact ⟨waiting, hpipe⟩
  | @pipe written f leads =>
    rw [Array.getElem?_modify]
    split
    · exact ⟨f waiting, by rw [hpipe, Option.map_some]⟩
    · exact ⟨waiting, hpipe⟩

end Wrote

/-! ## What opening leaves alone -/

/-- From one machine to the other files are opened: those that are open already stay as they are,
and so do the pipes. What is a file stays one, though its bytes may be lost. -/
structure Opens (m m' : Machine) : Prop where
  files_eq : ∀ file < m.files.size, m'.files[file]? = m.files[file]?
  size_files_le : m.files.size ≤ m'.files.size
  pipes_eq : m'.pipes = m.pipes
  content : ∀ id data, m.tree.content? id = some (.file data) →
    ∃ data', m'.tree.content? id = some (.file data')

namespace Opens

theorem refl (m : Machine) : m.Opens m :=
  ⟨fun _ _ => rfl, Nat.le_refl _, rfl, fun _ data hdata => ⟨data, hdata⟩⟩

theorem trans {m m' m'' : Machine} (h : m.Opens m') (h' : m'.Opens m'') : m.Opens m'' where
  files_eq file hfile :=
    (h'.files_eq file (Nat.lt_of_lt_of_le hfile h.size_files_le)).trans (h.files_eq file hfile)
  size_files_le := Nat.le_trans h.size_files_le h'.size_files_le
  pipes_eq := h'.pipes_eq.trans h.pipes_eq
  content id data hdata := by
    obtain ⟨data', hdata'⟩ := h.content id data hdata
    exact h'.content id data' hdata'

theorem addFile (m : Machine) (new : OpenFile) : m.Opens (m.addFile new).2 where
  files_eq file hfile := by
    simp [Machine.addFile, Array.getElem?_push, Nat.ne_of_lt hfile]
  size_files_le := by simp [Machine.addFile]
  pipes_eq := rfl
  content _ data hdata := ⟨data, hdata⟩

theorem setTree (m : Machine) {tree : FileTree}
    (h : ∀ id data, m.tree.content? id = some (.file data) →
      ∃ data', tree.content? id = some (.file data')) : m.Opens { m with tree } :=
  ⟨fun _ _ => rfl, Nat.le_refl _, rfl, h⟩

theorem modifyData (m : Machine) (id : NodeId) (f : Array UInt8 → Array UInt8) :
    m.Opens { m with tree := m.tree.modifyData id f } := by
  refine setTree m fun other data hdata => ?_
  by_cases hid : id = other
  · subst hid
    exact ⟨_, FileTree.content?_modifyData_self f hdata⟩
  · exact ⟨data, by rw [FileTree.content?_modifyData_ne f hid, hdata]⟩

theorem reopen (m : Machine) (file : Nat) (access : Access) :
    m.Opens (m.reopen file access).2 := by
  unfold Machine.reopen
  split
  · exact refl m
  split
  · split
    · exact refl m
    split
    · exact refl m
    · dsimp only
      split
      · exact (modifyData m _ _).trans (addFile _ _)
      · exact addFile m _
  · exact addFile m _
  · exact addFile m _

theorem openPath (m : Machine) (d : Descriptors) (cwd : NodeId) (path : String) (access : Access)
    (mode : Nat) : m.Opens (m.openPath d cwd path access mode).2 := by
  unfold Machine.openPath
  split
  · exact refl m
  rename_i node tree hopen
  split
  · split
    · exact refl m
    · exact reopen m _ access
  · split
    · exact refl m
    · exact (setTree m fun id data hdata => FileTree.content?_openNode hdata hopen).trans
        (addFile _ _)

theorem openTarget (m : Machine) (d : Descriptors) (cwd : NodeId) (path : String)
    (kind : RedirectKind) (redirect : Redirect) :
    m.Opens (m.openTarget d cwd path kind redirect).2 := by
  have hopen := openPath m d cwd path kind.access (FileTree.masked m.umask redirectMode)
  unfold Machine.openTarget
  split <;> rename_i heq <;> rw [heq] at hopen <;> exact hopen

end Opens

/-! ## Descriptor 0 -/

/-- Where that is written which is read from a target: a file there, a pipe at its other end. -/
def Target.inlet : Target → Target
  | .node id => .node id
  | .reader pipe | .writer pipe => .writer pipe

/-- What can be read from a target, by an open file with this offset, is a script from the position
`pos` on. A file holds all of it, and a pipe what is left. -/
def Supplies (m : Machine) (offset : Nat) (script : Bytes) (pos : Nat) : Target → Prop
  | .node id => offset = pos ∧ m.tree.content? id = some (.file script.toArray)
  | .reader pipe => m.pipes[pipe]? = some (script.drop pos).toArray
  | .writer _ => False

/-- Descriptor 0 is the open file `file`, which leads to `target`, and is at the position `pos` of a
script there. Standard output and standard error, as far as they are open, lead elsewhere; and if
the script comes from a pipe, nobody writes to it any more. -/
structure InputAt (m : Machine) (file : Nat) (target : Target) (script : Bytes) (pos : Nat) :
    Prop where
  descriptor : m.descriptors.get? 0 = some file
  opened : ∃ f, m.files[file]? = some f ∧ f.readable = true ∧ f.target = target ∧
    m.Supplies f.offset script pos target
  apart : ∀ fd ∈ [1, 2], ∀ other, m.descriptors.get? fd = some other →
    ∃ led, m.target? other = some led ∧ led ≠ target.inlet
  closed : ∀ pipe, target = .reader pipe → ∀ d ∈ m.tables, ∀ other ∈ d.files,
    ∃ led, m.target? other = some led ∧ led ≠ .writer pipe

/-- Descriptor 0 is at a position in a script. -/
def StandsAt (m : Machine) (script : Bytes) (pos : Nat) : Prop :=
  ∃ file target, m.InputAt file target script pos

/-- The input that descriptor 0 then is. -/
def inputOf (target : Target) (script : Bytes) (pos : Nat) : Input :=
  match target with
  | .node _ => ⟨script.toArray, pos, none⟩
  | .reader _ | .writer _ => ⟨(script.drop pos).toArray, 0, none⟩

@[simp] theorem failure_inputOf (target : Target) (script : Bytes) (pos : Nat) :
    (inputOf target script pos).failure = none := by
  cases target <;> rfl

@[simp] theorem rest_inputOf (target : Target) (script : Bytes) (pos : Nat) :
    (inputOf target script pos).rest = script.drop pos := by
  cases target <;> simp [inputOf, Input.rest]

@[simp] theorem unread_inputOf (target : Target) (script : Bytes) (pos : Nat) :
    (inputOf target script pos).unread = script.length - pos := by
  cases target <;> simp [inputOf, Input.unread]

namespace InputAt

variable {m m' : Machine} {file : Nat} {target : Target} {script script' : Bytes} {pos pos' : Nat}

theorem target?_eq (h : m.InputAt file target script pos) : m.target? file = some target := by
  obtain ⟨f, hfile, -, rfl, -⟩ := h.opened
  rw [target?, hfile, Option.map_some]

theorem lt_size (h : m.InputAt file target script pos) : file < m.files.size :=
  lt_size_of_target? h.target?_eq

/-- The writing end of the pipe that the script comes from is held by nobody. -/
theorem isHeld_eq_false {pipe : Nat} (h : m.InputAt file (.reader pipe) script pos) :
    m.isHeld (.writer pipe) = false := by
  rw [Bool.eq_false_iff]
  intro hheld
  obtain ⟨d, hd, other, hother, hleads⟩ := isHeld_iff.mp hheld
  obtain ⟨led, hled, hne⟩ := h.closed pipe rfl d hd other hother
  exact hne (Option.some.inj (hled.symm.trans hleads))

/-- What is read. -/
theorem input_eq (h : m.InputAt file target script pos) : m.input = inputOf target script pos := by
  obtain ⟨f, hfile, hread, htarget, hsupplies⟩ := h.opened
  cases target with
  | node id =>
    obtain ⟨hoffset, hcontent⟩ := hsupplies
    simp [input, inputOf, h.descriptor, hfile, hread, htarget, hcontent, hoffset]
  | reader pipe =>
    have hwaiting : m.pipes[pipe]? = some (script.drop pos).toArray := hsupplies
    simp [input, inputOf, h.descriptor, hfile, hread, htarget, hwaiting, h.isHeld_eq_false]
  | writer pipe => exact hsupplies.elim

/-- Whatever becomes of a machine, descriptor 0 leads where it led, so what can be read there tells
all. -/
theorem grow (h : m.InputAt file target script pos) (hgrows : m.Grows m')
    (hopened : ∃ f, m'.files[file]? = some f ∧ f.readable = true ∧
      m'.Supplies f.offset script' pos' target) : m'.InputAt file target script' pos' := by
  have hkeep : ∀ {other led}, m.target? other = some led → m'.target? other = some led :=
    fun hled => (hgrows.target?_eq _ (lt_size_of_target? hled)).trans hled
  have htables : m'.tables = m.tables := by
    rw [tables, tables, hgrows.descriptors_eq, hgrows.processes_eq]
  obtain ⟨f, hfile, hread, hsupplies⟩ := hopened
  have htarget := hkeep h.target?_eq
  rw [target?, hfile, Option.map_some, Option.some.injEq] at htarget
  refine ⟨hgrows.descriptors_eq ▸ h.descriptor, ⟨f, hfile, hread, htarget, hsupplies⟩, ?_, ?_⟩
  · rw [hgrows.descriptors_eq]
    intro fd hfd other hother
    obtain ⟨led, hled, hne⟩ := h.apart fd hfd other hother
    exact ⟨led, hkeep hled, hne⟩
  · rw [htables]
    intro pipe hpipe d hd other hother
    obtain ⟨led, hled, hne⟩ := h.closed pipe hpipe d hd other hother
    exact ⟨led, hkeep hled, hne⟩

/-- Where as much as before is there to be read, it is the same script. -/
theorem of_data_eq (h : m.InputAt file target script' pos)
    (hdata : m.input.data = (inputOf target script pos).data) :
    m.InputAt file target script pos := by
  rw [h.input_eq] at hdata
  obtain ⟨f, hfile, hread, htarget, hsupplies⟩ := h.opened
  refine h.grow (.refl m) ⟨f, hfile, hread, ?_⟩
  cases target with
  | node id =>
    have hdata : script'.toArray = script.toArray := hdata
    exact ⟨hsupplies.1, hdata ▸ hsupplies.2⟩
  | reader pipe =>
    have hdata : (script'.drop pos).toArray = (script.drop pos).toArray := hdata
    rw [Supplies] at hsupplies ⊢
    rw [hsupplies, hdata]
  | writer pipe => exact hsupplies

/-! ### Writing -/

/-- Writing to another open file leaves the position alone, and the script where it leads
elsewhere. -/
theorem wrote (h : m.InputAt file target script pos) {other : Nat} {bytes : Bytes}
    (hwrote : m.Wrote other bytes m') (hother : target.inlet = target → other ≠ file) :
    ∃ script', m'.InputAt file target script' pos ∧
      (m.target? other ≠ some target.inlet → script' = script) := by
  obtain ⟨f, hfile, hread, htarget, hsupplies⟩ := h.opened
  cases target with
  | node id =>
    have hfile' : m'.files[file]? = some f := (hwrote.files_eq (hother rfl).symm).trans hfile
    obtain ⟨hoffset, hcontent⟩ := hsupplies
    by_cases hhit : m.target? other = some (.node id)
    · obtain ⟨data, hdata⟩ := hwrote.exists_content? hcontent
      exact ⟨data.toList, h.grow (.wrote hwrote) ⟨f, hfile', hread, hoffset, by simpa using hdata⟩,
        fun hmiss => absurd hhit hmiss⟩
    · exact ⟨script, h.grow (.wrote hwrote) ⟨f, hfile', hread, hoffset,
        (hwrote.content?_eq hhit).trans hcontent⟩, fun _ => rfl⟩
  | reader pipe =>
    -- The pipe may be the very one that is written to, but its reading end is not written.
    have hne : m.target? other ≠ some (.reader pipe) → other ≠ file := by
      rintro hne rfl
      exact hne h.target?_eq
    have hfile' : m'.files[file]? = some f := by
      cases hwrote with
      | nothing => exact hfile
      | @file g id data start opened leads content start_eq =>
        rw [seek, Array.getElem?_modify, if_neg, hfile]
        refine hne ?_
        rw [target?, opened, Option.map_some, leads]
        rintro ⟨⟩
      | pipe g leads => exact hfile
    have hwaiting : m.pipes[pipe]? = some (script.drop pos).toArray := hsupplies
    by_cases hhit : m.target? other = some (.writer pipe)
    · obtain ⟨waiting, hwaiting'⟩ := hwrote.exists_pipes hwaiting
      -- Whatever waits in the pipe now is what is left of some script.
      refine ⟨List.replicate pos 0 ++ waiting.toList, h.grow (.wrote hwrote) ⟨f, hfile', hread, ?_⟩,
        fun hmiss => absurd hhit hmiss⟩
      rw [Supplies, hwaiting', List.drop_left' List.length_replicate]
    · exact ⟨script, h.grow (.wrote hwrote) ⟨f, hfile', hread,
        (hwrote.pipes_eq hhit).trans hwaiting⟩, fun _ => rfl⟩
  | writer pipe => exact hsupplies.elim

theorem writeFile (h : m.InputAt file target script pos) {other : Nat} (hne : other ≠ file)
    (bytes : Bytes) : ∃ script', (m.writeFile other bytes).2.InputAt file target script' pos := by
  obtain ⟨script', hafter, -⟩ := h.wrote (m.wrote_writeFile other bytes) fun _ => hne
  exact ⟨script', hafter⟩

/-- Writing to standard output or standard error disturbs nothing. -/
theorem write (h : m.InputAt file target script pos) {fd : Nat} (hfd : fd ∈ [1, 2])
    (bytes : Bytes) : (m.write fd bytes).2.InputAt file target script pos := by
  unfold Machine.write
  split
  · exact h
  · rename_i other hother
    obtain ⟨led, hled, hne⟩ := h.apart fd hfd other hother
    have hmiss : m.target? other ≠ some target.inlet := by
      rw [hled]
      exact fun heq => hne (Option.some.inj heq)
    obtain ⟨script', hafter, hsame⟩ := h.wrote (m.wrote_writeFile other bytes) fun hinlet => by
      rintro rfl
      exact hmiss (by rw [hinlet, h.target?_eq])
    exact hsame hmiss ▸ hafter

theorem print (h : m.InputAt file target script pos) {fd : Nat} (hfd : fd ∈ [1, 2])
    (bytes : Bytes) : (m.print fd bytes).2.InputAt file target script pos := by
  rw [snd_print]
  exact h.write hfd bytes

theorem complain (h : m.InputAt file target script pos) (text : String) :
    (m.complain text).InputAt file target script pos :=
  h.write (by simp) _

theorem complainOf (h : m.InputAt file target script pos) (promptText : String)
    (copied : Heredoc.Copied) :
    (m.complainOf promptText copied).InputAt file target script pos := by
  unfold Machine.complainOf
  dsimp only
  split
  · exact h.complain _
  · exact (h.complain _).complain _

/-! ### Opening -/

theorem withDelays (h : m.InputAt file target script pos) (delays : List Nat) :
    { m with delays }.InputAt file target script pos := by
  obtain ⟨f, hfile, hread, -, hsupplies⟩ := h.opened
  refine h.grow (.withDelays m delays) ⟨f, hfile, hread, ?_⟩
  cases target <;> exact hsupplies

theorem nextDelay (h : m.InputAt file target script pos) :
    m.nextDelay.InputAt file target script pos :=
  h.withDelays _

theorem openNameless (h : m.InputAt file target script pos) (bytes : Array UInt8) :
    (m.openNameless bytes).2.InputAt file target script pos := by
  obtain ⟨f, hfile, hread, -, hsupplies⟩ := h.opened
  refine h.grow (.openNameless m bytes) ⟨f, ?_, hread, ?_⟩
  · simpa [Machine.openNameless, addFile, Array.getElem?_push, Nat.ne_of_lt h.lt_size] using hfile
  · cases target with
    | node id => exact ⟨hsupplies.1, FileTree.content?_allocate _ hsupplies.2⟩
    | reader pipe => exact hsupplies
    | writer pipe => exact hsupplies

/-- Opening files leaves the position alone. What is being read may be lost by it. -/
theorem opens (h : m.InputAt file target script pos) (hgrows : m.Grows m') (hopens : m.Opens m') :
    ∃ script', m'.InputAt file target script' pos := by
  obtain ⟨f, hfile, hread, -, hsupplies⟩ := h.opened
  have hfile' : m'.files[file]? = some f := (hopens.files_eq file h.lt_size).trans hfile
  cases target with
  | node id =>
    obtain ⟨data, hdata⟩ := hopens.content id _ hsupplies.2
    exact ⟨data.toList, h.grow hgrows ⟨f, hfile', hread, hsupplies.1, by simpa using hdata⟩⟩
  | reader pipe =>
    refine ⟨script, h.grow hgrows ⟨f, hfile', hread, ?_⟩⟩
    rw [Supplies, hopens.pipes_eq]
    exact hsupplies
  | writer pipe => exact hsupplies.elim

/-- Carrying out the redirections of a built-in command leaves the position alone, and the file that
receives its output is another one. -/
theorem openKeeping {κ : Type} (h : m.InputAt file target script pos) (cwd : NodeId)
    (bindings : List (Binding κ)) {kept : Option (Nat × Nat)}
    (hkept : ∀ entry, kept = some entry → entry.2 ≠ file) :
    (∃ script', (openKeeping cwd bindings kept m).2.InputAt file target script' pos) ∧
      ∀ entry, (openKeeping cwd bindings kept m).1 = .ok (some entry) → entry.2 ≠ file := by
  induction bindings generalizing kept m script with
  | nil => exact ⟨⟨script, h⟩, fun entry hentry => hkept entry (Except.ok.inj hentry)⟩
  | cons b rest ih =>
    unfold Machine.openKeeping
    split
    · exact ih h hkept
    · rename_i path kind _
      obtain ⟨hgrows, hnew⟩ :=
        Grows.openTarget m (keeping m.descriptors kept) cwd path kind b.redirect
      have hopens := Opens.openTarget m (keeping m.descriptors kept) cwd path kind b.redirect
      obtain ⟨script', hafter⟩ := h.opens hgrows hopens
      split
      · rename_i hopen
        rw [hopen] at hafter
        exact ⟨⟨script', hafter⟩, nofun⟩
      · rename_i hopen
        rw [hopen] at hafter hnew
        refine ih hafter fun entry hentry => ?_
        unfold keptWith at hentry
        split at hentry
        · cases hentry
          exact Nat.ne_of_gt (Nat.lt_of_lt_of_le h.lt_size (hnew _ rfl).1)
        · exact hkept entry hentry

theorem openForBuiltin {κ : Type} (h : m.InputAt file target script pos) (cwd : NodeId)
    (bindings : List (Binding κ)) :
    (∃ script', (openForBuiltin cwd bindings none m).2.InputAt file target script' pos) ∧
      ∀ o, (openForBuiltin cwd bindings none m).1 = .ok (some o) → o ≠ file := by
  have hnone : ∀ entry, (none : Option (Nat × Nat)) = some entry → entry.2 ≠ file := nofun
  obtain ⟨hafter, hkept⟩ := h.openKeeping cwd bindings hnone
  refine ⟨hafter, fun o ho => ?_⟩
  unfold Machine.openForBuiltin at ho
  rcases hopens : Machine.openKeeping cwd bindings none m with ⟨e | _ | entry, after⟩
  all_goals
    rw [hopens] at ho
    cases ho
  exact hkept entry (by rw [hopens])

/-! ### Reading -/

theorem setInput (h : m.InputAt file target script pos) (n : Nat) :
    (m.setInput ((inputOf target script pos).advance n)).InputAt file target script (pos + n) := by
  obtain ⟨f, hfile, hread, htarget, hsupplies⟩ := h.opened
  have hgrows := Grows.setInput m ((inputOf target script pos).advance n)
  cases target with
  | node id =>
    have hset : m.setInput ((inputOf (.node id) script pos).advance n) = m.seek file (pos + n) := by
      simp [Machine.setInput, h.descriptor, h.target?_eq, FileTree.data?, hsupplies.2, inputOf]
    rw [hset] at hgrows ⊢
    exact h.grow hgrows ⟨{ f with offset := pos + n },
      by simp [seek, Array.getElem?_modify, hfile], hread, rfl, hsupplies.2⟩
  | reader pipe =>
    have hset : m.setInput ((inputOf (.reader pipe) script pos).advance n) =
        { m with pipes := m.pipes.modify pipe fun waiting => waiting.extract n waiting.size } := by
      simp [Machine.setInput, h.descriptor, h.target?_eq, inputOf]
    have hwaiting : m.pipes[pipe]? = some (script.drop pos).toArray := hsupplies
    rw [hset] at hgrows ⊢
    refine h.grow hgrows ⟨f, hfile, hread, ?_⟩
    rw [Supplies, Array.getElem?_modify, if_pos rfl, hwaiting]
    simp [List.take_of_length_le, Nat.sub_sub]
  | writer pipe => exact hsupplies.elim

/-- Capturing takes the lines up to the delimiter off standard input. -/
theorem capture (h : m.InputAt file target script pos) {cwd : NodeId}
    {promptText delimiter : String}
    {body : Nat} (hok : (capture cwd promptText delimiter m).1 = .ok body) :
    ∃ lines taken rest, script.drop pos = taken ++ rest ∧
      Heredoc.UpTo delimiter lines taken rest ∧
      (capture cwd promptText delimiter m).2.InputAt file target script (pos + taken.length) := by
  unfold Machine.capture hold at hok ⊢
  cases hfault : m.temporaryFault? cwd with
  | some cause => simp [hfault] at hok
  | none =>
    obtain ⟨lines, taken, rest, hrest, hupTo, hcopy⟩ :=
      Heredoc.copy_eq delimiter m.input (by simp [h.input_eq])
    refine ⟨lines, taken, rest, by simpa [h.input_eq] using hrest, hupTo, ?_⟩
    -- The prompts are written, the text is kept in a file without a name, and then the position
    -- moves.
    have hheld := ((h.complainOf promptText (Heredoc.copy delimiter m.input)).openNameless
      (Heredoc.copy delimiter m.input).body).setInput taken.length
    have hleft : (Heredoc.copy delimiter m.input).rest =
        (inputOf target script pos).advance taken.length := by
      rw [hcopy, h.input_eq]
    rw [← hleft] at hheld
    simpa only [hfault] using hheld

/-- Capturing never goes back, nor beyond the end, whether the text can be kept or not. -/
theorem capture_le (h : m.InputAt file target script pos) (cwd : NodeId)
    (promptText delimiter : String) :
    ∃ n ≤ script.length - pos,
      (Machine.capture cwd promptText delimiter m).2.InputAt file target script (pos + n) := by
  rcases hcapture : (Machine.capture cwd promptText delimiter m).1 with cause | body
  · cases hfault : m.temporaryFault? cwd with
    | none => simp [Machine.capture, hold, hfault] at hcapture
    | some cause =>
      -- Nobody keeps the lines, but they are read from left to right.
      obtain ⟨n, hle, hrest⟩ := Heredoc.exists_advance_copyAhead delimiter (m.delays.headD 0)
        m.pipeCapacity m.input
      rw [h.input_eq, unread_inputOf] at hle
      have hafter := (h.nextDelay.complainOf promptText
        (Heredoc.copyAhead delimiter (m.delays.headD 0) m.pipeCapacity m.input)).setInput n
      rw [← h.input_eq, ← hrest] at hafter
      exact ⟨n, hle, by simpa only [Machine.capture, hold, hfault] using hafter⟩
  · obtain ⟨lines, taken, rest, hsplit, -, hafter⟩ := h.capture hcapture
    refine ⟨taken.length, ?_, hafter⟩
    rw [← List.length_drop, hsplit, List.length_append]
    exact Nat.le_add_right _ _

end InputAt

/-! ## Descriptor 0 at a position in a script -/

namespace StandsAt

variable {m : Machine} {script : Bytes} {pos : Nat}

theorem rest_input (h : m.StandsAt script pos) : m.input.rest = script.drop pos := by
  obtain ⟨file, target, h⟩ := h
  rw [h.input_eq, rest_inputOf]

theorem failure_input (h : m.StandsAt script pos) : m.input.failure = none := by
  obtain ⟨file, target, h⟩ := h
  rw [h.input_eq, failure_inputOf]

theorem unread_input (h : m.StandsAt script pos) : m.input.unread = script.length - pos := by
  obtain ⟨file, target, h⟩ := h
  rw [h.input_eq, unread_inputOf]

theorem print (h : m.StandsAt script pos) {fd : Nat} (hfd : fd ∈ [1, 2]) (bytes : Bytes) :
    (m.print fd bytes).2.StandsAt script pos := by
  obtain ⟨file, target, h⟩ := h
  exact ⟨file, target, h.print hfd bytes⟩

theorem complain (h : m.StandsAt script pos) (text : String) :
    (m.complain text).StandsAt script pos := by
  obtain ⟨file, target, h⟩ := h
  exact ⟨file, target, h.complain text⟩

theorem setInput (h : m.StandsAt script pos) (n : Nat) :
    (m.setInput (m.input.advance n)).StandsAt script (pos + n) := by
  obtain ⟨file, target, h⟩ := h
  rw [h.input_eq]
  exact ⟨file, target, h.setInput n⟩

theorem capture (h : m.StandsAt script pos) {cwd : NodeId} {promptText delimiter : String}
    {body : Nat} (hok : (Machine.capture cwd promptText delimiter m).1 = .ok body) :
    ∃ lines taken, script.drop pos = taken ++ script.drop (pos + taken.length) ∧
      Heredoc.UpTo delimiter lines taken (script.drop (pos + taken.length)) ∧
      (Machine.capture cwd promptText delimiter m).2.StandsAt script (pos + taken.length) := by
  obtain ⟨file, target, h⟩ := h
  obtain ⟨lines, taken, rest, hrest, hupTo, hafter⟩ := h.capture hok
  have hdrop : script.drop (pos + taken.length) = rest := by
    rw [← List.drop_drop, hrest, List.drop_left]
  exact ⟨lines, taken, by rw [hdrop, ← hrest], by rwa [hdrop], file, target, hafter⟩

theorem capture_le (h : m.StandsAt script pos) (cwd : NodeId) (promptText delimiter : String) :
    ∃ n ≤ script.length - pos,
      (Machine.capture cwd promptText delimiter m).2.StandsAt script (pos + n) := by
  obtain ⟨file, target, h⟩ := h
  obtain ⟨n, hle, hafter⟩ := h.capture_le cwd promptText delimiter
  exact ⟨n, hle, file, target, hafter⟩

end StandsAt

/-! ## Fresh streams -/

section Streams

variable (m : Machine) (fd : Nat) (data : Array UInt8)

@[simp] theorem descriptors_openStream :
    (m.openStream fd data).descriptors = m.descriptors.place fd m.files.size := rfl

@[simp] theorem size_files_openStream : (m.openStream fd data).files.size = m.files.size + 1 :=
  Array.size_push _

@[simp] theorem size_nodes_openStream :
    (m.openStream fd data).tree.nodes.size = m.tree.nodes.size + 1 :=
  Array.size_push _

/-- The open file of a fresh stream comes behind the others. -/
theorem files_openStream (file : Nat) :
    (m.openStream fd data).files[file]? =
      if file = m.files.size then
        some { target := .node m.tree.nodes.size, readable := true, writable := true }
      else m.files[file]? :=
  Array.getElem?_push

/-- The node of a fresh stream comes behind the others. -/
theorem content?_openStream (id : NodeId) :
    (m.openStream fd data).tree.content? id =
      if id = m.tree.nodes.size then some (.file data) else m.tree.content? id := by
  change ((m.tree.nodes.push _)[id]?).map Node.content = _
  rw [Array.getElem?_push]
  split <;> rfl

omit fd data in
/-- A machine whose three standard streams have been opened stands at the beginning of its
script. -/
theorem standsAt_openStream (script : Bytes) (out err : Array UInt8) :
    (((m.openStream 0 script.toArray).openStream 1 out).openStream 2 err).StandsAt script 0 := by
  refine ⟨m.files.size, .node m.tree.nodes.size, ?_, ?_, ?_, nofun⟩
  · simp [Descriptors.get?_place]
  · refine ⟨{ target := .node m.tree.nodes.size, readable := true, writable := true }, ?_, rfl, rfl,
      rfl, ?_⟩
    · rw [files_openStream, if_neg (by simp; omega), files_openStream, if_neg (by simp),
        files_openStream, if_pos rfl]
    · have hne : m.tree.nodes.size ≠ m.tree.nodes.size + 1 + 1 := by omega
      rw [content?_openStream, if_neg (by simpa using hne), content?_openStream, if_neg (by simp),
        content?_openStream, if_pos rfl]
  · -- Each of the three streams leads to a node of its own.
    intro fd hfd other hother
    simp only [List.mem_cons, List.not_mem_nil, or_false] at hfd
    rcases hfd with rfl | rfl
    · obtain rfl : m.files.size + 1 = other := by simpa [Descriptors.get?_place] using hother
      refine ⟨.node (m.tree.nodes.size + 1), ?_, fun h => Nat.succ_ne_self _ (Target.node.inj h)⟩
      rw [target?, files_openStream, if_neg (by simp), files_openStream, if_pos (by simp),
        size_nodes_openStream, Option.map_some]
    · obtain rfl : m.files.size + 1 + 1 = other := by simpa [Descriptors.get?_place] using hother
      refine ⟨.node (m.tree.nodes.size + 2), ?_,
        fun h => Nat.ne_of_gt (Nat.lt_add_of_pos_right Nat.two_pos) (Target.node.inj h)⟩
      rw [target?, files_openStream, if_pos (by simp), size_nodes_openStream,
        size_nodes_openStream, Option.map_some]

end Streams

end PipeShell.Machine
