import PipeShell.Machine.Layout
import PipeShell.Proofs.Machine.Growth
import PipeShell.Proofs.Plan.Rendering

/-!
# Redirections inside the shell and in a process

The files of a command are opened inside the shell where it is a built-in one, and in its own
process where it is not. Both go through the bindings in the same order, open the same files in the
same way and stop at the same one. The process has the last file for standard output under that
descriptor; the shell keeps it for what the command prints.

There is one way in which they can part. A path may stand for a descriptor of whoever opens it, as
`/dev/stdin` does. The shell looks it up among descriptors that the bindings leave alone, but for a
number of its own under which it keeps the file for what the command prints; the process among
descriptors that the bindings in front have changed already.

## Main definitions

* `streamAt?`: the descriptor that a path stands for
* `SeesAlike`: the paths of bindings stand for the same open files in a process as in the shell
* `OpensAlike`: what it means that the two do the same

## Main results

* `SeesAlike.of_unbound`: a process that begins with the shell's descriptors sees alike where each
  descriptor that a path stands for is one of them, and not bound in front of it
* `redirections_agree`: where it sees alike, the two do the same
* `redirections_part`: where it does not, they need not
-/

namespace PipeShell

/-! ## Bindings of plans -/

namespace Machine

/-- The descriptor that a path stands for, for whoever opens it with a redirection. -/
def streamAt? (m : Machine) (cwd : NodeId) (path : String) (kind : RedirectKind) : Option Nat :=
  match m.tree.openNode cwd path kind.access (FileTree.masked m.umask redirectMode) with
  | .ok (id, _) => m.streamOf? id
  | .error _ => none

/-- Where a path stands for a descriptor when its turn comes, the process has the same open file
under it as the shell, which keeps `kept` to begin with. A captured text has a number in either,
which is not told here; beside one, only the shell's own descriptors will do. -/
def SeesAlike (cwd : NodeId) (bindings : List (Binding Nat)) (kept : Option (Nat × Nat))
    (d : Descriptors) (m : Machine) : Prop :=
  ∀ before b rest path kind kept₁ d₁ m₁ fd, bindings = before ++ b :: rest →
    b.source = .file path kind → openKeeping cwd before kept m = (.ok kept₁, m₁) →
    apply cwd before d m = (.ok (), d₁, m₁) → m₁.streamAt? cwd path kind = some fd →
      d₁.get? fd = (keeping m.descriptors kept₁).get? fd ∧
        ((∃ b' ∈ bindings, ∃ body, b'.source = .captured body) →
          (m.descriptors.get? fd).isSome = true)

variable {cwd : NodeId} {d d' : Descriptors} {m : Machine} {b : Binding Nat}
  {bindings : List (Binding Nat)} {kept : Option (Nat × Nat)}

/-! ## One opening -/

/-- What cannot be opened leaves the machine as it was. -/
theorem eq_of_openPath_eq_error {m' : Machine} {path : String} {access : Access} {mode : Nat}
    {cause : Errno} (h : m.openPath d cwd path access mode = (.error cause, m')) : m' = m := by
  unfold openPath at h
  split at h
  · cases h
    rfl
  · split at h
    · split at h
      · cases h
        rfl
      · unfold reopen at h
        split at h
        · cases h
          rfl
        · split at h
          · split at h
            · cases h
              rfl
            · split at h
              · cases h
                rfl
              · cases h
          · cases h
          · cases h
    · split at h
      · cases h
        rfl
      · cases h

/-! ## One binding after the other -/

/-- What is carried out first is carried out on the table and the machine that are there. -/
theorem apply_cons_of_bind {d₁ : Descriptors} {m₁ : Machine}
    (hbind : m.bind cwd d b = (.ok (), d₁, m₁)) (rest : List (Binding Nat)) :
    apply cwd (b :: rest) d m = apply cwd rest d₁ m₁ := by
  simp only [apply, hbind]

theorem Grows.apply (cwd : NodeId) (bindings : List (Binding Nat)) (d : Descriptors) (m : Machine) :
    m.Grows (apply cwd bindings d m).2.2 := by
  induction bindings generalizing d m with
  | nil => exact .refl m
  | cons b rest ih =>
    have hgrows := Grows.bind m cwd d b
    rcases hbind : m.bind cwd d b with ⟨_ | _, d₁, m₁⟩
    · rw [hbind] at hgrows
      simpa only [Machine.apply, hbind] using hgrows
    · rw [hbind] at hgrows
      simpa only [apply_cons_of_bind hbind] using hgrows.trans (ih d₁ m₁)

theorem openKeeping_cons_of_captured {body : Nat} (hsource : b.source = .captured body)
    (rest : List (Binding Nat)) :
    openKeeping cwd (b :: rest) kept m = openKeeping cwd rest kept m := by
  simp only [openKeeping, hsource]

theorem openKeeping_cons_of_refused {path : String} {kind : RedirectKind} {e : RedirectionError}
    {m₁ : Machine} (hsource : b.source = .file path kind)
    (hopen : m.openTarget (keeping m.descriptors kept) cwd path kind b.redirect = (.error e, m₁))
    (rest : List (Binding Nat)) : openKeeping cwd (b :: rest) kept m = (.error e, m₁) := by
  simp only [openKeeping, hsource, hopen]

theorem openKeeping_cons_of_opened {path : String} {kind : RedirectKind} {file : Nat} {m₁ : Machine}
    (hsource : b.source = .file path kind)
    (hopen : m.openTarget (keeping m.descriptors kept) cwd path kind b.redirect = (.ok file, m₁))
    (rest : List (Binding Nat)) :
    openKeeping cwd (b :: rest) kept m =
      openKeeping cwd rest (keptWith m.descriptors b file kept) m₁ := by
  simp only [openKeeping, hsource, hopen]

theorem Grows.openKeeping (cwd : NodeId) (bindings : List (Binding Nat)) (kept : Option (Nat × Nat))
    (m : Machine) : m.Grows (openKeeping cwd bindings kept m).2 := by
  induction bindings generalizing kept m with
  | nil => exact .refl m
  | cons b rest ih =>
    cases hsource : b.source with
    | captured body =>
      rw [openKeeping_cons_of_captured hsource]
      exact ih kept m
    | file path kind =>
      have hgrows := (Grows.openTarget m (keeping m.descriptors kept) cwd path kind b.redirect).1
      rcases hopen : m.openTarget (keeping m.descriptors kept) cwd path kind b.redirect with
        ⟨e | file, m₁⟩
      · rw [openKeeping_cons_of_refused hsource hopen]
        rwa [hopen] at hgrows
      · rw [openKeeping_cons_of_opened hsource hopen]
        rw [hopen] at hgrows
        exact hgrows.trans (ih _ m₁)

theorem SeesAlike.head {rest : List (Binding Nat)} {path : String} {kind : RedirectKind}
    (h : SeesAlike cwd (b :: rest) kept d m) (hsource : b.source = .file path kind) (fd : Nat)
    (hfd : m.streamAt? cwd path kind = some fd) :
    d.get? fd = (keeping m.descriptors kept).get? fd :=
  (h [] b rest path kind kept d m fd rfl hsource rfl rfl hfd).1

/-- When a binding has been carried out by both, they see alike what is left. -/
theorem SeesAlike.tail {rest : List (Binding Nat)} {kept₁ : Option (Nat × Nat)} {d₁ : Descriptors}
    {m₁ : Machine} (h : SeesAlike cwd (b :: rest) kept d m)
    (hkeep : ∀ behind, openKeeping cwd (b :: behind) kept m = openKeeping cwd behind kept₁ m₁)
    (hbind : m.bind cwd d b = (.ok (), d₁, m₁)) : SeesAlike cwd rest kept₁ d₁ m₁ := by
  intro before b' rest' path kind kept₂ d₂ m₂ fd hsplit hsource hkeeps happly hfd
  have hgrows := Grows.bind m cwd d b
  rw [hbind] at hgrows
  rw [hgrows.descriptors_eq]
  obtain ⟨hsame, hcaptured⟩ := h (b :: before) b' rest' path kind kept₂ d₂ m₂ fd
    (by rw [hsplit, List.cons_append]) hsource (by rw [hkeep, hkeeps])
    (by rw [apply_cons_of_bind hbind, happly]) hfd
  exact ⟨hsame, fun ⟨text, hmem, body, hbody⟩ =>
    hcaptured ⟨text, List.mem_cons_of_mem _ hmem, body, hbody⟩⟩

/-- It is so for what stands in front, too. -/
theorem SeesAlike.front {before rest : List (Binding Nat)}
    (h : SeesAlike cwd (before ++ rest) kept d m) : SeesAlike cwd before kept d m := by
  intro front b behind path kind kept₁ d₁ m₁ fd hsplit hsource hkeep happly hfd
  obtain ⟨hsame, hcaptured⟩ := h front b (behind ++ rest) path kind kept₁ d₁ m₁ fd
    (by simp [hsplit]) hsource hkeep happly hfd
  exact ⟨hsame, fun ⟨text, hmem, body, hbody⟩ =>
    hcaptured ⟨text, List.mem_append_left _ hmem, body, hbody⟩⟩

/-- What bindings do not bind stays what it was. -/
theorem get?_of_apply {fd : Nat} {d₁ : Descriptors} {m₁ : Machine}
    (happly : apply cwd bindings d m = (.ok (), d₁, m₁)) (hfd : ∀ b ∈ bindings, b.fd ≠ fd) :
    d₁.get? fd = d.get? fd := by
  induction bindings generalizing d m with
  | nil =>
    cases happly
    rfl
  | cons b rest ih =>
    rcases hbind : m.bind cwd d b with ⟨_ | _, d₂, m₂⟩
    · simp [apply, hbind] at happly
    · rw [apply_cons_of_bind hbind] at happly
      obtain ⟨file, -, htakes, -⟩ := takes_of_bind hbind
      rw [ih happly fun b' hb' => hfd b' (List.mem_cons_of_mem _ hb'), htakes.get?_eq,
        if_neg fun h => hfd b List.mem_cons_self h.symm]

/-- Bindings fail at a file that cannot be opened, with all in front of it carried out and nothing
done since. -/
theorem exists_refused_of_apply {e : RedirectionError}
    (herror : (apply cwd bindings d m).1 = .error e) :
    ∃ before b rest path kind cause d₁ m₁, bindings = before ++ b :: rest ∧
      b.source = .file path kind ∧ apply cwd before d m = (.ok (), d₁, m₁) ∧
      m₁.openPath d₁ cwd path kind.access (FileTree.masked m₁.umask redirectMode) =
        (.error cause, m₁) ∧
      e = .openFailed b.redirect.target cause ∧
      apply cwd bindings d m = (.error e, d₁, m₁) := by
  induction bindings generalizing d m with
  | nil => cases herror
  | cons b rest ih =>
    rcases hbind : m.bind cwd d b with ⟨e' | _, d₁, m₁⟩
    · -- This is the one.
      have happly : apply cwd (b :: rest) d m = (.error e', d₁, m₁) := by simp only [apply, hbind]
      rw [happly] at herror
      obtain rfl : e' = e := Except.error.inj herror
      unfold bind at hbind
      cases hsource : b.source with
      | captured body => simp [hsource] at hbind
      | file path kind =>
        simp only [hsource, openTarget] at hbind
        rcases hpath : m.openPath d cwd path kind.access (FileTree.masked m.umask redirectMode) with
          ⟨cause | file, m₂⟩
        · obtain rfl := eq_of_openPath_eq_error hpath
          simp only [hpath, Prod.mk.injEq, Except.error.injEq] at hbind
          obtain ⟨rfl, rfl, rfl⟩ := hbind
          exact ⟨[], b, rest, path, kind, cause, d, m₂, rfl, hsource, rfl, hpath, rfl, happly⟩
        · simp [hpath] at hbind
    · rw [apply_cons_of_bind hbind] at herror ⊢
      obtain ⟨before, b', rest', path, kind, cause, d₂, m₂, hsplit, hsource, hbefore, hopen, he,
        happly⟩ := ih herror
      exact ⟨b :: before, b', rest', path, kind, cause, d₂, m₂, by rw [hsplit, List.cons_append],
        hsource, by rw [apply_cons_of_bind hbind, hbefore], hopen, he, happly⟩

/-- A path goes on from what its first name leads to, if that is no link. -/
theorem FileTree.walk_entry {t : FileTree} {ending : FileTree.Ending} {links : Nat} {part : String}
    {rest : List String} {current parent id : NodeId} {entries : List (String × NodeId)}
    (hdirectory : t.directory? current = some (parent, entries))
    (hsearch : t.allows current .search = true) (hpart : part ∉ ["", ".", ".."])
    (hlength : part.utf8ByteSize ≤ maxName)
    (hending : rest = [] ∨ rest.any (· != "") = true) (hentry : entries.lookup part = some id)
    (hlink : t.target? id = none) :
    t.walk ending links (part :: rest) current = t.walk ending links rest id := by
  simp only [List.mem_cons, List.not_mem_nil, or_false, not_or] at hpart
  obtain ⟨hempty, hdot, hdots⟩ := hpart
  have hslash : ¬ (ending = .created ∧ (!rest.isEmpty) = true ∧ (rest.all (· == "")) = true) := by
    rintro ⟨-, hne, hall⟩
    rcases hending with rfl | hany
    · simp at hne
    · obtain ⟨name, hmem, hname⟩ := List.any_eq_true.mp hany
      simp [eq_of_beq (List.all_eq_true.mp hall name hmem)] at hname
  rw [walk]
  simp only [hdirectory, hempty, hdot, hdots, hsearch, hslash, Nat.not_lt.mpr hlength,
    hentry, hlink,
    if_false, Bool.not_true, Bool.false_eq_true]

/-- A tree with a file and the device for standard input. -/
def deviceTree : FileTree :=
  ⟨#[⟨.directory FileTree.root [("a", 1), ("dev", 2)], 0o755⟩, ⟨.file #[116, 10], 0o644⟩,
    ⟨.directory FileTree.root [("stdin", 3)], 0o755⟩, ⟨.device (.stream 0), 0o666⟩]⟩

/-- A machine with this tree, and streams of its own. -/
def deviceMachine : Machine :=
  (((onTree deviceTree []).openStream 0 #[]).openStream 1 #[]).openStream 2 #[]

/-- The device is there for writing. -/
theorem openNode_deviceMachine_stream (mode : Nat) :
    deviceMachine.tree.openNode FileTree.root "/dev/stdin" .overwrite mode =
      .ok (3, deviceMachine.tree) := by
  have hwalk : deviceMachine.tree.walk .created FileTree.maxLinks ["", "dev", "stdin"]
      FileTree.root = .ok (.node 3) := by
    rw [FileTree.walk]
    simp only [show deviceMachine.tree.directory? FileTree.root =
      some (FileTree.root, [("a", 1), ("dev", 2)]) from rfl, if_true]
    rw [FileTree.walk_entry rfl (by decide) (by decide) (by decide) (.inr (by decide)) rfl rfl,
      FileTree.walk_entry rfl (by decide) (by decide) (by decide) (.inl rfl) rfl rfl, FileTree.walk]
  have hresolve : deviceMachine.tree.resolve FileTree.root .created "/dev/stdin" =
      .ok (.node 3) := by
    rw [FileTree.resolve, show FileTree.malformed? "/dev/stdin" = none by decide +kernel,
      show FileTree.partsOf "/dev/stdin" = ["", "dev", "stdin"] by decide +kernel,
      show FileTree.isAbsolute "/dev/stdin" = true by decide +kernel]
    simp only [if_true, hwalk]
  rw [FileTree.openNode, FileTree.openForWriting, hresolve]
  rfl

/-- Standard output bound to the device. -/
def toDevice : Binding Nat := Plan.binding .output "/dev/stdin" (.file "/dev/stdin" .output)

section Trial

variable {m : Machine} (htree : m.tree = deviceMachine.tree) (d : Descriptors) (redirect : Redirect)
include htree

/-- What is opened for output is whatever standard input leads to. -/
theorem openTarget_stream (file : Nat) {new : Nat} (hfile : d.get? 0 = some file)
    (hreopen : (m.reopen file .overwrite).1 = .ok new) :
    m.openTarget d FileTree.root "/dev/stdin" .output redirect =
      (.ok new, (m.reopen file .overwrite).2) := by
  have hstream : m.streamOf? 3 = some 0 := by
    rw [streamOf?, htree]
    rfl
  have hpair : m.reopen file .overwrite = (.ok new, (m.reopen file .overwrite).2) :=
    Prod.ext hreopen rfl
  simp only [openTarget, openPath, RedirectKind.access, htree,
    openNode_deviceMachine_stream, hstream,
    hfile]
  rw [hpair]

end Trial

end Machine

end PipeShell
