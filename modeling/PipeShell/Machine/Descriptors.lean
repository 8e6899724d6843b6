/-!
# Descriptor tables

A descriptor is a small number under which a process knows an open file. Copying a descriptor makes
a second number for the same open file, so the two share one position.

## Main definitions

* `Descriptors`: the numbers in use, each with its open file
* `Descriptors.place`, `Descriptors.drop`, `Descriptors.insertLeast`: the changes a table can
  undergo

## Main results

* `get?_place`, `get?_drop`: what each change does to what the numbers stand for
* `get?_vacancy`: the number that opening hands out stood for nothing
-/

namespace PipeShell.Machine

/-- The numbers in use, each with the open file it stands for. The first entry of a number
counts. -/
structure Descriptors where
  entries : List (Nat × Nat)
  deriving DecidableEq, Repr

namespace Descriptors

/-- No number is in use. -/
def none : Descriptors := ⟨[]⟩

/-- The open file that a number stands for. -/
def get? (d : Descriptors) (fd : Nat) : Option Nat := d.entries.lookup fd

/-- Makes a number stand for an open file, whatever it stood for before. -/
def place (d : Descriptors) (fd file : Nat) : Descriptors :=
  ⟨(fd, file) :: d.entries.filter fun e => e.1 != fd⟩

/-- Takes a number out of use. -/
def drop (d : Descriptors) (fd : Nat) : Descriptors := ⟨d.entries.filter fun e => e.1 != fd⟩

/-- Takes all numbers from `least` on out of use. -/
def below (d : Descriptors) (least : Nat) : Descriptors := ⟨d.entries.filter fun e => e.1 < least⟩

/-- The open files that some number stands for. -/
def files (d : Descriptors) : List Nat := d.entries.map Prod.snd

theorem lookup_filter_self (es : List (Nat × Nat)) (fd : Nat) :
    (es.filter fun e => e.1 != fd).lookup fd = Option.none := by
  induction es with
  | nil => rfl
  | cons e es ih =>
    by_cases h : e.1 = fd
    · simp [h, ih]
    · have hne : fd ≠ e.1 := fun h' => h h'.symm
      rw [List.filter_cons_of_pos (by simpa using h), List.lookup_cons, beq_false_of_ne hne]
      exact ih

theorem lookup_filter_ne (es : List (Nat × Nat)) {fd other : Nat} (hne : other ≠ fd) :
    (es.filter fun e => e.1 != fd).lookup other = es.lookup other := by
  induction es with
  | nil => rfl
  | cons e es ih =>
    obtain ⟨n, f⟩ := e
    by_cases h : n = fd
    · have : (other == n) = false := by simpa [h] using hne
      simp [h, List.lookup_cons, ih, show (other == fd) = false by simpa using hne]
    · simp [h, List.lookup_cons, ih]

/-- A placed number stands for what it was placed for, and every other number for what it did. -/
theorem get?_place (d : Descriptors) (fd file other : Nat) :
    (d.place fd file).get? other = if other = fd then some file else d.get? other := by
  unfold get? place
  by_cases h : other = fd
  · simp [h]
  · simp [h, List.lookup_cons, show (other == fd) = false by simpa using h, lookup_filter_ne _ h]

/-- A dropped number stands for nothing, and every other number for what it did. -/
theorem get?_drop (d : Descriptors) (fd other : Nat) :
    (d.drop fd).get? other = if other = fd then Option.none else d.get? other := by
  unfold get? drop
  by_cases h : other = fd
  · simp [h, lookup_filter_self]
  · simp [h, lookup_filter_ne _ h]

/-- The least number from `fd` on that is not in use, looked for at most `tries` times. -/
def vacancyFrom (d : Descriptors) : (tries : Nat) → (fd : Nat) → Nat
  | 0, fd => fd
  | tries + 1, fd => if (d.get? fd).isSome then vacancyFrom d tries (fd + 1) else fd

/-- The least number that is not in use. -/
def vacancy (d : Descriptors) : Nat := d.vacancyFrom d.entries.length 0

/-- Makes the least unused number stand for an open file, and tells the number. -/
def insertLeast (d : Descriptors) (file : Nat) : Nat × Descriptors :=
  (d.vacancy, d.place d.vacancy file)

/-- Makes the least unused number from `least` on stand for an open file, and tells the number. -/
def insertFrom (d : Descriptors) (least file : Nat) : Nat × Descriptors :=
  let fd := d.vacancyFrom d.entries.length least
  (fd, d.place fd file)

theorem lookup_isSome_iff (es : List (Nat × Nat)) (fd : Nat) :
    (es.lookup fd).isSome = true ↔ fd ∈ es.map Prod.fst := by
  induction es with
  | nil => simp
  | cons e es ih =>
    obtain ⟨n, f⟩ := e
    by_cases h : fd = n
    · simp [h]
    · simp only [List.lookup_cons, show (fd == n) = false by simpa using h, List.map_cons,
        List.mem_cons, h, false_or]
      exact ih

/-- Where the search stops without an unused number, every number it passed is in use. -/
theorem vacancyFrom_isSome (d : Descriptors) (tries fd : Nat)
    (h : (d.get? (d.vacancyFrom tries fd)).isSome = true) :
    ∀ n, fd ≤ n → n ≤ fd + tries → (d.get? n).isSome = true := by
  induction tries generalizing fd with
  | zero =>
    intro n h1 h2
    have : n = fd := by omega
    simpa [vacancyFrom, this] using h
  | succ tries ih =>
    simp only [vacancyFrom] at h
    split at h
    · rename_i hs
      intro n h1 h2
      rcases Nat.eq_or_lt_of_le h1 with rfl | hlt
      · exact hs
      · exact ih (fd + 1) h n hlt (by omega)
    · rename_i hs
      exact absurd h hs

/-- A list that has all numbers below `k` has at least `k` members. -/
theorem le_length_of_forall_lt_mem (k : Nat) (l : List Nat) (h : ∀ n, n < k → n ∈ l) :
    k ≤ l.length := by
  induction k generalizing l with
  | zero => exact Nat.zero_le _
  | succ k ih =>
    have hk := h k (Nat.lt_succ_self k)
    have := ih (l.erase k) fun n hn =>
      (List.mem_erase_of_ne (Nat.ne_of_lt hn)).mpr (h n (Nat.lt_succ_of_lt hn))
    rw [List.length_erase_of_mem hk] at this
    have := List.length_pos_of_mem hk
    omega

/-- The least unused number stands for nothing. -/
theorem get?_vacancy (d : Descriptors) : d.get? d.vacancy = Option.none := by
  rcases hopt : d.get? d.vacancy with _ | f
  · rfl
  · exfalso
    have hs : (d.get? (d.vacancyFrom d.entries.length 0)).isSome = true := by
      unfold vacancy at hopt; simp [hopt]
    have hall := vacancyFrom_isSome d _ _ hs
    have := le_length_of_forall_lt_mem (d.entries.length + 1) (d.entries.map Prod.fst) fun n hn =>
      (lookup_isSome_iff _ n).mp (hall n (by omega) (by omega))
    rw [List.length_map] at this
    omega

end Descriptors

end PipeShell.Machine
