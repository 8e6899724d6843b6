import Mathlib.Data.List.Infix
import PipeShell.Proofs.Plan.Scanning

/-!
# Where resolving stops

Resolving a command captures its texts in a row, and does nothing else to the state. It stops at the
first bare operator that has no operand, or at a text before it that cannot be captured. What it
comes to depends on the words and on the answers alone. So the commands of a pipeline can be told
one by one: one that fails has no part in what the others ask for, nor in what they come to.

## Main definitions

* `lacking? words`: the operator without an operand that some words begin with
* `gap? words`: the first operator without an operand
* `delimitersOf words`: the delimiters of the texts in front of it
* `Stops words scan`: how resolving ends, with what has been asked for
* `scans capture commands s`: what the commands of a pipeline ask for and come to

## Main results

* `exists_plannedBy`: resolving captures texts in a row
* `PlannedBy.stops`: where one command stops, and with what
* `Stops.eq_of_answers`: the answers decide what it comes to
* `pipeline_stops_stagewise`: each command of a pipeline stops by itself
-/

namespace PipeShell

variable {σ τ κ : Type}

/-! ## Answers in a row -/

namespace Capture

variable (capture : Capture σ κ)

/-- What capturing in a row asks for, with the answers. A refusal is the last of them. -/
def asks : (delimiters : List String) → σ → List (String × Except Errno κ)
  | [], _ => []
  | delimiter :: rest, s =>
    match capture delimiter s with
    | (.error cause, _) => [(delimiter, .error cause)]
    | (.ok body, s) => (delimiter, .ok body) :: asks rest s

/-- Listing what is asked for changes nothing. -/
theorem all_answered (delimiters : List String) (s : σ) (list : List (String × Except Errno κ)) :
    all capture.answered delimiters (s, list) =
      ((capture.all delimiters s).1, (capture.all delimiters s).2,
        list ++ capture.asks delimiters s) := by
  induction delimiters generalizing s list with
  | nil => simp [all, asks]
  | cons delimiter rest ih =>
    rcases hcapture : capture delimiter s with ⟨cause | body, after⟩
    · simp [all, asks, answered_apply, hcapture]
    · simp [all, asks, answered_apply, hcapture, ih]

/-- Either all texts are asked for and captured, or they are asked for up to the first one that is
refused. -/
theorem asks_cases (delimiters : List String) (s : σ) :
    (∃ texts : List (String × κ), texts.map Prod.fst = delimiters ∧
      capture.asks delimiters s = texts.map Plan.captured ∧
      (capture.all delimiters s).1 = .ok (texts.map Prod.snd)) ∨
    ∃ (texts : List (String × κ)) (delimiter : String) (cause : Errno),
      texts.map Prod.fst ++ [delimiter] <+: delimiters ∧
      capture.asks delimiters s = texts.map Plan.captured ++ [(delimiter, .error cause)] ∧
      (capture.all delimiters s).1 = .error cause := by
  induction delimiters generalizing s with
  | nil => exact .inl ⟨[], rfl, rfl, rfl⟩
  | cons delimiter rest ih =>
    rcases hcapture : capture delimiter s with ⟨cause | body, after⟩
    · refine .inr ⟨[], delimiter, cause, ⟨rest, rfl⟩, ?_, ?_⟩
      · simp [asks, hcapture]
      · simp [all, hcapture]
    · rcases ih after with ⟨texts, htexts, hasks, hall⟩ |
        ⟨texts, refused, cause, hprefix, hasks, hall⟩
      · refine .inl ⟨(delimiter, body) :: texts, by simp [htexts], ?_, ?_⟩
        · simp [asks, hcapture, hasks, Plan.captured]
        · simp [all, hcapture, hall, Except.map]
      · refine .inr ⟨(delimiter, body) :: texts, refused, cause, ?_, ?_, ?_⟩
        · simpa using hprefix
        · simp [asks, hcapture, hasks, Plan.captured]
        · simp [all, hcapture, hall, Except.map]

end Capture

theorem RedirectKind.ofOperator?_eq_some_iff (word : String) (kind : RedirectKind) :
    ofOperator? word = some kind ↔ word = kind.operator := by
  constructor
  · intro h
    unfold ofOperator? at h
    split_ifs at h <;> cases h <;> assumption
  · rintro rfl
    exact ofOperator?_operator kind

namespace Plan

/-! ## Operators without operands -/

/-- The bare operator that some words begin with and that has no operand: it is the last word, or an
operator comes next. -/
def lacking? : List String → Option RedirectKind
  | [] => none
  | word :: rest =>
    (RedirectKind.ofOperator? word).filter fun _ => rest.head?.all fun next => ¬ IsPlain next

/-- The delimiter of the text that some words begin with: it is glued to its `<<` or the next
word. -/
def delimiterAt? : List String → Option String
  | [] => none
  | word :: rest =>
    if word = RedirectKind.heredoc.operator then rest.head?
    else (splitOperator? word).bind fun (kind, glued) => delimiter? ⟨kind, glued⟩

/-- The first bare operator that has no operand. -/
def gap? (words : List String) : Option RedirectKind := words.tails.findSome? lacking?

/-- The delimiters of the texts in front of the first bare operator that has no operand. -/
def delimitersOf (words : List String) : List String :=
  (words.tails.takeWhile fun behind => (lacking? behind).isNone).filterMap delimiterAt?

section Words

variable {words : List String} {word : String} {kind : RedirectKind}

theorem lacking?_eq_some_iff : lacking? words = some kind ↔ LacksOperand kind words := by
  constructor
  · intro h
    cases words with
    | nil => cases h
    | cons word rest =>
      obtain ⟨hword, hnext⟩ := Option.filter_eq_some_iff.mp h
      obtain rfl := (RedirectKind.ofOperator?_eq_some_iff word kind).mp hword
      cases rest with
      | nil => exact .last
      | cons next rest => exact .crowded (by simpa using hnext)
  · intro h
    cases h with
    | last => simp [lacking?]
    | crowded operator => simp [lacking?, operator]

theorem ofOperator?_eq_none_of_isPlain (plain : IsPlain word) :
    RedirectKind.ofOperator? word = none := by
  refine Option.eq_none_iff_forall_ne_some.mpr fun kind h => ?_
  rw [(RedirectKind.ofOperator?_eq_some_iff word kind).mp h] at plain
  exact not_isPlain_operator kind plain

theorem lacking?_of_isPlain (plain : IsPlain word) (rest : List String) :
    lacking? (word :: rest) = none := by
  simp [lacking?, ofOperator?_eq_none_of_isPlain plain]

theorem gap?_cons {rest : List String} (h : lacking? (word :: rest) = none) :
    gap? (word :: rest) = gap? rest := by
  simp [gap?, h]

theorem gap?_of_lacksOperand (h : LacksOperand kind words) : gap? words = some kind := by
  have hlacking := lacking?_eq_some_iff.mpr h
  cases words with
  | nil => cases hlacking
  | cons word rest => simp [gap?, hlacking]

theorem delimitersOf_cons {rest : List String} (h : lacking? (word :: rest) = none) :
    delimitersOf (word :: rest) = (delimiterAt? (word :: rest)).toList ++ delimitersOf rest := by
  simp only [delimitersOf, List.tails_cons, List.takeWhile_cons, h, Option.isNone_none, if_true,
    List.filterMap_cons]
  cases delimiterAt? (word :: rest) <;> rfl

theorem delimitersOf_of_lacksOperand (h : LacksOperand kind words) : delimitersOf words = [] := by
  have hlacking := lacking?_eq_some_iff.mpr h
  cases words with
  | nil => cases hlacking
  | cons word rest => simp [delimitersOf, hlacking]

theorem gap?_argument (plain : IsPlain word) (rest : List String) :
    gap? (word :: rest) = gap? rest := gap?_cons (lacking?_of_isPlain plain rest)

theorem delimiterAt?_of_isPlain (plain : IsPlain word) (rest : List String) :
    delimiterAt? (word :: rest) = none := by
  have hne : word ≠ RedirectKind.heredoc.operator := by
    rintro rfl
    exact not_isPlain_operator _ plain
  simp [delimiterAt?, hne, (splitOperator?_eq_none_iff word).mpr plain]

theorem delimitersOf_argument (plain : IsPlain word) (rest : List String) :
    delimitersOf (word :: rest) = delimitersOf rest := by
  rw [delimitersOf_cons (lacking?_of_isPlain plain rest), delimiterAt?_of_isPlain plain rest]
  rfl

end Words

namespace Forms

variable {redirect : Redirect} {front : List String}

/-- A word with something glued to its operator is no operator. -/
theorem ne_operator {kind other : RedirectKind} {target word : String}
    (split : splitOperator? word = some (kind, target)) (nonempty : target ≠ "") :
    word ≠ other.operator := by
  rintro rfl
  rw [splitOperator?_operator] at split
  cases split
  exact nonempty rfl

/-- A redirection has its operand. -/
theorem lacking?_append (h : Forms redirect front) (rest : List String) :
    lacking? (front ++ rest) = none := by
  cases h with
  | @glued kind target word split nonempty =>
    have hoperator : RedirectKind.ofOperator? word = none :=
      Option.eq_none_iff_forall_ne_some.mpr fun other hother =>
        ne_operator split nonempty ((RedirectKind.ofOperator?_eq_some_iff word other).mp hother)
    simp [lacking?, hoperator]
  | separate plain => simp [lacking?, plain]

theorem delimiterAt?_append (h : Forms redirect front) (rest : List String) :
    delimiterAt? (front ++ rest) = delimiter? redirect := by
  cases h with
  | glued split nonempty => simp [delimiterAt?, ne_operator split nonempty, split]
  | @separate kind target plain => cases kind <;> rfl

/-- A redirection with its operand is no gap. -/
theorem gap?_append (h : Forms redirect front) (rest : List String) :
    gap? (front ++ rest) = gap? rest := by
  have hlacking := h.lacking?_append rest
  cases h with
  | glued split nonempty => exact gap?_cons hlacking
  | separate plain => exact (gap?_cons hlacking).trans (gap?_argument plain rest)

/-- A redirection asks for its own text, if it has one. -/
theorem delimitersOf_append (h : Forms redirect front) (rest : List String) :
    delimitersOf (front ++ rest) = (delimiter? redirect).toList ++ delimitersOf rest := by
  have hlacking := h.lacking?_append rest
  rw [← h.delimiterAt?_append rest]
  cases h with
  | glued split nonempty => exact delimitersOf_cons hlacking
  | separate plain =>
    exact (delimitersOf_cons hlacking).trans
      (congrArg (_ ++ ·) (delimitersOf_argument plain rest))

end Forms

/-! ## Captures in a row, and a plan -/

/-- What a command comes to once its texts have been captured in a row, or one of them refused. -/
def outcome (words : List String) (plan : List κ → Plan κ) :
    Except Errno (List κ) → Except RedirectionError (Plan κ)
  | .error cause => .error (.heredoc cause)
  | .ok texts => (gap? words).elim (.ok (plan texts)) fun kind => .error (.missingOperand kind)

/-- Resolving the words captures their texts in a row, and with these comes to a plan. -/
def PlannedBy (words : List String) (plan : List κ → Plan κ) : Prop :=
  ∀ {σ : Type} (capture : Capture σ κ) (s : σ), resolve capture words s =
    (outcome words plan (capture.all (delimitersOf words) s).1,
      (capture.all (delimitersOf words) s).2)

section Planned

variable {words front : List String} {plan : List κ → Plan κ}

/-- What is put in front of a plan is put in front of what the words behind come to. -/
theorem outcome_map (hgap : gap? (front ++ words) = gap? words) (put : Plan κ → Plan κ)
    (texts : Except Errno (List κ)) :
    (outcome words plan texts).map put = outcome (front ++ words) (put ∘ plan) texts := by
  rcases texts with cause | bodies
  · rfl
  · cases h : gap? words <;> simp [outcome, hgap, h, Except.map]

/-- An argument in front is put in front of the plan. -/
theorem PlannedBy.argument {word : String} (plain : IsPlain word) (h : PlannedBy words plan) :
    PlannedBy (word :: words) (consArg word ∘ plan) := by
  intro σ capture s
  have hgap : gap? ([word] ++ words) = gap? words := gap?_argument plain words
  rw [resolve_argument capture words s plain, h, delimitersOf_argument plain]
  exact Prod.ext (outcome_map hgap _ _) rfl

/-- The text of a `<<` in front is the first to be captured. -/
theorem PlannedBy.heredoc {target : String} (forms : Forms ⟨.heredoc, target⟩ front)
    (h : PlannedBy words plan) :
    PlannedBy (front ++ words) fun texts => texts.head?.elim .empty fun body =>
      consBinding (binding .heredoc target (.captured body)) (plan texts.tail) := by
  intro σ capture s
  rw [forms.resolve_append, forms.delimitersOf_append]
  simp only [delimiter?, Option.toList_some, List.singleton_append, Capture.all, resolveBehind,
    Source.ofOperand]
  rcases capture target s with ⟨cause | body, after⟩
  · rfl
  · -- The words behind are resolved in the state that this text leaves.
    simp only [h capture after, outcome_map (forms.gap?_append words)]
    rcases capture.all (delimitersOf words) after with ⟨cause | bodies, after⟩ <;> rfl

/-- A file in front is neither opened nor captured. -/
theorem PlannedBy.file {kind : RedirectKind} {target : String} (hkind : kind ≠ .heredoc)
    (forms : Forms ⟨kind, target⟩ front) (h : PlannedBy words plan) :
    PlannedBy (front ++ words) (consBinding (binding kind target (.file target kind)) ∘ plan) := by
  intro σ capture s
  rw [forms.resolve_append, forms.delimitersOf_append, ← outcome_map (forms.gap?_append words)]
  cases kind with
  | heredoc => exact absurd rfl hkind
  | _ => simp [resolveBehind, Source.ofOperand, delimiter?, h capture s]

/-- An operator without an operand in front asks for nothing. -/
theorem plannedBy_of_lacksOperand {kind : RedirectKind} (h : LacksOperand kind words)
    (plan : List κ → Plan κ) : PlannedBy words plan := by
  intro σ capture s
  rw [resolve_of_lacksOperand capture h, delimitersOf_of_lacksOperand h]
  simp [Capture.all, outcome, gap?_of_lacksOperand h]

end Planned

/-- **Resolving captures texts in a row.** The texts are those in front of the first operator
without an operand. Given these, the plan depends on the words alone. -/
theorem exists_plannedBy (κ : Type) (words : List String) :
    ∃ plan : List κ → Plan κ, PlannedBy words plan := by
  induction words using reading_induction with
  | nil => exact ⟨fun _ => .empty, fun capture s => resolve_nil capture s⟩
  | argument word rest plain ih =>
    obtain ⟨plan, hplan⟩ := ih
    exact ⟨_, hplan.argument plain⟩
  | redirection redirect front rest forms ih =>
    obtain ⟨plan, hplan⟩ := ih
    obtain ⟨kind, target⟩ := redirect
    -- Only a `<<` takes up a text, and leaves the others to the words behind.
    by_cases hkind : kind = .heredoc
    · subst hkind
      exact ⟨_, hplan.heredoc forms⟩
    · exact ⟨_, hplan.file hkind forms⟩
  | lacking kind words lacks => exact ⟨fun _ => .empty, plannedBy_of_lacksOperand lacks _⟩

/-! ## One command -/

/-- What was answered to what was asked for. -/
def Scan.answers (scan : Scan κ) : List (Except Errno κ) := scan.asked.map Prod.snd

/-- What one command asks for and comes to. -/
def scan (capture : Capture σ κ) (words : List String) (s : σ) : Scan κ :=
  ⟨(resolve capture.answered words (s, [])).2.2, (resolve capture words s).1⟩

/-- How resolving ends, with what has been asked for. If all texts in front of the first operator
without an operand have been captured, the command fails at that operator or, if there is none, has
a plan. If one of them has been refused, nothing behind it has been asked for, and the command fails
with its cause. -/
inductive Stops (words : List String) (plan : List κ → Plan κ) : Scan κ → Prop
  | whole (texts : List (String × κ)) (asked : texts.map Prod.fst = delimitersOf words)
    (complete : gap? words = none) :
    Stops words plan ⟨texts.map captured, .ok (plan (texts.map Prod.snd))⟩
  | incomplete {kind} (texts : List (String × κ)) (asked : texts.map Prod.fst = delimitersOf words)
    (gap : gap? words = some kind) :
    Stops words plan ⟨texts.map captured, .error (.missingOperand kind)⟩
  | refused {delimiter cause} (texts : List (String × κ))
    (asked : texts.map Prod.fst ++ [delimiter] <+: delimitersOf words) :
    Stops words plan
      ⟨texts.map captured ++ [(delimiter, .error cause)], .error (.heredoc cause)⟩

/-- What is asked for are the texts in front of the first operator without an operand. -/
theorem resolve_asks (capture : Capture σ κ) (words : List String) (s : σ)
    (list : List (String × Except Errno κ)) :
    resolve capture.answered words (s, list) =
      ((resolve capture words s).1, (resolve capture words s).2,
        list ++ capture.asks (delimitersOf words) s) := by
  obtain ⟨plan, hplan⟩ := exists_plannedBy κ words
  rw [hplan, hplan, Capture.all_answered]

theorem PlannedBy.scan_eq {words : List String} {plan : List κ → Plan κ} (h : PlannedBy words plan)
    (capture : Capture σ κ) (s : σ) :
    scan capture words s = ⟨capture.asks (delimitersOf words) s,
      outcome words plan (capture.all (delimitersOf words) s).1⟩ := by
  rw [scan, resolve_asks, h capture s, List.nil_append]

/-- **A command stops** where its words and the answers say, whatever is captured and how. -/
theorem PlannedBy.stops {words : List String} {plan : List κ → Plan κ} (h : PlannedBy words plan)
    (capture : Capture σ κ) (s : σ) : Stops words plan (scan capture words s) := by
  rw [h.scan_eq]
  rcases capture.asks_cases (delimitersOf words) s with ⟨texts, htexts, hasks, hall⟩ |
    ⟨texts, delimiter, cause, hprefix, hasks, hall⟩
  · rw [hasks, hall]
    cases hgap : gap? words with
    | none =>
      have hstops : Stops words plan _ := .whole texts htexts hgap
      simpa [outcome, hgap] using hstops
    | some kind =>
      have hstops : Stops words plan _ := .incomplete texts htexts hgap
      simpa [outcome, hgap] using hstops
  · rw [hasks, hall]
    exact .refused texts hprefix

/-! ## The same answers -/

section Answers

variable {words : List String} {plan : List κ → Plan κ} {found found' : Scan κ}

/-- The texts, if every answer is one, or the first refusal. -/
def collected : (answers : List (Except Errno κ)) → Except Errno (List κ)
  | [] => .ok []
  | .error cause :: _ => .error cause
  | .ok body :: rest => (collected rest).map (body :: ·)

theorem collected_ok (bodies : List κ) : collected (bodies.map .ok) = .ok bodies := by
  induction bodies with
  | nil => rfl
  | cons body rest ih =>
    rw [List.map_cons, collected, ih]
    rfl

theorem collected_error (bodies : List κ) (cause : Errno) :
    collected (bodies.map .ok ++ [.error cause]) = .error cause := by
  induction bodies with
  | nil => rfl
  | cons body rest ih =>
    rw [List.map_cons, List.cons_append, collected, ih]
    rfl

theorem map_fst_captured (texts : List (String × κ)) :
    (texts.map captured).map Prod.fst = texts.map Prod.fst := by
  simp [captured]

theorem map_snd_captured (texts : List (String × κ)) :
    (texts.map captured).map Prod.snd = (texts.map Prod.snd).map .ok := by
  simp [captured]

theorem Stops.plan_eq (h : Stops words plan found) :
    found.plan = outcome words plan (collected found.answers) := by
  cases h with
  | whole texts asked complete =>
    rw [Scan.answers, map_snd_captured, collected_ok]
    simp [outcome, complete]
  | incomplete texts asked gap =>
    rw [Scan.answers, map_snd_captured, collected_ok]
    simp [outcome, gap]
  | refused texts asked =>
    rw [Scan.answers, List.map_append, map_snd_captured, List.map_singleton, collected_error]
    rfl

/-- Nothing is asked for out of order. -/
theorem Stops.asked_prefix (h : Stops words plan found) :
    found.asked.map Prod.fst <+: delimitersOf words := by
  cases h with
  | whole texts asked complete => rw [map_fst_captured, asked]
  | incomplete texts asked gap => rw [map_fst_captured, asked]
  | refused texts asked => rwa [List.map_append, map_fst_captured, List.map_singleton]

/-- **The answers decide.** What a command asks for and comes to depends on its words and on the
answers alone. -/
theorem Stops.eq_of_answers (h : Stops words plan found) (h' : Stops words plan found')
    (hanswers : found.answers = found'.answers) : found = found' := by
  -- Both begin the same row of delimiters, and as many have been answered.
  have hlength : (found.asked.map Prod.fst).length = (found'.asked.map Prod.fst).length := by
    simpa [Scan.answers] using congrArg List.length hanswers
  have hfst : found.asked.map Prod.fst = found'.asked.map Prod.fst :=
    (List.prefix_of_prefix_length_le h.asked_prefix h'.asked_prefix hlength.le).eq_of_length hlength
  have hasked : found.asked = found'.asked := by
    rw [← List.zip_unzip found.asked, ← List.zip_unzip found'.asked, List.unzip_eq_map,
      List.unzip_eq_map, hfst]
    exact congrArg _ hanswers
  have hplan : found.plan = found'.plan := by rw [h.plan_eq, h'.plan_eq, hanswers]
  cases found
  cases found'
  exact Scan.mk.injEq .. ▸ ⟨hasked, hplan⟩

end Answers

/-! ## The commands of a pipeline -/

/-- What the commands of a pipeline ask for and come to, each in the state that those in front of it
leave. -/
def scans (capture : Capture σ κ) : (commands : List (List String)) → σ → List (Scan κ)
  | [], _ => []
  | words :: rest, s => scan capture words s :: scans capture rest (resolve capture words s).2

section Pipeline

variable (capture : Capture σ κ) (commands : List (List String)) (s : σ)

theorem map_plan_scans :
    (resolveAll capture commands s).1 = (scans capture commands s).map Scan.plan := by
  induction commands generalizing s with
  | nil => rfl
  | cons words rest ih => simp [resolveAll, scans, scan, ih]

theorem resolveAll_asks (list : List (String × Except Errno κ)) :
    resolveAll capture.answered commands (s, list) =
      ((scans capture commands s).map Scan.plan, (resolveAll capture commands s).2,
        list ++ (scans capture commands s).flatMap Scan.asked) := by
  induction commands generalizing s list with
  | nil => simp [resolveAll, scans]
  | cons words rest ih => simp [resolveAll, scans, scan, resolve_asks, ih]

theorem forall₂_stops_scans :
    List.Forall₂ (fun words found => ∃ plan, Stops words plan found) commands
      (scans capture commands s) := by
  induction commands generalizing s with
  | nil => exact .nil
  | cons words rest ih =>
    obtain ⟨plan, hplan⟩ := exists_plannedBy κ words
    exact .cons ⟨plan, hplan.stops capture s⟩ (ih _)

theorem getElem?_scans (j : Nat) :
    (scans capture commands s)[j]? = commands[j]?.map fun words =>
      scan capture words (resolveAll capture (commands.take j) s).2 := by
  induction commands generalizing s j with
  | nil => rfl
  | cons words rest ih =>
    cases j with
    | zero => rfl
    | succ j => simpa [scans, resolveAll] using ih (resolve capture words s).2 j

/-- **Each command of a pipeline stops by itself.** What is asked for is what the commands ask for,
one after the other, and each stops where its words and its answers say. So wherever the same
command stands in whatever pipeline, with the same answers it asks for the same texts and comes to
the same: a command that fails has no part in what becomes of the others. -/
theorem pipeline_stops_stagewise :
    (resolveAll capture commands s).1 = (scans capture commands s).map Scan.plan ∧
    resolveAll capture.answered commands (s, []) =
      ((scans capture commands s).map Scan.plan, (resolveAll capture commands s).2,
        (scans capture commands s).flatMap Scan.asked) ∧
    List.Forall₂ (fun words found => ∃ plan, Stops words plan found) commands
      (scans capture commands s) ∧
    ∀ {τ : Type} (other : Capture τ κ) (others : List (List String)) (t : τ) (j k : Nat),
      commands[j]? = others[k]? →
      (scans capture commands s)[j]?.map Scan.answers =
        (scans other others t)[k]?.map Scan.answers →
      (scans capture commands s)[j]? = (scans other others t)[k]? := by
  refine ⟨map_plan_scans capture commands s, resolveAll_asks capture commands s [],
    forall₂_stops_scans capture commands s, ?_⟩
  intro τ other others t j k hwords hanswers
  rw [getElem?_scans, getElem?_scans, ← hwords] at hanswers ⊢
  cases hcommand : commands[j]? with
  | none => rfl
  | some words =>
    rw [hcommand] at hanswers
    obtain ⟨plan, hplan⟩ := exists_plannedBy κ words
    exact congrArg some ((hplan.stops _ _).eq_of_answers (hplan.stops _ _)
      (Option.some.inj hanswers))

end Pipeline

/-- The second of three commands asks for a text and then lacks an operand. The third comes to the
same as behind a command that does neither. -/
theorem pipeline_stops_stagewise_third :
    (scans (fun delimiter s => (.ok delimiter, s))
        [["cat", "<<A"], ["sort", "<<", "B", "<", ">x"], ["tr", "<<C"]] ())[1]?.map Scan.plan =
      some (.error (.missingOperand .input)) ∧
    ([["cat", "<<A"], ["sort", "<<", "B", "<", ">x"], ["tr", "<<C"]] : List (List String))[2]? =
      [["wc"], ["cat", "<<A"], ["sort"], ["tr", "<<C"]][3]? ∧
    (scans (fun delimiter s => (.ok delimiter, s))
        [["cat", "<<A"], ["sort", "<<", "B", "<", ">x"], ["tr", "<<C"]] ())[2]? =
      (scans (fun delimiter n => (.ok delimiter, n + 1))
        [["wc"], ["cat", "<<A"], ["sort"], ["tr", "<<C"]] 0)[3]? := by
  refine ⟨rfl, rfl, ?_⟩
  exact (pipeline_stops_stagewise _ _ _).2.2.2 _ _ _ 2 3 rfl rfl

end Plan

end PipeShell
