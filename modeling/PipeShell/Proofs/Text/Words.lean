import Mathlib.Data.List.Forall2
import PipeShell.Text.Blank

/-!
# Texts as pieces and as words

What cutting a text comes to can be said without cutting it. The pieces of a text are the only texts
without the separator that give the text again when the separator is put between them. Its words are
the only row of words of which the text is a writing: with blanks between them, any number but none
at all, and with blanks in front and behind, any number.

## Main definitions

* `IsCut sep parts text`: the parts are the text, cut at a separator
* `IsGap`, `IsWord`: a text of nothing but blanks, and a text without any
* `Spaced words text`: the text is a writing of the words

## Main results

* `splitAt_eq_iff`: cutting at a separator, by what is put together again
* `words_eq_iff`: the words of a text, by its writing
* `pieces_append`, `words_append_of_ends`: how the pieces and the words of two texts meet
-/

namespace PipeShell.Text

/-! ## Pieces -/

section Pieces

variable {α : Type} {sep : α → Bool} {xs ys : List α}

theorem pieces_eq_splitOnP (sep : α → Bool) (xs : List α) : pieces sep xs = xs.splitOnP sep := by
  induction xs with
  | nil => simp
  | cons x xs ih =>
    rw [pieces_cons, List.splitOnP_cons_eq_if_modifyHead, ← ih]
    -- There is a piece to grow.
    cases hpieces : pieces sep xs with
    | nil => exact absurd hpieces (pieces_ne_nil sep xs)
    | cons piece rest => rfl

theorem pieces_of_forall_eq_false (h : ∀ x ∈ xs, sep x = false) : pieces sep xs = [xs] := by
  rw [pieces_eq_splitOnP, List.splitOnP_eq_singleton h]

theorem pieces_append_cons {x : α} (h : sep x = true) (xs ys : List α) :
    pieces sep (xs ++ x :: ys) = pieces sep xs ++ pieces sep ys := by
  simp only [pieces_eq_splitOnP, List.splitOnP_append_cons _ _ h]

theorem exists_pieces_eq_cons (sep : α → Bool) (xs : List α) :
    ∃ first behind, pieces sep xs = first :: behind :=
  List.exists_cons_of_ne_nil (pieces_ne_nil sep xs)

theorem exists_pieces_eq_concat (sep : α → Bool) (xs : List α) :
    ∃ front last, pieces sep xs = front ++ [last] :=
  ⟨_, _, (List.dropLast_concat_getLast (pieces_ne_nil sep xs)).symm⟩

/-- The pieces of a text hold what the text holds, the separators apart. -/
theorem mem_of_mem_pieces {piece : List α} (h : piece ∈ pieces sep xs) {x : α} (hx : x ∈ piece) :
    x ∈ xs ∧ sep x = false := by
  induction xs generalizing piece with
  | nil =>
    obtain rfl : piece = [] := by simpa using h
    cases hx
  | cons y ys ih =>
    cases hy : sep y with
    | true =>
      rw [pieces_cons_sep sep hy] at h
      rcases List.mem_cons.mp h with rfl | h
      · cases hx
      · exact (ih h hx).imp_left (List.mem_cons_of_mem _)
    | false =>
      -- The element in front belongs to the first piece, and the others are pieces of the rest.
      obtain ⟨first, behind, hpieces⟩ := exists_pieces_eq_cons sep ys
      rw [pieces_cons_other sep hy, hpieces] at h
      rw [hpieces] at ih
      rcases List.mem_cons.mp h with rfl | h
      · rcases List.mem_cons.mp hx with rfl | hx
        · exact ⟨List.mem_cons_self, hy⟩
        · exact (ih List.mem_cons_self hx).imp_left (List.mem_cons_of_mem _)
      · exact (ih (List.mem_cons_of_mem _ h) hx).imp_left (List.mem_cons_of_mem _)

/-- Separators in front make empty pieces only. -/
theorem mem_pieces_dropWhile_iff {piece : List α} (h : piece ≠ []) :
    piece ∈ pieces sep (xs.dropWhile sep) ↔ piece ∈ pieces sep xs := by
  induction xs with
  | nil => rfl
  | cons x xs ih =>
    cases hx : sep x with
    | true =>
      rw [List.dropWhile_cons_of_pos hx, pieces_cons_sep sep hx, ih, List.mem_cons, or_iff_right h]
    | false => rw [List.dropWhile_cons_of_neg (by simp [hx])]

/-- The piece that is left out at the very end is an empty one. -/
theorem mem_terminated_iff {piece : List α} (h : piece ≠ []) :
    piece ∈ terminated sep xs ↔ piece ∈ pieces sep xs := by
  obtain ⟨front, last, hpieces⟩ := exists_pieces_eq_concat sep xs
  rw [terminated, hpieces, List.getLast?_concat]
  cases last with
  | nil => simp [h]
  | cons x last => rfl

/-- Where two texts meet, the last piece of the one and the first of the other are one piece. -/
theorem pieces_append {front behind : List (List α)} {last first : List α}
    (hxs : pieces sep xs = front ++ [last]) (hys : pieces sep ys = first :: behind) :
    pieces sep (xs ++ ys) = front ++ (last ++ first) :: behind := by
  induction xs generalizing front last with
  | nil =>
    cases front with
    | nil =>
      obtain rfl : [] = last := List.singleton_inj.mp hxs
      exact hys
    | cons piece front => simp at hxs
  | cons x xs ih =>
    obtain ⟨front', last', hrest⟩ := exists_pieces_eq_concat sep xs
    cases hx : sep x with
    | true =>
      rw [pieces_cons_sep sep hx, hrest, ← List.cons_append] at hxs
      obtain ⟨rfl, rfl⟩ := List.append_singleton_inj.mp hxs
      rw [List.cons_append, pieces_cons_sep sep hx, ih hrest]
      rfl
    | false =>
      rw [pieces_cons_other sep hx, hrest] at hxs
      rw [List.cons_append, pieces_cons_other sep hx, ih hrest]
      -- The element in front goes to the first piece, which may be the last as well.
      cases front' with
      | nil =>
        change [] ++ [x :: last'] = front ++ [last] at hxs
        obtain ⟨rfl, rfl⟩ := List.append_singleton_inj.mp hxs
        rfl
      | cons piece front' =>
        change ((x :: piece) :: front') ++ [last'] = front ++ [last] at hxs
        obtain ⟨rfl, rfl⟩ := List.append_singleton_inj.mp hxs
        rfl

end Pieces

/-- The parts, with the separator put between them, are the text, and none of them has it inside. -/
structure IsCut (sep : Char) (parts : List String) (text : String) : Prop where
  ne_nil : parts ≠ []
  not_mem : ∀ part ∈ parts, sep ∉ part.toList
  joined : (String.singleton sep).intercalate parts = text

namespace IsCut

variable {sep : Char} {parts : List String} {part text : String} {c : Char}

/-- A text ends as its last part does. -/
theorem getLast?_of_concat (h : IsCut sep (parts ++ [part]) text) (hc : c ∈ part.toList.getLast?) :
    c ∈ text.toList.getLast? := by
  have hsuffix : part.toList <:+ text.toList := by
    rw [← h.joined]
    by_cases hparts : parts = []
    · simp [hparts]
    · rw [String.intercalate_append_of_ne_nil hparts (by simp), String.intercalate_singleton,
        String.toList_append]
      exact List.suffix_append ..
  obtain ⟨front, hfront⟩ := hsuffix
  rw [← hfront, List.getLast?_append, hc]
  rfl

/-- A text begins as its first part does. -/
theorem head?_of_cons (h : IsCut sep (part :: parts) text) (hc : c ∈ part.toList.head?) :
    c ∈ text.toList.head? := by
  have hprefix : part.toList <+: text.toList := by
    rw [← h.joined]
    by_cases hparts : parts = []
    · simp [hparts]
    · rw [String.intercalate_cons_of_ne_nil hparts, String.append_assoc, String.toList_append]
      exact List.prefix_append ..
  obtain ⟨rest, hrest⟩ := hprefix
  rw [← hrest, List.head?_append, hc]
  rfl

end IsCut

/-- Cutting a text gives the only parts of which it can be put together. -/
theorem splitAt_eq_iff {sep : Char} {text : String} {parts : List String} :
    splitAt sep text = parts ↔ IsCut sep parts text := by
  have hsplit : (splitAt sep text).map String.toList = text.toList.splitOn sep := by
    simp [splitAt, pieces_eq_splitOnP, List.splitOn_eq_splitOnP]
  constructor
  · rintro rfl
    refine ⟨by simp [splitAt, pieces_ne_nil], ?_, ?_⟩
    · intro part hpart hsep
      obtain ⟨piece, hpiece, rfl⟩ := List.mem_map.mp hpart
      rw [String.toList_ofList] at hsep
      simpa using (mem_of_mem_pieces hpiece hsep).2
    · apply String.toList_injective
      rw [String.toList_intercalate, hsplit, String.toList_singleton, List.intercalate_splitOn]
  · rintro ⟨hne, hmem, rfl⟩
    refine List.map_injective_iff.mpr (fun _ _ => String.toList_injective) ?_
    rw [hsplit, String.toList_intercalate, String.toList_singleton]
    exact List.splitOn_intercalate _ (by simpa using hmem) (by simpa using hne)

theorem splitAt_append (sep : Char) (a b : String) :
    splitAt sep (a ++ String.singleton sep ++ b) = splitAt sep a ++ splitAt sep b := by
  simp [splitAt, pieces_append_cons]

theorem splitAt_of_not_mem {sep : Char} {text : String} (h : sep ∉ text.toList) :
    splitAt sep text = [text] :=
  splitAt_eq_iff.mpr ⟨by simp, by simpa using h, String.intercalate_singleton⟩

/-- Where two texts meet, the last piece of the one and the first of the other are one piece. -/
theorem splitAt_append_of_eq {sep : Char} {a b last first : String} {front behind : List String}
    (ha : splitAt sep a = front ++ [last]) (hb : splitAt sep b = first :: behind) :
    splitAt sep (a ++ b) = front ++ (last ++ first) :: behind := by
  have hback : ∀ ps : List (List Char), (ps.map String.ofList).map String.toList = ps := by simp
  have ha' := congrArg (List.map String.toList) ha
  have hb' := congrArg (List.map String.toList) hb
  rw [splitAt, hback, List.map_append] at ha'
  rw [splitAt, hback, List.map_cons] at hb'
  rw [splitAt, String.toList_append, pieces_append ha' hb']
  simp

theorem length_splitAt (sep : Char) (text : String) :
    (splitAt sep text).length = text.toList.count sep + 1 := by
  simp [splitAt, length_pieces, List.count]

/-! ## Words -/

/-- A text of nothing but blanks. -/
def IsGap (text : String) : Prop := ∀ c ∈ text.toList, isBlank c = true

/-- A text that has a character, and no blank. -/
structure IsWord (text : String) : Prop where
  ne_empty : text ≠ ""
  not_blank : ∀ c ∈ text.toList, isBlank c = false

/-- What comes behind a word: nothing, or something that begins with a blank. -/
def EndsWord (text : String) : Prop := ∀ c ∈ text.toList.head?, isBlank c = true

/-- What comes in front of a word: nothing, or something that ends in a blank. -/
def BeginsWord (text : String) : Prop := ∀ c ∈ text.toList.getLast?, isBlank c = true

/-- The text is a writing of the words. -/
inductive Spaced : List String → String → Prop
  | gap {gap} (blank : IsGap gap) : Spaced [] gap
  | word {gap word rest words} (blank : IsGap gap) (isWord : IsWord word) (ends : EndsWord rest)
    (behind : Spaced words rest) : Spaced (word :: words) (gap ++ word ++ rest)

section Words

variable {text gap word : String}

theorem words_eq (text : String) :
    words text = ((pieces isBlank text.toList).filter (!·.isEmpty)).map String.ofList := rfl

theorem words_of_isGap (h : IsGap text) : words text = [] := by
  rw [words_eq, List.map_eq_nil_iff, List.filter_eq_nil_iff]
  intro piece hpiece
  have hempty : piece = [] := List.eq_nil_iff_forall_not_mem.mpr fun c hc => by
    obtain ⟨hmem, hc⟩ := mem_of_mem_pieces hpiece hc
    rw [h c hmem] at hc
    cases hc
  simp [hempty]

theorem words_of_isWord (h : IsWord text) : words text = [text] := by
  have hne : text.toList ≠ [] := by simpa using h.ne_empty
  simp [words_eq, pieces_of_forall_eq_false h.not_blank, hne]

/-- A blank ends a word. -/
theorem words_append_of_ends (text : String) {rest : String} (h : EndsWord rest) :
    words (text ++ rest) = words text ++ words rest := by
  simp only [words_eq, String.toList_append]
  cases hrest : rest.toList with
  | nil => simp
  | cons c cs =>
    have hc : isBlank c = true := h c (by simp [hrest])
    simp [pieces_append_cons hc, pieces_cons_sep isBlank hc]

theorem BeginsWord.words_append (h : BeginsWord text) (rest : String) :
    words (text ++ rest) = words text ++ words rest := by
  simp only [words_eq, String.toList_append]
  rcases List.eq_nil_or_concat text.toList with htext | ⟨cs, c, htext⟩
  · simp [htext]
  · have hc : isBlank c = true := h c (by simp [htext])
    simp [htext, pieces_append_cons hc]

theorem words_eq_of_spaced {row : List String} (h : Spaced row text) : words text = row := by
  induction h with
  | gap blank => exact words_of_isGap blank
  | @word gap word rest row blank isWord ends behind ih =>
    have hgap : BeginsWord gap := fun c hc => blank c (List.mem_of_mem_getLast? hc)
    rw [words_append_of_ends _ ends, hgap.words_append, words_of_isGap blank,
      words_of_isWord isWord, ih]
    rfl

theorem isGap_append {behind : String} : IsGap (gap ++ behind) ↔ IsGap gap ∧ IsGap behind := by
  simp [IsGap, or_imp, forall_and]

/-- A text in front of which there is a blank more is a writing of the same words. -/
theorem Spaced.gap_append {row : List String} (hgap : IsGap gap) (h : Spaced row text) :
    Spaced row (gap ++ text) := by
  cases h with
  | gap blank => exact .gap (isGap_append.mpr ⟨hgap, blank⟩)
  | word blank isWord ends behind =>
    rw [← String.append_assoc, ← String.append_assoc]
    exact .word (isGap_append.mpr ⟨hgap, blank⟩) isWord ends behind

/-- A character that is no blank begins a word, or goes to the word that it stands in front of. -/
theorem Spaced.exists_cons {row : List String} {c : Char} (hc : isBlank c = false)
    (h : Spaced row text) : ∃ row', Spaced row' (String.singleton c ++ text) := by
  have hsingle : IsWord (String.singleton c) := ⟨by simp, by simpa using hc⟩
  have hempty : IsGap "" := by simp [IsGap]
  by_cases hends : EndsWord text
  · refine ⟨String.singleton c :: row, ?_⟩
    simpa using Spaced.word hempty hsingle hends h
  · cases h with
    | gap blank => exact absurd (fun d hd => blank d (List.mem_of_mem_head? hd)) hends
    | @word gap word rest row blank isWord ends behind =>
      -- There is no blank between the character and the word.
      obtain rfl : gap = "" := by
        by_contra hgap
        obtain ⟨d, ds, hds⟩ := List.exists_cons_of_ne_nil (by simpa using hgap : gap.toList ≠ [])
        refine hends fun e he => ?_
        obtain rfl : d = e := by simpa [hds] using he
        exact blank d (by simp [hds])
      refine ⟨(String.singleton c ++ word) :: row, ?_⟩
      have hword : IsWord (String.singleton c ++ word) :=
        ⟨by simp, by simpa [hc] using isWord.not_blank⟩
      simpa [String.append_assoc] using Spaced.word hempty hword ends behind

/-- Every text is a writing of some words. -/
theorem exists_spaced (text : String) : ∃ row, Spaced row text := by
  obtain ⟨cs, rfl⟩ : ∃ cs, text = String.ofList cs := ⟨text.toList, String.ofList_toList.symm⟩
  induction cs with
  | nil => exact ⟨[], .gap (by simp [IsGap])⟩
  | cons c cs ih =>
    obtain ⟨row, h⟩ := ih
    have hcons : String.ofList (c :: cs) = String.singleton c ++ String.ofList cs := by
      simp
    rw [hcons]
    cases hc : isBlank c with
    | true => exact ⟨row, h.gap_append (by simpa [IsGap] using hc)⟩
    | false => exact h.exists_cons hc

/-- The words of a text are the only ones of which it is a writing. -/
theorem words_eq_iff {row : List String} : words text = row ↔ Spaced row text := by
  constructor
  · rintro rfl
    obtain ⟨row, h⟩ := exists_spaced text
    rwa [words_eq_of_spaced h]
  · exact words_eq_of_spaced

theorem map_words_of_forall₂ {rows : List (List String)} {texts : List String}
    (h : List.Forall₂ Spaced rows texts) : texts.map words = rows := by
  induction h with
  | nil => rfl
  | cons spaced rest ih => rw [List.map_cons, words_eq_of_spaced spaced, ih]

theorem words_eq_nil_iff : words text = [] ↔ IsGap text := by
  refine ⟨fun h => ?_, words_of_isGap⟩
  cases words_eq_iff.mp h with
  | gap blank => exact blank

/-- A writing holds nothing but its words and blanks. -/
theorem Spaced.mem_or_isBlank {row : List String} (h : Spaced row text) {c : Char}
    (hc : c ∈ text.toList) : isBlank c = true ∨ ∃ word ∈ row, c ∈ word.toList := by
  induction h with
  | gap blank => exact .inl (blank c hc)
  | @word gap word rest row blank isWord ends behind ih =>
    rw [String.toList_append, String.toList_append, List.mem_append, List.mem_append] at hc
    rcases hc with (hc | hc) | hc
    · exact .inl (blank c hc)
    · exact .inr ⟨word, List.mem_cons_self, hc⟩
    · exact (ih hc).imp_right fun ⟨word, hword, hc⟩ => ⟨word, List.mem_cons_of_mem _ hword, hc⟩

end Words

end PipeShell.Text
