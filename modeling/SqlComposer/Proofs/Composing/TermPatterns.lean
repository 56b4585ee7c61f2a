/-
  SqlComposer.Proofs.Composing.TermPatterns — the regular expressions of terms and of
  table references.

  A call of a function is `\w+\s*\(` anywhere in a term. A labelled column is
  `^(.+?)\s+as\s+(\S+)$`, and a table with an alias is
  `^(\S+)\s+(?:as\s+)?([A-Za-z_][A-Za-z0-9_]*)$`, both without regard to letter case.

  Proved: what the readers find and give is what these match and capture
  (`Text.hasCall_iff_found`, `Chars.captures_labelled`, `TableRef.parse_eq_captures`).
-/

import SqlComposer.Proofs.Composing.FieldLists
import SqlComposer.Proofs.Composing.TableRefs
import SqlComposer.Proofs.Text.Patterns

namespace SqlComposer

namespace Pattern

/-! ## Patterns -/

/-- A letter, given in lower case, without regard to letter case. -/
def letter (l : Char) : Pattern := one fun c => Chars.fold c == l

/-- The word AS, in whichever letter case. -/
def asWord : Pattern := seq (letter 'a') (letter 's')

def blanks : Pattern := run true isBlank

def word : Pattern := run true (!isBlank ·)

/-- A letter or an underscore, then letters, digits and underscores. -/
def identifier : Pattern :=
  seq (one fun c => (Chars.fold c).isLower || c == '_')
    (many true fun c => (Chars.fold c).isLower || c.isDigit || c == '_')

/-- The pattern `\w+\s*\(`. -/
def call : Pattern := seq (run true isWordChar) <| seq (many true isBlank) <| one (· == '(')

/-- The pattern `\s+as\s+(\S+)$`. -/
def label : Pattern := seq blanks <| seq asWord <| seq blanks <| seq (group word) stop

/-- The pattern `^(.+?)\s+as\s+(\S+)$`, for the front of a text. -/
def labelled : Pattern := seq (group (run false (· != '\n'))) label

/-- The pattern `(?:as\s+)?([A-Za-z_][A-Za-z0-9_]*)$`. -/
def aliasName : Pattern := seq (maybe (seq asWord blanks)) <| seq (group identifier) stop

/-- The pattern `^(\S+)\s+(?:as\s+)?([A-Za-z_][A-Za-z0-9_]*)$`, for the front of a text. -/
def aliased : Pattern := seq (group word) <| seq blanks aliasName

variable {rest : Pattern} {cs : List Char}

/-! ## Parts -/

/-- White space in front of what cannot begin with it is taken as a whole. -/
theorem captures_blanks (hrest : ∀ c cs, isBlank c = true → rest.captures (c :: cs) = none) :
    (seq blanks rest).captures cs = if cs.head?.any isBlank then rest.captures (Chars.trimStart cs) else none := by
  cases cs with
  | nil => rfl
  | cons c cs =>
    rw [blanks, run, captures_led hrest]
    by_cases hc : isBlank c = true <;> simp [hc, Chars.trimStart]

theorem captures_word (hrest : ∀ c cs, isBlank c = false → rest.captures (c :: cs) = none) :
    (seq (group word) rest).captures cs =
      if cs.head?.any (!isBlank ·) then (rest.captures (cs.dropWhile (!isBlank ·))).map (cs.takeWhile (!isBlank ·) :: ·)
      else none := by
  cases cs with
  | nil => rfl
  | cons c cs =>
    rw [word, run, captures_group_led (by simpa using hrest)]
    by_cases hc : isBlank c = true <;> simp [hc]

/-- The word AS and the white space behind it are taken as the reader takes them. -/
theorem captures_as (hrest : ∀ c cs, isBlank c = true → rest.captures (c :: cs) = none) :
    (seq asWord (seq blanks rest)).captures cs = (Chars.stripAs cs).bind rest.captures := by
  rw [asWord, captures_assoc]
  match cs with
  | [] => rfl
  | [c] =>
    rw [letter, captures_one]
    split <;> rfl
  | a :: s :: cs =>
    rw [letter, letter, captures_one, captures_one, captures_blanks hrest, Chars.stripAs, Chars.foldsToA_eq,
      Chars.foldsToS_eq]
    cases Chars.fold a == 'a' <;> cases Chars.fold s == 's' <;> cases cs.head?.any isBlank <;> simp

theorem captures_word_stop (cs : List Char) :
    (seq (group word) stop).captures cs = if !cs.isEmpty && !cs.any isBlank then some [cs] else none := by
  cases cs with
  | nil => rfl
  | cons c cs =>
    rw [word, run, captures_group_led_stop]
    simp [List.all_eq_not_any_not]

theorem captures_identifier_stop (cs : List Char) :
    (seq (group identifier) stop).captures cs = if Chars.isIdentifier cs then some [cs] else none := by
  cases cs with
  | nil => rfl
  | cons c cs =>
    rw [identifier, captures_group_led_stop]
    simp [Chars.isIdentifier, Chars.isFoldedLetter_eq]

end Pattern

open Pattern

/-! ## Labels -/

namespace Chars

theorem captures_label (cs : List Char) : Pattern.label.captures cs = (labelOf cs).map fun label => [label] := by
  have hword (c : Char) (cs : List Char) (hc : isBlank c = true) : (seq (group word) stop).captures (c :: cs) = none := by
    simp [captures_word_stop, hc]
  have has (c : Char) (cs : List Char) (hc : isBlank c = true) :
      (seq asWord <| seq blanks <| seq (group word) stop).captures (c :: cs) = none := by
    rw [captures_as hword, stripAs_blank hc, Option.bind_none]
  rw [Pattern.label, captures_blanks has, captures_as hword, labelOf]
  split
  · cases stripAs (trimStart cs) with
    | none => rfl
    | some label =>
      rw [Option.bind_some, captures_word_stop, Option.filter_some]
      split <;> rfl
  · rfl

/-- The column of a label is the shortest text on one line that a label follows. -/
theorem labelled_eq_findSome? {before : List Char} (hne : before ≠ []) (cs : List Char) :
    labelled before cs = (splits false (· != '\n') cs).findSome? fun (more, left) =>
      (labelOf left).map fun label => (before.reverse ++ more, label) := by
  induction cs generalizing before with
  | nil => rfl
  | cons c cs ih =>
    have hfront : before.isEmpty = false := by simpa using hne
    rw [labelled_cons, hfront, splits]
    cases hlabel : labelOf (c :: cs) with
    | some label => simp [hlabel]
    | none =>
      by_cases hline : c = '\n'
      · subst hline
        simp [hlabel]
      · simp [hlabel, hline, ih (List.cons_ne_nil c before), List.findSome?_map, Function.comp_def]

/-- A labelled column is what the pattern captures. -/
theorem captures_labelled (cs : List Char) :
    Pattern.labelled.captures cs = (labelled [] cs).map fun (column, label) => [column, label] := by
  cases cs with
  | nil => rfl
  | cons c cs =>
    rw [Pattern.labelled, captures_seq, ways, run, ways_led, labelled_cons]
    simp only [captures_label]
    by_cases hline : c = '\n'
    · simp [hline]
    · simp [hline, labelled_eq_findSome? (List.cons_ne_nil c []), List.findSome?_map, List.map_findSome?,
        Function.comp_def]

example : Pattern.labelled.captures "a AS b as c".toList = some ["a AS b".toList, "c".toList] := by decide

end Chars

/-! ## Aliases -/

namespace TableRef

theorem isIdentifier_blank {c : Char} (hc : isBlank c = true) (cs : List Char) :
    Chars.isIdentifier (c :: cs) = false := by
  refine eq_false_of_ne_true fun hname => ?_
  rw [word_of_isIdentifier hname c List.mem_cons_self] at hc
  cases hc

theorem readAlias_blank {c : Char} (hc : isBlank c = true) (cs : List Char) : readAlias (c :: cs) = none := by
  rw [readAlias, Chars.stripAs_blank hc, isIdentifier_blank hc]
  rfl

theorem captures_aliasName (cs : List Char) : Pattern.aliasName.captures cs = (readAlias cs).map fun a => [a] := by
  have hname (c : Char) (cs : List Char) (hc : isBlank c = true) :
      (seq (group identifier) stop).captures (c :: cs) = none := by
    rw [captures_identifier_stop, isIdentifier_blank hc, if_neg Bool.false_ne_true]
  rw [Pattern.aliasName, captures_maybe, captures_assoc, captures_as hname, captures_identifier_stop, readAlias]
  cases Chars.stripAs cs with
  | none =>
    rw [Option.filter_none, Option.bind_none, Option.none_or]
    dsimp only
    split <;> rfl
  | some rest =>
    rw [Option.filter_some, Option.bind_some, captures_identifier_stop]
    by_cases hid : Chars.isIdentifier rest = true
    · rw [if_pos hid, if_pos hid]
      rfl
    · rw [if_neg hid, if_neg hid]
      dsimp only
      split <;> rfl

/-- The pattern captures a first word, and the alias behind it. -/
theorem captures_aliased {w rest : List Char} (hne : w ≠ []) (hw : ∀ c ∈ w, isBlank c = false)
    (hrest : Chars.Ended rest) :
    Pattern.aliased.captures (w ++ rest) = (readAlias (Chars.trimStart rest)).map fun a => [w, a] := by
  have halias (c : Char) (cs : List Char) (hc : isBlank c = true) : Pattern.aliasName.captures (c :: cs) = none := by
    rw [captures_aliasName, readAlias_blank hc, Option.map_none]
  have hblanks (c : Char) (cs : List Char) (hc : isBlank c = false) :
      (seq blanks Pattern.aliasName).captures (c :: cs) = none := by
    simp [captures_blanks halias, hc]
  have hspan : ((w ++ rest).takeWhile (!isBlank ·), (w ++ rest).dropWhile (!isBlank ·)) = (w, rest) := by
    rw [← List.span_eq_takeWhile_dropWhile]
    exact Chars.span_append (by simpa using hw) fun c hc => by simp [hrest c hc]
  obtain ⟨htaken, hleft⟩ := Prod.mk.inj hspan
  have hhead : (w ++ rest).head?.any (!isBlank ·) = true := by
    obtain ⟨c, w, rfl⟩ := List.exists_cons_of_ne_nil hne
    simp [hw c List.mem_cons_self]
  rw [Pattern.aliased, captures_word hblanks, if_pos hhead, htaken, hleft, captures_blanks halias,
    captures_aliasName]
  cases rest with
  | nil => rfl
  | cons b rest =>
    have hb : isBlank b = true := hrest b rfl
    simp [hb, Function.comp_def]

/-- A table reference of more than one word is read as the pattern captures it. -/
theorem parse_eq_captures (spec : String) :
    parse spec =
      let cs := Chars.trim spec.toList
      if cs.isEmpty then .error .emptyTableRef
      else if !cs.any isBlank then .ok (named (String.ofList cs))
      else match Pattern.aliased.captures cs with
        | some [name, a] => .ok (aliased (String.ofList name) (String.ofList a))
        | _ => .error (.malformedTableRef (String.ofList cs)) := by
  dsimp only
  by_cases hne : Chars.trim spec.toList = []
  · rw [parse_of_blank hne, if_pos (List.isEmpty_iff.mpr hne)]
  · obtain ⟨w, rest, htake, hsplit, hword, hw, hrest, -⟩ := Chars.exists_word hne (Chars.trimmed_trim spec.toList).start
    rw [parse_of_word hne htake, if_neg (mt List.isEmpty_iff.mp hne), Text.trim, hsplit]
    cases rest with
    | nil =>
      have hplain : w.any isBlank = false := by simpa using hw
      simp [hplain]
    | cons b rest =>
      have hb : isBlank b = true := hrest b rfl
      rw [captures_aliased hword hw hrest, List.isEmpty_cons, if_neg Bool.false_ne_true, if_neg (by simp [hb])]
      cases readAlias (Chars.trimStart (b :: rest)) <;> rfl

end TableRef

/-! ## Calls -/

theorem ways_opens {cs : List Char} :
    (seq (many true isBlank) (one (· == '('))).ways cs ≠ [] ↔ Chars.Opens cs := by
  rw [ways_seq_ne_nil]
  constructor
  · rintro ⟨w, hw, hopens⟩
    obtain ⟨⟨gap, left⟩, hmem, rfl⟩ := List.mem_map.mp hw
    obtain ⟨rfl, hgap⟩ := mem_splits.mp hmem
    cases left with
    | nil => exact absurd rfl hopens
    | cons c after =>
      have hc : c = '(' := by simpa [ways] using hopens
      exact ⟨gap, after, by rw [hc], hgap⟩
  · rintro ⟨gap, after, rfl, hgap⟩
    exact ⟨⟨gap, [], '(' :: after⟩, List.mem_map.mpr ⟨_, mem_splits.mpr ⟨rfl, hgap⟩, rfl⟩, by simp [ways]⟩

/-- A text calls a function where the pattern is found. -/
theorem Text.hasCall_iff_found {s : String} : hasCall s = true ↔ Pattern.call.Found s.toList := by
  rw [hasCall_iff]
  constructor
  · rintro ⟨before, c, after, hsplit, hc, hopens⟩
    refine ⟨before, c :: after, hsplit, ways_seq_ne_nil.mpr ⟨⟨[c], [], after⟩, ?_, ways_opens.mpr hopens⟩⟩
    rw [run, ways_led, if_pos hc]
    exact List.mem_map.mpr ⟨([], after), mem_splits.mpr ⟨rfl, by simp⟩, rfl⟩
  · rintro ⟨before, after, hsplit, hways⟩
    obtain ⟨w, hw, hopens⟩ := ways_seq_ne_nil.mp hways
    cases after with
    | nil => cases hw
    | cons c cs =>
      rw [run, ways_led] at hw
      split at hw
      · rename_i hc
        obtain ⟨⟨taken, left⟩, hmem, rfl⟩ := List.mem_map.mp hw
        obtain ⟨rfl, htaken⟩ := mem_splits.mp hmem
        have hword : ∀ d ∈ c :: taken, isWordChar d = true := List.forall_mem_cons.mpr ⟨hc, htaken⟩
        -- What opens is behind the last character of the word.
        obtain ⟨front, last, hfront⟩ : ∃ front last, c :: taken = front ++ [last] :=
          ⟨_, _, (List.dropLast_concat_getLast (List.cons_ne_nil c taken)).symm⟩
        refine ⟨before ++ front, last, left, ?_, hword last (by simp [hfront]), ways_opens.mp hopens⟩
        rw [hsplit, ← List.cons_append, hfront]
        simp
      · cases hw

end SqlComposer
